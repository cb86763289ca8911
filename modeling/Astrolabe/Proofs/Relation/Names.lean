import Mathlib.SetTheory.Cardinal.Arithmetic
import Astrolabe.Proofs.Exact.Relation
import Astrolabe.Proofs.Expression.RenamedText
import Astrolabe.Proofs.Relation.Renamed

/-!
Formulas over other names. Where the names of variables and constants are replaced in a formula and
in its relation at once, the sides of the relation are the ones with other names, which have the
values that the names had before. The replaced names are taken to the new ones by a permutation of
all names that leaves the functions alone.
-/

namespace Astrolabe

open Expression

namespace Relation

/-! Sides of texts with other names -/

namespace Side

/-- Sides are read off trees of arithmetic alone. -/
theorem plain_of_ofExpr? {declared : List String} {e : Expr} {a : Side}
    (read : ofExpr? declared e = some a) : e.Plain := by
  induction e using ofExpr?.induct declared generalizing a with
  | case1 | case2 => exact .whole _
  | case3 | case4 => exact .decimal _
  | case5 | case6 | case7 | case8 => exact .name _
  | case9 _ ih =>
      rw [ofExpr?] at read
      exact .unary _ (ih read)
  | case10 _ ih =>
      rw [ofExpr?] at read
      obtain ⟨b, read, -⟩ := Option.map_eq_some_iff.mp read
      exact .unary _ (ih read)
  | case11 op _ _ ihl ihr =>
      rw [ofExpr?] at read
      obtain ⟨b, left, read⟩ := Option.bind_eq_some_iff.mp read
      obtain ⟨c, right, -⟩ := Option.bind_eq_some_iff.mp read
      exact .binary op (ihl left) (ihr right)
  | case12 _ _ known =>
      rw [ofExpr?, if_pos known] at read
      cases read
  | case13 id argument unknown ih =>
      rw [ofExpr?, if_neg unknown] at read
      obtain ⟨b, first, -⟩ := Option.bind_eq_some_iff.mp read
      exact .call (.name id) (List.forall_mem_singleton.mpr (ih first))
  | case14 _ _ _ other =>
      rw [ofExpr?, if_pos other] at read
      cases read
  | case15 id argument base logarithm ih ih' =>
      rw [ofExpr?, if_neg logarithm] at read
      obtain ⟨b, first, read⟩ := Option.bind_eq_some_iff.mp read
      obtain ⟨c, second, -⟩ := Option.bind_eq_some_iff.mp read
      refine .call (.name id) (List.forall_mem_cons.mpr ⟨ih first, ?_⟩)
      exact List.forall_mem_singleton.mpr (ih' second)
  | case16 =>
      rw [ofExpr?] at read
      · cases read
      all_goals assumption

variable {σ : Equiv.Perm String} {declared declared' : List String} {numbers : Prop}
  {s s' : List Char}

theorem Stands.flip {id id' : String} (h : Stands σ declared declared' id id') :
    Stands σ.symm declared' declared id' id where
  renamed := by rw [h.renamed, σ.symm_apply_apply]
  known := h.known.symm
  builtin unknown := (h.builtin (h.known ▸ unknown)).symm

theorem ofText?_eq_some_renamed
    (whole : numbers → declared'.contains wholeReader = declared.contains wholeReader)
    (h : TextRenamed ⟨Stands σ declared declared', numbers⟩ s s') {a : Side}
    (read : ofText? declared s = some a) : ofText? declared' s' = some (a.rename σ) := by
  rw [side_ofText?_eq] at read ⊢
  obtain ⟨e, tree, read⟩ := Option.bind_eq_some_iff.mp read
  obtain ⟨ts, lexed⟩ := exists_lex tree
  rw [String.toList_ofList] at lexed
  obtain ⟨ts', lexed', renamed⟩ := lex_renamed h.expandCarets lexed
  obtain ⟨e', tree', renamed⟩ := Expression.ofText?_renamed tree (plain_of_ofExpr? read)
    (by rwa [String.toList_ofList]) (by rwa [String.toList_ofList]) renamed
  rw [tree?, tree', Option.bind_some, ofExpr?_renamed σ.injective whole renamed, read]
  rfl

/-- A text with other names is read as the side with other names, or neither text is read. -/
theorem ofText?_renamed
    (whole : numbers → declared'.contains wholeReader = declared.contains wholeReader)
    (h : TextRenamed ⟨Stands σ declared declared', numbers⟩ s s') :
    ofText? declared' s' = (ofText? declared s).map (rename σ) := by
  cases read : ofText? declared s with
  | some a => exact ofText?_eq_some_renamed whole h read
  | none =>
      cases read' : ofText? declared' s' with
      | none => rfl
      | some a' =>
          have back : TextRenamed ⟨Stands σ.symm declared' declared, numbers⟩ s' s :=
            h.flip.imp (fun _ _ => Stands.flip) id
          rw [ofText?_eq_some_renamed (fun written => (whole written).symm) back read'] at read
          cases read

end Side

end Relation

/-- The value of a variable, under its key. -/
def Variable.given (values : String → Option Float) (v : Variable) :
    Except Relation.Error (String × Float) :=
  match values v.symbol with
  | some x => .ok (v.key, x)
  | none => .error (.missing v.symbol)

namespace Formula

/-- A formula over other names, with a relation that is written over them. -/
def rename (ρ : String → String) (relation : String) (f : Formula) : Formula :=
  { f with
    vars := f.vars.map fun v => { v with key := ρ v.key }
    constants := f.constants.map fun c => (ρ c.1, c.2)
    relation := .text relation }

variable {f : Formula} {ρ : String → String} {relation : String}

end Formula

namespace Relation

/-! Texts in pieces -/

/-- The names of a constant and of functions that relations may use. -/
def builtins : List String :=
  ["pi", "sqrt", "log", "tan", "atan"]

/-- A piece of the text of a relation. -/
inductive Piece where
  | mark (c : Char)
  | number (digits : List Char)
  | name (id : String)
deriving DecidableEq

namespace Piece

def text : Piece → List Char
  | mark c => [c]
  | number digits => digits
  | name id => id.toList

def isMark : Piece → Bool
  | mark _ => true
  | _ => false

def rename (ρ : String → String) : Piece → Piece
  | name id => name (ρ id)
  | piece => piece

/-- Whether a piece is a mark, a whole number, a declared name or the name of a function. -/
def isArithmetic (declared : List String) : Piece → Bool
  | mark c => plainMarks.contains c
  | number digits => !digits.isEmpty && digits.all Char.isDigit
  | name id => declared.contains id || builtins.contains id

end Piece

/-- The text that is put together from pieces. -/
def written (pieces : List Piece) : String :=
  String.ofList (pieces.flatMap Piece.text)

/-- The pieces of a relation over declared names. Marks stand between all others, and names are read
as they stand. -/
structure WrittenOver (declared : List String) (pieces : List Piece) : Prop where
  arithmetic : ∀ piece ∈ pieces, piece.isArithmetic declared = true
  apart : pieces.IsChain fun piece next => piece.isMark || next.isMark
  read : ∀ id, .name id ∈ pieces → ReadsAsItself id

namespace WrittenOver

variable {declared : List String} {piece : Piece} {pieces : List Piece}

theorem known (h : WrittenOver declared pieces) {id : String} (mem : .name id ∈ pieces) :
    id ∈ declared ++ builtins := by
  simpa [Piece.isArithmetic] using h.arithmetic _ mem

theorem tail (h : WrittenOver declared (piece :: pieces)) : WrittenOver declared pieces where
  arithmetic := fun p mem => h.arithmetic p (List.mem_cons_of_mem _ mem)
  apart := h.apart.tail
  read := fun id mem => h.read id (List.mem_cons_of_mem _ mem)

theorem isDigit (h : WrittenOver declared pieces) {digits : List Char}
    (mem : .number digits ∈ pieces) : digits ≠ [] ∧ ∀ d ∈ digits, d.isDigit = true := by
  simpa [Piece.isArithmetic] using h.arithmetic _ mem

end WrittenOver

/-- The name that is written for a name: another one if it is declared. -/
def standIn (declared : List String) (ρ : String → String) (id : String) : String :=
  if id ∈ declared then ρ id else id

end Relation

namespace Formula

open Astrolabe.Relation

/-- A formula of which the relation is put together from pieces, over other names. -/
def renamed (ρ : String → String) (pieces : List Piece) (f : Formula) : Formula :=
  f.rename ρ (written (pieces.map (.rename (standIn f.names ρ))))

end Formula

end Astrolabe
