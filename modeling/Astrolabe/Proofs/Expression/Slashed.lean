import Astrolabe.Proofs.Expression.Parsed
import Astrolabe.Proofs.Number.ReadBack

/-!
Numbers between slashes. Constants and unsigned numerals with slashes between them, and any spaces
around the slashes, are divided from the left, and the first division by zero is the fault of the
whole.
-/

namespace Astrolabe.Expression

open Number

/-- The numeral of one digit. -/
def Numeral.single (c : Char) (digit : c.isDigit = true) : Numeral where
  whole := some ⟨c, [], digit, nofun⟩
  fraction := none
  exponent := none
  some_digits := .inl nofun
  plain := by rintro - - r ⟨⟩; exact ⟨fun _ => rfl, show 1 ≤ maxWholeDigits by decide⟩

/-- What stands between slashes: the name of a constant in letters of either case, or an unsigned
decimal numeral with a finite value. A whole number may begin with a zero only where it is all
zeros. -/
inductive Atom where
  | constant (id : String) (x : Float) (named : constantNamed? (Text.lower id) = some x)
  | numeral (n : Numeral) (finite : n.decimal.toFloat.isFinite = true)
  | zeros (r : DigitRow) (zero : ∀ c ∈ r.digits, c = '0')

theorem mem_constantNames {s : String} {x : Float} (named : constantNamed? s = some x) :
    s ∈ constantNames :=
  constantNamed?_isSome_iff.mp (Option.isSome_of_mem named)

namespace Atom

def chars : Atom → List Char
  | constant id _ _ => id.toList
  | numeral n _ => n.chars
  | zeros r _ => r.chars

def value : Atom → Float
  | constant _ x _ => x
  | numeral n _ => n.decimal.toFloat
  | zeros _ _ => 0

/-- The tree of an atom, which for zeros is that of one zero. -/
def tree : Atom → Tree
  | constant id _ named => .constant id (mem_constantNames named)
  | numeral n _ => .number n
  | zeros _ _ => .number (.single '0' rfl)

/-- The lexeme of an atom, which for zeros is that of one zero. -/
def lexeme : Atom → Lexeme
  | constant id _ named => .word ⟨id, List.mem_append_left _ (mem_constantNames named)⟩
  | numeral n _ => .numeral n
  | zeros _ _ => .numeral (.single '0' rfl)

theorem body_tree (a : Atom) : a.tree.body = [a.lexeme] := by
  cases a <;> rfl

theorem level_tree (a : Atom) : a.tree.level = 7 := by
  cases a <;> rfl

end Atom

/-- A slash with spaces around it and an atom behind it. -/
structure Divisor where
  before : ℕ
  after : ℕ
  atom : Atom

def Divisor.chars (d : Divisor) : List Char :=
  spaces d.before ++ '/' :: (spaces d.after ++ d.atom.chars)

def Divisor.lexemes (d : Divisor) : List Lexeme :=
  [.mark .slash, d.atom.lexeme]

/-- An atom and the divisors behind it. -/
def slashed (a : Atom) (ds : List Divisor) : List Char :=
  a.chars ++ ds.flatMap Divisor.chars

theorem slashed_cons (a : Atom) (d : Divisor) (ds : List Divisor) :
    slashed a (d :: ds) =
      a.chars ++ (spaces d.before ++ '/' :: (spaces d.after ++ slashed d.atom ds)) := by
  simp [slashed, Divisor.chars]

theorem slashed_concat (a : Atom) (ds : List Divisor) (d : Divisor) :
    slashed a (ds ++ [d]) =
      (slashed a ds ++ spaces d.before) ++ '/' :: (spaces d.after ++ d.atom.chars) := by
  simp [slashed, Divisor.chars]

/-! Characters of atoms. -/

/-- A constant is spelled with the letter pi, or with letters of `pi` and `e`. -/
theorem constant_chars {id : String} (known : Text.lower id ∈ constantNames) :
    ∀ c ∈ id.toList, c = 'π' ∨ c = 'Π' ∨ c.toLower ∈ ['p', 'i', 'e'] := by
  have spelled {name : String} (letters : id.toList.map Char.toLower = name.toList)
      (among : name.toList ⊆ ['p', 'i', 'e']) :
      ∀ c ∈ id.toList, c.toLower ∈ ['p', 'i', 'e'] := fun c mem =>
    among (letters ▸ List.mem_map_of_mem mem)
  intro c mem
  simp only [constantNames, List.mem_cons, List.not_mem_nil, or_false] at known
  obtain pi | pi | e := known
  · exact .inr (.inr (spelled ((Text.lower_eq_iff (by decide)).mp pi) (by decide) c mem))
  · obtain same | same := Text.toList_of_lower_eq_pi pi <;> rw [same] at mem <;>
      obtain rfl := List.mem_singleton.mp mem
    · exact .inl rfl
    · exact .inr (.inl rfl)
  · exact .inr (.inr (spelled ((Text.lower_eq_iff (by decide)).mp e) (by decide) c mem))

namespace Atom

theorem mem_chars {a : Atom} {c : Char} (mem : c ∈ a.chars) :
    (c = 'π' ∨ c = 'Π' ∨ c.toLower ∈ ['p', 'i', 'e']) ∨ isNumeralChar c = true ∨ c = '_' := by
  cases a with
  | constant id x named =>
      exact .inl (constant_chars (mem_constantNames named) c mem)
  | numeral n finite => exact .inr (n.mem_chars mem)
  | zeros r zero => exact .inr (DigitRow.mem_chars mem)

/-- What holds of every character that may stand in an atom holds of those of each atom. -/
theorem forall_chars {P : Char → Prop} (pi : P 'π' ∧ P 'Π')
    (ascii : ∀ n < 128, (Char.ofNat n).toLower ∈ ['p', 'i', 'e'] ∨
      isNumeralChar (Char.ofNat n) = true ∨ Char.ofNat n = '_' → P (Char.ofNat n))
    {a : Atom} {c : Char} (mem : c ∈ a.chars) : P c := by
  have small (below : c.toNat < 128) :=
    Text.forall_ascii (P := fun c => c.toLower ∈ ['p', 'i', 'e'] ∨
      isNumeralChar c = true ∨ c = '_' → P c) ascii below
  obtain (rfl | rfl | letter) | numeral | rfl := mem_chars mem
  · exact pi.1
  · exact pi.2
  · have lowered : (['p', 'i', 'e'].all fun d => d.toNat < 128) = true := by decide
    have below : c.toNat < 128 :=
      Text.ascii_of_toLower (of_decide_eq_true (List.all_eq_true.mp lowered _ letter))
    exact small below (.inl letter)
  · exact small (ascii_of_isNumeralChar numeral) (.inr (.inl numeral))
  · exact small (by decide) (.inr (.inr rfl))

theorem ink (a : Atom) : ∀ c ∈ a.chars, isInk c = true :=
  fun _ => forall_chars (P := (isInk · = true)) (by decide) (by decide)

theorem slash_not_mem (a : Atom) : '/' ∉ a.chars := fun mem =>
  absurd rfl (forall_chars (P := (· ≠ '/')) (by decide) (by decide) mem)

theorem chars_ne_nil (a : Atom) : a.chars ≠ [] := by
  cases a with
  | constant id x named =>
      exact (Lexeme.word ⟨id, List.mem_append_left _ (mem_constantNames named)⟩).chars_ne_nil
  | numeral n finite => exact n.chars_ne_nil
  | zeros r zero => exact List.cons_ne_nil _ _

end Atom

/-! The lexer on atoms and slashes. -/

/-- Zeros in a row are the whole number zero. -/
theorem DigitRow.cut_zeros {r : DigitRow} (zero : ∀ c ∈ r.digits, c = '0') {rest : List Char}
    (apart : Apart rest) : numeralCut (r.chars ++ rest) = some (.whole 0, rest) := by
  have all : r.digits.all (· == '0') = true :=
    List.all_eq_true.mpr fun c mem => beq_iff_eq.mpr (zero c mem)
  have value : digitsValue r.digits = 0 := by
    rw [List.eq_replicate_of_mem zero, digitsValue_zeros]
  have noPoint : rest.head? ≠ some '.' := fun first => (apart _ first).2 rfl
  have nonempty : r.chars ≠ [] := List.cons_ne_nil _ _
  rw [numeralCut_eq_decimalCut nonempty (fun _ => DigitRow.mem_chars) apart]
  refine (decimalCut_plain (digits_row (some r) apart.endsDigits) noPoint).trans ?_
  unfold decimalTail
  simp [apart.exponentCut, apart.endsNumeral, all, value]
  split
  next => exact absurd rfl (apart.ne (c := 'j') (by decide))
  next => exact absurd rfl (apart.ne (c := 'J') (by decide))
  next => rfl

/-- An atom is one step for the lexer. -/
theorem Atom.lexSteps (a : Atom) {rest : List Char} (depth : ℕ) (apart : Apart rest) :
    ∃ depth', ∀ steps done, lexSteps (steps + 1) depth done (a.chars ++ rest) =
      lexSteps steps depth' (a.lexeme.token :: done) rest := by
  cases a with
  | constant id x named =>
      exact Lexeme.lexSteps (l := (constant id x named).lexeme) depth apart
  | numeral n finite => exact Lexeme.lexSteps (l := .numeral n) depth apart
  | zeros r zero =>
      have cut := r.cut_zeros zero apart
      refine ⟨depth, fun steps done => ?_⟩
      rw [chars, DigitRow.chars, List.cons_append]
      rw [DigitRow.chars, List.cons_append] at cut
      rw [lexSteps_numeral (by rw [r.first_digit, Bool.true_or]), cut, Option.bind_some]
      rfl

theorem apart_spaces (n : ℕ) {c : Char} {rest : List Char}
    (other : isWordPart c = false ∧ c ≠ '.') : Apart (spaces n ++ c :: rest) := by
  cases n with
  | zero => rintro d ⟨⟩; exact other
  | succ n => rintro d ⟨⟩; decide

theorem Divisor.apart (ds : List Divisor) : Apart (ds.flatMap Divisor.chars) := by
  cases ds with
  | nil => exact nofun
  | cons d rest =>
      rw [List.flatMap_cons, Divisor.chars, List.append_assoc, List.cons_append]
      exact apart_spaces d.before (by decide)

/-- No longer symbol is made of a slash and what is behind it. -/
theorem Divisor.not_joining (n : ℕ) (a : Atom) (rest : List Char) :
    ∀ c ∈ (spaces n ++ (a.chars ++ rest)).head?, c ∉ Mark.slash.joining := by
  cases n with
  | succ n => rintro c ⟨⟩; decide
  | zero =>
      obtain ⟨d, more, chars⟩ := List.exists_cons_of_ne_nil a.chars_ne_nil
      intro c first
      have mem : c ∈ a.chars := by
        rw [chars] at first ⊢
        exact Option.some.inj first ▸ List.mem_cons_self ..
      exact Atom.forall_chars (P := (· ∉ Mark.slash.joining)) (by decide) (by decide) mem

/-- The lexer goes through atoms and slashes and puts their tokens on the pile. -/
theorem lexSteps_slashed {a : Atom} {ds : List Divisor} {steps : ℕ} (depth : ℕ) (done : List Token)
    (le : (slashed a ds).length ≤ steps) :
    ∃ depth', lexSteps steps depth done (slashed a ds) =
      lexSteps 0 depth'
        (((a.lexeme :: ds.flatMap Divisor.lexemes).map Lexeme.token).reverse ++ done) [] := by
  induction ds generalizing a steps depth done with
  | nil =>
      have nonempty := List.length_pos_iff.mpr a.chars_ne_nil
      rw [slashed, List.length_append] at le
      obtain ⟨k, rfl⟩ := Nat.exists_eq_add_of_le' (show 1 ≤ steps by omega)
      obtain ⟨inside, step⟩ := a.lexSteps depth (Divisor.apart [])
      exact ⟨inside, by rw [slashed, step, List.flatMap_nil, lexSteps_nil, lexSteps_nil]; rfl⟩
  | cons d rest ih =>
      have nonempty := List.length_pos_iff.mpr a.chars_ne_nil
      rw [slashed_cons] at le ⊢
      simp only [List.length_append, List.length_cons, spaces, List.length_replicate] at le
      obtain ⟨k, rfl⟩ : ∃ k, steps = d.before + (d.after + k + 1) + 1 :=
        ⟨steps - d.before - d.after - 2, by omega⟩
      obtain ⟨inside, atom⟩ := a.lexSteps depth
        (@apart_spaces d.before '/' (spaces d.after ++ slashed d.atom rest) (by decide))
      obtain ⟨behind, slash⟩ := lexSteps_symbol (m := .slash) inside
        (Divisor.not_joining d.after d.atom (rest.flatMap Divisor.chars))
      obtain ⟨depth', run⟩ := @ih d.atom k behind
        (.symbol Mark.slash.symbol :: a.lexeme.token :: done) (by omega)
      refine ⟨depth', ?_⟩
      rw [atom, lexSteps_spaces]
      refine (slash (d.after + k) _).trans ?_
      change Expression.lexSteps (d.after + k) behind _ (spaces d.after ++ slashed d.atom rest) = _
      rw [lexSteps_spaces, run]
      simp [Divisor.lexemes, Lexeme.token]

theorem slashed_ink {a : Atom} {ds : List Divisor} {c : Char} (mem : c ∈ slashed a ds) :
    c = ' ' ∨ isInk c = true := by
  obtain first | behind := List.mem_append.mp mem
  · exact .inr (a.ink c first)
  obtain ⟨d, -, inside⟩ := List.mem_flatMap.mp behind
  obtain space | inside := List.mem_append.mp inside
  · exact .inl (List.eq_of_mem_replicate space)
  obtain rfl | inside := List.mem_cons.mp inside
  · exact .inr rfl
  obtain space | inside := List.mem_append.mp inside
  · exact .inl (List.eq_of_mem_replicate space)
  · exact .inr (d.atom.ink c inside)

/-- The tokens of atoms and slashes are those of their text. -/
theorem lex_slashed (a : Atom) (ds : List Divisor) :
    lex (slashed a ds) =
      some ((a.lexeme :: ds.flatMap Divisor.lexemes).map Lexeme.token) := by
  obtain ⟨depth, run⟩ := @lexSteps_slashed a ds _ 0 [] le_rfl
  refine lex_of_run (List.cons_ne_nil _ _) (fun mem => ?_) run
  obtain space | ink := slashed_ink mem
  · exact absurd space (by decide)
  · exact absurd ink (by decide)

/-! The tree of atoms and slashes. -/

/-- A tree that is divided by atoms, one after the other. -/
def dividedBy (t : Tree) (ds : List Divisor) : Tree :=
  ds.foldl (fun t d => .binary .div t d.atom.tree) t

theorem body_dividedBy {t : Tree} (ds : List Divisor) (strong : 4 ≤ t.level) :
    (dividedBy t ds).body = t.body ++ ds.flatMap Divisor.lexemes := by
  induction ds generalizing t with
  | nil => exact (List.append_nil _).symm
  | cons d rest ih =>
      have right : d.atom.tree.written 5 = [d.atom.lexeme] := by
        rw [Tree.written_of_le (by rw [d.atom.level_tree]; decide), d.atom.body_tree]
      have first : (Tree.binary .div t d.atom.tree).body = t.body ++ d.lexemes := by
        rw [Tree.body_binary]
        change t.written 4 ++ .mark .slash :: d.atom.tree.written 5 = _
        rw [Tree.written_of_le strong, right, Divisor.lexemes]
      change (dividedBy (.binary .div t d.atom.tree) rest).body = _
      rw [ih le_rfl, first, List.flatMap_cons, List.append_assoc]

theorem last_slashed (a : Atom) (ds : List Divisor) :
    ∃ c ∈ (slashed a ds).getLast?, ∃ b : Atom, c ∈ b.chars := by
  have last (b : Atom) (before : List Char) :
      ∃ c ∈ (before ++ b.chars).getLast?, ∃ b : Atom, c ∈ b.chars := by
    rw [List.getLast?_append_of_ne_nil _ b.chars_ne_nil]
    exact ⟨_, List.getLast?_eq_some_getLast b.chars_ne_nil, b, List.getLast_mem _⟩
  obtain rfl | ⟨ds, d, rfl⟩ := ds.eq_nil_or_concat
  · rw [slashed, List.flatMap_nil, List.append_nil]
    exact last a []
  · rw [List.concat_eq_append, slashed_concat, ← List.cons_append, ← List.append_assoc]
    exact last d.atom _

/-- The spaces around atoms and slashes are dropped. -/
theorem strip_slashed (m n : ℕ) (a : Atom) (ds : List Divisor) :
    Text.strip (String.ofList (spaces m ++ (slashed a ds ++ spaces n))) =
      String.ofList (slashed a ds) := by
  have blank (n : ℕ) : ∀ c ∈ spaces n, Text.isBlank c = true := fun c mem =>
    List.eq_of_mem_replicate mem ▸ rfl
  have visible {c : Char} {b : Atom} (mem : c ∈ b.chars) : Text.isBlank c = false :=
    (isBlank_of_isInk (b.ink c mem)).1
  refine Text.strip_between (blank m) (blank n) (fun c first => ?_) (fun c last => ?_)
  · obtain ⟨d, more, chars⟩ := List.exists_cons_of_ne_nil a.chars_ne_nil
    rw [slashed, chars] at first
    exact visible (b := a) (by rw [chars, ← Option.some.inj first]; exact List.mem_cons_self ..)
  · obtain ⟨d, same, b, mem⟩ := last_slashed a ds
    rw [Option.mem_def] at same last
    exact visible (b := b) (Option.some.inj (same.symm.trans last) ▸ mem)

theorem strip_slashed_self (a : Atom) (ds : List Divisor) :
    Text.strip (String.ofList (slashed a ds)) = String.ofList (slashed a ds) := by
  have around := strip_slashed 0 0 a ds
  rwa [spaces, List.replicate_zero, List.append_nil, List.nil_append] at around

theorem length_le_slashed (a : Atom) (ds : List Divisor) :
    (a.lexeme :: ds.flatMap Divisor.lexemes).length ≤ (slashed a ds).length := by
  induction ds generalizing a with
  | nil =>
      rw [slashed, List.flatMap_nil, List.flatMap_nil, List.append_nil]
      exact List.length_pos_iff.mpr a.chars_ne_nil
  | cons d rest ih =>
      have behind := ih d.atom
      have positive := List.length_pos_iff.mpr a.chars_ne_nil
      rw [slashed_cons]
      simp only [Divisor.lexemes, List.flatMap_cons, List.length_cons, List.length_append,
        List.length_nil] at behind ⊢
      omega

/-- The text of atoms and slashes has the tree that is divided from the left. -/
theorem tree?_slashed {s : String} {a : Atom} {ds : List Divisor}
    (text : Text.strip s = String.ofList (slashed a ds)) :
    tree? s = some (dividedBy a.tree ds).expr := by
  have strong := a.level_tree
  have body : (dividedBy a.tree ds).written 0 = a.lexeme :: ds.flatMap Divisor.lexemes := by
    rw [Tree.written_zero, body_dividedBy ds (by omega), a.body_tree]
    rfl
  have noCaret : '^' ∉ slashed a ds := fun mem => by
    obtain space | ink := slashed_ink mem
    · exact absurd space (by decide)
    · exact absurd ink (by decide)
  have formed := (dividedBy a.tree ds).formed 0
  have reads := ((dividedBy a.tree ds).parses 0 (by decide)).1
  rw [body] at formed reads
  rw [tree?, text, String.toList_ofList, expandCarets_eq noCaret]
  refine ofText?_of_reads reads formed ?_ ?_
  · rw [String.toList_ofList, lex_slashed]
    rfl
  · rw [String.length_ofList]
    exact Nat.le_succ_of_le (length_le_slashed a ds)

/-! Values. -/

namespace Atom

theorem isFinite_value (a : Atom) : a.value.isFinite = true := by
  cases a with
  | constant id x named =>
      have finite : ∀ s, (constantNamed? s).all Float.isFinite = true := by
        intro s
        unfold constantNamed?
        split <;> decide +kernel
      exact Option.all_eq_true _ _ |>.mp (finite _) x named
  | numeral n finite => exact finite
  | zeros r zero => exact show Float.isFinite 0 = true by decide +kernel

theorem value_expr (a : Atom) : a.tree.expr.value = .ok a.value := by
  cases a with
  | constant id x named => rw [tree, Tree.expr, Expr.value, named]; rfl
  | zeros r zero =>
      have zero : Binary64.ofNat? 0 = some 0 := by decide +kernel
      change (Expr.whole 0).value = .ok 0
      rw [Expr.value, zero]
  | numeral n finite =>
      rw [tree, Tree.expr, Numeral.expr]
      split
      next whole =>
        have same : n.decimal = ⟨digitsValue n.wholeDigits, 0⟩ := by
          simp only [Numeral.isWhole, Bool.and_eq_true, Option.isNone_iff_eq_none] at whole
          simp [Numeral.decimal, Numeral.fractionDigits, whole]
        rw [same] at finite
        rw [Expr.value, ofNat?_of_isFinite finite, value, same]
      next => rw [Expr.value, value]

end Atom

/-- The value of a tree is divided by the values of the atoms, one after the other. -/
theorem value_dividedBy (t : Tree) (ds : List Divisor) :
    (dividedBy t ds).expr.value =
      t.expr.value >>= fun x => ofFault ((ds.map (·.atom.value)).foldlM Elementary.div x) := by
  induction ds generalizing t with
  | nil =>
      change t.expr.value = _
      cases t.expr.value <;> rfl
  | cons d rest ih =>
      have first : (Tree.binary .div t d.atom.tree).expr.value =
          t.expr.value >>= fun x => ofFault (Elementary.div x d.atom.value) := by
        rw [Tree.expr, Expr.value, d.atom.value_expr]
        rfl
      change (dividedBy (.binary .div t d.atom.tree) rest).expr.value = _
      rw [ih, first]
      cases t.expr.value with
      | error e => rfl
      | ok x =>
          change (ofFault (Elementary.div x d.atom.value) >>= _) = ofFault (List.foldlM _ _ _)
          rw [List.map_cons, List.foldlM_cons]
          cases Elementary.div x d.atom.value <;> rfl

/-- The text of atoms and slashes has the value of the first atom divided by the others in turn. -/
theorem evaluate_slashed {s : String} {a : Atom} {ds : List Divisor}
    (text : Text.strip s = String.ofList (slashed a ds)) :
    evaluate s = ofFault ((ds.map (·.atom.value)).foldlM Elementary.div a.value) := by
  rw [evaluate, tree?_slashed text]
  exact (value_dividedBy a.tree ds).trans (by rw [a.value_expr]; rfl)

end Astrolabe.Expression
