import Astrolabe.Proofs.Exact.Solver
import Astrolabe.Proofs.Relation.Agree
import Astrolabe.Proofs.Relation.Denominators

/-!
A relation that holds over the reals, as it is checked. The sides of the check are the
collected forms of those that are read over the reals, and the values they are checked at
have the real numbers as their exact ones.
-/

namespace Astrolabe

open Inversion Astrolabe.Relation

namespace Formula

variable {f : Formula} {values : String → Option Float} {a : String → ℝ}

/-- The real number that a name in a relation has. -/
noncomputable def reals (f : Formula) (a : String → ℝ) (key : String) : ℝ :=
  ((f.relationName? key).map (Term.real (f.withConstants a))).getD 0

/-- Every variable has a finite value, of which an assignment has the exact number. -/
def Reads (f : Formula) (values : String → Option Float) (a : String → ℝ) : Prop :=
  ∀ v ∈ f.vars, Side.Reads values a v.symbol

def declares (f : Formula) (key : String) : Bool :=
  f.hasConstant key || f.vars.any (·.key == key)

/-- No numeral of a relation is a decimal fraction. -/
def numeralsWhole (f : Formula) : Bool :=
  match f.relation with
  | .text text => (trees? text).any fun (left, right) => wholeNumerals left && wholeNumerals right
  | _ => false

/-- A relation is read both over the reals and for its check. Its names are those of
different variables, or of constants that are finite, and its numerals are whole. -/
def legible (f : Formula) : Bool :=
  f.namesApart && f.constantsFinite && f.numeralsWhole &&
    (f.vars.all fun v => !f.hasConstant v.symbol) && f.sides?.isSome &&
      f.checkedSides?.any fun (left, right) => (left.keys ++ right.keys).all f.declares

/-! All that is read of a relation is read off its two expressions. -/

/-- The expressions on the two sides of a relation. -/
def trees? (f : Formula) : Option (Expr × Expr) :=
  match f.relation with
  | .text text => Relation.trees? text
  | _ => none

/-- Two expressions over the symbols of variables and constants. -/
def terms? (f : Formula) (trees : Expr × Expr) : Option Sides := do
  let left ← Term.ofExpr? f.relationName? trees.1
  let right ← Term.ofExpr? f.relationName? trees.2
  some ⟨left, right⟩

/-- Two expressions in the form in which they are checked. -/
def collected? (f : Formula) (trees : Expr × Expr) : Option (Side × Side) := do
  let left ← Side.ofExpr? (f.vars.map Variable.key ++ f.constants.map (·.1)) trees.1
  let right ← Side.ofExpr? (f.vars.map Variable.key ++ f.constants.map (·.1)) trees.2
  some (left, right)

theorem numeralsWhole_eq (f : Formula) :
    f.numeralsWhole =
      f.trees?.any fun (left, right) => wholeNumerals left && wholeNumerals right := by
  unfold numeralsWhole trees?
  cases f.relation <;> rfl

theorem sides?_eq (f : Formula) : f.sides? = f.trees?.bind f.terms? := by
  unfold sides? trees?
  cases f.relation <;> rfl

theorem checkedSides?_eq (f : Formula) : f.checkedSides? = f.trees?.bind f.collected? := by
  unfold checkedSides? trees?
  cases f.relation with
  | text text =>
      refine Option.ext fun (a, b) => ?_
      rw [Except.toOption_eq_some_iff, sides_eq_ok_iff]
      simp [collected?, Option.bind_eq_some_iff]
  | _ => rfl

theorem Reads.given (reads : f.Reads values a) : ∀ v ∈ f.vars, ∃ x, values v.symbol = some x := by
  intro v hv
  obtain ⟨x, _, given, -⟩ := reads v hv
  exact ⟨x, given⟩

theorem mem_declared_iff {key : String} :
    (f.vars.map Variable.key ++ f.constants.map (·.1)).contains key = f.declares key := by
  rw [Bool.eq_iff_iff]
  simp only [List.contains_eq_mem, decide_eq_true_eq, List.mem_append, List.mem_map, declares,
    hasConstant, Bool.or_eq_true, List.any_eq_true, beq_iff_eq]
  exact or_comm

/-- A name is read as a side and as a term for the same number. -/
theorem denotes_name {id : String} {t : Term} {s : Side} (ht : f.relationName? id = some t)
    (hs : Side.ofExpr? (f.vars.map Variable.key ++ f.constants.map (·.1)) (.name id) = some s) :
    s.Denotes (f.reals a) (t.real (f.withConstants a)) := by
  have named : f.reals a id = t.real (f.withConstants a) := by
    rw [reals, ht]
    rfl
  rw [Side.ofExpr?, mem_declared_iff] at hs
  cases declared : f.declares id with
  | true =>
      rw [declared, if_pos rfl] at hs
      cases hs
      exact ⟨trivial, named⟩
  | false =>
      simp only [declares, Bool.or_eq_false_iff, List.any_eq_false] at declared
      have none : f.vars.find? (·.key == id) = none := List.find?_eq_none.mpr declared.2
      simp only [relationName?, declared.1, none, Bool.false_eq_true, if_false,
        Option.ite_none_right_eq_some] at ht
      rw [declares, declared.1, List.any_eq_false.mpr declared.2, Bool.or_false,
        if_neg Bool.false_ne_true, if_pos ht.1] at hs
      cases ht.2
      cases hs
      exact ⟨trivial, rfl⟩

/-- A declared name has a value, and the exact number of it. -/
theorem reads_named (legible : f.legible = true) (reads : f.Reads values a) {key : String}
    (declared : f.declares key = true) :
    Side.Reads (List.lookup · (f.named values)) (f.reals a) key := by
  simp only [Formula.legible, Bool.and_eq_true, List.all_eq_true, Bool.not_eq_true'] at legible
  obtain ⟨⟨⟨⟨⟨apart, finite⟩, -⟩, symbols⟩, -⟩, -⟩ := legible
  cases constant : f.hasConstant key with
  | true =>
      obtain ⟨x, hx⟩ := hasConstant_iff.mp constant
      obtain ⟨q, hq⟩ := toRat?_of_constantsFinite finite hx
      refine ⟨x, q, lookup_named_constant hx, hq, ?_⟩
      simp [reals, relationName?, constant, withConstants, hx, hq]
  | false =>
      rw [declares, constant, Bool.false_or, List.any_eq_true, ← List.find?_isSome] at declared
      obtain ⟨v, found⟩ := Option.isSome_iff_exists.mp declared
      have mem := List.mem_of_find?_eq_some found
      have same : v.key = key := by simpa using List.find?_some found
      obtain ⟨x, q, given, exact, value⟩ := reads v mem
      refine ⟨x, q, ?_, exact, ?_⟩
      · rw [← same]
        exact (lookup_named_variable apart mem).trans given
      · rw [reals, relationName?, constant, found]
        change f.withConstants a v.symbol = q
        rw [withConstants_of_not_hasConstant (symbols v mem), value]

/-- Where a relation holds over the reals and the terms of no sum cancel, it is satisfied
in the form in which it is checked. -/
theorem satisfied (legible : f.legible = true) {sides : Sides} {left right : Side}
    (read : f.sides? = some sides) (checked : f.checkedSides? = some (left, right))
    (reads : f.Reads values a) {y : ℝ} (holds : f.sideValues? sides a = some (y, y))
    (left_balanced : left.Balanced (f.reals a)) (right_balanced : right.Balanced (f.reals a)) :
    Satisfied (List.lookup · (f.named values)) (f.reals a) left right y := by
  have parts := legible
  simp only [Formula.legible, numeralsWhole_eq, checked, Option.any_some, Bool.and_eq_true,
    List.all_eq_true] at parts
  obtain ⟨⟨⟨⟨⟨-, finite⟩, whole⟩, -⟩, -⟩, keys⟩ := parts
  obtain ⟨⟨left_defined, right_defined⟩, left_real, right_real⟩ :=
    (sideValues?_eq_some_iff finite).mp holds
  obtain ⟨⟨l, r⟩, trees, whole⟩ := (Option.any_eq_true _ _).mp whole
  rw [Bool.and_eq_true] at whole
  simp only [sides?_eq, trees, terms?, Option.bind_eq_bind, Option.bind_some,
    Option.bind_eq_some_iff, Option.some.injEq] at read
  obtain ⟨lhs, hl, rhs, hr, rfl⟩ := read
  simp only [checkedSides?_eq, trees, collected?, Option.bind_eq_bind, Option.bind_some,
    Option.bind_eq_some_iff, Option.some.injEq, Prod.mk.injEq] at checked
  obtain ⟨_, hl', _, hr', rfl, rfl⟩ := checked
  exact
    { left := left_real ▸ Side.denotes_ofExpr? (fun _ _ _ => denotes_name) whole.1 hl
        left_defined hl'
      right := right_real ▸ Side.denotes_ofExpr? (fun _ _ _ => denotes_name) whole.2 hr
        right_defined hr'
      left_balanced
      right_balanced
      reads := fun key mem => reads_named legible reads (keys key mem) }

/-- Sides that agree have no mismatch, unless their value is beyond the range of doubles. -/
theorem residual_of_agree {left right : Side} (checked : f.checkedSides? = some (left, right))
    (given : ∀ v ∈ f.vars, ∃ x, values v.symbol = some x) {y : ℝ}
    (agree : Agree (List.lookup · (f.named values)) left right y) :
    ∃ q : ℚ, y = q ∧
      f.residual values = .ok (some (mismatch (Binary64.ofRat q) (Binary64.ofRat q))) := by
  obtain ⟨q, value, hl, hr⟩ := agree
  refine ⟨q, value, ?_⟩
  rw [residual_eq checked given, hl, hr]
  rfl

end Formula

end Astrolabe
