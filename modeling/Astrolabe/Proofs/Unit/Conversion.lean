import Mathlib
import Astrolabe.Number.Binary64
import Astrolabe.Proofs.Text.Compact
import Astrolabe.Unit.Conversion

/-!
Conversion in exact numbers. Names are compared in two ways: without the blanks around them where
two are taken for one, and without any blank where a rule is looked up. Names that are taken for one
have one rule, so a conversion says the same whether or not it goes through the rules: two numbers
stand for one quantity. It follows that conversions go back, compose and keep the order.
-/

namespace Astrolabe.Unit

open Binary64

/-! Names as they are looked up. -/

/-- The form in which a name is looked up, with the small letters sought along a list. -/
def smallName (name : String) : String :=
  String.ofList (Text.smallLettersFrom [] (name.toList.filter fun c => !Text.isBlank c))

theorem normalize_eq_smallName : normalize = smallName := by
  funext name
  rw [normalize, Text.lower, Text.lowerFrom_eq_smallLettersFrom, Text.compact,
    String.toList_ofList, smallName]

/-! Names that are taken for one. -/

theorem sameName_iff {a b : String} :
    sameName a b = true ↔ Text.lower (Text.strip a) = Text.lower (Text.strip b) := by
  rw [sameName, Bool.or_eq_true, beq_iff_eq, beq_iff_eq]
  exact or_iff_right_of_imp fun same => same ▸ rfl

/-- Keys that agree with the same keys of a table are looked up alike. -/
theorem lookup_congr {β : Type} {table : List (String × β)} {k l : String}
    (h : ∀ entry ∈ table, k = entry.1 ↔ l = entry.1) : table.lookup k = table.lookup l := by
  induction table with
  | nil => rfl
  | cons entry rest ih =>
      obtain ⟨here, behind⟩ := List.forall_mem_cons.mp h
      have same : (k == entry.1) = (l == entry.1) := by
        rw [Bool.eq_iff_iff, beq_iff_eq, beq_iff_eq, here]
      rw [List.lookup_cons, List.lookup_cons, ih behind, same]

/-- No name of the table has a small sigma. -/
theorem normalizedTable_lacksSigma :
    (normalizedTable.all fun entry => Text.lacksSigma entry.1) = true := by
  rw [normalizedTable, normalize_eq_smallName]
  decide +kernel

/-- Names that are taken for one have one rule. -/
theorem rule?_of_sameName {a b : String} (h : sameName a b = true) : rule? a = rule? b := by
  have same := Text.folded_compact_congr (sameName_iff.mp h)
  refine lookup_congr fun entry mem => ?_
  have plain := List.all_eq_true.mp normalizedTable_lacksSigma entry mem
  rw [normalize, normalize, Text.lower_eq_iff_folded plain, Text.lower_eq_iff_folded plain, same]

/-! Rules in exact numbers. -/

/-- A rule with the exact values of its doubles. -/
def Rule.rational? (r : Rule Float) : Option (Rule ℚ) := do
  let factor ← toRat? r.factor
  let offset ← toRat? r.offset
  some ⟨r.dimension, factor, offset⟩

/-- The rule of a unit in exact numbers. -/
def exactRule? (name : String) : Option (Rule ℚ) :=
  (rule? name).bind Rule.rational?

/-- A value in another unit by the table, in exact numbers. -/
def exactConvert (value : ℚ) (source target : String) : Option ℚ :=
  convertBy exactRule? value source target

/-- The numbers of the table are finite, and its factors positive. -/
theorem normalizedTable_exact :
    (normalizedTable.all fun entry => entry.2.rational?.any fun r =>
      r.dimension == entry.2.dimension && 0 < r.factor) = true := by
  decide +kernel

theorem rational?_of_rule? {a : String} {r : Rule Float} (h : rule? a = some r) :
    ∃ s, r.rational? = some s ∧ s.dimension = r.dimension ∧ 0 < s.factor := by
  obtain ⟨before, after, split, -⟩ := List.lookup_eq_some_iff.mp h
  have mem : (normalize a, r) ∈ normalizedTable := split ▸ by simp
  have checked := List.all_eq_true.mp normalizedTable_exact _ mem
  obtain ⟨s, exact, checked⟩ := Option.any_eq_true _ _ |>.mp checked
  rw [Bool.and_eq_true, beq_iff_eq, decide_eq_true_eq] at checked
  exact ⟨s, exact, checked⟩

theorem exactRule?_of_sameName {a b : String} (h : sameName a b = true) :
    exactRule? a = exactRule? b := by
  rw [exactRule?, exactRule?, rule?_of_sameName h]

theorem factor_pos {a : String} {r : Rule ℚ} (h : exactRule? a = some r) : 0 < r.factor := by
  obtain ⟨rule, found, exact⟩ := Option.bind_eq_some_iff.mp h
  obtain ⟨s, exact', -, positive⟩ := rational?_of_rule? found
  cases exact.symm.trans exact'
  exact positive

theorem Rule.compatible_iff {α : Type} {r s : Rule α} :
    r.compatible s = true ↔ r.dimension = s.dimension :=
  beq_iff_eq

/-- A number of a unit in the reference unit. -/
def Rule.reference (r : Rule ℚ) (x : ℚ) : ℚ :=
  x * r.factor + r.offset

theorem Rule.reference_lt_iff {r : Rule ℚ} (positive : 0 < r.factor) {x y : ℚ} :
    r.reference x < r.reference y ↔ x < y := by
  rw [reference, reference, add_lt_add_iff_right, mul_lt_mul_iff_left₀ positive]

theorem Rule.reference_inj {r : Rule ℚ} (positive : 0 < r.factor) {x y : ℚ} :
    r.reference x = r.reference y ↔ x = y := by
  rw [reference, reference, add_left_inj, mul_left_inj' positive.ne']

/-- Conversion keeps the number in the reference unit. -/
theorem Rule.convert_eq_iff {r s : Rule ℚ} (positive : 0 < s.factor) {x y : ℚ} :
    r.convert s x = y ↔ s.reference y = r.reference x := by
  rw [convert, reference, reference, div_eq_iff positive.ne', sub_eq_iff_eq_add, eq_comm]

/-! Quantities. -/

/-- The number x of the unit a is the quantity that y is in the unit b. -/
inductive SameQuantity (a b : String) (x y : ℚ) : Prop where
  | named (same : sameName a b = true) (equal : x = y)
  | measured {r s : Rule ℚ} (left : exactRule? a = some r) (right : exactRule? b = some s)
      (alike : r.dimension = s.dimension) (equal : r.reference x = s.reference y)

namespace SameQuantity

variable {a b c : String} {x x' y y' z : ℚ}

theorem refl (a : String) (x : ℚ) : SameQuantity a a x x :=
  .named (sameName_iff.mpr rfl) rfl

theorem symm (h : SameQuantity a b x y) : SameQuantity b a y x := by
  cases h with
  | named same equal => exact .named (sameName_iff.mpr (sameName_iff.mp same).symm) equal.symm
  | measured left right alike equal => exact .measured right left alike.symm equal.symm

theorem trans (h : SameQuantity a b x y) (h' : SameQuantity b c y z) : SameQuantity a c x z := by
  cases h with
  | named same equal =>
      subst equal
      cases h' with
      | named same' equal' =>
          exact .named (sameName_iff.mpr ((sameName_iff.mp same).trans (sameName_iff.mp same')))
            equal'
      | measured left right alike equal' =>
          exact .measured ((exactRule?_of_sameName same).trans left) right alike equal'
  | measured left right alike equal =>
      cases h' with
      | named same equal' =>
          subst equal'
          exact .measured left ((exactRule?_of_sameName same).symm.trans right) alike equal
      | measured left' right' alike' equal' =>
          cases right.symm.trans left'
          exact .measured left right' (alike.trans alike') (equal.trans equal')

/-- Under one name a quantity is one number, also by its rule. -/
theorem eq_of_sameName (same : sameName a b = true) (h : SameQuantity a b x y) : x = y := by
  cases h with
  | named _ equal => exact equal
  | measured left right _ equal =>
      rw [exactRule?_of_sameName same] at left
      cases left.symm.trans right
      exact (Rule.reference_inj (factor_pos right)).mp equal

theorem lt_iff (h : SameQuantity a b x y) (h' : SameQuantity a b x' y') : x < x' ↔ y < y' := by
  cases h with
  | named same equal => rw [equal, eq_of_sameName same h']
  | measured left right alike equal =>
      cases h' with
      | named same equal' => rw [equal', eq_of_sameName same (.measured left right alike equal)]
      | measured left' right' _ equal' =>
          cases left.symm.trans left'
          cases right.symm.trans right'
          rw [← Rule.reference_lt_iff (factor_pos left), equal, equal',
            Rule.reference_lt_iff (factor_pos right)]

end SameQuantity

/-- A number is converted to the one that is the same quantity in the other unit. -/
theorem exactConvert_eq_some_iff {a b : String} {x y : ℚ} :
    exactConvert x a b = some y ↔ SameQuantity a b x y := by
  rw [exactConvert, convertBy]
  split
  next same =>
    rw [Option.some.injEq]
    exact ⟨.named same, SameQuantity.eq_of_sameName same⟩
  next different =>
    constructor
    · intro h
      split at h
      next r s left right =>
        rw [Option.ite_none_right_eq_some, Option.some.injEq, Rule.compatible_iff,
          Rule.convert_eq_iff (factor_pos right)] at h
        exact .measured left right h.1 h.2.symm
      next => cases h
    · rintro (⟨same, -⟩ | ⟨left, right, alike, equal⟩)
      · exact absurd same different
      · rw [left, right]
        dsimp only
        rw [if_pos (Rule.compatible_iff.mpr alike),
          (Rule.convert_eq_iff (factor_pos right)).mpr equal.symm]

/-- Conversion is defined for the same names in exact numbers and in doubles. -/
theorem isSome_exactConvert (a b : String) (x : ℚ) (v : Float) :
    (exactConvert x a b).isSome = (convert v a b).isSome := by
  rw [exactConvert, convert, convertBy, convertBy]
  by_cases same : sameName a b = true
  · rw [if_pos same, if_pos same]
    rfl
  · rw [if_neg same, if_neg same, exactRule?, exactRule?]
    cases left : rule? a with
    | none => rfl
    | some r =>
        obtain ⟨r', exact, dimension, -⟩ := rational?_of_rule? left
        cases right : rule? b with
        | none => simp [exact]
        | some s =>
            obtain ⟨s', exact', dimension', -⟩ := rational?_of_rule? right
            have alike : r'.compatible s' = r.compatible s := by
              rw [Rule.compatible, Rule.compatible, dimension, dimension']
            simp only [Option.bind_some, exact, exact', alike]
            cases r.compatible s <;> rfl

/-- Conversions go back and compose, are defined for names whatever the number, and keep the
order. -/
theorem exactConvert_consistent (a b c : String) :
    (∀ x, exactConvert x a a = some x) ∧
      (∀ x y, exactConvert x a b = some y → exactConvert y b a = some x) ∧
      (∀ x y z, exactConvert x a b = some y → exactConvert y b c = some z →
        exactConvert x a c = some z) ∧
      (∀ (x : ℚ) (v : Float), (exactConvert x a b).isSome = (convert v a b).isSome) ∧
      ∀ x x' y y', exactConvert x a b = some y → exactConvert x' a b = some y' →
        (x < x' ↔ y < y') := by
  simp only [exactConvert_eq_some_iff]
  exact ⟨.refl a, fun _ _ => .symm, fun _ _ _ => .trans, isSome_exactConvert a b,
    fun _ _ _ _ h h' => h.lt_iff h'⟩

/-- The first conversion is between two spellings of a name, the second by the rules. -/
theorem kilometers_consistent :
    exactConvert 2 "km " "KM" = some 2 ∧ exactConvert 2 "KM" "m eters" = some 2000 ∧
      exactConvert 2000 "m eters" "KM" = some 2 ∧ exactConvert 2 "km " "m eters" = some 2000 := by
  have named : exactConvert 2 "km " "KM" = some 2 := by decide +kernel
  have measured : exactConvert 2 "KM" "m eters" = some 2000 := by decide +kernel
  exact ⟨named, measured, (exactConvert_consistent "KM" "m eters" "m").2.1 _ _ measured,
    (exactConvert_consistent "km " "KM" "m eters").2.2.1 _ _ _ named measured⟩

end Astrolabe.Unit
