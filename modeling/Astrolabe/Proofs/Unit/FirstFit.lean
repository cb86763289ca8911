import Astrolabe.Proofs.Unit.Conversion
import Astrolabe.Unit.Display

/-!
The unit for display in exact numbers. `ShownAs` says which unit that is: the first in whose natural
range the quantity falls, or the first of all for a large or small quantity that falls in none. All
units for display convert from the unit of the quantity, so the quantity shown is the same one.
Temperatures apart, a quantity and its opposite are shown alike.
-/

namespace Astrolabe.Unit

open Binary64

/-! Targets in exact numbers. -/

/-- A target with the exact values of its doubles. -/
def Target.rational? (t : Target Float) : Option (Target ℚ) := do
  let low ← toRat? t.low
  let high ← toRat? t.high
  some ⟨t.unit, low, high⟩

/-- The units for display of a unit, in exact numbers. -/
def exactTargets (name : String) : List (Target ℚ) :=
  (targets name).filterMap Target.rational?

/-- The second unit for a quantity by the tables, in exact numbers. -/
def exactDisplay? (value : ℚ) (name : String) : Option (Shown ℚ) :=
  displayBy? (|·|) (exactTargets name) (exactConvert value name) value

/-- The names of the unit of temperature, which is shown in degrees with another zero. -/
def shiftedNames : List String := ["kelvin", "k"]

/-- Whether a target has a finite range and a rule that measures what a given rule does, from the
same zero unless the name is one of a temperature. -/
def Target.sound (name : String) (r : Rule ℚ) (t : Target Float) : Bool :=
  t.rational?.isSome &&
    (exactRule? t.unit).any fun s =>
      r.dimension == s.dimension && (shiftedNames.contains name || r.offset == s.offset)

/-- Every unit that has units for display has a rule, for which they are sound. -/
theorem normalizedTargets_sound :
    (normalizedTargets.all fun entry =>
      ((normalizedTable.lookup entry.1).bind Rule.rational?).any fun r =>
        entry.2.all (Target.sound entry.1 r)) = true := by
  unfold normalizedTargets Target.sound exactRule? rule? normalizedTable
  rw [normalize_eq_smallName]
  decide +kernel

theorem targets_sound {name : String} {t : Target Float} (mem : t ∈ targets name) :
    ∃ r, exactRule? name = some r ∧ t.sound (normalize name) r = true := by
  cases listed : normalizedTargets.lookup (normalize name) with
  | none => simp [targets, listed] at mem
  | some choices =>
      have among : t ∈ choices := by simpa [targets, listed] using mem
      obtain ⟨before, after, split, -⟩ := List.lookup_eq_some_iff.mp listed
      have entry : (normalize name, choices) ∈ normalizedTargets := by simp [split]
      have checked := List.all_eq_true.mp normalizedTargets_sound _ entry
      obtain ⟨r, rule, all⟩ := (Option.any_eq_true _ _).mp checked
      exact ⟨r, rule, List.all_eq_true.mp all t among⟩

/-- No unit for display is lost in exact numbers. -/
theorem exactTargets_units (name : String) :
    (exactTargets name).map Target.unit = (targets name).map Target.unit := by
  have all (t : Target Float) (mem : t ∈ targets name) : t.rational?.isSome = true := by
    obtain ⟨r, -, sound⟩ := targets_sound mem
    rw [Target.sound, Bool.and_eq_true] at sound
    exact sound.1
  have kept (t : Target Float) (s : Target ℚ) (h : t.rational? = some s) : s.unit = t.unit := by
    simp only [Target.rational?, bind, Option.bind_eq_some_iff, Option.some.injEq] at h
    obtain ⟨low, -, high, -, rfl⟩ := h
    rfl
  rw [exactTargets]
  generalize targets name = choices at all ⊢
  induction choices with
  | nil => rfl
  | cons t rest ih =>
      obtain ⟨here, behind⟩ := List.forall_mem_cons.mp all
      obtain ⟨s, exact⟩ := Option.isSome_iff_exists.mp here
      rw [List.filterMap_cons_some exact, List.map_cons, List.map_cons, kept t s exact, ih behind]

/-- A unit for display measures the same, and from the same zero but for temperatures. -/
theorem exactTargets_sound {name : String} {t : Target ℚ} (mem : t ∈ exactTargets name) :
    ∃ r s, exactRule? name = some r ∧ exactRule? t.unit = some s ∧ r.dimension = s.dimension ∧
      (normalize name ∈ shiftedNames ∨ r.offset = s.offset) := by
  have listed : t.unit ∈ (targets name).map Target.unit := by
    rw [← exactTargets_units]
    exact List.mem_map_of_mem mem
  obtain ⟨original, among, same⟩ := List.mem_map.mp listed
  obtain ⟨r, rule, sound⟩ := targets_sound among
  rw [Target.sound, Bool.and_eq_true, Option.any_eq_true] at sound
  obtain ⟨-, s, rule', sound⟩ := sound
  rw [Bool.and_eq_true, Bool.or_eq_true, beq_iff_eq, beq_iff_eq, List.contains_iff_mem] at sound
  exact ⟨r, s, rule, same ▸ rule', sound⟩

/-! Fitting. -/

section

variable {name : String} {x y : ℚ} {t : Target ℚ}

/-- A quantity converts to a unit for display. -/
theorem exists_exactConvert_target (mem : t ∈ exactTargets name) (x : ℚ) :
    ∃ y, exactConvert x name t.unit = some y := by
  obtain ⟨r, s, left, right, alike, -⟩ := exactTargets_sound mem
  refine ⟨r.convert s x, exactConvert_eq_some_iff.mpr (.measured left right alike ?_)⟩
  exact ((Rule.convert_eq_iff (factor_pos right)).mp rfl).symm

/-- A quantity converts to a target beyond its natural range. -/
def Target.Misses (name : String) (x : ℚ) (t : Target ℚ) : Prop :=
  ∃ y, exactConvert x name t.unit = some y ∧ ¬(t.low ≤ |y| ∧ |y| ≤ t.high)

theorem fit?_eq_some_iff {shown : Shown ℚ} :
    t.fit? (|·|) (exactConvert x name) = some shown ↔
      exactConvert x name t.unit = some shown.value ∧ shown.unit = t.unit ∧
        t.low ≤ |shown.value| ∧ |shown.value| ≤ t.high := by
  obtain ⟨value, unit⟩ := shown
  cases converted : exactConvert x name t.unit with
  | none => simp [Target.fit?, converted]
  | some y =>
      simp only [Target.fit?, converted, Bool.and_eq_true, decide_eq_true_eq,
        Option.ite_none_right_eq_some, Option.some.injEq, Shown.mk.injEq]
      constructor
      · intro ⟨natural, value, unit⟩
        exact ⟨value, unit.symm, value ▸ natural⟩
      · intro ⟨value, unit, natural⟩
        exact ⟨value ▸ natural, value, unit.symm⟩

theorem misses_of_fit?_eq_none (mem : t ∈ exactTargets name)
    (h : t.fit? (|·|) (exactConvert x name) = none) : t.Misses name x := by
  obtain ⟨y, converted⟩ := exists_exactConvert_target mem x
  refine ⟨y, converted, fun natural => ?_⟩
  have fits : t.fit? (|·|) (exactConvert x name) = some ⟨y, t.unit⟩ :=
    fit?_eq_some_iff.mpr ⟨converted, rfl, natural⟩
  rw [h] at fits
  cases fits

/-- What a quantity of a unit is shown as. -/
inductive ShownAs (name : String) (x : ℚ) : Option (Shown ℚ) → Prop
  | natural {before after : List (Target ℚ)} {target : Target ℚ} {y : ℚ}
      (split : exactTargets name = before ++ target :: after)
      (converted : exactConvert x name target.unit = some y)
      (low : target.low ≤ |y|) (high : |y| ≤ target.high)
      (earlier : ∀ t ∈ before, t.Misses name x) : ShownAs name x (some ⟨y, target.unit⟩)
  | extreme {first : Target ℚ} {others : List (Target ℚ)} {y : ℚ}
      (split : exactTargets name = first :: others)
      (converted : exactConvert x name first.unit = some y)
      (unfit : ∀ t ∈ exactTargets name, t.Misses name x)
      (extreme : 1e6 ≤ |x| ∨ 0 < |x| ∧ |x| < 1e-3) : ShownAs name x (some ⟨y, first.unit⟩)
  | bare (empty : exactTargets name = []) : ShownAs name x none
  | moderate (unfit : ∀ t ∈ exactTargets name, t.Misses name x)
      (moderate : |x| = 0 ∨ 1e-3 ≤ |x| ∧ |x| < 1e6) : ShownAs name x none

theorem isExtreme_iff {m : ℚ} : isExtreme m = true ↔ 1e6 ≤ m ∨ 0 < m ∧ m < 1e-3 := by
  simp [isExtreme]

theorem moderate_of_not_isExtreme {m : ℚ} (nonneg : 0 ≤ m) (h : ¬isExtreme m = true) :
    m = 0 ∨ 1e-3 ≤ m ∧ m < 1e6 := by
  rw [isExtreme_iff, not_or, not_and, not_le, not_lt] at h
  obtain zero | pos := nonneg.eq_or_lt
  · exact .inl zero.symm
  · exact .inr ⟨h.2 pos, h.1⟩

theorem shownAs_exactDisplay? (name : String) (x : ℚ) : ShownAs name x (exactDisplay? x name) := by
  rw [exactDisplay?, displayBy?]
  split
  next shown found =>
    obtain ⟨before, target, after, split, fits, others⟩ := List.findSome?_eq_some_iff.mp found
    obtain ⟨converted, unit, low, high⟩ := fit?_eq_some_iff.mp fits
    have earlier (t : Target ℚ) (mem : t ∈ before) : t.Misses name x := by
      apply misses_of_fit?_eq_none _ (others t mem)
      rw [split]
      exact List.mem_append_left _ mem
    obtain ⟨value, _⟩ := shown
    cases unit
    exact .natural split converted low high earlier
  next found =>
    have unfit (t : Target ℚ) (mem : t ∈ exactTargets name) : t.Misses name x :=
      misses_of_fit?_eq_none mem (List.findSome?_eq_none_iff.mp found t mem)
    cases choices : exactTargets name with
    | nil =>
        simp only [List.head?_nil, bind, Option.bind_none, ite_self]
        exact .bare choices
    | cons first others =>
        have mem : first ∈ exactTargets name := by simp [choices]
        obtain ⟨y, converted⟩ := exists_exactConvert_target mem x
        by_cases large : isExtreme |x| = true
        · simp only [large, if_true, List.head?_cons, bind, Option.bind_some, converted]
          exact .extreme choices converted unfit (isExtreme_iff.mp large)
        · rw [if_neg large]
          exact .moderate unfit (moderate_of_not_isExtreme (abs_nonneg x) large)

/-- What is shown is the quantity itself, in a unit for display. -/
theorem ShownAs.converts {shown : Shown ℚ} (h : ShownAs name x (some shown)) :
    (∃ t ∈ exactTargets name, shown.unit = t.unit) ∧
      exactConvert x name shown.unit = some shown.value := by
  cases h with
  | natural split converted low high earlier =>
      exact ⟨⟨_, by rw [split]; simp, rfl⟩, converted⟩
  | extreme split converted unfit extreme =>
      exact ⟨⟨_, by rw [split]; simp, rfl⟩, converted⟩

/-! Opposite quantities. -/

/-- The opposite quantity in the same unit. -/
def Shown.opposite (s : Shown ℚ) : Shown ℚ := ⟨-s.value, s.unit⟩

theorem exactConvert_neg (mem : t ∈ exactTargets name) (apart : normalize name ∉ shiftedNames)
    (h : exactConvert x name t.unit = some y) : exactConvert (-x) name t.unit = some (-y) := by
  obtain ⟨r, s, left, right, alike, zero⟩ := exactTargets_sound mem
  rw [exactConvert_eq_some_iff] at h ⊢
  cases h with
  | named same equal => exact .named same (congrArg Neg.neg equal)
  | @measured r' s' left' right' alike' equal =>
      cases left.symm.trans left'
      cases right.symm.trans right'
      refine .measured left right alike ?_
      have zero := zero.resolve_left apart
      rw [Rule.reference, Rule.reference, zero] at equal ⊢
      linarith

theorem fit?_neg (mem : t ∈ exactTargets name) (apart : normalize name ∉ shiftedNames) :
    t.fit? (|·|) (exactConvert (-x) name) =
      (t.fit? (|·|) (exactConvert x name)).map Shown.opposite := by
  obtain ⟨y, converted⟩ := exists_exactConvert_target mem x
  simp only [Target.fit?, converted, exactConvert_neg mem apart converted, abs_neg]
  split <;> rfl

theorem findSome?_fit?_neg {choices : List (Target ℚ)} (mem : ∀ t ∈ choices, t ∈ exactTargets name)
    (apart : normalize name ∉ shiftedNames) :
    choices.findSome? (Target.fit? (|·|) (exactConvert (-x) name)) =
      (choices.findSome? (Target.fit? (|·|) (exactConvert x name))).map Shown.opposite := by
  induction choices with
  | nil => rfl
  | cons t rest ih =>
      obtain ⟨here, behind⟩ := List.forall_mem_cons.mp mem
      rw [List.findSome?_cons, List.findSome?_cons, fit?_neg here apart, ih behind]
      cases t.fit? (|·|) (exactConvert x name) <;> rfl

/-- Without a zero of its own for display, a unit shows opposite quantities alike. -/
theorem exactDisplay?_neg (apart : normalize name ∉ shiftedNames) :
    exactDisplay? (-x) name = (exactDisplay? x name).map Shown.opposite := by
  rw [exactDisplay?, exactDisplay?, displayBy?, displayBy?,
    findSome?_fit?_neg (fun _ mem => mem) apart, abs_neg]
  cases (exactTargets name).findSome? (Target.fit? (|·|) (exactConvert x name)) with
  | some shown => rfl
  | none =>
      by_cases large : isExtreme |x| = true
      · cases choices : exactTargets name with
        | nil => simp
        | cons first others =>
            have mem : first ∈ exactTargets name := by simp [choices]
            obtain ⟨y, converted⟩ := exists_exactConvert_target mem x
            simp [large, converted, exactConvert_neg mem apart converted, Shown.opposite]
      · simp [large]

end

/-- A quantity is shown as the rules for display say, and what is shown converts back to it. A
quantity and its opposite are shown in the same unit as opposite numbers, temperatures apart. -/
theorem exactDisplay?_firstFit (name : String) (x : ℚ) :
    ShownAs name x (exactDisplay? x name) ∧
      (∀ shown, exactDisplay? x name = some shown →
        shown.unit ∈ (targets name).map Target.unit ∧
          exactConvert shown.value shown.unit name = some x) ∧
      (normalize name ≠ "kelvin" → normalize name ≠ "k" →
        exactDisplay? (-x) name = (exactDisplay? x name).map Shown.opposite) := by
  refine ⟨shownAs_exactDisplay? name x, fun shown display => ?_, fun notKelvin notK => ?_⟩
  · have shows := shownAs_exactDisplay? name x
    rw [display] at shows
    obtain ⟨⟨t, mem, unit⟩, converted⟩ := shows.converts
    constructor
    · rw [← exactTargets_units, unit]
      exact List.mem_map_of_mem mem
    · rw [exactConvert_eq_some_iff] at converted ⊢
      exact converted.symm
  · apply exactDisplay?_neg
    simp [shiftedNames, notKelvin, notK]

/-- A length that is natural in kilometers, and its opposite. -/
theorem kilometers_firstFit :
    normalize "meters" ≠ "kelvin" ∧ normalize "meters" ≠ "k" ∧
      exactDisplay? 1500 "meters" = some ⟨3 / 2, "km"⟩ ∧
      exactConvert (3 / 2) "km" "meters" = some 1500 ∧
      exactDisplay? (-1500) "meters" = some ⟨-(3 / 2), "km"⟩ := by
  have notKelvin : normalize "meters" ≠ "kelvin" := by decide +kernel
  have notK : normalize "meters" ≠ "k" := by decide +kernel
  have parts : (exactDisplay? 1500 "meters").map (fun s => (s.value, s.unit)) =
      some (3 / 2, "km") := by decide +kernel
  have display : exactDisplay? 1500 "meters" = some ⟨3 / 2, "km"⟩ := by
    obtain ⟨⟨value, unit⟩, display, same⟩ := Option.map_eq_some_iff.mp parts
    cases same
    exact display
  obtain ⟨-, back, opposite⟩ := exactDisplay?_firstFit "meters" 1500
  refine ⟨notKelvin, notK, display, (back _ display).2, ?_⟩
  rw [opposite notKelvin notK, display]
  rfl

end Astrolabe.Unit
