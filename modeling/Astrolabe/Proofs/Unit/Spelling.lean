import Astrolabe.Proofs.Unit.Conversion
import Astrolabe.Unit.Canonical

/-!
Spellings of a unit: names that agree without blanks and letter case. A conversion goes by the rules
of its two units where one of them has a rule, so there the spelling does not matter. A unit without
a rule is known by its name alone, and of a name only letter case and the blanks around it are
disregarded: with a blank inside it is another unit.
-/

namespace Astrolabe.Unit

section Rules

variable {a a' b : String}

/-- The spellings of a unit have one rule. -/
theorem rule?_of_spelling (h : normalize a = normalize a') : rule? a = rule? a' := by
  simp only [rule?, h]

theorem exactRule?_of_spelling (h : normalize a = normalize a') :
    exactRule? a = exactRule? a' := by
  simp only [exactRule?, rule?_of_spelling h]

theorem isSome_exactRule? (a : String) : (exactRule? a).isSome = (rule? a).isSome := by
  cases found : rule? a with
  | none => simp [exactRule?, found]
  | some r =>
      obtain ⟨s, exact, -⟩ := rational?_of_rule? found
      simp [exactRule?, found, exact]

/-! Conversion with rules and without. -/

/-- A unit with a rule is converted by it, also to another spelling of its name. -/
theorem exactConvert_of_known (known : (rule? a).isSome = true ∨ (rule? b).isSome = true) (x : ℚ) :
    exactConvert x a b = (exactRule? a).bind fun r => (exactRule? b).bind fun s =>
      if r.compatible s then some (r.convert s x) else none := by
  by_cases same : sameName a b = true
  · -- both names have the rule that one of them has
    have both : exactRule? a = exactRule? b := exactRule?_of_sameName same
    have found : (exactRule? b).isSome = true := by
      rw [← isSome_exactRule?, ← isSome_exactRule?, both, or_self] at known
      exact known
    obtain ⟨r, right⟩ := Option.isSome_iff_exists.mp found
    have unchanged : r.convert r x = x := (Rule.convert_eq_iff (factor_pos right)).mpr rfl
    have alike : r.compatible r = true := Rule.compatible_iff.mpr rfl
    rw [both, right, Option.bind_some, Option.bind_some, if_pos alike, unchanged]
    exact if_pos same
  · rw [exactConvert, convertBy, if_neg same]
    cases exactRule? a with
    | none => rfl
    | some r => cases exactRule? b <;> rfl

/-- A unit without a rule is converted to those only that are taken for it by name. -/
theorem exactConvert_of_unknown (unknown : rule? a = none) (x : ℚ) :
    exactConvert x a b = if sameName a b then some x else none := by
  by_cases same : sameName a b = true
  · rw [exactConvert, convertBy, if_pos same, if_pos same]
  · simp [exactConvert, convertBy, same, exactRule?, unknown]

/-- A value is on record as taken as it is just where its conversion is not defined. -/
theorem toCanonical_converts_iff (v : Float) (a b : String) (x : ℚ) :
    (toCanonical v a b).2 = [] ↔ (exactConvert x a b).isSome = true := by
  rw [toCanonical_eq, isSome_exactConvert a b x v]
  cases convert v a b <;> simp

end Rules

section Spellings

variable {a a' b b' : String}

/-- That the names of two units say the same in two spellings: one of the units has a rule, or the
names are taken for one in both spellings or in neither. -/
def Indifferent (a b a' b' : String) : Prop :=
  (rule? a).isSome = true ∨ (rule? b).isSome = true ∨ sameName a b = sameName a' b'

theorem exactConvert_eq_of_indifferent (ha : normalize a = normalize a')
    (hb : normalize b = normalize b') (h : Indifferent a b a' b') (x : ℚ) :
    exactConvert x a b = exactConvert x a' b' := by
  have left : rule? a = rule? a' := rule?_of_spelling ha
  have right : rule? b = rule? b' := rule?_of_spelling hb
  by_cases known : (rule? a).isSome = true ∨ (rule? b).isSome = true
  · have known' : (rule? a').isSome = true ∨ (rule? b').isSome = true := by
      rw [← left, ← right]
      exact known
    rw [exactConvert_of_known known, exactConvert_of_known known', exactRule?_of_spelling ha,
      exactRule?_of_spelling hb]
  · rw [not_or, Option.not_isSome_iff_eq_none] at known
    have names : sameName a b = sameName a' b' :=
      (h.resolve_left fun found => by simp [known.1] at found).resolve_left known.2
    rw [exactConvert_of_unknown known.1, exactConvert_of_unknown (left.symm.trans known.1), names]

/-- Where a conversion is defined in two spellings or in neither, the spelling does not matter. -/
theorem indifferent_of_isSome (ha : normalize a = normalize a') {x : ℚ}
    (h : (exactConvert x a b).isSome = (exactConvert x a' b').isSome) :
    Indifferent a b a' b' := by
  cases found : rule? a with
  | some r => exact .inl (by rw [found]; rfl)
  | none =>
      have found' : rule? a' = none := (rule?_of_spelling ha).symm.trans found
      rw [exactConvert_of_unknown found, exactConvert_of_unknown found'] at h
      have names : sameName a b = sameName a' b' := by
        cases same : sameName a b <;> cases same' : sameName a' b' <;> simp [same, same'] at h ⊢
      exact .inr (.inr names)

/-- A unit with a rule converts to its spellings without change, and one without a rule to those
whose names are taken for its own. -/
theorem exactConvert_of_spelling (h : normalize a = normalize a')
    (alike : (rule? a).isSome = true ∨ sameName a a' = true) (x : ℚ) :
    exactConvert x a a' = some x := by
  have itself : exactConvert x a a = some x := exactConvert_eq_some_iff.mpr (.refl a x)
  have named : sameName a a = true := sameName_iff.mpr rfl
  have indifferent : Indifferent a a a a' := by
    cases alike with
    | inl known => exact .inl known
    | inr same => exact .inr (.inr (named.trans same.symm))
  rw [← exactConvert_eq_of_indifferent rfl h indifferent x, itself]

theorem known_or_sameName_of_isSome {x : ℚ} (defined : (exactConvert x a b).isSome = true) :
    (rule? a).isSome = true ∨ sameName a b = true := by
  cases found : rule? a with
  | some r => exact .inl rfl
  | none =>
      rw [exactConvert_of_unknown found] at defined
      cases same : sameName a b with
      | true => exact .inr rfl
      | false => simp [same] at defined

/-- The spelling of two units does not matter, for the number and for the record, where one of them
has a rule or their names are taken for one in both spellings or in neither; and only there. In
particular a unit with a rule converts to all its spellings without change, and a unit without one
to those that agree but for letter case and the blanks around the name. -/
theorem exactConvert_spelling (ha : normalize a = normalize a') (hb : normalize b = normalize b') :
    ((∀ x, exactConvert x a b = exactConvert x a' b') ↔ Indifferent a b a' b') ∧
      (∀ v, ((toCanonical v a b).2 = [] ↔ (toCanonical v a' b').2 = []) ↔
        Indifferent a b a' b') ∧
      (∀ x, exactConvert x a a' = some x ↔ (rule? a).isSome = true ∨ sameName a a' = true) ∧
      ∀ v, (toCanonical v a a').2 = [] ↔ (rule? a).isSome = true ∨ sameName a a' = true := by
  have equal (alike : Indifferent a b a' b') := exactConvert_eq_of_indifferent ha hb alike
  have unchanged (alike : (rule? a).isSome = true ∨ sameName a a' = true) :=
    exactConvert_of_spelling ha alike
  refine ⟨⟨fun same => ?_, equal⟩, fun v => ⟨fun same => ?_, fun alike => ?_⟩,
    fun x => ⟨fun same => ?_, fun alike => unchanged alike x⟩, fun v => ⟨fun same => ?_, ?_⟩⟩
  · exact indifferent_of_isSome ha (x := 0) (by rw [same])
  · rw [toCanonical_converts_iff v a b 0, toCanonical_converts_iff v a' b' 0,
      ← Bool.eq_iff_iff] at same
    exact indifferent_of_isSome ha same
  · rw [toCanonical_converts_iff v a b 0, toCanonical_converts_iff v a' b' 0, equal alike]
  · exact known_or_sameName_of_isSome (by rw [same]; rfl)
  · exact known_or_sameName_of_isSome ((toCanonical_converts_iff v a a' 0).mp same)
  · intro alike
    rw [toCanonical_converts_iff v a a' 0, unchanged alike]
    rfl

/-- Kilometers and meters have rules, so a blank inside a name does no harm. -/
theorem kilometers_spelling :
    normalize "K M" = normalize "km" ∧ normalize "m" = normalize "M " ∧
      exactConvert 2 "K M" "m" = exactConvert 2 "km" "M " ∧ exactConvert 2 "K M" "km" = some 2 := by
  have source : normalize "K M" = normalize "km" := by decide +kernel
  have target : normalize "m" = normalize "M " := by decide +kernel
  have known : (rule? "K M").isSome = true := by decide +kernel
  obtain ⟨number, -, itself, -⟩ := exactConvert_spelling source target
  exact ⟨source, target, number.mpr (.inl known) 2, (itself 2).mpr (.inl known)⟩

/-- A unit without a rule is not converted to a spelling of its name without the inner blank, and
the value is taken as it is, on record. -/
theorem energyUnits_spelling_matters :
    normalize "energyunits" = normalize "energy units" ∧
      exactConvert 1 "energy units" "energy units" = some 1 ∧
      exactConvert 1 "energyunits" "energy units" = none ∧
      (toCanonical 1 "energy units" "energy units").2 = [] ∧
      (toCanonical 1 "energyunits" "energy units").2 ≠ [] := by
  have unknown : exactConvert 1 "energyunits" "energy units" = none := by
    have noRule : rule? "energyunits" = none := by
      rw [rule?, normalizedTable, normalize_eq_smallName]
      decide +kernel
    rw [exactConvert_of_unknown noRule]
    decide +kernel
  have itself : exactConvert 1 "energy units" "energy units" = some 1 := by decide +kernel
  refine ⟨by decide +kernel, itself, unknown, ?_, ?_⟩
  · rw [toCanonical_converts_iff 1 _ _ 1, itself]
    rfl
  · rw [ne_eq, toCanonical_converts_iff 1 _ _ 1, unknown]
    exact Bool.false_ne_true

end Spellings

end Astrolabe.Unit
