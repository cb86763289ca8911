import Astrolabe.Proofs.Formula
import Astrolabe.Proofs.Relation.Division
import Astrolabe.Proofs.Solver.Coverage

/-!
Which values the check of a packaged relation cannot take. The check fails only by a
division by zero, where a variable under a fraction bar is zero; that a value is not
finite or a side not real never makes it fail.
-/

namespace Astrolabe

open Astrolabe.Relation

namespace Formula

/-- The sides of a relation in the form in which they are checked. -/
def checkedSides? (f : Formula) : Option (Side × Side) :=
  match f.relation with
  | .text text =>
    (Relation.sides (f.vars.map Variable.key ++ f.constants.map (·.1)) text).toOption
  | _ => none

/-- The names that stand by themselves under a fraction bar of a relation. -/
def denominators (f : Formula) : List String :=
  match f.checkedSides? with
  | some (left, right) => left.divisors ++ right.divisors
  | none => []

def positiveConstant (f : Formula) (key : String) : Bool :=
  (f.constant? key).any (0 < ·)

variable {f : Formula} {values : String → Option Float}

theorem residual_eq {left right : Side} (sides : f.checkedSides? = some (left, right))
    (given : ∀ v ∈ f.vars, ∃ x, values v.symbol = some x) :
    f.residual values = (do
      let x ← Relation.side (List.lookup · (f.named values)) left
      let y ← Relation.side (List.lookup · (f.named values)) right
      .ok (some (Relation.mismatch x y))) := by
  unfold checkedSides? at sides
  split at sides
  next text relation =>
    have nonempty : (Datum.text text).isEmptyLike = false := by
      rw [Datum.isEmptyLike, ← Bool.not_eq_true, String.isEmpty_iff]
      rintro rfl
      cases sides
    cases read : Relation.sides (f.vars.map Variable.key ++ f.constants.map (·.1)) text with
    | error e => simp [read, Except.toOption] at sides
    | ok pair =>
        simp only [read, Except.toOption, Option.some.injEq] at sides
        subst sides
        simp [residual, relation, nonempty, read, relationValues_eq given, bind, Except.bind]
  next => cases sides

theorem residual_eq_error_iff {left right : Side}
    (sides : f.checkedSides? = some (left, right))
    (given : ∀ v ∈ f.vars, ∃ x, values v.symbol = some x) {e : Relation.Error} :
    f.residual values = .error e ↔
      e = .zeroDivision ∧
        (left.value (List.lookup · (f.named values)) = .error .zeroDivision ∨
          right.value (List.lookup · (f.named values)) = .error .zeroDivision) := by
  rw [residual_eq sides given]
  generalize (List.lookup · (f.named values)) = value
  cases hl : left.value value with
  | error fault =>
      cases fault
      simp [Relation.side, hl, bind, Except.bind, eq_comm]
  | ok x =>
      cases hr : right.value value with
      | error fault =>
          cases fault
          simp [Relation.side, hl, hr, bind, Except.bind, eq_comm]
      | ok y => simp [Relation.side, hl, hr, bind, Except.bind]

/-- The names under fraction bars are those of variables, or of constants that are not
zero, and all exponents are positive constants or numbers. -/
def regularRelation (f : Formula) : Bool :=
  f.checkedSides?.any fun (left, right) =>
    left.regular f.positiveConstant && right.regular f.positiveConstant &&
      f.denominators.all fun key =>
        f.vars.any (·.key == key) || (f.constant? key).any (· != 0)

/-- A value under a fraction bar is zero. For a power law this depends on the exponent, and
for a parallax on the tangent of the angle as it is evaluated. -/
inductive DividesByZero (f : Formula) (values : String → Option Float) : Prop where
  | denominator {v : Variable} (mem : v ∈ f.vars) (under : v.key ∈ f.denominators)
      (zero : (values v.symbol).bind Binary64.toRat? = some 0) : DividesByZero f values
  | power (law : f.id = "power_law_spectrum")
      (zero : (values "E").bind Binary64.toRat? = some 0) {q : Rat}
      (exponent : (values "p").bind Binary64.toRat? = some q) (positive : 0 < q)
      (halves : q.den ≤ 2) : DividesByZero f values
  | tangent (law : f.id = "parallax_distance_radians") {q : Rat}
      (angle : (values "p").bind Binary64.toRat? = some q) (nonzero : q ≠ 0)
      (flat : Number.Precise.tan q = 0) : DividesByZero f values

/-- Where exponents are harmless, the check fails just where a variable under a fraction
bar is zero. -/
theorem residual_eq_error_iff_denominators (regular : f.regularRelation = true)
    (apart : f.namesApart = true) (given : ∀ v ∈ f.vars, ∃ x, values v.symbol = some x)
    {e : Relation.Error} :
    f.residual values = .error e ↔
      e = .zeroDivision ∧ ∃ v ∈ f.vars, v.key ∈ f.denominators ∧
        (values v.symbol).bind Binary64.toRat? = some 0 := by
  obtain ⟨⟨left, right⟩, sides, parts⟩ := (Option.any_eq_true _ _).mp regular
  simp only [Bool.and_eq_true] at parts
  obtain ⟨⟨left_regular, right_regular⟩, covered⟩ := parts
  have positive : ∀ key, f.positiveConstant key = true →
      ∃ q, ((f.named values).lookup key).bind Binary64.toRat? = some q ∧ 0 < q := by
    intro key h
    obtain ⟨q, hq, sign⟩ := (Option.any_eq_true _ _).mp h
    obtain ⟨x, hx, exact⟩ := Option.bind_eq_some_iff.mp hq
    exact ⟨q, by simpa [lookup_named_constant hx] using exact, of_decide_eq_true sign⟩
  have denominators : f.denominators = left.divisors ++ right.divisors := by
    rw [Formula.denominators, sides]
  rw [residual_eq_error_iff sides given,
    Side.value_eq_error_iff_dividesBy positive left_regular,
    Side.value_eq_error_iff_dividesBy positive right_regular]
  refine and_congr_right fun _ => ?_
  simp only [Side.DividesBy, ← exists_or, ← or_and_right, ← List.mem_append, ← denominators]
  constructor
  · rintro ⟨key, mem, zero⟩
    have known := List.all_eq_true.mp covered key mem
    rw [Bool.or_eq_true, List.any_eq_true] at known
    obtain ⟨v, hv, same⟩ | constant := known
    · obtain rfl := eq_of_beq same
      exact ⟨v, hv, mem, by rwa [lookup_named_variable apart hv] at zero⟩
    · obtain ⟨q, hq, nonzero⟩ := (Option.any_eq_true _ _).mp constant
      obtain ⟨x, hx, exact⟩ := Option.bind_eq_some_iff.mp hq
      rw [lookup_named_constant hx, Option.bind_some, exact] at zero
      exact absurd (Option.some.inj zero) (by simpa using nonzero)
  · rintro ⟨v, hv, mem, zero⟩
    exact ⟨v.key, mem, by rwa [lookup_named_variable apart hv]⟩

end Formula

namespace Catalog

theorem packaged_relations :
    (packaged.formulas.all fun f =>
      f.namesApart &&
        (f.id == "power_law_spectrum" || f.id == "parallax_distance_radians" ||
          f.relation.isNull || f.regularRelation)) = true := by
  apply packaged_all <;> decide +kernel

variable {f : Formula} {values : String → Option Float}

theorem powerLawSpectrum_checkedSides :
    HighEnergy.powerLawSpectrum.checkedSides? =
      some (.name "N",
        .mul (.name "K") (.pow (.name "E") (.mul (.number (-1)) (.name "p")))) := by
  decide +kernel

theorem parallaxDistanceRadians_checkedSides :
    Cosmology.parallaxDistanceRadians.checkedSides? =
      some (.name "d",
        .mul (.name "AU") (.pow (.tan (.name "p")) (.number (-1)))) := by
  decide +kernel

theorem powerLawSpectrum_residual_eq_error_iff {e : Relation.Error}
    (given : ∀ v ∈ HighEnergy.powerLawSpectrum.vars, ∃ x, values v.symbol = some x) :
    HighEnergy.powerLawSpectrum.residual values = .error e ↔
      e = .zeroDivision ∧ (values "E").bind Binary64.toRat? = some 0 ∧
        ∃ q, (values "p").bind Binary64.toRat? = some q ∧ 0 < q ∧ q.den ≤ 2 := by
  have apart : HighEnergy.powerLawSpectrum.namesApart = true := by decide +kernel
  have base : (HighEnergy.powerLawSpectrum.named values).lookup "E" = values "E" :=
    Formula.lookup_named_variable apart (v := HighEnergy.powerLawSpectrum.vars[2])
      (List.getElem_mem _)
  have exponent : (HighEnergy.powerLawSpectrum.named values).lookup "p" = values "p" :=
    Formula.lookup_named_variable apart (v := HighEnergy.powerLawSpectrum.vars[3])
      (List.getElem_mem _)
  rw [Formula.residual_eq_error_iff powerLawSpectrum_checkedSides given,
    Side.value_mul_eq_error_iff, Side.value_name_pow_neg_eq_error_iff, base, exponent]
  simp only [Side.value_name_ne_error, false_or]

theorem parallaxDistanceRadians_residual_eq_error_iff {e : Relation.Error}
    (given : ∀ v ∈ Cosmology.parallaxDistanceRadians.vars, ∃ x, values v.symbol = some x) :
    Cosmology.parallaxDistanceRadians.residual values = .error e ↔
      e = .zeroDivision ∧
        ∃ q, (values "p").bind Binary64.toRat? = some q ∧ q ≠ 0 ∧
          Number.Precise.tan q = 0 := by
  have apart : Cosmology.parallaxDistanceRadians.namesApart = true := by decide +kernel
  have angle : (Cosmology.parallaxDistanceRadians.named values).lookup "p" = values "p" :=
    Formula.lookup_named_variable apart (v := Cosmology.parallaxDistanceRadians.vars[1])
      (List.getElem_mem _)
  rw [Formula.residual_eq_error_iff parallaxDistanceRadians_checkedSides given,
    Side.value_mul_eq_error_iff, Side.value_tan_inv_eq_error_iff, angle]
  simp only [Side.value_name_ne_error, false_or]

/-- Given a value for every variable, the check of a packaged relation fails just where
it divides by zero. -/
theorem packaged_residual_eq_error_iff (hf : f ∈ packaged.formulas)
    (given : ∀ v ∈ f.vars, ∃ x, values v.symbol = some x) {e : Relation.Error} :
    f.residual values = .error e ↔ e = .zeroDivision ∧ f.DividesByZero values := by
  have checked := List.all_eq_true.mp packaged_relations f hf
  simp only [Bool.and_eq_true, Bool.or_eq_true, beq_iff_eq] at checked
  obtain ⟨apart, kind⟩ := checked
  by_cases power : f.id = "power_law_spectrum"
  · obtain rfl : f = HighEnergy.powerLawSpectrum :=
      eq_of_id hf (by simp [packaged, HighEnergy.all]) power
    rw [powerLawSpectrum_residual_eq_error_iff given]
    refine and_congr_right fun _ => ⟨?_, ?_⟩
    · rintro ⟨zero, q, exponent, positive, halves⟩
      exact .power rfl zero exponent positive halves
    · rintro (⟨_, under, _⟩ | ⟨_, zero, exponent, positive, halves⟩ | ⟨law, _, _, _⟩)
      · rw [Formula.denominators, powerLawSpectrum_checkedSides] at under
        cases under
      · exact ⟨zero, _, exponent, positive, halves⟩
      · exact absurd law (by decide)
  by_cases tangent : f.id = "parallax_distance_radians"
  · obtain rfl : f = Cosmology.parallaxDistanceRadians :=
      eq_of_id hf (by simp [packaged, Cosmology.all]) tangent
    rw [parallaxDistanceRadians_residual_eq_error_iff given]
    refine and_congr_right fun _ => ⟨?_, ?_⟩
    · rintro ⟨q, angle, nonzero, flat⟩
      exact .tangent rfl angle nonzero flat
    · rintro (⟨_, under, _⟩ | ⟨law, _, _, _, _⟩ | ⟨_, angle, nonzero, flat⟩)
      · rw [Formula.denominators, parallaxDistanceRadians_checkedSides] at under
        cases under
      · exact absurd law (by decide)
      · exact ⟨_, angle, nonzero, flat⟩
  simp only [power, tangent, false_or] at kind
  have plain : f.DividesByZero values ↔
      ∃ v ∈ f.vars, v.key ∈ f.denominators ∧
        (values v.symbol).bind Binary64.toRat? = some 0 := by
    constructor
    · rintro (⟨mem, under, zero⟩ | ⟨law, _, _, _, _⟩ | ⟨law, _, _, _⟩)
      · exact ⟨_, mem, under, zero⟩
      · exact absurd law power
      · exact absurd law tangent
    · rintro ⟨v, mem, under, zero⟩
      exact .denominator mem under zero
  rw [plain]
  obtain none | regular := kind
  · cases absent : f.relation <;> simp only [absent, Datum.isNull, Bool.false_eq_true] at none
    simp [Formula.residual, Formula.denominators, Formula.checkedSides?, absent,
      Datum.isEmptyLike]
  · exact Formula.residual_eq_error_iff_denominators regular apart given

example : Optics.angularSize.denominators = ["D"] := by decide +kernel

end Catalog

end Astrolabe
