import Astrolabe.Proofs.Relation.Checked
import Astrolabe.Proofs.Relation.Shapes

/-!
The packaged relations are consistent with their checks: where one is satisfied, its sides
have the same double. Most are so by the form of their sides; the others are those with
the square of pi, a tangent, a logarithm or a power that is not tame.
-/

namespace Astrolabe

open Astrolabe.Relation

namespace Formula

/-- Where the relation of a formula is satisfied, its sides agree. -/
def Consistent (f : Formula) : Prop :=
  ∃ left right, f.checkedSides? = some (left, right) ∧
    ∀ values a y, Satisfied (List.lookup · (f.named values)) (f.reals a) left right y →
      Agree (List.lookup · (f.named values)) left right y

/-- A relation gives a variable by a side that is plain and tame, or both of its sides are
rational. -/
def direct (f : Formula) : Bool :=
  match f.checkedSides? with
  | some (.name _, right) => right.plain && right.tame && right.slack ≤ 1 / 2 ^ 61
  | some (left, right) => left.rational && right.rational
  | none => false

theorem consistent_of_direct {f : Formula} (direct : f.direct = true) : f.Consistent := by
  unfold Formula.direct at direct
  split at direct
  next key right sides =>
    simp only [Bool.and_eq_true, decide_eq_true_eq] at direct
    obtain ⟨⟨plain, tame⟩, slack⟩ := direct
    exact ⟨_, _, sides, fun values a y h => h.agree_of_plain rfl h.dyadic_of_name plain slack
      (Side.moderate_of_tame tame fun _ => h.reads_right)⟩
  next left right sides =>
    rw [Bool.and_eq_true] at direct
    exact ⟨_, _, sides, fun values a y h => h.agree_of_rational direct.1 direct.2⟩
  next => cases direct

/-- A constant stands for its exact value. -/
theorem reals_constant {f : Formula} {key : String} {q : ℚ} (h : f.constant? key = some q)
    (a : String → ℝ) : f.reals a key = q := by
  obtain ⟨x, hx, exact⟩ := Option.bind_eq_some_iff.mp h
  have constant := hasConstant_iff.mpr ⟨x, hx⟩
  simp [reals, relationName?, constant, withConstants, hx, exact]

end Formula

namespace Catalog

/-- The sides of the relations that are not direct. They are read in one go, since reading a text is
most of the work of a check. -/
theorem indirect_sides :
    (Orbits.keplerThirdLaw.checkedSides? =
      some (.pow (.name "T") (.number 2),
        .mul (.number 4) (.mul (.mul (.mul (.pow .pi (.number 2)) (.pow (.name "a") (.number 3)))
          (.pow (.name "G") (.number (-1)))) (.pow (.name "M") (.number (-1)))))) ∧
    (Orbits.keplerThirdLawBinary.checkedSides? =
      some (.pow (.name "P") (.number 2),
        .mul (.number 4) (.mul (.mul (.mul (.pow .pi (.number 2)) (.pow (.name "a") (.number 3)))
          (.pow (.name "G") (.number (-1))))
            (.pow (.add (.name "M1") (.name "M2")) (.number (-1)))))) ∧
    (Radiation.distanceModulus.checkedSides? =
      some (.add (.name "m") (.mul (.number (-1)) (.name "M")),
        .add (.mul (.number 5) (Side.name "d").decimal) (.number (-5)))) ∧
    (Radiation.magnitudeFluxRelation.checkedSides? =
      some (.add (.name "m1") (.mul (.number (-1)) (.name "m2")),
        .mul (.number (-5 / 2))
          (Side.mul (.name "F1") (.pow (.name "F2") (.number (-1)))).decimal)) ∧
    (Radiation.hrColorIndex.checkedSides? =
      some (.name "B_V",
        .add (.mul (.mul (.name "factor")
          (.log (.mul (.name "F_B") (.pow (.name "F_V") (.number (-1))))))
            (.pow (.log (.number 10)) (.number (-1)))) (.name "C"))) ∧
    (Radiation.hrAbsoluteMagnitude.checkedSides? =
      some (.name "M_V",
        .add (.mul (.mul (.name "factor")
          (.log (.mul (.name "L") (.pow (.name "L_sun") (.number (-1))))))
            (.pow (.log (.number 10)) (.number (-1)))) (.name "offset"))) ∧
    (Radiation.stellarLifetime.checkedSides? =
      some (.name "tau",
        .mul (.name "factor")
          (.pow (.mul (.name "M_sun") (.pow (.name "M") (.number (-1)))) (.name "exponent")))) ∧
    (Radiation.massLuminosityRelation.checkedSides? =
      some (.name "L", .pow (.name "M") (.name "exponent"))) ∧
    Planets.planetaryEquilibriumTemperature.checkedSides? =
      some (.name "T_eq",
        .mul (.mul (.name "T_star") (.pow (.mul (.mul (.name "R_star")
          (.pow (.name "factor") (.number (-1)))) (.pow (.name "a") (.number (-1))))
            (.number (1 / 2))))
          (.pow (.add (.number 1) (.mul (.number (-1)) (.name "A"))) (.number (1 / 4)))) := by
  decide +kernel

/-- The constants that the checks of these relations depend on. -/
theorem indirect_constants :
    Cosmology.parallaxDistanceRadians.constant? "AU" = some 149600000000 ∧
      Radiation.hrColorIndex.constant? "factor" = some (-5 / 2) ∧
      Radiation.hrAbsoluteMagnitude.constant? "factor" = some (-5 / 2) ∧
      Radiation.stellarLifetime.constant? "exponent" = some (5 / 2) ∧
      Radiation.massLuminosityRelation.constant? "exponent" = some (7 / 2) := by
  decide +kernel

theorem keplerThirdLaw_consistent : Orbits.keplerThirdLaw.Consistent := by
  obtain ⟨sides, -⟩ := indirect_sides
  exact ⟨_, _, sides, fun values a y h => h.agree_of_pi_sq rfl (by decide) (by decide)
    (by decide) (by decide) (by decide) (by with_unfolding_all decide) (by decide)⟩

theorem keplerThirdLawBinary_consistent : Orbits.keplerThirdLawBinary.Consistent := by
  obtain ⟨-, sides, -⟩ := indirect_sides
  exact ⟨_, _, sides, fun values a y h => h.agree_of_pi_sq rfl (by decide) (by decide)
    (by decide) (by decide) (by decide) (by with_unfolding_all decide) (by decide)⟩

theorem parallaxDistanceRadians_consistent :
    Cosmology.parallaxDistanceRadians.Consistent := by
  refine ⟨_, _, parallaxDistanceRadians_checkedSides, fun values a y h =>
    absurd h (Satisfied.not_inverse_tangent ?_)⟩
  obtain ⟨constant, -⟩ := indirect_constants
  rw [Formula.reals_constant constant]
  norm_num

theorem powerLawSpectrum_consistent : HighEnergy.powerLawSpectrum.Consistent :=
  ⟨_, _, powerLawSpectrum_checkedSides, fun _ _ _ h => h.agree_of_powerLaw⟩

theorem distanceModulus_consistent : Radiation.distanceModulus.Consistent := by
  obtain ⟨-, -, sides, -⟩ := indirect_sides
  exact ⟨_, _, sides, fun values a y h => h.agree_of_modulus (by decide) (by decide)
    (by with_unfolding_all decide) (by decide) (by with_unfolding_all decide)⟩

theorem magnitudeFluxRelation_consistent : Radiation.magnitudeFluxRelation.Consistent := by
  obtain ⟨-, -, -, sides, -⟩ := indirect_sides
  exact ⟨_, _, sides, fun values a y h => h.agree_of_ratio rfl (by decide) (by decide)
    (by with_unfolding_all decide) (by decide) (by with_unfolding_all decide)⟩

theorem hrColorIndex_consistent : Radiation.hrColorIndex.Consistent := by
  obtain ⟨-, -, -, -, sides, -⟩ := indirect_sides
  obtain ⟨-, factor, -⟩ := indirect_constants
  exact ⟨_, _, sides, fun values a y h =>
    h.agree_of_magnitude (Formula.reals_constant factor a) (by decide)
      (by with_unfolding_all decide) (by decide) (by with_unfolding_all decide)⟩

theorem hrAbsoluteMagnitude_consistent : Radiation.hrAbsoluteMagnitude.Consistent := by
  obtain ⟨-, -, -, -, -, sides, -⟩ := indirect_sides
  obtain ⟨-, -, factor, -⟩ := indirect_constants
  exact ⟨_, _, sides, fun values a y h =>
    h.agree_of_magnitude (Formula.reals_constant factor a) (by decide)
      (by with_unfolding_all decide) (by decide) (by with_unfolding_all decide)⟩

theorem stellarLifetime_consistent : Radiation.stellarLifetime.Consistent := by
  obtain ⟨-, -, -, -, -, -, sides, -⟩ := indirect_sides
  obtain ⟨-, -, -, constant, -⟩ := indirect_constants
  refine ⟨_, _, sides, fun values a y h => ?_⟩
  have exponent := Formula.reals_constant constant a
  have power : (Side.pow (.mul (.name "M_sun") (.pow (.name "M") (.number (-1))))
      (.name "exponent")).Moderate (Radiation.stellarLifetime.reals a) :=
    Side.moderate_pow_name (by decide) (by with_unfolding_all decide)
      (fun key mem => h.reads_right (List.mem_append_right _ (List.mem_append_left _ mem)))
      (by rw [exponent]; norm_num) (by rw [exponent]; norm_num)
  exact h.agree_of_plain rfl h.dyadic_of_name (by decide) (by with_unfolding_all decide)
    ⟨trivial, power⟩

theorem massLuminosityRelation_consistent : Radiation.massLuminosityRelation.Consistent := by
  obtain ⟨-, -, -, -, -, -, -, sides, -⟩ := indirect_sides
  obtain ⟨-, -, -, -, constant⟩ := indirect_constants
  refine ⟨_, _, sides, fun values a y h => ?_⟩
  have exponent := Formula.reals_constant constant a
  exact h.agree_of_plain rfl h.dyadic_of_name (by decide) (by with_unfolding_all decide)
    (Side.moderate_pow_name (by decide) (by with_unfolding_all decide)
      (fun key mem => h.reads_right (List.mem_append_left _ mem))
      (by rw [exponent]; norm_num) (by rw [exponent]; norm_num))

theorem planetaryEquilibriumTemperature_consistent :
    Planets.planetaryEquilibriumTemperature.Consistent := by
  obtain ⟨-, -, -, -, -, -, -, -, sides⟩ := indirect_sides
  exact ⟨_, _, sides, fun values a y h => h.agree_of_plain rfl h.dyadic_of_name
    (by with_unfolding_all decide) (by with_unfolding_all decide)
    ⟨Side.moderate_of_tame (by with_unfolding_all decide)
      fun key mem => h.reads_right (List.mem_append_left _ mem),
      Side.moderate_remainder (by with_unfolding_all decide) (by norm_num)
        (h.reads_right (by simp [Side.keys]))⟩⟩

/-- The formulas of which the relations are not direct. -/
def indirect : List Formula :=
  [Orbits.keplerThirdLaw, Orbits.keplerThirdLawBinary, Radiation.distanceModulus,
    Radiation.magnitudeFluxRelation, Radiation.stellarLifetime,
    Radiation.massLuminosityRelation, Radiation.hrColorIndex, Radiation.hrAbsoluteMagnitude,
    Cosmology.parallaxDistanceRadians, Planets.planetaryEquilibriumTemperature,
    HighEnergy.powerLawSpectrum]

theorem indirect_consistent : ∀ f ∈ indirect, f.Consistent := by
  simp only [indirect, List.forall_mem_cons]
  exact ⟨keplerThirdLaw_consistent, keplerThirdLawBinary_consistent, distanceModulus_consistent,
    magnitudeFluxRelation_consistent, stellarLifetime_consistent,
    massLuminosityRelation_consistent, hrColorIndex_consistent, hrAbsoluteMagnitude_consistent,
    parallaxDistanceRadians_consistent, planetaryEquilibriumTemperature_consistent,
    powerLawSpectrum_consistent, List.forall_mem_nil _⟩

theorem packaged_legible :
    (packaged.formulas.all fun f =>
      f.relation.isEmptyLike ||
        f.legible && (f.direct || (indirect.map Formula.id).contains f.id)) = true := by
  -- a text is read once for all that is checked of it
  unfold Formula.legible Formula.direct
  simp only [Formula.numeralsWhole_eq, Formula.sides?_eq, Formula.checkedSides?_eq]
  apply packaged_all <;> decide +kernel

theorem indirect_packaged : indirect ⊆ packaged.formulas := by
  simp [indirect, packaged, Orbits.all, Radiation.all, Cosmology.all, Planets.all, HighEnergy.all]

/-- Every packaged relation can be read over the reals, and is consistent. -/
theorem packaged_consistent {f : Formula} (hf : f ∈ packaged.formulas)
    (relation : f.relation.isEmptyLike = false) : f.legible = true ∧ f.Consistent := by
  have checked := List.all_eq_true.mp packaged_legible f hf
  rw [relation, Bool.false_or, Bool.and_eq_true, Bool.or_eq_true] at checked
  obtain ⟨legible, direct | listed⟩ := checked
  · exact ⟨legible, Formula.consistent_of_direct direct⟩
  · exact ⟨legible, indirect_consistent f (mem_of_contains_id indirect_packaged hf listed)⟩

end Catalog

end Astrolabe
