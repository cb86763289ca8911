import Astrolabe.Proofs.Exact.Emission
import Astrolabe.Proofs.Exact.Gravity
import Astrolabe.Proofs.Exact.Magnitudes
import Astrolabe.Proofs.Exact.Monomial
import Astrolabe.Proofs.Exact.Motion

/-!
Solving the packaged formulas over the real numbers. What is found satisfies the
relation, and where the relation holds already, what is found is what was there.
-/

namespace Astrolabe

open Inversion

namespace Catalog

/-- The packaged formulas whose relations are no equations between products of positive
quantities. -/
def others : List Formula :=
  [Orbits.orbitalEnergy, Orbits.visViva, Orbits.keplerThirdLawBinary,
   Radiation.distanceModulus, Radiation.magnitudeFluxRelation, Radiation.hrColorIndex,
   Radiation.hrAbsoluteMagnitude, Radiation.chandrasekharLimit, Cosmology.timeDilation,
   Cosmology.lengthContraction, Cosmology.parallaxDistanceRadians, Spectra.dopplerShift,
   Planets.planetaryEquilibriumTemperature, Planets.greenhouseEffect,
   HighEnergy.powerLawSpectrum, HighEnergy.spectralIndex,
   StellarStructure.hydrostaticBalance]

open Inversion.Orbits Inversion.Radiation Inversion.Cosmology Inversion.Spectra
  Inversion.Planets Inversion.HighEnergy Inversion.StellarStructure in
theorem others_faithful : ∀ f ∈ others, f.Faithful := by
  simp only [others, List.forall_mem_cons]
  exact
    ⟨⟨_, _, orbitalEnergySides.read, rfl, orbitalEnergy_sound, orbitalEnergy_recovers⟩,
      ⟨_, _, visVivaSides.read, rfl, visViva_sound, visViva_recovers⟩,
      ⟨_, _, keplerThirdLawBinarySides.read, rfl, keplerThirdLawBinary_sound,
        keplerThirdLawBinary_recovers⟩,
      ⟨_, _, distanceModulusSides.read, rfl, distanceModulus_sound, distanceModulus_recovers⟩,
      ⟨_, _, magnitudeFluxRelationSides.read, rfl, magnitudeFluxRelation_sound,
        magnitudeFluxRelation_recovers⟩,
      ⟨_, _, hrColorIndexSides.read, rfl, hrColorIndex_sound, hrColorIndex_recovers⟩,
      ⟨_, _, hrAbsoluteMagnitudeSides.read, rfl, hrAbsoluteMagnitude_sound,
        hrAbsoluteMagnitude_recovers⟩,
      ⟨_, _, chandrasekharLimitSides.read, rfl, chandrasekharLimit_sound,
        chandrasekharLimit_recovers⟩,
      ⟨_, _, timeDilationSides.read, rfl, timeDilation_sound, timeDilation_recovers⟩,
      ⟨_, _, lengthContractionSides.read, rfl, lengthContraction_sound,
        lengthContraction_recovers⟩,
      ⟨_, _, parallaxDistanceRadiansSides.read, rfl, parallaxDistanceRadians_sound,
        parallaxDistanceRadians_recovers⟩,
      ⟨_, _, dopplerShiftSides.read, rfl, dopplerShift_sound, dopplerShift_recovers⟩,
      ⟨_, _, planetaryEquilibriumTemperatureSides.read, rfl,
        planetaryEquilibriumTemperature_sound, planetaryEquilibriumTemperature_recovers⟩,
      ⟨_, _, greenhouseEffectSides.read, rfl, greenhouseEffect_sound,
        greenhouseEffect_recovers⟩,
      ⟨_, _, powerLawSpectrumSides.read, rfl, powerLawSpectrum_sound,
        powerLawSpectrum_recovers⟩,
      ⟨_, _, spectralIndexSides.read, rfl, spectralIndex_sound, spectralIndex_recovers⟩,
      ⟨_, _, hydrostaticBalanceSides.read, rfl, hydrostaticBalance_sound,
        hydrostaticBalance_recovers⟩,
      List.forall_mem_nil _⟩

theorem others_subset : others ⊆ packaged.formulas := by
  simp [others, packaged, Orbits.all, Radiation.all, Optics.all, Cosmology.all,
    Spectra.all, Planets.all, HighEnergy.all, StellarStructure.all]

theorem packaged_related :
    (packaged.formulas.all fun f =>
      f.relation.isEmptyLike || (others.map Formula.id).contains f.id || f.relatesProducts) =
        true := by
  apply packaged_all <;> decide +kernel

theorem packaged_faithful {f : Formula} (hf : f ∈ packaged.formulas)
    (relation : f.relation.isEmptyLike = false) : f.Faithful := by
  have related := List.all_eq_true.mp packaged_related f hf
  rw [relation, Bool.false_or, Bool.or_eq_true] at related
  obtain other | products := related
  · exact others_faithful f (mem_of_contains_id others_subset hf other)
  · exact Formula.faithful_of_relatesProducts products

theorem packaged_constantsFinite :
    (packaged.formulas.all fun f => f.constantsFinite) = true := by
  decide +kernel

theorem packaged_proportion_unrelated :
    (packaged.formulas.all fun f => f.relation.isEmptyLike || f.id != proportionId) =
      true := by
  decide +kernel

end Catalog

namespace Solver

/-- A formula with its relation and its inversion, all of whose solutions are terms that
fit the relation. -/
structure Relates (s : Solver) (f : Formula) (sides : Sides) (inversion : Inversion) :
    Prop where
  knows : s.Knows f inversion
  finite : f.constantsFinite = true
  terms : ∀ symbol ∈ f.symbols, ∃ t, inversion.solutions.lookup symbol = some (.term t)
  sound : inversion.Sound f sides
  recovers : inversion.Recovers f sides

theorem packaged_relates {f : Formula} (hf : f ∈ Catalog.packaged.formulas)
    (relation : f.relation.isEmptyLike = false) :
    ∃ sides inversion, f.sides? = some sides ∧ packaged.Relates f sides inversion := by
  obtain ⟨sides, inversion, hs, lookup, sound, recovers⟩ :=
    Catalog.packaged_faithful hf relation
  obtain ⟨inversion', knows⟩ := packaged_knows hf
  obtain rfl : inversion' = inversion := by
    have get := Catalog.get?_of_mem Catalog.packaged_ids_nodup hf
    have found := knows.found
    simp only [formula, packaged, get, lookup] at found
    cases found
    rfl
  have finite := List.all_eq_true.mp Catalog.packaged_constantsFinite f hf
  have related := List.all_eq_true.mp Catalog.packaged_proportion_unrelated f hf
  have proportion : f.id ≠ proportionId := by simpa [relation] using related
  refine ⟨sides, inversion', hs, knows, finite, fun symbol h => ?_, sound, recovers⟩
  obtain ⟨-, solution, lookup, -, kind⟩ := knows.solution h
  cases solution with
  | term t => exact ⟨t, lookup⟩
  | proportionOnly => exact absurd (kind.mp rfl) proportion

namespace Relates

variable {s : Solver} {f : Formula} {sides : Sides} {inversion : Inversion}

theorem withConstants_eq (relates : s.Relates f sides inversion) {symbol : String}
    (h : symbol ∈ f.symbols) (a : String → ℝ) : f.withConstants a symbol = a symbol :=
  Formula.withConstants_of_not_hasConstant (relates.knows.solution h).1 a

theorem given (relates : s.Relates f sides inversion) {unknown : String} {a : String → ℝ}
    (given : f.Given unknown a) : f.Given unknown (f.withConstants a) := by
  intro symbol h other
  rw [relates.withConstants_eq h]
  exact given symbol h other

theorem admissible (relates : s.Relates f sides inversion) {a : String → ℝ}
    (admissible : f.Admissible a) : f.Admissible (f.withConstants a) where
  positive symbol h unsigned := by
    rw [relates.withConstants_eq h]
    exact admissible.positive symbol h unsigned
  negative symbol h signed := by
    rw [relates.withConstants_eq h]
    exact admissible.negative symbol h signed
  acute symbol h angle := by
    rw [relates.withConstants_eq h]
    exact admissible.acute symbol h angle

theorem indifferent_iff (relates : s.Relates f sides inversion) {a : String → ℝ}
    {symbol : String} :
    f.Indifferent (f.withConstants a) symbol ↔ f.Indifferent a symbol := by
  refine exists_congr fun base => and_congr_right fun h => ?_
  rw [relates.withConstants_eq h]

/-- What is found for the unknown completes the others to values that satisfy the
relation. -/
theorem exactSolve?_sound (relates : s.Relates f sides inversion) {unknown : String}
    (h : unknown ∈ f.symbols) {a : String → ℝ} (given : f.Given unknown a) {x : ℝ}
    (solved : s.exactSolve? f.id unknown (without a unknown) = some x) {l r : ℝ}
    (values : f.sideValues? sides (Function.update a unknown x) = some (l, r)) : l = r := by
  obtain ⟨t, lookup⟩ := relates.terms unknown h
  rw [← without_update a unknown x,
    relates.knows.exactSolve?_eq_some_iff relates.finite h lookup] at solved
  rw [Formula.sideValues?_eq_some_iff relates.finite] at values
  obtain ⟨defined, rfl, rfl⟩ := values
  refine relates.sound unknown t lookup _ (Formula.fits_withConstants relates.finite _)
    (relates.given fun symbol hs other => ?_) solved.1 ?_ defined
  · rw [Function.update_of_ne other]
    exact given symbol hs other
  · rw [relates.withConstants_eq h, Function.update_self, solved.2]

/-- Where the relation holds, what is found for a variable is its value, unless that is an
exponent that cannot be told. -/
theorem exactSolve?_recovers (relates : s.Relates f sides inversion) {a : String → ℝ}
    (admissible : f.Admissible a) {y : ℝ} (values : f.sideValues? sides a = some (y, y))
    {unknown : String} (h : unknown ∈ f.symbols) :
    (f.Indifferent a unknown → s.exactSolve? f.id unknown (without a unknown) = none) ∧
      (¬f.Indifferent a unknown →
        s.exactSolve? f.id unknown (without a unknown) = some (a unknown)) := by
  obtain ⟨t, lookup⟩ := relates.terms unknown h
  rw [Formula.sideValues?_eq_some_iff relates.finite] at values
  obtain ⟨defined, left, right⟩ := values
  have recovers := relates.recovers unknown t lookup _
    (Formula.fits_withConstants relates.finite a) (relates.admissible admissible) defined
    (left.trans right.symm)
  rw [relates.indifferent_iff, relates.withConstants_eq h] at recovers
  rwa [relates.knows.exactSolve?_eq_none_iff relates.finite h lookup,
    relates.knows.exactSolve?_eq_some_iff relates.finite h lookup]

end Relates

variable {f : Formula}

/-- Every packaged formula with a relation can be read over the reals, and whatever is
found for one of its variables satisfies the relation with the values that were given. -/
theorem packaged_exactSolve?_sound (hf : f ∈ Catalog.packaged.formulas)
    (relation : f.relation.isEmptyLike = false) :
    ∃ sides, f.sides? = some sides ∧
      ∀ v ∈ f.vars, ∀ a : String → ℝ,
        (∀ w ∈ f.vars, w.symbol ≠ v.symbol → f.Allows w.symbol (a w.symbol)) →
          ∀ x, packaged.exactSolve? f.id v.symbol (without a v.symbol) = some x →
            ∀ l r, f.sideValues? sides (Function.update a v.symbol x) = some (l, r) →
              l = r := by
  obtain ⟨sides, inversion, hs, relates⟩ := packaged_relates hf relation
  refine ⟨sides, hs, fun v hv a given x solved l r values => ?_⟩
  refine relates.exactSolve?_sound (List.mem_map_of_mem hv) (fun symbol h => ?_) solved values
  obtain ⟨w, hw, rfl⟩ := List.mem_map.mp h
  exact given w hw

/-- At a parallax of one second stands a star one parsec away. -/
theorem parallaxDistanceArcsec_distance_sound :
    ∃ sides, Catalog.Cosmology.parallaxDistanceArcsec.sides? = some sides ∧
      packaged.exactSolve? "parallax_distance_arcsec" "d" (without (fun _ => 1) "d") =
        some 1 ∧
      ∀ l r, Catalog.Cosmology.parallaxDistanceArcsec.sideValues? sides
        (Function.update (fun _ => 1) "d" 1) = some (l, r) → l = r := by
  have mem : Catalog.Cosmology.parallaxDistanceArcsec ∈ Catalog.packaged.formulas := by
    simp [Catalog.packaged, Catalog.Cosmology.all]
  have solved : packaged.exactSolve? "parallax_distance_arcsec" "d"
      (without (fun _ => 1) "d") = some 1 := by
    have knows : packaged.Knows Catalog.Cosmology.parallaxDistanceArcsec
        Inversion.Cosmology.parallaxDistanceArcsec :=
      ⟨rfl, by decide +kernel, by decide +kernel⟩
    refine (knows.exactSolve?_eq_some_iff (t := 1 / .var "p") (by decide)
      (List.mem_cons_self ..) rfl).mpr ?_
    simp [Formula.withConstants, Catalog.Cosmology.parallaxDistanceArcsec]
  obtain ⟨sides, hs, sound⟩ := packaged_exactSolve?_sound mem (by decide +kernel)
  exact ⟨sides, hs, solved, sound _ (List.mem_cons_self ..) (fun _ => 1)
    (fun _ _ _ => .inl one_pos) 1 solved⟩

/-- Where an admissible assignment satisfies the relation of a packaged formula, every
variable is found from the others, unless it is the exponent of a power of one; so one
variable may be found from the others and then any other from it. -/
theorem packaged_exactSolve?_recovers (hf : f ∈ Catalog.packaged.formulas)
    (relation : f.relation.isEmptyLike = false) :
    ∃ sides, f.sides? = some sides ∧
      ∀ a, f.Admissible a → ∀ y, f.sideValues? sides a = some (y, y) →
        (∀ v ∈ f.vars,
          (f.Indifferent a v.symbol →
            packaged.exactSolve? f.id v.symbol (without a v.symbol) = none) ∧
          (¬f.Indifferent a v.symbol →
            packaged.exactSolve? f.id v.symbol (without a v.symbol) = some (a v.symbol))) ∧
        ∀ v ∈ f.vars, ∀ w ∈ f.vars, ¬f.Indifferent a v.symbol → ¬f.Indifferent a w.symbol →
          ((packaged.exactSolve? f.id v.symbol (without a v.symbol)).bind fun x =>
            packaged.exactSolve? f.id w.symbol
              (without (Function.update a v.symbol x) w.symbol)) = some (a w.symbol) := by
  obtain ⟨sides, inversion, hs, relates⟩ := packaged_relates hf relation
  refine ⟨sides, hs, fun a admissible y values => ?_⟩
  have recovers (v : Variable) (hv : v ∈ f.vars) :=
    relates.exactSolve?_recovers admissible values (List.mem_map_of_mem hv)
  refine ⟨recovers, fun v hv w hw first second => ?_⟩
  rw [(recovers v hv).2 first, Option.bind_some, Function.update_eq_self]
  exact (recovers w hw).2 second

/-- From the distance of one parsec the parallax of one second comes back. -/
theorem parallaxDistanceArcsec_parallax_recovers :
    packaged.exactSolve? "parallax_distance_arcsec" "p" (without (fun _ => 1) "p") =
      some 1 := by
  have mem : Catalog.Cosmology.parallaxDistanceArcsec ∈ Catalog.packaged.formulas := by
    simp [Catalog.packaged, Catalog.Cosmology.all]
  obtain ⟨sides, hs, recovers⟩ := packaged_exactSolve?_recovers mem (by decide +kernel)
  have read : Catalog.Cosmology.parallaxDistanceArcsec.sides? =
      some ⟨.var "d", 1 / .var "p"⟩ := by
    decide +kernel
  obtain rfl := Option.some.inj (read.symm.trans hs)
  have admissible : Catalog.Cosmology.parallaxDistanceArcsec.Admissible fun _ => 1 :=
    { positive _ _ _ := one_pos
      negative _ _ signed := by
        simp [Formula.signed, Catalog.Cosmology.parallaxDistanceArcsec] at signed
      acute _ _ angle := by
        simp [Formula.angles, Catalog.Cosmology.parallaxDistanceArcsec] at angle }
  have values : Catalog.Cosmology.parallaxDistanceArcsec.sideValues?
      ⟨.var "d", 1 / .var "p"⟩ (fun _ => 1) = some (1, 1) := by
    rw [Formula.sideValues?_eq_some_iff (by decide)]
    simp [Sides.Defined, Formula.withConstants, Catalog.Cosmology.parallaxDistanceArcsec]
  have found := (recovers _ admissible 1 values).1 _
    (List.mem_cons_of_mem _ (List.mem_cons_self ..))
  exact found.2 (Formula.not_indifferent (by decide))

end Solver

end Astrolabe
