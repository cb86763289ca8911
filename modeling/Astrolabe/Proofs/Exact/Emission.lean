import Astrolabe.Proofs.Exact.Solver

/-!
Relations on the temperature of planets and on the spectra of fast particles.
-/

namespace Astrolabe.Inversion

open Term

namespace Planets

theorem twenty_five_hundredths : (25 : ℝ) * (10 ^ 2)⁻¹ = 4⁻¹ := by
  norm_num

theorem fourth_root_pow {x : ℝ} (hx : 0 ≤ x) : (x ^ 4) ^ (4⁻¹ : ℝ) = x := by
  simpa using Real.pow_rpow_inv_natCast hx (n := 4) (by decide)

theorem pow_fourth_root {x : ℝ} (hx : 0 ≤ x) : (x ^ (4⁻¹ : ℝ)) ^ 4 = x := by
  simpa using Real.rpow_inv_natCast_pow hx (n := 4) (by decide)

/-- No power of an integer has the exponent of a fourth root. -/
theorem nonneg_of_fourth_root {x : ℝ} (h : x < 0 → ∃ n : ℤ, (4⁻¹ : ℝ) = n) : 0 ≤ x := by
  by_contra negative
  obtain ⟨n, hn⟩ := h (not_le.mp negative)
  have : (4 * n : ℤ) = 1 := by
    have : (4 : ℝ) * n = 1 := by
      rw [← hn]
      norm_num
    exact_mod_cast this
  omega

theorem mul_div_mul_cancel {x y z : ℝ} (hx : x ≠ 0) (hz : z ≠ 0) :
    x * (y / (x * z)) * z = y := by
  field_simp

def planetaryEquilibriumTemperatureSides :
    Catalog.Planets.planetaryEquilibriumTemperature.Reading where
  toSides :=
    ⟨var "T_eq",
      var "T_star" * sqrt (var "R_star" / (var "factor" * var "a")) *
        pow (1 - var "A") (1 / 4)⟩
  read := by decide +kernel

theorem planetaryEquilibriumTemperatureSides_hold {a : String → ℝ} :
    planetaryEquilibriumTemperatureSides.Hold a ↔
      a "T_eq" = a "T_star" * √(a "R_star" / (a "factor" * a "a")) *
        (1 - a "A") ^ (4⁻¹ : ℝ) := by
  simp [planetaryEquilibriumTemperatureSides, Sides.Hold]

theorem planetaryEquilibriumTemperatureSides_defined {a : String → ℝ}
    (defined : planetaryEquilibriumTemperatureSides.Defined a) : a "A" ≤ 1 := by
  refine sub_nonneg.mp (nonneg_of_fourth_root ?_)
  simpa using defined.2.2.2.2.1

theorem planetaryEquilibriumTemperature_sound :
    planetaryEquilibriumTemperature.Sound Catalog.Planets.planetaryEquilibriumTemperature
      planetaryEquilibriumTemperatureSides.toSides := by
  refine sound_ofTerms ?_
  simp only [List.forall_mem_cons]
  refine ⟨?T_eq, ?T_star, ?R_star, ?a, ?A, List.forall_mem_nil _⟩
  all_goals
    intro a fits given defined value sides
    rw [planetaryEquilibriumTemperatureSides_hold]
    have hf : 0 < a "factor" := fits.pos (by decide)
    have dim := planetaryEquilibriumTemperatureSides_defined sides
    have nonneg : 0 ≤ (1 - a "A") ^ (4⁻¹ : ℝ) := Real.rpow_nonneg (sub_nonneg.mpr dim) _
  case T_eq => simpa [twenty_five_hundredths] using value
  case T_star =>
    have nonzero :
        √(a "R_star" / (a "factor" * a "a")) * (1 - a "A") ^ (4⁻¹ : ℝ) ≠ 0 := by
      simpa [twenty_five_hundredths] using defined.2.2
    have value : a "T_star" =
        a "T_eq" / (√(a "R_star" / (a "factor" * a "a")) * (1 - a "A") ^ (4⁻¹ : ℝ)) := by
      simpa [twenty_five_hundredths] using value
    rw [value, mul_assoc, div_mul_cancel₀ _ nonzero]
  case R_star =>
    have heat : 0 < a "T_eq" := given.pos (by decide)
    have star : 0 < a "T_star" := given.pos (by decide)
    have ha : 0 < a "a" := given.pos (by decide)
    have nonzero : a "T_star" * (1 - a "A") ^ (4⁻¹ : ℝ) ≠ 0 := by
      simpa [twenty_five_hundredths] using defined.2.2.2
    have value : a "R_star" =
        a "factor" * a "a" * (a "T_eq" / (a "T_star" * (1 - a "A") ^ (4⁻¹ : ℝ))) ^ 2 := by
      simpa [twenty_five_hundredths] using value
    have absorbed := right_ne_zero_of_mul nonzero
    rw [value, mul_div_cancel_left₀ _ (mul_pos hf ha).ne', Real.sqrt_sq (by positivity),
      mul_div_mul_cancel star.ne' absorbed]
  case a =>
    have heat : 0 < a "T_eq" := given.pos (by decide)
    have star : 0 < a "T_star" := given.pos (by decide)
    have radius : 0 < a "R_star" := given.pos (by decide)
    have nonzero :
        a "factor" * (a "T_eq" / (a "T_star" * (1 - a "A") ^ (4⁻¹ : ℝ))) ^ 2 ≠ 0 := by
      simpa [twenty_five_hundredths] using defined.2.2
    have value : a "a" = a "R_star" /
        (a "factor" * (a "T_eq" / (a "T_star" * (1 - a "A") ^ (4⁻¹ : ℝ))) ^ 2) := by
      simpa [twenty_five_hundredths] using value
    have heated := right_ne_zero_of_mul nonzero
    have square : a "R_star" / (a "factor" * a "a") =
        (a "T_eq" / (a "T_star" * (1 - a "A") ^ (4⁻¹ : ℝ))) ^ 2 := by
      rw [value, mul_div_assoc', mul_div_mul_left _ _ hf.ne', div_div_cancel₀ radius.ne']
    have absorbed : (1 - a "A") ^ (4⁻¹ : ℝ) ≠ 0 := by
      rintro dark
      rw [dark] at heated
      simp at heated
    rw [square, Real.sqrt_sq (by positivity), mul_div_mul_cancel star.ne' absorbed]
  case A =>
    have heat : 0 < a "T_eq" := given.pos (by decide)
    have star : 0 < a "T_star" := given.pos (by decide)
    have nonzero : a "T_star" * √(a "R_star" / (a "factor" * a "a")) ≠ 0 := by
      simpa using defined.2.2.2
    have value : a "A" =
        1 - (a "T_eq" / (a "T_star" * √(a "R_star" / (a "factor" * a "a")))) ^ 4 := by
      simpa using value
    rw [value, sub_sub_cancel, fourth_root_pow (by positivity), mul_div_cancel₀ _ nonzero]

theorem planetaryEquilibriumTemperature_recovers :
    planetaryEquilibriumTemperature.Recovers
      Catalog.Planets.planetaryEquilibriumTemperature
      planetaryEquilibriumTemperatureSides.toSides := by
  refine recovers_ofTerms ?_
  simp only [List.forall_mem_cons]
  refine ⟨?T_eq, ?T_star, ?R_star, ?a, ?A, List.forall_mem_nil _⟩
  all_goals
    refine recovers_of_decisive (by decide) fun a fits admissible sides hold => ?_
    rw [planetaryEquilibriumTemperatureSides_hold] at hold
    have hf : 0 < a "factor" := fits.pos (by decide)
    have heat : 0 < a "T_eq" := admissible.pos (by decide)
    have star : 0 < a "T_star" := admissible.pos (by decide)
    have radius : 0 < a "R_star" := admissible.pos (by decide)
    have ha : 0 < a "a" := admissible.pos (by decide)
    have dim := planetaryEquilibriumTemperatureSides_defined sides
    have shine : 0 ≤ a "R_star" / (a "factor" * a "a") := by positivity
    have geometry : 0 < √(a "R_star" / (a "factor" * a "a")) :=
      Real.sqrt_pos.mpr (by positivity)
    -- a planet that reflects everything would be cold
    have absorbed : 0 < (1 - a "A") ^ (4⁻¹ : ℝ) :=
      pos_of_mul_pos_right (hold ▸ heat) (mul_pos star geometry).le
    have heated : a "T_eq" / (a "T_star" * (1 - a "A") ^ (4⁻¹ : ℝ)) =
        √(a "R_star" / (a "factor" * a "a")) := by
      rw [hold, mul_right_comm, mul_div_cancel_left₀ _ (mul_pos star absorbed).ne']
  case T_eq =>
    refine ⟨by simp [hf.ne', ha.ne', shine, dim.not_gt], ?_⟩
    simpa [twenty_five_hundredths] using hold.symm
  case T_star =>
    refine ⟨by simp [twenty_five_hundredths, hf.ne', ha.ne', shine, dim.not_gt,
      geometry.ne', absorbed.ne'], ?_⟩
    suffices a "T_eq" / (√(a "R_star" / (a "factor" * a "a")) * (1 - a "A") ^ (4⁻¹ : ℝ)) =
        a "T_star" by
      simpa [twenty_five_hundredths]
    rw [hold, mul_assoc, mul_div_cancel_right₀ _ (mul_pos geometry absorbed).ne']
  case R_star =>
    refine ⟨by simp [twenty_five_hundredths, dim.not_gt, star.ne', absorbed.ne'], ?_⟩
    suffices a "factor" * a "a" *
        (a "T_eq" / (a "T_star" * (1 - a "A") ^ (4⁻¹ : ℝ))) ^ 2 = a "R_star" by
      simpa [twenty_five_hundredths]
    rw [heated, Real.sq_sqrt shine, mul_div_cancel₀ _ (mul_pos hf ha).ne']
  case a =>
    refine ⟨by simp [twenty_five_hundredths, dim.not_gt, star.ne', absorbed.ne', hf.ne',
      heat.ne'], ?_⟩
    suffices a "R_star" / (a "factor" *
        (a "T_eq" / (a "T_star" * (1 - a "A") ^ (4⁻¹ : ℝ))) ^ 2) = a "a" by
      simpa [twenty_five_hundredths]
    rw [heated, Real.sq_sqrt shine]
    field_simp
  case A =>
    refine ⟨by simp [hf.ne', ha.ne', shine, star.ne', geometry.ne'], ?_⟩
    suffices 1 - (a "T_eq" / (a "T_star" * √(a "R_star" / (a "factor" * a "a")))) ^ 4 =
        a "A" by
      simpa
    rw [hold, mul_div_cancel_left₀ _ (mul_pos star geometry).ne',
      pow_fourth_root (sub_nonneg.mpr dim), sub_sub_cancel]

def greenhouseEffectSides : Catalog.Planets.greenhouseEffect.Reading where
  toSides :=
    ⟨var "ΔT_GH", var "T_surface" - var "T_eq"⟩
  read := by decide +kernel

theorem greenhouseEffectSides_hold {a : String → ℝ} :
    greenhouseEffectSides.Hold a ↔ a "ΔT_GH" = a "T_surface" - a "T_eq" := by
  simp [greenhouseEffectSides, Sides.Hold]

theorem greenhouseEffect_sound :
    greenhouseEffect.Sound Catalog.Planets.greenhouseEffect greenhouseEffectSides.toSides := by
  refine sound_ofTerms ?_
  simp only [List.forall_mem_cons]
  refine ⟨?difference, ?surface, ?equilibrium, List.forall_mem_nil _⟩
  all_goals
    intro a fits given defined value _
    rw [greenhouseEffectSides_hold]
    simp at value
    linarith

theorem greenhouseEffect_recovers :
    greenhouseEffect.Recovers Catalog.Planets.greenhouseEffect greenhouseEffectSides.toSides := by
  refine recovers_ofTerms ?_
  simp only [List.forall_mem_cons]
  refine ⟨?difference, ?surface, ?equilibrium, List.forall_mem_nil _⟩
  all_goals
    refine recovers_of_decisive (by decide) fun a fits admissible _ hold => ⟨by simp, ?_⟩
    rw [greenhouseEffectSides_hold] at hold
    simp
    linarith

end Planets

namespace HighEnergy

def powerLawSpectrumSides : Catalog.HighEnergy.powerLawSpectrum.Reading where
  toSides :=
    ⟨var "N", var "K" * pow (var "E") (-var "p")⟩
  read := by decide +kernel

theorem powerLawSpectrumSides_hold {a : String → ℝ} :
    powerLawSpectrumSides.Hold a ↔ a "N" = a "K" * a "E" ^ (-a "p") := by
  simp [powerLawSpectrumSides, Sides.Hold]

theorem powerLawSpectrum_sound :
    powerLawSpectrum.Sound Catalog.HighEnergy.powerLawSpectrum powerLawSpectrumSides.toSides := by
  refine sound_ofTerms ?_
  simp only [List.forall_mem_cons]
  refine ⟨?N, ?K, ?E, ?p, List.forall_mem_nil _⟩
  all_goals
    intro a fits given defined value _
    rw [powerLawSpectrumSides_hold]
  case N => simpa using value
  case K =>
    have hE : 0 < a "E" := given.pos (by decide)
    have value : a "K" = a "N" * a "E" ^ a "p" := by simpa using value
    rw [value, Real.rpow_neg hE.le, mul_inv_cancel_right₀ (Real.rpow_pos_of_pos hE _).ne']
  case E =>
    have hN : 0 < a "N" := given.pos (by decide)
    have hK : 0 < a "K" := given.pos (by decide)
    have hp : 0 < a "p" := given.pos (by decide)
    have value : a "E" = (a "N" / a "K") ^ (-1 / a "p") := by simpa using value
    have exponent : -1 / a "p" * -a "p" = 1 := by field_simp
    rw [value, ← Real.rpow_mul (div_pos hN hK).le, exponent, Real.rpow_one,
      mul_div_cancel₀ _ hK.ne']
  case p =>
    have hN : 0 < a "N" := given.pos (by decide)
    have hK : 0 < a "K" := given.pos (by decide)
    have hE : 0 < a "E" := given.pos (by decide)
    have log : Real.log (a "E") ≠ 0 := by simpa using defined.2.2
    have value : a "p" = -Real.log (a "N" / a "K") / Real.log (a "E") := by
      simpa using value
    have exponent : Real.log (a "E") * -a "p" = Real.log (a "N" / a "K") := by
      rw [value]
      field_simp
    rw [Real.rpow_def_of_pos hE, exponent, Real.exp_log (div_pos hN hK),
      mul_div_cancel₀ _ hK.ne']

/-- The exponent is recovered unless all powers of the energy are one. -/
theorem powerLawSpectrum_recovers :
    powerLawSpectrum.Recovers Catalog.HighEnergy.powerLawSpectrum
      powerLawSpectrumSides.toSides := by
  refine recovers_ofTerms ?_
  simp only [List.forall_mem_cons]
  refine ⟨?N, ?K, ?E, ?p, List.forall_mem_nil _⟩
  case' N | K | E =>
    refine recovers_of_decisive (by decide) ?_
  all_goals
    intro a fits admissible _ hold
    rw [powerLawSpectrumSides_hold] at hold
    have hN : 0 < a "N" := admissible.pos (by decide)
    have hK : 0 < a "K" := admissible.pos (by decide)
    have hE : 0 < a "E" := admissible.pos (by decide)
    have hp : 0 < a "p" := admissible.pos (by decide)
    have power : a "N" / a "K" = a "E" ^ (-a "p") := by
      rw [hold, mul_div_cancel_left₀ _ hK.ne']
  case N =>
    refine ⟨by simp [hE.ne', hE.not_gt], ?_⟩
    simpa using hold.symm
  case K =>
    refine ⟨by simp [hE.ne', hE.not_gt], ?_⟩
    suffices a "N" * a "E" ^ a "p" = a "K" by simpa
    rw [hold, Real.rpow_neg hE.le, inv_mul_cancel_right₀ (Real.rpow_pos_of_pos hE _).ne']
  case E =>
    have ratio : 0 < a "N" / a "K" := div_pos hN hK
    refine ⟨by simp [hK.ne', hp.ne', ratio.not_gt, hN.ne'], ?_⟩
    suffices (a "N" / a "K") ^ (-1 / a "p") = a "E" by simpa
    have exponent : -a "p" * (-1 / a "p") = 1 := by field_simp
    rw [power, ← Real.rpow_mul hE.le, exponent, Real.rpow_one]
  case p =>
    constructor
    · rintro ⟨base, -, mem, one⟩ defined
      obtain rfl : base = "E" := by
        simpa [Formula.exponents, Catalog.HighEnergy.powerLawSpectrum] using mem
      have log : Real.log (a "E") ≠ 0 := by simpa using defined.2.2
      rw [one] at log
      exact log Real.log_one
    · intro decisive
      have one : a "E" ≠ 1 := fun one =>
        decisive ⟨"E", by decide, by decide, one⟩
      have log : Real.log (a "E") ≠ 0 := Real.log_ne_zero_of_pos_of_ne_one hE one
      refine ⟨by simp [-Real.log_eq_zero, hK.ne', hE, div_pos hN hK, log], ?_⟩
      suffices -Real.log (a "N" / a "K") / Real.log (a "E") = a "p" by simpa
      rw [power, Real.log_rpow hE]
      field_simp

def spectralIndexSides : Catalog.HighEnergy.spectralIndex.Reading where
  toSides :=
    ⟨var "α", (var "p" - 1) / 2⟩
  read := by decide +kernel

theorem spectralIndexSides_hold {a : String → ℝ} :
    spectralIndexSides.Hold a ↔ a "α" = (a "p" - 1) / 2 := by
  simp [spectralIndexSides, Sides.Hold]

theorem spectralIndex_sound :
    spectralIndex.Sound Catalog.HighEnergy.spectralIndex spectralIndexSides.toSides := by
  refine sound_ofTerms ?_
  simp only [List.forall_mem_cons]
  refine ⟨?index, ?p, List.forall_mem_nil _⟩
  all_goals
    intro a fits given defined value _
    rw [spectralIndexSides_hold]
  case index => simpa using value
  case p =>
    have value : a "p" = 2 * a "α" + 1 := by simpa using value
    rw [value]
    ring

theorem spectralIndex_recovers :
    spectralIndex.Recovers Catalog.HighEnergy.spectralIndex spectralIndexSides.toSides := by
  refine recovers_ofTerms ?_
  simp only [List.forall_mem_cons]
  refine ⟨?index, ?p, List.forall_mem_nil _⟩
  all_goals
    refine recovers_of_decisive (by decide) fun a fits admissible _ hold => ⟨by simp, ?_⟩
    rw [spectralIndexSides_hold] at hold
  case index => simpa using hold.symm
  case p =>
    suffices 2 * a "α" + 1 = a "p" by simpa
    rw [hold]
    ring

end HighEnergy

end Astrolabe.Inversion
