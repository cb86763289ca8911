import Astrolabe.Proofs.Exact.Solver

/-!
Relations on moving clocks, rods and sources, and on the parallax of a star.
-/

namespace Astrolabe.Inversion

open Term

namespace Cosmology

/-- The velocity at which a length is shortened to a ratio. -/
theorem sqrt_shortening {c v : ℝ} (hc : 0 < c) (hv : 0 < v)
    (slow : 0 ≤ 1 - v ^ 2 / c ^ 2) :
    c * √(1 - √(1 - v ^ 2 / c ^ 2) ^ 2) = v := by
  rw [Real.sq_sqrt slow, sub_sub_cancel, ← div_pow, Real.sqrt_sq (by positivity),
    mul_div_cancel₀ _ hc.ne']

/-- At that velocity the ratio comes back. -/
theorem shortening_sqrt {c ratio : ℝ} (hc : 0 < c) (hr : 0 < ratio)
    (short : 0 ≤ 1 - ratio ^ 2) :
    √(1 - (c * √(1 - ratio ^ 2)) ^ 2 / c ^ 2) = ratio := by
  rw [mul_pow, mul_div_cancel_left₀ _ (pow_pos hc 2).ne', Real.sq_sqrt short,
    sub_sub_cancel, Real.sqrt_sq hr.le]

def timeDilationSides : Catalog.Cosmology.timeDilation.Reading where
  toSides :=
    ⟨var "Δt'", var "Δt" / sqrt (1 - var "v" ^ 2 / var "c" ^ 2)⟩
  read := by decide +kernel

theorem timeDilationSides_hold {a : String → ℝ} :
    timeDilationSides.Hold a ↔ a "Δt'" = a "Δt" / √(1 - a "v" ^ 2 / a "c" ^ 2) := by
  simp [timeDilationSides, Sides.Hold]

theorem timeDilationSides_defined {a : String → ℝ} (defined : timeDilationSides.Defined a) :
    0 < √(1 - a "v" ^ 2 / a "c" ^ 2) := by
  have nonzero : √(1 - a "v" ^ 2 / a "c" ^ 2) ≠ 0 := by simpa using defined.2.2.2
  exact (Real.sqrt_nonneg _).lt_of_ne' nonzero

theorem timeDilation_sound :
    timeDilation.Sound Catalog.Cosmology.timeDilation timeDilationSides.toSides := by
  refine sound_ofTerms ?_
  simp only [List.forall_mem_cons]
  refine ⟨?dilated, ?proper, ?v, List.forall_mem_nil _⟩
  all_goals
    intro a fits given defined value sides
    rw [timeDilationSides_hold]
    have hc : 0 < a "c" := fits.pos (by decide)
  case dilated => simpa [shortening, div_pow] using value
  case proper =>
    have nonzero := (timeDilationSides_defined sides).ne'
    have value : a "Δt" = a "Δt'" * √(1 - a "v" ^ 2 / a "c" ^ 2) := by
      simpa [shortening, div_pow] using value
    rw [value, mul_div_cancel_right₀ _ nonzero]
  case v =>
    have proper : 0 < a "Δt" := given.pos (by decide)
    have dilated : 0 < a "Δt'" := given.pos (by decide)
    have short : 0 ≤ 1 - (a "Δt" / a "Δt'") ^ 2 := by simpa using defined.2.2
    have value : a "v" = a "c" * √(1 - (a "Δt" / a "Δt'") ^ 2) := by simpa using value
    rw [value, shortening_sqrt hc (div_pos proper dilated) short, div_div_cancel₀ proper.ne']

theorem timeDilation_recovers :
    timeDilation.Recovers Catalog.Cosmology.timeDilation timeDilationSides.toSides := by
  refine recovers_ofTerms ?_
  simp only [List.forall_mem_cons]
  refine ⟨?dilated, ?proper, ?v, List.forall_mem_nil _⟩
  all_goals
    refine recovers_of_decisive (by decide) fun a fits admissible sides hold => ?_
    rw [timeDilationSides_hold] at hold
    have hc : 0 < a "c" := fits.pos (by decide)
    have proper : 0 < a "Δt" := admissible.pos (by decide)
    have dilated : 0 < a "Δt'" := admissible.pos (by decide)
    have factor := timeDilationSides_defined sides
    have slow : 0 ≤ 1 - a "v" ^ 2 / a "c" ^ 2 := (Real.sqrt_pos.mp factor).le
  case dilated =>
    refine ⟨?_, by simpa [shortening, div_pow] using hold.symm⟩
    simpa [shortening, div_pow, hc.ne'] using ⟨sub_nonneg.mp slow, factor.ne'⟩
  case proper =>
    refine ⟨by simpa [shortening, div_pow, hc.ne'] using slow, ?_⟩
    suffices a "Δt'" * √(1 - a "v" ^ 2 / a "c" ^ 2) = a "Δt" by
      simpa [shortening, div_pow]
    rw [hold, div_mul_cancel₀ _ factor.ne']
  case v =>
    have hv : 0 < a "v" := admissible.pos (by decide)
    have ratio : a "Δt" / a "Δt'" = √(1 - a "v" ^ 2 / a "c" ^ 2) := by
      rw [hold, div_div_cancel₀ proper.ne']
    have short : 0 ≤ 1 - (a "Δt" / a "Δt'") ^ 2 := by
      rw [ratio, Real.sq_sqrt slow, sub_sub_cancel]
      positivity
    refine ⟨by simpa [dilated.ne'] using short, ?_⟩
    suffices a "c" * √(1 - (a "Δt" / a "Δt'") ^ 2) = a "v" by simpa
    rw [ratio, sqrt_shortening hc hv slow]

def lengthContractionSides : Catalog.Cosmology.lengthContraction.Reading where
  toSides :=
    ⟨var "L'", var "L" * sqrt (1 - var "v" ^ 2 / var "c" ^ 2)⟩
  read := by decide +kernel

theorem lengthContractionSides_hold {a : String → ℝ} :
    lengthContractionSides.Hold a ↔ a "L'" = a "L" * √(1 - a "v" ^ 2 / a "c" ^ 2) := by
  simp [lengthContractionSides, Sides.Hold]

theorem lengthContraction_sound :
    lengthContraction.Sound Catalog.Cosmology.lengthContraction lengthContractionSides.toSides := by
  refine sound_ofTerms ?_
  simp only [List.forall_mem_cons]
  refine ⟨?contracted, ?proper, ?v, List.forall_mem_nil _⟩
  all_goals
    intro a fits given defined value _
    rw [lengthContractionSides_hold]
    have hc : 0 < a "c" := fits.pos (by decide)
  case contracted => simpa [shortening, div_pow] using value
  case proper =>
    have nonzero : √(1 - a "v" ^ 2 / a "c" ^ 2) ≠ 0 := by
      simpa [shortening, div_pow] using defined.2.2
    have value : a "L" = a "L'" / √(1 - a "v" ^ 2 / a "c" ^ 2) := by
      simpa [shortening, div_pow] using value
    rw [value, div_mul_cancel₀ _ nonzero]
  case v =>
    have contracted : 0 < a "L'" := given.pos (by decide)
    have proper : 0 < a "L" := given.pos (by decide)
    have short : 0 ≤ 1 - (a "L'" / a "L") ^ 2 := by simpa using defined.2.2
    have value : a "v" = a "c" * √(1 - (a "L'" / a "L") ^ 2) := by simpa using value
    rw [value, shortening_sqrt hc (div_pos contracted proper) short,
      mul_div_cancel₀ _ proper.ne']

theorem lengthContraction_recovers :
    lengthContraction.Recovers Catalog.Cosmology.lengthContraction
      lengthContractionSides.toSides := by
  refine recovers_ofTerms ?_
  simp only [List.forall_mem_cons]
  refine ⟨?contracted, ?proper, ?v, List.forall_mem_nil _⟩
  all_goals
    refine recovers_of_decisive (by decide) fun a fits admissible sides hold => ?_
    rw [lengthContractionSides_hold] at hold
    have hc : 0 < a "c" := fits.pos (by decide)
    have contracted : 0 < a "L'" := admissible.pos (by decide)
    have proper : 0 < a "L" := admissible.pos (by decide)
    have factor : 0 < √(1 - a "v" ^ 2 / a "c" ^ 2) :=
      pos_of_mul_pos_right (hold ▸ contracted) proper.le
    have slow : 0 ≤ 1 - a "v" ^ 2 / a "c" ^ 2 := (Real.sqrt_pos.mp factor).le
  case contracted =>
    refine ⟨?_, by simpa [shortening, div_pow] using hold.symm⟩
    simpa [shortening, div_pow, hc.ne'] using slow
  case proper =>
    refine ⟨by simpa [shortening, div_pow, hc.ne'] using ⟨sub_nonneg.mp slow, factor.ne'⟩, ?_⟩
    suffices a "L'" / √(1 - a "v" ^ 2 / a "c" ^ 2) = a "L" by simpa [shortening, div_pow]
    rw [hold, mul_div_cancel_right₀ _ factor.ne']
  case v =>
    have hv : 0 < a "v" := admissible.pos (by decide)
    have ratio : a "L'" / a "L" = √(1 - a "v" ^ 2 / a "c" ^ 2) := by
      rw [hold, mul_div_cancel_left₀ _ proper.ne']
    have short : 0 ≤ 1 - (a "L'" / a "L") ^ 2 := by
      rw [ratio, Real.sq_sqrt slow, sub_sub_cancel]
      positivity
    refine ⟨by simpa [proper.ne'] using short, ?_⟩
    suffices a "c" * √(1 - (a "L'" / a "L") ^ 2) = a "v" by simpa
    rw [ratio, sqrt_shortening hc hv slow]

def parallaxDistanceRadiansSides : Catalog.Cosmology.parallaxDistanceRadians.Reading where
  toSides :=
    ⟨var "d", var "AU" / tan (var "p")⟩
  read := by decide +kernel

theorem parallaxDistanceRadiansSides_hold {a : String → ℝ} :
    parallaxDistanceRadiansSides.Hold a ↔ a "d" = a "AU" / Real.tan (a "p") := by
  simp [parallaxDistanceRadiansSides, Sides.Hold]

theorem parallaxDistanceRadians_sound :
    parallaxDistanceRadians.Sound Catalog.Cosmology.parallaxDistanceRadians
      parallaxDistanceRadiansSides.toSides := by
  refine sound_ofTerms ?_
  simp only [List.forall_mem_cons]
  refine ⟨?d, ?p, List.forall_mem_nil _⟩
  all_goals
    intro a fits given defined value _
    rw [parallaxDistanceRadiansSides_hold]
  case d => simpa using value
  case p =>
    have unit : 0 < a "AU" := fits.pos (by decide)
    have value : a "p" = Real.arctan (a "AU" / a "d") := by simpa using value
    rw [value, Real.tan_arctan, div_div_cancel₀ unit.ne']

theorem parallaxDistanceRadians_recovers :
    parallaxDistanceRadians.Recovers Catalog.Cosmology.parallaxDistanceRadians
      parallaxDistanceRadiansSides.toSides := by
  refine recovers_ofTerms ?_
  simp only [List.forall_mem_cons]
  refine ⟨?d, ?p, List.forall_mem_nil _⟩
  all_goals
    refine recovers_of_decisive (by decide) fun a fits admissible sides hold => ?_
    rw [parallaxDistanceRadiansSides_hold] at hold
  case d => exact ⟨sides.2, by simpa using hold.symm⟩
  case p =>
    have unit : 0 < a "AU" := fits.pos (by decide)
    have hd : 0 < a "d" := admissible.pos (by decide)
    have hp : 0 < a "p" := admissible.pos (by decide)
    have acute : a "p" < Real.pi / 2 :=
      admissible.acute "p" (by decide) (by decide)
    refine ⟨by simpa using hd.ne', ?_⟩
    suffices Real.arctan (a "AU" / a "d") = a "p" by simpa
    rw [hold, div_div_cancel₀ unit.ne', Real.arctan_tan (by linarith) acute]

end Cosmology

namespace Spectra

def dopplerShiftSides : Catalog.Spectra.dopplerShift.Reading where
  toSides :=
    ⟨(var "λ_obs" - var "λ_rest") / var "λ_rest", var "v" / var "c"⟩
  read := by decide +kernel

theorem dopplerShiftSides_hold {a : String → ℝ} :
    dopplerShiftSides.Hold a ↔
      (a "λ_obs" - a "λ_rest") / a "λ_rest" = a "v" / a "c" := by
  simp [dopplerShiftSides, Sides.Hold]

theorem dopplerShift_sound :
    dopplerShift.Sound Catalog.Spectra.dopplerShift dopplerShiftSides.toSides := by
  refine sound_ofTerms ?_
  simp only [List.forall_mem_cons]
  refine ⟨?observed, ?rest, ?v, List.forall_mem_nil _⟩
  all_goals
    intro a fits given defined value _
    rw [dopplerShiftSides_hold]
    have hc : 0 < a "c" := fits.pos (by decide)
  case observed =>
    have rest : 0 < a "λ_rest" := given.pos (by decide)
    have value : a "λ_obs" = a "λ_rest" * (1 + a "v" / a "c") := by simpa using value
    rw [value]
    field_simp
    ring
  case rest =>
    have observed : 0 < a "λ_obs" := given.pos (by decide)
    have hv : 0 < a "v" := given.pos (by decide)
    have value : a "λ_rest" = a "λ_obs" / (1 + a "v" / a "c") := by simpa using value
    have shift : 0 < 1 + a "v" / a "c" := by positivity
    rw [value]
    field_simp
    ring
  case v =>
    have value : a "v" = a "c" * ((a "λ_obs" - a "λ_rest") / a "λ_rest") := by
      simpa using value
    rw [value, mul_div_cancel_left₀ _ hc.ne']

theorem dopplerShift_recovers :
    dopplerShift.Recovers Catalog.Spectra.dopplerShift dopplerShiftSides.toSides := by
  refine recovers_ofTerms ?_
  simp only [List.forall_mem_cons]
  refine ⟨?observed, ?rest, ?v, List.forall_mem_nil _⟩
  all_goals
    refine recovers_of_decisive (by decide) fun a fits admissible _ hold => ?_
    rw [dopplerShiftSides_hold] at hold
    have hc : 0 < a "c" := fits.pos (by decide)
    have rest : 0 < a "λ_rest" := admissible.pos (by decide)
    have hv : 0 < a "v" := admissible.pos (by decide)
    have shift : 0 < 1 + a "v" / a "c" := by positivity
    have observed : a "λ_obs" = a "λ_rest" * (1 + a "v" / a "c") := by
      rw [← hold]
      field_simp
      ring
  case observed =>
    refine ⟨by simpa using hc.ne', ?_⟩
    simpa using observed.symm
  case rest =>
    refine ⟨by simpa [hc.ne'] using shift.ne', ?_⟩
    suffices a "λ_obs" / (1 + a "v" / a "c") = a "λ_rest" by simpa
    rw [observed, mul_div_cancel_right₀ _ shift.ne']
  case v =>
    refine ⟨by simpa using rest.ne', ?_⟩
    suffices a "c" * ((a "λ_obs" - a "λ_rest") / a "λ_rest") = a "v" by simpa
    rw [hold, mul_div_cancel₀ _ hc.ne']

end Spectra

end Astrolabe.Inversion
