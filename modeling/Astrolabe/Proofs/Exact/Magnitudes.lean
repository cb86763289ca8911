import Astrolabe.Proofs.Exact.Solver

/-!
Relations between magnitudes and brightness, which hold with a logarithm on one side and
are solved with a power of ten.
-/

namespace Astrolabe.Inversion.Radiation

open Term

/-- The logarithm to the base ten as relations write it. -/
theorem log_div_log_ten (x : ℝ) : Real.log x / Real.log 10 = Real.logb 10 x := rfl

theorem logb_ten_rpow (x : ℝ) : Real.logb 10 (10 ^ x) = x :=
  Real.logb_rpow (by norm_num) (by norm_num)

theorem ten_rpow_logb {x : ℝ} (hx : 0 < x) : (10 : ℝ) ^ Real.logb 10 x = x :=
  Real.rpow_logb (by norm_num) (by norm_num) hx

theorem twenty_five_tenths : (25 : ℝ) * 10⁻¹ = 5 / 2 := by
  norm_num

def distanceModulusSides : Catalog.Radiation.distanceModulus.Reading where
  toSides :=
    ⟨var "m" - var "M", 5 * (ln (var "d") / ln 10) - 5⟩
  read := by decide +kernel

theorem distanceModulusSides_hold {a : String → ℝ} :
    distanceModulusSides.Hold a ↔ a "m" - a "M" = 5 * Real.logb 10 (a "d") - 5 := by
  simp [distanceModulusSides, Sides.Hold, log_div_log_ten]

theorem distanceModulus_sound :
    distanceModulus.Sound Catalog.Radiation.distanceModulus distanceModulusSides.toSides := by
  refine sound_ofTerms ?_
  simp only [List.forall_mem_cons]
  refine ⟨?m, ?M, ?d, List.forall_mem_nil _⟩
  all_goals
    intro a fits given defined value _
    rw [distanceModulusSides_hold]
  case m =>
    have value : a "m" = a "M" + 5 * Real.logb 10 (a "d") - 5 := by simpa using value
    rw [value]
    ring
  case M =>
    have value : a "M" = a "m" - 5 * Real.logb 10 (a "d") + 5 := by simpa using value
    rw [value]
    ring
  case d =>
    have value : a "d" = 10 ^ ((a "m" - a "M" + 5) / 5) := by simpa using value
    rw [value, logb_ten_rpow]
    ring

theorem distanceModulus_recovers :
    distanceModulus.Recovers Catalog.Radiation.distanceModulus distanceModulusSides.toSides := by
  refine recovers_ofTerms ?_
  simp only [List.forall_mem_cons]
  refine ⟨?m, ?M, ?d, List.forall_mem_nil _⟩
  all_goals
    refine recovers_of_decisive (by decide) fun a fits admissible _ hold => ?_
    rw [distanceModulusSides_hold] at hold
    have hd : 0 < a "d" := admissible.pos (by decide)
  case m =>
    refine ⟨by simpa using hd, ?_⟩
    suffices a "M" + 5 * Real.logb 10 (a "d") - 5 = a "m" by simpa
    linarith
  case M =>
    refine ⟨by simpa using hd, ?_⟩
    suffices a "m" - 5 * Real.logb 10 (a "d") + 5 = a "M" by simpa
    linarith
  case d =>
    refine ⟨by simp, ?_⟩
    suffices (10 : ℝ) ^ ((a "m" - a "M" + 5) / 5) = a "d" by simpa
    have exponent : (a "m" - a "M" + 5) / 5 = Real.logb 10 (a "d") := by linarith
    rw [exponent, ten_rpow_logb hd]

def magnitudeFluxRelationSides : Catalog.Radiation.magnitudeFluxRelation.Reading where
  toSides :=
    ⟨var "m1" - var "m2", neg 5 / 2 * (ln (var "F1" / var "F2") / ln 10)⟩
  read := by decide +kernel

theorem magnitudeFluxRelationSides_hold {a : String → ℝ} :
    magnitudeFluxRelationSides.Hold a ↔
      a "m1" - a "m2" = -5 / 2 * Real.logb 10 (a "F1" / a "F2") := by
  simp [magnitudeFluxRelationSides, Sides.Hold, log_div_log_ten]

theorem magnitudeFluxRelation_sound :
    magnitudeFluxRelation.Sound Catalog.Radiation.magnitudeFluxRelation
      magnitudeFluxRelationSides.toSides := by
  refine sound_ofTerms ?_
  simp only [List.forall_mem_cons]
  refine ⟨?m1, ?m2, ?F1, ?F2, List.forall_mem_nil _⟩
  all_goals
    intro a fits given defined value _
    rw [magnitudeFluxRelationSides_hold]
  case m1 =>
    have value : a "m1" = a "m2" - 5 / 2 * Real.logb 10 (a "F1" / a "F2") := by
      simpa [twenty_five_tenths] using value
    rw [value]
    ring
  case m2 =>
    have value : a "m2" = a "m1" + 5 / 2 * Real.logb 10 (a "F1" / a "F2") := by
      simpa [twenty_five_tenths] using value
    rw [value]
    ring
  case F1 =>
    have hF2 : 0 < a "F2" := given.pos (by decide)
    have value : a "F1" = a "F2" * 10 ^ ((a "m2" - a "m1") / (5 / 2)) := by
      simpa [twenty_five_tenths] using value
    rw [value, mul_div_cancel_left₀ _ hF2.ne', logb_ten_rpow]
    ring
  case F2 =>
    have hF1 : 0 < a "F1" := given.pos (by decide)
    have value : a "F2" = a "F1" * 10 ^ ((a "m1" - a "m2") / (5 / 2)) := by
      simpa [twenty_five_tenths] using value
    have quotient : a "F1" / a "F2" = 10 ^ (-((a "m1" - a "m2") / (5 / 2))) := by
      rw [value, div_mul_cancel_left₀ hF1.ne', Real.rpow_neg (by norm_num)]
    rw [quotient, logb_ten_rpow]
    ring

theorem magnitudeFluxRelation_recovers :
    magnitudeFluxRelation.Recovers Catalog.Radiation.magnitudeFluxRelation
      magnitudeFluxRelationSides.toSides := by
  refine recovers_ofTerms ?_
  simp only [List.forall_mem_cons]
  refine ⟨?m1, ?m2, ?F1, ?F2, List.forall_mem_nil _⟩
  all_goals
    refine recovers_of_decisive (by decide) fun a fits admissible _ hold => ?_
    rw [magnitudeFluxRelationSides_hold] at hold
    have hF1 : 0 < a "F1" := admissible.pos (by decide)
    have hF2 : 0 < a "F2" := admissible.pos (by decide)
  case m1 =>
    refine ⟨by simpa [hF2.ne'] using div_pos hF1 hF2, ?_⟩
    suffices a "m2" - 5 / 2 * Real.logb 10 (a "F1" / a "F2") = a "m1" by
      simpa [twenty_five_tenths]
    linarith
  case m2 =>
    refine ⟨by simpa [hF2.ne'] using div_pos hF1 hF2, ?_⟩
    suffices a "m1" + 5 / 2 * Real.logb 10 (a "F1" / a "F2") = a "m2" by
      simpa [twenty_five_tenths]
    linarith
  case F1 =>
    refine ⟨by simp, ?_⟩
    suffices a "F2" * 10 ^ ((a "m2" - a "m1") / (5 / 2)) = a "F1" by
      simpa [twenty_five_tenths]
    have exponent : (a "m2" - a "m1") / (5 / 2) = Real.logb 10 (a "F1" / a "F2") := by
      linarith
    rw [exponent, ten_rpow_logb (div_pos hF1 hF2), mul_div_cancel₀ _ hF2.ne']
  case F2 =>
    refine ⟨by simp, ?_⟩
    suffices a "F1" * 10 ^ ((a "m1" - a "m2") / (5 / 2)) = a "F2" by
      simpa [twenty_five_tenths]
    have exponent : (a "m1" - a "m2") / (5 / 2) = Real.logb 10 (a "F2" / a "F1") := by
      rw [← inv_div (a "F1"), Real.logb_inv]
      linarith
    rw [exponent, ten_rpow_logb (div_pos hF2 hF1), mul_div_cancel₀ _ hF1.ne']

def hrColorIndexSides : Catalog.Radiation.hrColorIndex.Reading where
  toSides :=
    ⟨var "B_V", var "factor" * (ln (var "F_B" / var "F_V") / ln 10) + var "C"⟩
  read := by decide +kernel

theorem hrColorIndexSides_hold {a : String → ℝ} :
    hrColorIndexSides.Hold a ↔
      a "B_V" = a "factor" * Real.logb 10 (a "F_B" / a "F_V") + a "C" := by
  simp [hrColorIndexSides, Sides.Hold, log_div_log_ten]

theorem hrColorIndex_sound :
    hrColorIndex.Sound Catalog.Radiation.hrColorIndex hrColorIndexSides.toSides := by
  refine sound_ofTerms ?_
  simp only [List.forall_mem_cons]
  refine ⟨?B_V, ?F_B, ?F_V, ?C, List.forall_mem_nil _⟩
  all_goals
    intro a fits given defined value _
    rw [hrColorIndexSides_hold]
    have hf : a "factor" < 0 := fits.neg (by decide)
  case B_V => simpa using value
  case F_B =>
    have hV : 0 < a "F_V" := given.pos (by decide)
    have value : a "F_B" = a "F_V" * 10 ^ ((a "B_V" - a "C") / a "factor") := by
      simpa using value
    rw [value, mul_div_cancel_left₀ _ hV.ne', logb_ten_rpow, mul_div_cancel₀ _ hf.ne,
      sub_add_cancel]
  case F_V =>
    have hB : 0 < a "F_B" := given.pos (by decide)
    have value : a "F_V" = a "F_B" / 10 ^ ((a "B_V" - a "C") / a "factor") := by
      simpa using value
    rw [value, div_div_cancel₀ hB.ne', logb_ten_rpow, mul_div_cancel₀ _ hf.ne,
      sub_add_cancel]
  case C =>
    have value : a "C" = a "B_V" - a "factor" * Real.logb 10 (a "F_B" / a "F_V") := by
      simpa using value
    rw [value, add_sub_cancel]

theorem hrColorIndex_recovers :
    hrColorIndex.Recovers Catalog.Radiation.hrColorIndex hrColorIndexSides.toSides := by
  refine recovers_ofTerms ?_
  simp only [List.forall_mem_cons]
  refine ⟨?B_V, ?F_B, ?F_V, ?C, List.forall_mem_nil _⟩
  all_goals
    refine recovers_of_decisive (by decide) fun a fits admissible _ hold => ?_
    rw [hrColorIndexSides_hold] at hold
    have hf : a "factor" < 0 := fits.neg (by decide)
    have hB : 0 < a "F_B" := admissible.pos (by decide)
    have hV : 0 < a "F_V" := admissible.pos (by decide)
    have exponent : (a "B_V" - a "C") / a "factor" = Real.logb 10 (a "F_B" / a "F_V") := by
      rw [hold, add_sub_cancel_right, mul_div_cancel_left₀ _ hf.ne]
  case B_V =>
    refine ⟨by simpa [hV.ne'] using div_pos hB hV, ?_⟩
    simpa using hold.symm
  case F_B =>
    refine ⟨by simp [hf.ne], ?_⟩
    suffices a "F_V" * 10 ^ ((a "B_V" - a "C") / a "factor") = a "F_B" by simpa
    rw [exponent, ten_rpow_logb (div_pos hB hV), mul_div_cancel₀ _ hV.ne']
  case F_V =>
    refine ⟨by simp [hf.ne, (Real.rpow_pos_of_pos _ _).ne'], ?_⟩
    suffices a "F_B" / 10 ^ ((a "B_V" - a "C") / a "factor") = a "F_V" by simpa
    rw [exponent, ten_rpow_logb (div_pos hB hV), div_div_cancel₀ hB.ne']
  case C =>
    refine ⟨by simpa [hV.ne'] using div_pos hB hV, ?_⟩
    suffices a "B_V" - a "factor" * Real.logb 10 (a "F_B" / a "F_V") = a "C" by simpa
    rw [hold, add_sub_cancel_left]

def hrAbsoluteMagnitudeSides : Catalog.Radiation.hrAbsoluteMagnitude.Reading where
  toSides :=
    ⟨var "M_V", var "factor" * (ln (var "L" / var "L_sun") / ln 10) + var "offset"⟩
  read := by decide +kernel

theorem hrAbsoluteMagnitudeSides_hold {a : String → ℝ} :
    hrAbsoluteMagnitudeSides.Hold a ↔
      a "M_V" = a "factor" * Real.logb 10 (a "L" / a "L_sun") + a "offset" := by
  simp [hrAbsoluteMagnitudeSides, Sides.Hold, log_div_log_ten]

theorem hrAbsoluteMagnitude_sound :
    hrAbsoluteMagnitude.Sound Catalog.Radiation.hrAbsoluteMagnitude
      hrAbsoluteMagnitudeSides.toSides := by
  refine sound_ofTerms ?_
  simp only [List.forall_mem_cons]
  refine ⟨?M_V, ?L, List.forall_mem_nil _⟩
  all_goals
    intro a fits given defined value _
    rw [hrAbsoluteMagnitudeSides_hold]
  case M_V => simpa using value
  case L =>
    have hf : a "factor" < 0 := fits.neg (by decide)
    have sun : 0 < a "L_sun" := fits.pos (by decide +kernel)
    have value : a "L" = a "L_sun" * 10 ^ ((a "M_V" - a "offset") / a "factor") := by
      simpa using value
    rw [value, mul_div_cancel_left₀ _ sun.ne', logb_ten_rpow, mul_div_cancel₀ _ hf.ne,
      sub_add_cancel]

theorem hrAbsoluteMagnitude_recovers :
    hrAbsoluteMagnitude.Recovers Catalog.Radiation.hrAbsoluteMagnitude
      hrAbsoluteMagnitudeSides.toSides := by
  refine recovers_ofTerms ?_
  simp only [List.forall_mem_cons]
  refine ⟨?M_V, ?L, List.forall_mem_nil _⟩
  all_goals
    refine recovers_of_decisive (by decide) fun a fits admissible _ hold => ?_
    rw [hrAbsoluteMagnitudeSides_hold] at hold
    have hL : 0 < a "L" := admissible.pos (by decide)
    have sun : 0 < a "L_sun" := fits.pos (by decide +kernel)
  case M_V =>
    refine ⟨by simpa [sun.ne'] using div_pos hL sun, ?_⟩
    simpa using hold.symm
  case L =>
    have hf : a "factor" < 0 := fits.neg (by decide)
    refine ⟨by simp [hf.ne], ?_⟩
    suffices a "L_sun" * 10 ^ ((a "M_V" - a "offset") / a "factor") = a "L" by simpa
    rw [hold, add_sub_cancel_right, mul_div_cancel_left₀ _ hf.ne,
      ten_rpow_logb (div_pos hL sun), mul_div_cancel₀ _ sun.ne']

def chandrasekharLimitSides : Catalog.Radiation.chandrasekharLimit.Reading where
  toSides :=
    ⟨var "M_Ch", 7 / 5 * var "M_sun"⟩
  read := by decide +kernel

theorem chandrasekharLimitSides_hold {a : String → ℝ} :
    chandrasekharLimitSides.Hold a ↔ a "M_Ch" = 7 / 5 * a "M_sun" := by
  simp [chandrasekharLimitSides, Sides.Hold]

/-- The solution has the factor of the relation as a decimal fraction. -/
theorem fourteen_tenths : (14 : ℝ) * 10⁻¹ = 7 / 5 := by
  norm_num

theorem chandrasekharLimit_sound :
    chandrasekharLimit.Sound Catalog.Radiation.chandrasekharLimit
      chandrasekharLimitSides.toSides := by
  refine sound_ofTerms (List.forall_mem_singleton.mpr ?_)
  intro a fits given defined value _
  rw [chandrasekharLimitSides_hold]
  simpa [fourteen_tenths] using value

theorem chandrasekharLimit_recovers :
    chandrasekharLimit.Recovers Catalog.Radiation.chandrasekharLimit
      chandrasekharLimitSides.toSides := by
  refine recovers_ofTerms (List.forall_mem_singleton.mpr ?_)
  refine recovers_of_decisive (by decide) fun a fits admissible _ hold => ?_
  rw [chandrasekharLimitSides_hold] at hold
  refine ⟨by simp, ?_⟩
  simpa [fourteen_tenths] using hold.symm

end Astrolabe.Inversion.Radiation
