import Astrolabe.Proofs.Exact.Solver

/-!
Relations on motion under gravity that are no equations between products: sums stand in
them, or quantities that are negative.
-/

namespace Astrolabe.Inversion

open Term

namespace Orbits

def orbitalEnergySides : Catalog.Orbits.orbitalEnergy.Reading where
  toSides :=
    ⟨var "E", -var "G" * var "M" * var "m" / (2 * var "a")⟩
  read := by decide +kernel

theorem orbitalEnergySides_hold {a : String → ℝ} :
    orbitalEnergySides.Hold a ↔ a "E" = -(a "G" * a "M" * a "m") / (2 * a "a") := by
  simp [orbitalEnergySides, Sides.Hold]

theorem orbitalEnergy_sound :
    orbitalEnergy.Sound Catalog.Orbits.orbitalEnergy orbitalEnergySides.toSides := by
  refine sound_ofTerms ?_
  simp only [List.forall_mem_cons]
  refine ⟨?E, ?a, ?M, ?m, List.forall_mem_nil _⟩
  all_goals
    intro a fits given defined value _
    rw [orbitalEnergySides_hold]
    have hG : 0 < a "G" := fits.pos (by decide)
  case E => simpa using value
  case a =>
    have hM : 0 < a "M" := given.pos (by decide)
    have hm : 0 < a "m" := given.pos (by decide)
    have hE : a "E" ≠ 0 := by simpa using defined
    have value : a "a" = -(a "G" * a "M" * a "m") / (2 * a "E") := by simpa using value
    rw [value]
    field_simp
  case M =>
    have hm : 0 < a "m" := given.pos (by decide)
    have ha : 0 < a "a" := given.pos (by decide)
    have value : a "M" = -(2 * a "E" * a "a") / (a "G" * a "m") := by simpa using value
    rw [value]
    field_simp
  case m =>
    have hM : 0 < a "M" := given.pos (by decide)
    have ha : 0 < a "a" := given.pos (by decide)
    have value : a "m" = -(2 * a "E" * a "a") / (a "G" * a "M") := by simpa using value
    rw [value]
    field_simp

theorem orbitalEnergy_recovers :
    orbitalEnergy.Recovers Catalog.Orbits.orbitalEnergy orbitalEnergySides.toSides := by
  refine recovers_ofTerms ?_
  simp only [List.forall_mem_cons]
  refine ⟨?E, ?a, ?M, ?m, List.forall_mem_nil _⟩
  all_goals
    refine recovers_of_decisive (by decide) fun a fits admissible _ hold => ?_
    rw [orbitalEnergySides_hold] at hold
    have hG : 0 < a "G" := fits.pos (by decide)
    have hM : 0 < a "M" := admissible.pos (by decide)
    have hm : 0 < a "m" := admissible.pos (by decide)
    have ha : 0 < a "a" := admissible.pos (by decide)
    have hE : a "E" < 0 := admissible.negative "E" (by decide) (by decide)
  case E =>
    refine ⟨by simpa using ha.ne', ?_⟩
    simpa using hold.symm
  case a =>
    refine ⟨by simpa using hE.ne, ?_⟩
    suffices -(a "G" * a "M" * a "m") / (2 * a "E") = a "a" by simpa
    rw [hold]
    field_simp
  case M =>
    refine ⟨by simp [hG.ne', hm.ne'], ?_⟩
    suffices -(2 * a "E" * a "a") / (a "G" * a "m") = a "M" by simpa
    rw [hold]
    field_simp
  case m =>
    refine ⟨by simp [hG.ne', hM.ne'], ?_⟩
    suffices -(2 * a "E" * a "a") / (a "G" * a "M") = a "m" by simpa
    rw [hold]
    field_simp

def visVivaSides : Catalog.Orbits.visViva.Reading where
  toSides :=
    ⟨var "v" ^ 2, var "G" * var "M" * (2 / var "r" - 1 / var "a")⟩
  read := by decide +kernel

theorem visVivaSides_hold {a : String → ℝ} :
    visVivaSides.Hold a ↔ a "v" ^ 2 = a "G" * a "M" * (2 / a "r" - 1 / a "a") := by
  simp [visVivaSides, Sides.Hold]

theorem visViva_sound : visViva.Sound Catalog.Orbits.visViva visVivaSides.toSides := by
  refine sound_ofTerms ?_
  simp only [List.forall_mem_cons]
  refine ⟨?v, ?M, ?r, ?a, List.forall_mem_nil _⟩
  all_goals
    intro a fits given defined value _
    rw [visVivaSides_hold]
    have hG : 0 < a "G" := fits.pos (by decide)
  case v =>
    have nonneg : 0 ≤ a "G" * a "M" * (2 / a "r" - 1 / a "a") := by
      simpa using defined.2
    have value : a "v" = √(a "G" * a "M" * (2 / a "r" - 1 / a "a")) := by
      simpa using value
    rw [value, Real.sq_sqrt nonneg]
  case M =>
    have geometry : 2 / a "r" - 1 / a "a" ≠ 0 := by
      simpa using right_ne_zero_of_mul defined.2.2
    have value : a "M" = a "v" ^ 2 / (a "G" * (2 / a "r" - 1 / a "a")) := by
      simpa using value
    rw [value]
    field_simp
  case r =>
    have hM : 0 < a "M" := given.pos (by decide)
    have value : a "r" = 2 / (a "v" ^ 2 / (a "G" * a "M") + 1 / a "a") := by
      simpa using value
    rw [value]
    field_simp
    ring
  case a =>
    have hM : 0 < a "M" := given.pos (by decide)
    have value : a "a" = 1 / (2 / a "r" - a "v" ^ 2 / (a "G" * a "M")) := by
      simpa using value
    rw [value, one_div_one_div]
    field_simp
    ring

theorem visViva_recovers : visViva.Recovers Catalog.Orbits.visViva visVivaSides.toSides := by
  refine recovers_ofTerms ?_
  simp only [List.forall_mem_cons]
  refine ⟨?v, ?M, ?r, ?a, List.forall_mem_nil _⟩
  all_goals
    refine recovers_of_decisive (by decide) fun a fits admissible _ hold => ?_
    rw [visVivaSides_hold] at hold
    have hG : 0 < a "G" := fits.pos (by decide)
    have hM : 0 < a "M" := admissible.pos (by decide)
    have hv : 0 < a "v" := admissible.pos (by decide)
    have hr : 0 < a "r" := admissible.pos (by decide)
    have ha : 0 < a "a" := admissible.pos (by decide)
  case v =>
    have nonneg : 0 ≤ a "G" * a "M" * (2 / a "r" - 1 / a "a") := hold ▸ sq_nonneg _
    refine ⟨by simpa [hr.ne', ha.ne'] using nonneg, ?_⟩
    suffices √(a "G" * a "M" * (2 / a "r" - 1 / a "a")) = a "v" by simpa
    rw [← hold, Real.sqrt_sq hv.le]
  case M =>
    have geometry : 2 / a "r" - 1 / a "a" ≠ 0 := by
      intro flat
      rw [flat, mul_zero] at hold
      exact (pow_pos hv 2).ne' hold
    refine ⟨by simpa [hG.ne', hr.ne', ha.ne'] using geometry, ?_⟩
    suffices a "v" ^ 2 / (a "G" * (2 / a "r" - 1 / a "a")) = a "M" by simpa
    rw [div_eq_iff (mul_ne_zero hG.ne' geometry), hold]
    ring
  case r =>
    have sum : a "v" ^ 2 / (a "G" * a "M") + 1 / a "a" = 2 / a "r" := by
      rw [hold]
      field_simp
      ring
    have nonzero : a "v" ^ 2 / (a "G" * a "M") + 1 / a "a" ≠ 0 := by positivity
    refine ⟨by simpa [hG.ne', hM.ne', ha.ne'] using nonzero, ?_⟩
    suffices 2 / (a "v" ^ 2 / (a "G" * a "M") + 1 / a "a") = a "r" by simpa
    rw [sum, div_div_cancel₀ two_ne_zero]
  case a =>
    have difference : 2 / a "r" - a "v" ^ 2 / (a "G" * a "M") = 1 / a "a" := by
      rw [hold]
      field_simp
      ring
    have nonzero : 2 / a "r" - a "v" ^ 2 / (a "G" * a "M") ≠ 0 := by
      rw [difference]
      positivity
    refine ⟨by simpa [hG.ne', hM.ne', hr.ne'] using nonzero, ?_⟩
    suffices 1 / (2 / a "r" - a "v" ^ 2 / (a "G" * a "M")) = a "a" by simpa
    rw [difference, one_div_one_div]

def keplerThirdLawBinarySides : Catalog.Orbits.keplerThirdLawBinary.Reading where
  toSides :=
    ⟨var "P" ^ 2, 4 * pi ^ 2 * var "a" ^ 3 / (var "G" * (var "M1" + var "M2"))⟩
  read := by decide +kernel

theorem keplerThirdLawBinarySides_hold {a : String → ℝ} :
    keplerThirdLawBinarySides.Hold a ↔
      a "P" ^ 2 = 4 * Real.pi ^ 2 * a "a" ^ 3 / (a "G" * (a "M1" + a "M2")) := by
  simp [keplerThirdLawBinarySides, Sides.Hold]

theorem keplerThirdLawBinary_sound :
    keplerThirdLawBinary.Sound Catalog.Orbits.keplerThirdLawBinary
      keplerThirdLawBinarySides.toSides := by
  refine sound_ofTerms ?_
  simp only [List.forall_mem_cons]
  refine ⟨?P, ?a, ?M1, ?M2, List.forall_mem_nil _⟩
  all_goals
    intro a fits given defined value _
    rw [keplerThirdLawBinarySides_hold]
    have hG : 0 < a "G" := fits.pos (by decide)
  case P =>
    have nonneg : 0 ≤ 4 * Real.pi ^ 2 * a "a" ^ 3 / (a "G" * (a "M1" + a "M2")) := by
      simpa using defined.2
    have value : a "P" = √(4 * Real.pi ^ 2 * a "a" ^ 3 / (a "G" * (a "M1" + a "M2"))) := by
      simpa using value
    rw [value, Real.sq_sqrt nonneg]
  case a =>
    have hM1 : 0 < a "M1" := given.pos (by decide)
    have hM2 : 0 < a "M2" := given.pos (by decide)
    have value : a "a" =
        realCbrt (a "G" * (a "M1" + a "M2") * a "P" ^ 2 / (4 * Real.pi ^ 2)) := by
      simpa using value
    rw [value, realCbrt_pow_three]
    field_simp
  case M1 =>
    have ha : 0 < a "a" := given.pos (by decide)
    have hP : 0 < a "P" := given.pos (by decide)
    have value : a "M1" =
        4 * Real.pi ^ 2 * a "a" ^ 3 / (a "G" * a "P" ^ 2) - a "M2" := by
      simpa using value
    rw [value, sub_add_cancel]
    field_simp
  case M2 =>
    have ha : 0 < a "a" := given.pos (by decide)
    have hP : 0 < a "P" := given.pos (by decide)
    have value : a "M2" =
        4 * Real.pi ^ 2 * a "a" ^ 3 / (a "G" * a "P" ^ 2) - a "M1" := by
      simpa using value
    rw [value, add_sub_cancel]
    field_simp

theorem keplerThirdLawBinary_recovers :
    keplerThirdLawBinary.Recovers Catalog.Orbits.keplerThirdLawBinary
      keplerThirdLawBinarySides.toSides := by
  refine recovers_ofTerms ?_
  simp only [List.forall_mem_cons]
  refine ⟨?P, ?a, ?M1, ?M2, List.forall_mem_nil _⟩
  all_goals
    refine recovers_of_decisive (by decide) fun a fits admissible _ hold => ?_
    rw [keplerThirdLawBinarySides_hold] at hold
    have hG : 0 < a "G" := fits.pos (by decide)
    have hP : 0 < a "P" := admissible.pos (by decide)
    have ha : 0 < a "a" := admissible.pos (by decide)
    have hM1 : 0 < a "M1" := admissible.pos (by decide)
    have hM2 : 0 < a "M2" := admissible.pos (by decide)
    have total : 0 < a "M1" + a "M2" := add_pos hM1 hM2
  case P =>
    have nonneg : 0 ≤ 4 * Real.pi ^ 2 * a "a" ^ 3 / (a "G" * (a "M1" + a "M2")) :=
      hold ▸ sq_nonneg _
    refine ⟨by simpa [hG.ne', total.ne'] using nonneg, ?_⟩
    suffices √(4 * Real.pi ^ 2 * a "a" ^ 3 / (a "G" * (a "M1" + a "M2"))) = a "P" by
      simpa
    rw [← hold, Real.sqrt_sq hP.le]
  case a =>
    have cube : a "G" * (a "M1" + a "M2") * a "P" ^ 2 / (4 * Real.pi ^ 2) = a "a" ^ 3 := by
      rw [hold]
      field_simp
    refine ⟨by simp [Real.pi_ne_zero], ?_⟩
    suffices realCbrt (a "G" * (a "M1" + a "M2") * a "P" ^ 2 / (4 * Real.pi ^ 2)) = a "a" by
      simpa
    rw [cube, realCbrt_of_pow_three]
  case M1 =>
    refine ⟨by simp [hG.ne', hP.ne'], ?_⟩
    suffices 4 * Real.pi ^ 2 * a "a" ^ 3 / (a "G" * a "P" ^ 2) - a "M2" = a "M1" by simpa
    rw [hold]
    field_simp
    ring
  case M2 =>
    refine ⟨by simp [hG.ne', hP.ne'], ?_⟩
    suffices 4 * Real.pi ^ 2 * a "a" ^ 3 / (a "G" * a "P" ^ 2) - a "M1" = a "M2" by simpa
    rw [hold]
    field_simp
    ring

end Orbits

namespace StellarStructure

def hydrostaticBalanceSides : Catalog.StellarStructure.hydrostaticBalance.Reading where
  toSides :=
    ⟨var "dP_dr", -var "G" * var "M" * var "ρ" / var "r" ^ 2⟩
  read := by decide +kernel

theorem hydrostaticBalanceSides_hold {a : String → ℝ} :
    hydrostaticBalanceSides.Hold a ↔ a "dP_dr" = -(a "G" * a "M" * a "ρ") / a "r" ^ 2 := by
  simp [hydrostaticBalanceSides, Sides.Hold]

theorem hydrostaticBalance_sound :
    hydrostaticBalance.Sound Catalog.StellarStructure.hydrostaticBalance
      hydrostaticBalanceSides.toSides := by
  refine sound_ofTerms ?_
  simp only [List.forall_mem_cons]
  refine ⟨?gradient, ?M, ?density, ?r, List.forall_mem_nil _⟩
  all_goals
    intro a fits given defined value _
    rw [hydrostaticBalanceSides_hold]
    have hG : 0 < a "G" := fits.pos (by decide)
  case gradient => simpa using value
  case M =>
    have hd : 0 < a "ρ" := given.pos (by decide)
    have hr : 0 < a "r" := given.pos (by decide)
    have value : a "M" = -(a "dP_dr" * a "r" ^ 2) / (a "G" * a "ρ") := by simpa using value
    rw [value]
    field_simp
  case density =>
    have hM : 0 < a "M" := given.pos (by decide)
    have hr : 0 < a "r" := given.pos (by decide)
    have value : a "ρ" = -(a "dP_dr" * a "r" ^ 2) / (a "G" * a "M") := by simpa using value
    rw [value]
    field_simp
  case r =>
    have hM : 0 < a "M" := given.pos (by decide)
    have hd : 0 < a "ρ" := given.pos (by decide)
    have gradient : a "dP_dr" ≠ 0 := by simpa using defined.1.2.2
    have nonneg : 0 ≤ -(a "G" * a "M" * a "ρ") / a "dP_dr" := by simpa using defined.2
    have value : a "r" = √(-(a "G" * a "M" * a "ρ") / a "dP_dr") := by simpa using value
    rw [value, Real.sq_sqrt nonneg]
    field_simp

theorem hydrostaticBalance_recovers :
    hydrostaticBalance.Recovers Catalog.StellarStructure.hydrostaticBalance
      hydrostaticBalanceSides.toSides := by
  refine recovers_ofTerms ?_
  simp only [List.forall_mem_cons]
  refine ⟨?gradient, ?M, ?density, ?r, List.forall_mem_nil _⟩
  all_goals
    refine recovers_of_decisive (by decide) fun a fits admissible _ hold => ?_
    rw [hydrostaticBalanceSides_hold] at hold
    have hG : 0 < a "G" := fits.pos (by decide)
    have hM : 0 < a "M" := admissible.pos (by decide)
    have hd : 0 < a "ρ" := admissible.pos (by decide)
    have hr : 0 < a "r" := admissible.pos (by decide)
    have hP : a "dP_dr" < 0 :=
      admissible.negative "dP_dr" (by decide) (by decide)
  case gradient =>
    refine ⟨by simpa using hr.ne', ?_⟩
    simpa using hold.symm
  case M =>
    refine ⟨by simp [hG.ne', hd.ne'], ?_⟩
    suffices -(a "dP_dr" * a "r" ^ 2) / (a "G" * a "ρ") = a "M" by simpa
    rw [hold]
    field_simp
  case density =>
    refine ⟨by simp [hG.ne', hM.ne'], ?_⟩
    suffices -(a "dP_dr" * a "r" ^ 2) / (a "G" * a "M") = a "ρ" by simpa
    rw [hold]
    field_simp
  case r =>
    have square : -(a "G" * a "M" * a "ρ") / a "dP_dr" = a "r" ^ 2 := by
      rw [hold]
      field_simp
    have nonneg : 0 ≤ -(a "G" * a "M" * a "ρ") / a "dP_dr" := square ▸ sq_nonneg _
    refine ⟨by simpa [hP.ne] using nonneg, ?_⟩
    suffices √(-(a "G" * a "M" * a "ρ") / a "dP_dr") = a "r" by simpa
    rw [square, Real.sqrt_sq hr.le]

end StellarStructure

end Astrolabe.Inversion
