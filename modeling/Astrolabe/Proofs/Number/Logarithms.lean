import Mathlib.Analysis.SpecialFunctions.Log.Deriv
import Mathlib.Analysis.Complex.ExponentialBounds
import Mathlib.NumberTheory.Padics.PadicVal.Basic
import Astrolabe.Proofs.Number.Doubles

/-!
Logarithms of doubles. They are bounded, and bounded away from zero but for doubles of
magnitude one. A rational number has a decimal logarithm that is whole or irrational; so
where a double is such a logarithm plus another double, it is not small beside it.
-/

namespace Astrolabe

namespace Binary64

variable {x : Float} {q : ℚ}

theorem abs_log_le (h : toRat? x = some q) : |Real.log q| ≤ 746 := by
  by_cases zero : q = 0
  · simp [zero]
  obtain ⟨m, e, canonical, most, value⟩ := abs_of_toRat? h zero
  have size : |(q : ℝ)| = m * 2 ^ e := by
    have cast := congrArg (fun r : ℚ => (r : ℝ)) value
    push_cast at cast
    exact cast
  have positive : (0 : ℝ) < m := by exact_mod_cast canonical.pos
  have low : 0 ≤ Real.log m := Real.log_natCast_nonneg m
  have high : Real.log m ≤ 53 * Real.log 2 := by
    have bits : (m : ℝ) ≤ 2 ^ 53 := by exact_mod_cast canonical.bits.le
    rw [← Nat.cast_ofNat (n := 53), ← Real.log_pow]
    exact Real.log_le_log positive bits
  have least : (-1074 : ℝ) ≤ e := by exact_mod_cast canonical.least
  have most : (e : ℝ) ≤ 971 := by exact_mod_cast most
  have two := Real.log_two_lt_d9
  have two_pos := Real.log_pos one_lt_two
  have below := mul_le_mul_of_nonneg_right least two_pos.le
  have above := mul_le_mul_of_nonneg_right most two_pos.le
  rw [← Real.log_abs, size, Real.log_mul positive.ne' (by positivity), Real.log_zpow, abs_le]
  constructor <;> linarith

theorem exists_signed {m : ℕ} {e : ℤ} (h : |q| = m * 2 ^ e) :
    ∃ s : ℤ, |(s : ℚ)| = m ∧ q = s * 2 ^ e := by
  obtain same | opposite := abs_choice q
  · exact ⟨m, by simp, by rw [← same, h, Int.cast_natCast]⟩
  · exact ⟨-m, by simp, by rw [← neg_eq_iff_eq_neg.mpr opposite, h]; push_cast; ring⟩

theorem one_le_abs_intCast {n : ℤ} (h : n ≠ 0) : (1 : ℚ) ≤ |(n : ℚ)| := by
  exact_mod_cast Int.one_le_abs h

/-- What is left of one is no less than the unit of the double that is taken from it. -/
theorem le_abs_one_sub {m : ℕ} {e t : ℤ} (h : |q| = m * 2 ^ e) (ht : t ≤ e) (nonpos : t ≤ 0)
    (left : 1 - q ≠ 0) : 2 ^ t ≤ |1 - q| := by
  obtain ⟨s, -, rfl⟩ := exists_signed h
  obtain ⟨k, hk⟩ := Int.eq_ofNat_of_zero_le (by omega : 0 ≤ e - t)
  obtain ⟨j, hj⟩ := Int.eq_ofNat_of_zero_le (by omega : 0 ≤ -t)
  have scaled : 1 - (s : ℚ) * 2 ^ e = (2 ^ j - s * 2 ^ k : ℤ) * 2 ^ t := by
    push_cast
    rw [sub_mul, mul_assoc, ← zpow_natCast, ← zpow_natCast, ← hk, ← hj, ← zpow_add₀ two_ne_zero,
      ← zpow_add₀ two_ne_zero, neg_add_cancel, sub_add_cancel, zpow_zero]
  rw [scaled] at left ⊢
  rw [abs_mul, abs_of_pos (by positivity : (0 : ℚ) < 2 ^ t)]
  exact le_mul_of_one_le_left (by positivity)
    (one_le_abs_intCast fun none => left (by rw [none, Int.cast_zero, zero_mul]))

theorem abs_log_one_sub_le (h : toRat? x = some q) : |Real.log (1 - q)| ≤ 747 := by
  by_cases none : 1 - q = 0
  · have : (1 : ℝ) - q = 0 := by exact_mod_cast none
    simp [this]
  by_cases zero : q = 0
  · simp [zero]
  have positive : (0 : ℝ) < |1 - (q : ℝ)| := abs_pos.mpr (by exact_mod_cast none)
  have two := Real.log_two_lt_d9
  have high : Real.log |1 - (q : ℝ)| ≤ 747 := by
    have sum : |1 - (q : ℝ)| ≤ 1 + |(q : ℝ)| := (abs_sub 1 (q : ℝ)).trans (by rw [abs_one])
    obtain small | large := le_total |(q : ℝ)| 1
    · linarith [Real.log_le_log positive (sum.trans (by linarith : _ ≤ (2 : ℝ)))]
    · have := Real.log_le_log positive (sum.trans (by linarith : _ ≤ 2 * |(q : ℝ)|))
      rw [Real.log_mul two_ne_zero (by linarith), Real.log_abs (q : ℝ)] at this
      linarith [le_abs_self (Real.log q), abs_log_le h]
  have low : -747 ≤ Real.log |1 - (q : ℝ)| := by
    obtain ⟨m, e, canonical, -, value⟩ := abs_of_toRat? h zero
    have least := canonical.least
    have rational := le_abs_one_sub value (min_le_left e 0) (min_le_right e 0) none
    have real : (2 : ℝ) ^ min e 0 ≤ |1 - (q : ℝ)| := by
      have cast := (Rat.cast_le (K := ℝ)).mpr rational
      push_cast at cast
      exact cast
    have logs := Real.log_le_log (by positivity) real
    rw [Real.log_zpow] at logs
    have exponent : (-1074 : ℝ) ≤ (min e 0 : ℤ) := by exact_mod_cast (by omega : -1074 ≤ min e 0)
    have := mul_le_mul_of_nonneg_right exponent (Real.log_pos one_lt_two).le
    linarith
  rw [← Real.log_abs, abs_le]
  exact ⟨low, high⟩

theorem Dyadic.gap (h : Dyadic q) (hq : |q| ≠ 1) :
    1 + 1 / 2 ^ 53 ≤ |q| ∨ |q| ≤ 1 - 1 / 2 ^ 54 := by
  obtain ⟨m, e, canonical, value⟩ := h
  have bits : (m : ℚ) < 2 ^ 53 := by exact_mod_cast canonical.bits
  obtain ⟨k, rfl | rfl⟩ := e.eq_nat_or_neg
  · have whole : |q| = (m * 2 ^ k : ℕ) := by
      rw [value]
      push_cast
      rw [zpow_natCast]
    have more : 2 ≤ m * 2 ^ k := by
      have : 0 < m * 2 ^ k := Nat.mul_pos canonical.pos (by positivity)
      have : m * 2 ^ k ≠ 1 := fun one => hq (by rw [whole, one, Nat.cast_one])
      omega
    left
    rw [whole]
    refine le_trans ?_ (Nat.cast_le.mpr more)
    norm_num
  · have scaled : |q| * 2 ^ k = m := by
      rw [value, zpow_neg, zpow_natCast, inv_mul_cancel_right₀ (by positivity)]
    have unit : (0 : ℚ) < 2 ^ k := by positivity
    obtain less | more := lt_or_gt_of_ne hq
    · right
      have below : m + 1 ≤ 2 ^ k := by
        have : (m : ℚ) < 2 ^ k := by nlinarith
        exact_mod_cast this
      have below : (m : ℚ) + 1 ≤ 2 ^ k := by exact_mod_cast below
      by_cases small : k ≤ 54
      · -- the next number below one is no nearer than a unit
        have : (2 : ℚ) ^ k ≤ 2 ^ 54 := pow_le_pow_right₀ one_le_two small
        have : 1 / 2 ^ 54 ≤ (1 : ℚ) / 2 ^ k := one_div_le_one_div_of_le unit this
        have : 1 / 2 ^ k ≤ 1 - |q| := by
          rw [div_le_iff₀ unit]
          linarith
        linarith
      · have : (2 : ℚ) ^ 54 ≤ 2 ^ k := pow_le_pow_right₀ one_le_two (by omega)
        have : |q| ≤ 1 / 2 := by
          by_contra large
          nlinarith
        linarith
    · left
      have above : 2 ^ k + 1 ≤ m := by
        have : (2 ^ k : ℚ) < m := by nlinarith
        exact_mod_cast this
      have above : (2 : ℚ) ^ k + 1 ≤ m := by exact_mod_cast above
      have : (1 : ℚ) / 2 ^ 53 ≤ 1 / 2 ^ k := one_div_le_one_div_of_le unit (by linarith)
      have : 1 / 2 ^ k ≤ |q| - 1 := by
        rw [div_le_iff₀ unit]
        linarith
      linarith

/-- Only at one is the logarithm of a double near zero. -/
theorem le_abs_log (h : toRat? x = some q) (nonzero : q ≠ 0) (hq : |q| ≠ 1) :
    1 / 2 ^ 54 ≤ |Real.log q| := by
  have positive : (0 : ℝ) < |(q : ℝ)| := abs_pos.mpr (by exact_mod_cast nonzero)
  rw [← Real.log_abs]
  obtain above | below := (dyadic_of_toRat? h nonzero).gap hq
  · have above : (1 : ℝ) + 1 / 2 ^ 53 ≤ |(q : ℝ)| := by
      have : ((1 + 1 / 2 ^ 53 : ℚ) : ℝ) ≤ (|q| : ℚ) := Rat.cast_le.mpr above
      push_cast at this
      exact this
    have inverse : |(q : ℝ)|⁻¹ ≤ (1 + 1 / 2 ^ 53)⁻¹ := inv_anti₀ (by positivity) above
    have constant : (1 + 1 / 2 ^ 53 : ℝ)⁻¹ ≤ 1 - 1 / 2 ^ 54 := by norm_num
    have := Real.one_sub_inv_le_log_of_pos positive
    exact (by linarith : (1 : ℝ) / 2 ^ 54 ≤ Real.log |(q : ℝ)|).trans (le_abs_self _)
  · have below : |(q : ℝ)| ≤ 1 - 1 / 2 ^ 54 := by
      have : ((|q| : ℚ) : ℝ) ≤ (1 - 1 / 2 ^ 54 : ℚ) := Rat.cast_le.mpr below
      push_cast at this
      exact this
    have := Real.log_le_sub_one_of_pos positive
    exact (by linarith : (1 : ℝ) / 2 ^ 54 ≤ -Real.log |(q : ℝ)|).trans (neg_le_abs _)

theorem dyadic_half {n : ℤ} (h : n ≠ 0) (bits : |n| < 2 ^ 53) : Dyadic ((n : ℚ) / 2) := by
  rw [Int.abs_eq_natAbs] at bits
  refine dyadic_of_scaled (n := n.natAbs) (j := -1) (Int.natAbs_pos.mpr h) (by omega) (by omega) ?_
  rw [abs_div, abs_two, Nat.cast_natAbs, zpow_neg_one, Int.cast_abs, div_eq_mul_inv]

/-- A double and half a whole number do not nearly cancel. -/
theorem half_abs_le_of_add {n : ℤ} {c : ℚ} (hc : c ≠ 0 → Dyadic c) (hn : |(n : ℚ)| ≤ 2 ^ 54)
    (sum : (n : ℚ) / 2 + c ≠ 0) : |(n : ℚ) / 2| ≤ 2 ^ 54 * |(n : ℚ) / 2 + c| := by
  by_cases zero : c = 0
  · rw [zero, add_zero]
    linarith [abs_nonneg ((n : ℚ) / 2)]
  obtain ⟨m, e, canonical, value⟩ := hc zero
  obtain ⟨s, -, signed⟩ := exists_signed value
  by_cases large : -1 ≤ e
  · -- the sum is half a whole number
    obtain ⟨k, hk⟩ := Int.eq_ofNat_of_zero_le (by omega : 0 ≤ e + 1)
    have halves : (n : ℚ) / 2 + c = (n + s * 2 ^ k : ℤ) / 2 := by
      have : (2 : ℚ) ^ e = 2 ^ k / 2 := by
        rw [← zpow_natCast, ← hk, zpow_add_one₀ two_ne_zero, mul_div_cancel_right₀ _ two_ne_zero]
      rw [signed, this]
      push_cast
      ring
    rw [halves] at sum ⊢
    have := one_le_abs_intCast (n := n + s * 2 ^ k) fun none => sum (by simp [none])
    rw [abs_div, abs_div, abs_two]
    linarith
  · obtain ⟨k, hk⟩ := Int.eq_ofNat_of_zero_le (by omega : 0 ≤ -1 - e)
    have unit : (0 : ℚ) < 2 ^ e := by positivity
    have scaled : (n : ℚ) / 2 + c = (n * 2 ^ k + s : ℤ) * 2 ^ e := by
      have : (2 : ℚ) ^ k * 2 ^ e = 1 / 2 := by
        rw [← zpow_natCast, ← hk, ← zpow_add₀ two_ne_zero]
        norm_num
      push_cast
      rw [add_mul, mul_assoc, this, signed]
      ring
    have least : (2 : ℚ) ^ e ≤ |(n : ℚ) / 2 + c| := by
      rw [scaled] at sum ⊢
      have := one_le_abs_intCast (n := n * 2 ^ k + s) fun none => sum (by simp [none])
      rw [abs_mul, abs_of_pos unit]
      exact le_mul_of_one_le_left unit.le this
    have bits : (m : ℚ) ≤ 2 ^ 53 := by exact_mod_cast canonical.bits.le
    have size : |c| ≤ 2 ^ 53 * |(n : ℚ) / 2 + c| := by
      rw [value]
      exact mul_le_mul bits least unit.le (by positivity)
    have := abs_sub ((n : ℚ) / 2 + c) c
    rw [add_sub_cancel_right] at this
    linarith [abs_nonneg ((n : ℚ) / 2 + c)]

end Binary64

namespace Number

theorem padicValRat_two_ten : padicValRat 2 10 = 1 := by
  have split : (10 : ℚ) = (10 : ℕ) := rfl
  rw [split, padicValRat.of_nat]
  have : padicValNat 2 10 = 1 := by
    rw [show 10 = 2 * 5 from rfl, padicValNat.mul two_ne_zero (by norm_num),
      padicValNat.self one_lt_two, padicValNat.eq_zero_of_not_dvd (by norm_num)]
  rw [this, Nat.cast_one]

/-- The decimal logarithm of a rational number, where rational, is the number of its
factors two. -/
theorem eq_padicValRat_of_log {x r : ℚ} (hx : 0 < x) (h : Real.log x = r * Real.log 10) :
    r = padicValRat 2 x := by
  have den : (r.den : ℚ) ≠ 0 := by exact_mod_cast r.den_ne_zero
  have power : x ^ r.den = 10 ^ r.num := by
    have positive : (0 : ℝ) < x := by exact_mod_cast hx
    have logs : Real.log ((x : ℝ) ^ r.den) = Real.log ((10 : ℝ) ^ r.num) := by
      have whole : (r : ℝ) * r.den = r.num := by exact_mod_cast r.mul_den_eq_num
      rw [Real.log_pow, Real.log_zpow, h, ← whole]
      ring
    have real : (x : ℝ) ^ r.den = (10 : ℝ) ^ r.num :=
      Real.log_injOn_pos (Set.mem_Ioi.mpr (by positivity)) (Set.mem_Ioi.mpr (by positivity)) logs
    have cast : ((x ^ r.den : ℚ) : ℝ) = (10 ^ r.num : ℚ) := by
      push_cast
      exact real
    exact Rat.cast_injective cast
  have values := congrArg (padicValRat 2) power
  rw [padicValRat.pow, padicValRat.zpow, padicValRat_two_ten, mul_one] at values
  rw [← mul_left_inj' den, Rat.mul_den_eq_num, mul_comm]
  exact_mod_cast values.symm

end Number

end Astrolabe
