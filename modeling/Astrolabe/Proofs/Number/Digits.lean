import Mathlib
import Astrolabe.Number.Rounding

/-!
Rounding to digits. A quotient of natural numbers is rounded to the nearest whole number, after it
is scaled so that this number has the digits that are wanted. What is lost is at most half a unit of
the last digit.
-/

namespace Astrolabe.Rounding

/-- The nearest whole number is at most a half away. -/
theorem nearest_near (num : ℕ) {den : ℕ} (pos : 0 < den) :
    |(nearest num den : ℚ) - num / den| ≤ 1 / 2 := by
  have split : (num : ℚ) / den = (num / den : ℕ) + (num % den : ℕ) / (den : ℚ) := by
    rw [eq_comm, add_div' _ _ _ (by positivity), div_left_inj' (by positivity)]
    exact_mod_cast Nat.div_add_mod' num den
  have positive : (0 : ℚ) < den := by exact_mod_cast pos
  rw [nearest]
  split
  next up =>
    have half : den ≤ 2 * (num % den) := by
      simp only [Bool.or_eq_true, decide_eq_true_eq, Bool.and_eq_true, beq_iff_eq] at up
      omega
    have more : (1 : ℚ) / 2 ≤ (num % den : ℕ) / (den : ℚ) := by
      rw [div_le_div_iff₀ two_pos positive]
      exact_mod_cast by omega
    have less : ((num % den : ℕ) : ℚ) / den < 1 := by
      rw [div_lt_one positive]
      exact_mod_cast Nat.mod_lt num pos
    rw [split, abs_le]
    push_cast
    constructor <;> linarith
  next down =>
    have half : 2 * (num % den) ≤ den := by
      simp only [Bool.or_eq_true, decide_eq_true_eq, not_or, not_lt] at down
      exact down.1
    have less : ((num % den : ℕ) : ℚ) / den ≤ 1 / 2 := by
      rw [div_le_div_iff₀ positive two_pos]
      exact_mod_cast by omega
    have nonneg : (0 : ℚ) ≤ (num % den : ℕ) / (den : ℚ) := by positivity
    rw [split, abs_le]
    constructor <;> linarith

/-! The first digit. -/

/-- A positive number has as many digits as the power of ten that it reaches. -/
theorem digitCount_bounds {n : ℕ} (pos : 0 < n) :
    ∃ k, digitCount n = k + 1 ∧ 10 ^ k ≤ n ∧ n < 10 ^ (k + 1) := by
  have some : 0 < digitCount n := Nat.length_toDigits_pos
  obtain ⟨k, count⟩ := Nat.exists_eq_succ_of_ne_zero some.ne'
  refine ⟨k, count, ?_, ?_⟩
  · obtain rfl | more := Nat.eq_zero_or_pos k
    · exact pos
    · refine Nat.le_of_not_lt fun less => ?_
      have short : digitCount n ≤ k := (Nat.length_toDigits_le_iff (by decide) more).mpr less
      omega
  · exact (Nat.length_toDigits_le_iff (by decide) (Nat.succ_pos k)).mp count.le

/-- The leading exponent is that of the power of ten that a quotient reaches. -/
theorem leadingExponent_bounds {num den : ℕ} (hn : 0 < num) (hd : 0 < den) :
    (10 : ℚ) ^ leadingExponent num den ≤ num / den ∧
      (num : ℚ) / den < 10 ^ (leadingExponent num den + 1) := by
  have numerator : (0 : ℚ) < num := by exact_mod_cast hn
  have denominator : (0 : ℚ) < den := by exact_mod_cast hd
  rw [leadingExponent]
  split
  next whole =>
    obtain ⟨k, count, low, high⟩ := digitCount_bounds (Nat.div_pos whole hd)
    rw [count, Nat.cast_succ, add_sub_cancel_right, ← Nat.cast_succ, zpow_natCast, zpow_natCast,
      le_div_iff₀ denominator, div_lt_iff₀ denominator]
    rw [Nat.le_div_iff_mul_le hd] at low
    rw [Nat.div_lt_iff_lt_mul hd] at high
    exact ⟨by exact_mod_cast low, by exact_mod_cast high⟩
  next fraction =>
    have below : num ≤ den - 1 := by omega
    obtain ⟨k, count, low, high⟩ := digitCount_bounds (Nat.div_pos below hn)
    have exponent : -((k + 1 : ℕ) : ℤ) + 1 = -(k : ℤ) := by push_cast; ring
    rw [count, exponent, zpow_neg, zpow_neg, zpow_natCast, zpow_natCast,
      le_div_iff₀ denominator, div_lt_iff₀ denominator, inv_mul_le_iff₀ (by positivity),
      lt_inv_mul_iff₀ (by positivity)]
    rw [Nat.le_div_iff_mul_le hn] at low
    rw [Nat.div_lt_iff_lt_mul hn] at high
    exact ⟨by exact_mod_cast by omega, by exact_mod_cast by omega⟩

/-! Digits. -/

/-- A quotient times a power of ten. -/
theorem scaled_eq (num : ℕ) {den : ℕ} (hd : 0 < den) (shift : ℤ) :
    0 < (scaled num den shift).2 ∧
      ((scaled num den shift).1 : ℚ) / (scaled num den shift).2 = num / den * 10 ^ shift := by
  rw [scaled]
  split
  next up =>
    refine ⟨hd, ?_⟩
    obtain ⟨k, rfl⟩ := Int.eq_ofNat_of_zero_le up
    push_cast [Int.toNat_natCast]
    rw [zpow_natCast]
    ring
  next down =>
    obtain ⟨k, same⟩ := Int.eq_ofNat_of_zero_le (by omega : 0 ≤ -shift)
    obtain rfl : shift = -(k : ℤ) := by omega
    refine ⟨by positivity, ?_⟩
    rw [neg_neg, Int.toNat_natCast, zpow_neg, zpow_natCast]
    push_cast
    rw [div_mul_eq_div_div, div_eq_mul_inv _ ((10 : ℚ) ^ k)]

/-- Half a unit off is half a unit off at any scale. -/
theorem near_of_scaled {n : ℕ} {q : ℚ} {k : ℤ} (near : |(n : ℚ) - q * 10 ^ (-k)| ≤ 1 / 2) :
    |(n : ℚ) * 10 ^ k - q| ≤ 10 ^ k / 2 := by
  have unit : (0 : ℚ) < 10 ^ k := by positivity
  have inverse : (10 : ℚ) ^ (-k) * 10 ^ k = 1 := by
    rw [← zpow_add₀ (by norm_num), neg_add_cancel, zpow_zero]
  calc |(n : ℚ) * 10 ^ k - q|
      = |(n : ℚ) - q * 10 ^ (-k)| * 10 ^ k := by
        rw [← abs_of_pos unit, ← abs_mul, sub_mul, abs_of_pos unit, mul_assoc q, inverse, mul_one]
    _ ≤ 1 / 2 * 10 ^ k := mul_le_mul_of_nonneg_right near unit.le
    _ = 10 ^ k / 2 := by ring

/-- The number of units of the last digit is at most half a unit off. -/
theorem units_near (num : ℕ) {den : ℕ} (hd : 0 < den) (places : ℕ) :
    |(units num den places : ℚ) * 10 ^ (-(places : ℤ)) - num / den| ≤
      10 ^ (-(places : ℤ)) / 2 := by
  refine near_of_scaled ?_
  have near := nearest_near (num * 10 ^ places) hd
  rw [Nat.cast_mul, mul_div_right_comm] at near
  rw [neg_neg, zpow_natCast]
  exact_mod_cast near

/-- A positive quotient in `places + 1` digits is at most half a unit of the last digit off, which
is one part of `2 * 10 ^ places` or less. -/
theorem significant_near {num den : ℕ} (hn : 0 < num) (hd : 0 < den) (places : ℕ) :
    |((significant num den places).1 : ℚ) * 10 ^ ((significant num den places).2 - places) -
        num / den| ≤ 10 ^ ((significant num den places).2 - places) / 2 ∧
      |((significant num den places).1 : ℚ) * 10 ^ ((significant num den places).2 - places) -
        num / den| ≤ num / den / (2 * 10 ^ places) := by
  obtain ⟨low, -⟩ := leadingExponent_bounds hn hd
  generalize exponent : leadingExponent num den = e at low
  obtain ⟨positive, scale⟩ := scaled_eq num hd (places - e)
  have near := nearest_near (scaled num den (places - e)).1 positive
  generalize digits : nearest (scaled num den (places - e)).1 (scaled num den (places - e)).2 = n
    at near
  rw [scale, ← neg_sub e] at near
  -- half a unit of the digit that is last before a further one is rounded to
  have half : |(n : ℚ) * 10 ^ (e - places) - num / den| ≤ 10 ^ (e - places) / 2 :=
    near_of_scaled near
  have part : (10 : ℚ) ^ (e - places) / 2 ≤ num / den / (2 * 10 ^ places) := by
    rw [zpow_sub₀ (by norm_num), zpow_natCast, div_div, mul_comm ((10 : ℚ) ^ places)]
    exact div_le_div_of_nonneg_right low (by positivity)
  have chosen : significant num den places =
      if n = 10 ^ (places + 1) then (10 ^ places, e + 1) else (n, e) := by
    rw [significant, exponent, ← digits]
  rw [chosen]
  split
  next further =>
    have same : (((10 ^ places : ℕ) : ℚ)) * 10 ^ (e + 1 - places) = n * 10 ^ (e - places) := by
      rw [further, add_sub_right_comm, zpow_add₀ (by norm_num), zpow_one]
      push_cast
      ring
    have larger : (10 : ℚ) ^ (e - places) / 2 ≤ 10 ^ (e + 1 - places) / 2 := by
      refine div_le_div_of_nonneg_right ?_ two_pos.le
      exact zpow_le_zpow_right₀ (by norm_num) (by omega)
    rw [same]
    exact ⟨half.trans larger, half.trans part⟩
  next => exact ⟨half, half.trans part⟩

end Astrolabe.Rounding
