import Mathlib.Algebra.BigOperators.Field
import Mathlib.Analysis.Complex.ExponentialBounds
import Mathlib.Analysis.SpecialFunctions.Log.Deriv
import Mathlib.Analysis.SpecialFunctions.Pow.Real
import Mathlib.Analysis.SpecificLimits.Normed
import Mathlib.Data.Rat.Floor
import Astrolabe.Number.Precise

/-!
Logarithms and exponentials in fixed point. A step of a series loses at most one unit of
the last digit for each of its two roundings, and its terms decrease at least as those of
a geometric series, so that neither the losses nor the rest add up to much.
-/

namespace Astrolabe.Number.Precise

/-- The number that an integer stands for in fixed point. -/
noncomputable def fixed (bits : ℕ) (n : ℤ) : ℝ :=
  n / (2 ^ bits : ℕ)

theorem fixed_eq (bits : ℕ) (n : ℤ) : fixed bits n = n / 2 ^ bits := by
  rw [fixed, Nat.cast_pow, Nat.cast_ofNat]

theorem fixed_mono {bits : ℕ} {m n : ℤ} (le : m ≤ n) : fixed bits m ≤ fixed bits n :=
  div_le_div_of_nonneg_right (Int.cast_le.mpr le) (Nat.cast_nonneg _)

theorem fixed_nonneg {bits : ℕ} {n : ℤ} (h : 0 ≤ n) : 0 ≤ fixed bits n :=
  div_nonneg (Int.cast_nonneg h) (Nat.cast_nonneg _)

section

variable {bits : ℕ}

theorem ofFixed_eq (n : ℤ) : (ofFixed bits n : ℝ) = fixed bits n := by
  rw [ofFixed, Rat.mkRat_eq_div, fixed_eq]
  push_cast
  rfl

theorem twoPow_eq (e : ℤ) : (twoPow e : ℝ) = 2 ^ e := by
  unfold twoPow
  split
  next nonneg =>
    rw [Rat.mkRat_eq_div]
    push_cast
    rw [div_one, ← zpow_natCast, Int.toNat_of_nonneg nonneg]
  next negative =>
    rw [Rat.mkRat_eq_div]
    push_cast
    rw [← zpow_natCast, Int.toNat_of_nonneg (by omega), zpow_neg, one_div, inv_inv]

/-- A floored quotient is less than 1 below the quotient. -/
theorem abs_ediv_sub_le (a : ℤ) {b : ℕ} (hb : 0 < b) : |((a / b : ℤ) : ℝ) - a / b| ≤ 1 := by
  have positive : (0 : ℝ) < b := by exact_mod_cast hb
  have low : ((a / b : ℤ) : ℝ) * b ≤ a := by
    exact_mod_cast Int.ediv_mul_le a (by exact_mod_cast hb.ne')
  have high : (a : ℝ) ≤ ((a / b : ℤ) + 1) * b := by
    exact_mod_cast (Int.lt_ediv_add_one_mul_self a (by exact_mod_cast hb)).le
  rw [← le_div_iff₀ positive] at low
  rw [← div_le_iff₀ positive] at high
  rw [abs_le]
  exact ⟨by linarith, by linarith⟩

theorem unit_pos (bits : ℕ) : (0 : ℝ) < 1 / 2 ^ bits := by positivity

theorem abs_fixed_sub_le {n : ℤ} {x : ℝ} (h : |(n : ℝ) - x * 2 ^ bits| ≤ 1) :
    |fixed bits n - x| ≤ 1 / 2 ^ bits := by
  have positive : (0 : ℝ) < 2 ^ bits := by positivity
  rw [fixed_eq, ← mul_div_cancel_right₀ x positive.ne', ← sub_div, abs_div, abs_of_pos positive]
  exact div_le_div_of_nonneg_right h positive.le

theorem toFixed_near (bits : ℕ) (q : ℚ) : |fixed bits (toFixed bits q) - q| ≤ 1 / 2 ^ bits := by
  refine abs_fixed_sub_le ?_
  have scaled : (q : ℝ) * 2 ^ bits = (q.num * 2 ^ bits : ℤ) / q.den := by
    conv_lhs => rw [Rat.cast_def]
    push_cast
    ring
  rw [scaled]
  exact abs_ediv_sub_le _ q.den_pos

theorem mulFixed_near (bits : ℕ) (a b : ℤ) :
    |fixed bits (mulFixed bits a b) - fixed bits a * fixed bits b| ≤ 1 / 2 ^ bits := by
  refine abs_fixed_sub_le ?_
  have scaled : fixed bits a * fixed bits b * 2 ^ bits = (a * b : ℤ) / (2 ^ bits : ℕ) := by
    have positive : (0 : ℝ) < 2 ^ bits := by positivity
    simp only [fixed_eq]
    push_cast
    field_simp
  rw [scaled]
  exact abs_ediv_sub_le _ (Nat.two_pow_pos bits)

theorem fixed_ediv_near (bits : ℕ) (a : ℤ) {n : ℕ} (hn : 0 < n) :
    |fixed bits (a / n) - fixed bits a / n| ≤ 1 / 2 ^ bits := by
  refine abs_fixed_sub_le ?_
  have scaled : fixed bits a / n * 2 ^ bits = a / n := by
    have positive : (0 : ℝ) < 2 ^ bits := by positivity
    rw [fixed_eq, div_right_comm, div_mul_cancel₀ _ positive.ne']
  rw [scaled]
  exact abs_ediv_sub_le a hn

/-! Series. -/

/-- The powers that the terms of a series are made from. -/
def powers (step : ℕ → ℤ → ℤ) (first : ℤ) : ℕ → ℤ
  | 0 => first
  | k + 1 => step k (powers step first k)

theorem series_eq (step term : ℕ → ℤ → ℤ) (first : ℤ) (count : ℕ) :
    series step term first count =
      ∑ k ∈ Finset.range count, term k (powers step first k) := by
  have both : (List.range count).foldl
      (fun sums k => (sums.1 + term k sums.2, step k sums.2)) ((0, first) : ℤ × ℤ) =
        (∑ k ∈ Finset.range count, term k (powers step first k), powers step first count) := by
    induction count with
    | zero => rfl
    | succ count ih =>
        rw [List.range_succ, List.foldl_append, ih, Finset.sum_range_succ]
        rfl
  exact congrArg Prod.fst both

theorem fixed_sum (count : ℕ) (term : ℕ → ℤ) :
    fixed bits (∑ k ∈ Finset.range count, term k) =
      ∑ k ∈ Finset.range count, fixed bits (term k) := by
  simp only [fixed_eq]
  push_cast
  rw [Finset.sum_div]

theorem abs_sum_sub_le (count : ℕ) {a b : ℕ → ℝ} {e : ℝ} (h : ∀ k, |a k - b k| ≤ e) :
    |∑ k ∈ Finset.range count, a k - ∑ k ∈ Finset.range count, b k| ≤ count * e := by
  rw [← Finset.sum_sub_distrib]
  calc |∑ k ∈ Finset.range count, (a k - b k)|
      ≤ ∑ k ∈ Finset.range count, |a k - b k| := Finset.abs_sum_le_sum_abs _ _
    _ ≤ ∑ _k ∈ Finset.range count, e := Finset.sum_le_sum fun k _ => h k
    _ = count * e := by rw [Finset.sum_const, Finset.card_range, nsmul_eq_mul]

/-! Logarithms. -/

section

variable {z : ℤ} (small : |fixed bits z| ≤ 1 / 2)
include small

theorem square_near :
    |fixed bits (mulFixed bits z z) - fixed bits z ^ 2| ≤ 1 / 2 ^ bits ∧
      |fixed bits (mulFixed bits z z)| ≤ 1 / 4 := by
  have near := mulFixed_near bits z z
  rw [← pow_two] at near
  refine ⟨near, ?_⟩
  have positive : (0 : ℝ) < 2 ^ bits := by positivity
  have nonneg : (0 : ℝ) ≤ fixed bits (mulFixed bits z z) := by
    refine fixed_nonneg (Int.ediv_nonneg (mul_self_nonneg z) ?_)
    positivity
  have below : fixed bits (mulFixed bits z z) ≤ fixed bits z ^ 2 := by
    have floor : ((mulFixed bits z z : ℤ) : ℝ) * 2 ^ bits ≤ z * z := by
      exact_mod_cast Int.ediv_mul_le (z * z) (pow_ne_zero bits two_ne_zero)
    rw [fixed_eq, fixed_eq, div_pow, div_le_div_iff₀ positive (by positivity)]
    nlinarith
  have bound : fixed bits z ^ 2 ≤ 1 / 4 := by
    rw [← sq_abs]
    nlinarith [abs_nonneg (fixed bits z)]
  rw [abs_of_nonneg nonneg]
  exact below.trans bound

theorem abs_oddPower_le (k : ℕ) : |fixed bits z ^ (2 * k + 1)| ≤ 1 / 2 * (1 / 4) ^ k := by
  rw [abs_pow, pow_succ, pow_mul, mul_comm]
  have square : |fixed bits z| ^ 2 ≤ 1 / 4 := by nlinarith [abs_nonneg (fixed bits z)]
  exact mul_le_mul small (pow_le_pow_left₀ (sq_nonneg _) square k) (by positivity) (by norm_num)

theorem oddPower_near (k : ℕ) :
    |fixed bits (powers (fun _ power => mulFixed bits power (mulFixed bits z z)) z k) -
      fixed bits z ^ (2 * k + 1)| ≤ 2 * (1 / 2 ^ bits) := by
  obtain ⟨near, bound⟩ := square_near small
  set s := fixed bits (mulFixed bits z z)
  set x := fixed bits z with hx
  induction k with
  | zero => simp [powers, ← hx]
  | succ k ih =>
      set p := powers (fun _ power => mulFixed bits power (mulFixed bits z z)) z k with hp
      have rounding := mulFixed_near bits p (mulFixed bits z z)
      have power : |x ^ (2 * k + 1)| ≤ 1 / 2 :=
        (abs_oddPower_le small k).trans
          (mul_le_of_le_one_right (by norm_num) (pow_le_one₀ (by norm_num) (by norm_num)))
      have first : |(fixed bits p - x ^ (2 * k + 1)) * s| ≤ 2 * (1 / 2 ^ bits) * (1 / 4) := by
        rw [abs_mul]
        exact mul_le_mul ih bound (abs_nonneg _) (by positivity)
      have second : |x ^ (2 * k + 1) * (s - x ^ 2)| ≤ 1 / 2 * (1 / 2 ^ bits) := by
        rw [abs_mul]
        exact mul_le_mul power near (abs_nonneg _) (by norm_num)
      have split : fixed bits (mulFixed bits p (mulFixed bits z z)) - x ^ (2 * (k + 1) + 1) =
          (fixed bits (mulFixed bits p (mulFixed bits z z)) - fixed bits p * s) +
            (fixed bits p - x ^ (2 * k + 1)) * s + x ^ (2 * k + 1) * (s - x ^ 2) := by ring
      rw [powers, ← hp, split]
      refine (abs_add_three _ _ _).trans ?_
      linarith

theorem oddSeries_near :
    |2 * fixed bits (oddSeries bits false z) -
      (Real.log (1 + fixed bits z) - Real.log (1 - fixed bits z))| ≤
        (6 * bits + 2) * (1 / 2 ^ bits) := by
  set x := fixed bits z with hx
  let term (k : ℕ) : ℝ := 2 * (1 / (2 * k + 1)) * x ^ (2 * k + 1)
  have sum : HasSum term (Real.log (1 + x) - Real.log (1 - x)) :=
    Real.hasSum_log_sub_log_of_abs_lt_one (small.trans_lt (by norm_num))
  have bound (k : ℕ) : ‖term k‖ ≤ 1 * (1 / 4) ^ k := by
    have denominator : (1 : ℝ) ≤ 2 * k + 1 := by
      have : (0 : ℝ) ≤ k := k.cast_nonneg
      linarith
    rw [Real.norm_eq_abs, abs_mul, abs_of_pos (by positivity)]
    calc 2 * (1 / (2 * k + 1 : ℝ)) * |x ^ (2 * k + 1)|
        ≤ 2 * 1 * (1 / 2 * (1 / 4) ^ k) := by
          gcongr
          · exact (div_le_one (by linarith)).mpr denominator
          · exact abs_oddPower_le small k
      _ = 1 * (1 / 4) ^ k := by ring
  have rest := norm_sub_le_of_geometric_bound_of_hasSum (by norm_num) bound sum bits
  have tail : 1 * (1 / 4 : ℝ) ^ bits / (1 - 1 / 4) ≤ 2 * (1 / 2 ^ bits) := by
    have : (1 / 4 : ℝ) ^ bits ≤ (1 / 2) ^ bits := pow_le_pow_left₀ (by norm_num) (by norm_num) _
    rw [one_div_pow 2] at this
    rw [one_mul, div_le_iff₀ (by norm_num)]
    linarith [unit_pos bits]
  have terms (k : ℕ) : |2 * fixed bits
      (powers (fun _ power => mulFixed bits power (mulFixed bits z z)) z k / (2 * k + 1)) -
        term k| ≤ 6 * (1 / 2 ^ bits) := by
    set p := powers (fun _ power => mulFixed bits power (mulFixed bits z z)) z k
    have rounding := fixed_ediv_near bits p (Nat.succ_pos (2 * k))
    have power := oddPower_near small k
    push_cast at rounding
    have denominator : (1 : ℝ) ≤ 2 * k + 1 := by
      have : (0 : ℝ) ≤ k := k.cast_nonneg
      linarith
    have scaled : |(fixed bits p - x ^ (2 * k + 1)) / (2 * k + 1)| ≤ 2 * (1 / 2 ^ bits) := by
      rw [abs_div, abs_of_pos (by linarith : (0 : ℝ) < 2 * k + 1)]
      exact (div_le_self (abs_nonneg _) denominator).trans power
    have split : 2 * fixed bits (p / (2 * k + 1)) - term k =
        2 * ((fixed bits (p / (2 * k + 1)) - fixed bits p / (2 * k + 1)) +
          (fixed bits p - x ^ (2 * k + 1)) / (2 * k + 1)) := by
      simp only [term]
      ring
    rw [split, abs_mul, abs_two]
    have := abs_add_le (fixed bits (p / (2 * k + 1)) - fixed bits p / (2 * k + 1))
      ((fixed bits p - x ^ (2 * k + 1)) / (2 * k + 1))
    linarith
  have sums := abs_sum_sub_le bits terms
  rw [← Finset.mul_sum, ← fixed_sum] at sums
  have value : oddSeries bits false z = ∑ k ∈ Finset.range bits,
      powers (fun _ power => mulFixed bits power (mulFixed bits z z)) z k / (2 * k + 1) := by
    rw [oddSeries, series_eq]
    rfl
  rw [value]
  rw [Real.norm_eq_abs] at rest
  calc _ ≤ _ := abs_sub_le _ (∑ k ∈ Finset.range bits, term k) _
    _ ≤ bits * (6 * (1 / 2 ^ bits)) + 2 * (1 / 2 ^ bits) := add_le_add sums (rest.trans tail)
    _ = (6 * bits + 2) * (1 / 2 ^ bits) := by ring

end

end

end Astrolabe.Number.Precise
