import Mathlib.Analysis.Real.Pi.Bounds
import Astrolabe.Proofs.Number.Series
import Astrolabe.Proofs.Relation.Division

/-!
How near logarithms, exponentials, powers and roots come to the real ones. Where a value
is not zero its error is a factor near 1, given by its logarithm, so that the errors of
factors add up and those of powers are multiples.
-/

namespace Astrolabe.Number.Precise

theorem unit_le : (1 : ℝ) / 2 ^ precision ≤ 1 / 2 ^ 240 :=
  one_div_pow_le_one_div_pow_of_le one_le_two (by decide)

theorem magnitude_bounds {q : ℚ} (hq : 0 < q) :
    (2 : ℝ) ^ (magnitude q - 1) < q ∧ (q : ℝ) < 2 ^ (magnitude q + 1) := by
  have num : q.num.natAbs ≠ 0 := by
    simpa using hq.ne'
  have value : (q : ℝ) = (q.num.natAbs : ℝ) / q.den := by
    rw [Rat.cast_def, Nat.cast_natAbs, abs_of_pos (Rat.num_pos.mpr hq)]
  have den_pos : (0 : ℝ) < q.den := by exact_mod_cast q.den_pos
  have num_low : (2 : ℝ) ^ q.num.natAbs.log2 ≤ q.num.natAbs := by
    exact_mod_cast Nat.log2_self_le num
  have num_high : (q.num.natAbs : ℝ) < 2 ^ (q.num.natAbs.log2 + 1) := by
    exact_mod_cast Nat.lt_log2_self
  have den_low : (2 : ℝ) ^ q.den.log2 ≤ q.den := by
    exact_mod_cast Nat.log2_self_le q.den_nz
  have den_high : (q.den : ℝ) < 2 ^ (q.den.log2 + 1) := by
    exact_mod_cast Nat.lt_log2_self
  have split (a b : ℕ) : (2 : ℝ) ^ ((a : ℤ) - b) = 2 ^ a / 2 ^ b := by
    rw [zpow_sub₀ two_ne_zero, zpow_natCast, zpow_natCast]
  have below : magnitude q - 1 = (q.num.natAbs.log2 : ℤ) - (q.den.log2 + 1 : ℕ) := by
    rw [magnitude]
    push_cast
    ring
  have above : magnitude q + 1 = (q.num.natAbs.log2 + 1 : ℕ) - (q.den.log2 : ℤ) := by
    rw [magnitude]
    push_cast
    ring
  rw [below, above, split, split, value]
  exact ⟨(div_lt_div_of_pos_left (by positivity) den_pos den_high).trans_le
      (div_le_div_of_nonneg_right num_low den_pos.le),
    (div_lt_div_of_pos_right num_high den_pos).trans_le
      (div_le_div_of_nonneg_left (by positivity) (by positivity) den_low)⟩

theorem abs_magnitude_le {q : ℚ} (hq : 0 < q) :
    |(magnitude q : ℝ)| ≤ 2 * |Real.log q| + 1 := by
  obtain ⟨low, high⟩ := magnitude_bounds hq
  have positive : (0 : ℝ) < q := by exact_mod_cast hq
  have lower := Real.log_lt_log (by positivity) low
  have upper := Real.log_lt_log positive high
  rw [Real.log_zpow] at lower upper
  push_cast at lower upper
  have two_pos := Real.log_two_gt_d9
  have two_le := Real.log_two_lt_d9
  have absolute := le_abs_self (Real.log q)
  have negative := neg_abs_le (Real.log q)
  rw [abs_le]
  constructor
  · by_contra beyond
    nlinarith
  · by_contra beyond
    nlinarith

theorem abs_log_sub_log_le {s t : ℝ} (hs : 1 / 2 ≤ s) (ht : 1 / 2 ≤ t) :
    |Real.log s - Real.log t| ≤ 2 * |s - t| := by
  have one_side {s t : ℝ} (hs : 1 / 2 ≤ s) (ht : 1 / 2 ≤ t) :
      Real.log s - Real.log t ≤ 2 * |s - t| := by
    have positive : 0 < t := by linarith
    have quotient := Real.log_le_sub_one_of_pos (div_pos (by linarith : 0 < s) positive)
    rw [Real.log_div (by linarith) positive.ne', div_sub_one positive.ne'] at quotient
    refine quotient.trans ?_
    rw [div_le_iff₀ positive]
    nlinarith [le_abs_self (s - t), abs_nonneg (s - t)]
  rw [abs_le]
  have := one_side ht hs
  rw [abs_sub_comm] at this
  exact ⟨by linarith, one_side hs ht⟩

/-- The accuracy of the odd series at a number near which its argument is. -/
theorem oddSeries_near_log {z : ℤ} {x : ℝ} (near : |fixed precision z - x| ≤ 1 / 2 ^ precision)
    (small : |x| ≤ 1 / 3) :
    |2 * fixed precision (oddSeries precision false z) -
      (Real.log (1 + x) - Real.log (1 - x))| ≤ 1 / 2 ^ 228 := by
  have tiny := unit_le
  have within : |fixed precision z| ≤ 1 / 2 := by
    have := abs_le.mp near
    have := abs_le.mp small
    rw [abs_le]
    constructor <;> linarith
  have series := oddSeries_near within
  obtain ⟨low, high⟩ := abs_le.mp within
  obtain ⟨low', high'⟩ := abs_le.mp small
  have plus := abs_log_sub_log_le (s := 1 + fixed precision z) (t := 1 + x) (by linarith)
    (by linarith)
  have minus := abs_log_sub_log_le (s := 1 - fixed precision z) (t := 1 - x) (by linarith)
    (by linarith)
  rw [add_sub_add_left_eq_sub] at plus
  rw [sub_sub_sub_cancel_left, abs_sub_comm x] at minus
  have count : ((precision : ℕ) : ℝ) = 420 := by norm_num [precision]
  rw [count] at series
  have split : 2 * fixed precision (oddSeries precision false z) -
      (Real.log (1 + x) - Real.log (1 - x)) =
      (2 * fixed precision (oddSeries precision false z) -
        (Real.log (1 + fixed precision z) - Real.log (1 - fixed precision z))) +
      (Real.log (1 + fixed precision z) - Real.log (1 + x)) +
      -(Real.log (1 - fixed precision z) - Real.log (1 - x)) := by ring
  rw [split]
  refine (abs_add_three _ _ _).trans ?_
  rw [abs_neg]
  linarith

theorem ln2_near : |fixed precision (ln2 precision) - Real.log 2| ≤ 1 / 2 ^ 228 := by
  have third : |fixed precision (2 ^ precision / 3) - 1 / 3| ≤ 1 / 2 ^ precision := by
    have whole : fixed precision (2 ^ precision) = 1 := by
      rw [fixed_eq, Int.cast_pow, Int.cast_ofNat, div_self (by positivity)]
    have near := fixed_ediv_near precision (2 ^ precision) three_pos
    rwa [whole] at near
  have near := oddSeries_near_log third (by norm_num [abs_of_pos])
  have value : Real.log (1 + 1 / 3) - Real.log (1 - 1 / 3) = Real.log 2 := by
    rw [← Real.log_div (by norm_num) (by norm_num)]
    norm_num
  rw [value] at near
  rw [ln2, fixed_eq, Int.cast_mul, Int.cast_ofNat, mul_div_assoc, ← fixed_eq]
  exact near

theorem ln_near {q : ℚ} (hq : 0 < q) :
    |(ln q : ℝ) - Real.log q| ≤ (1 + |Real.log q|) / 2 ^ 227 := by
  have positive : (0 : ℝ) < q := by exact_mod_cast hq
  obtain ⟨low, high⟩ := magnitude_bounds hq
  have exponent := abs_magnitude_le hq
  set e := magnitude q with he
  have power : (0 : ℝ) < 2 ^ e := by positivity
  set m := q * twoPow (-e) with hm
  have mantissa : (m : ℝ) = q / 2 ^ e := by
    rw [hm, Rat.cast_mul, twoPow_eq, zpow_neg, div_eq_mul_inv]
  have m_low : (1 / 2 : ℝ) < m := by
    rw [mantissa, lt_div_iff₀ power]
    rw [zpow_sub₀ two_ne_zero, zpow_one] at low
    linarith
  have m_high : (m : ℝ) < 2 := by
    rw [mantissa, div_lt_iff₀ power]
    rw [zpow_add₀ two_ne_zero, zpow_one] at high
    linarith
  set x : ℚ := (m - 1) / (m + 1) with hx
  have argument : (x : ℝ) = (m - 1) / (m + 1) := by
    rw [hx]
    push_cast
    rfl
  have small : |(x : ℝ)| ≤ 1 / 3 := by
    rw [argument, abs_le, le_div_iff₀ (by linarith), div_le_iff₀ (by linarith)]
    constructor <;> linarith
  have series := oddSeries_near_log (toFixed_near precision x) small
  have log_m : Real.log (1 + x) - Real.log (1 - x) = Real.log m := by
    have plus : (1 : ℝ) + x = 2 * m / (m + 1) := by
      rw [argument]
      field_simp
      ring
    have minus : (1 : ℝ) - x = 2 / (m + 1) := by
      rw [argument]
      field_simp
      ring
    rw [plus, minus, ← Real.log_div (by positivity) (by positivity),
      div_div_div_cancel_right₀ (by linarith), mul_div_cancel_left₀ _ two_ne_zero]
  have log_q : Real.log q = Real.log m + e * Real.log 2 := by
    rw [mantissa, Real.log_div positive.ne' power.ne', Real.log_zpow]
    ring
  have value : (ln q : ℝ) = 2 * fixed precision (oddSeries precision false (toFixed precision x)) +
      e * fixed precision (ln2 precision) := by
    simp only [ln]
    rw [ofFixed_eq, fixed_eq, fixed_eq, fixed_eq]
    push_cast
    ring
  rw [log_m] at series
  have turns : |(e : ℝ) * (fixed precision (ln2 precision) - Real.log 2)| ≤
      (2 * |Real.log q| + 1) * (1 / 2 ^ 228) := by
    rw [abs_mul]
    exact mul_le_mul exponent ln2_near (abs_nonneg _) (by positivity)
  have split : (ln q : ℝ) - Real.log q =
      (2 * fixed precision (oddSeries precision false (toFixed precision x)) - Real.log m) +
        e * (fixed precision (ln2 precision) - Real.log 2) := by
    rw [value, log_q]
    ring
  rw [split]
  calc _ ≤ _ := abs_add_le _ _
    _ ≤ 1 / 2 ^ 228 + (2 * |Real.log q| + 1) * (1 / 2 ^ 228) := add_le_add series turns
    _ = (1 + |Real.log q|) / 2 ^ 227 := by ring

theorem ln_one : ln 1 = 0 := by
  decide +kernel

/-! Exponentials. -/

theorem ln2_bounds :
    (1 : ℝ) / 2 ≤ fixed precision (ln2 precision) ∧ fixed precision (ln2 precision) ≤ 7 / 10 := by
  obtain ⟨low, high⟩ := abs_le.mp ln2_near
  have above := Real.log_two_gt_d9
  have below := Real.log_two_lt_d9
  constructor <;> linarith

theorem ln2_pos : 0 < ln2 precision := by
  have := ln2_bounds.1
  by_contra negative
  have quotient : fixed precision (ln2 precision) ≤ 0 :=
    div_nonpos_of_nonpos_of_nonneg (by exact_mod_cast not_lt.mp negative) (by positivity)
  linarith

section

variable {rest : ℤ} (nonneg : 0 ≤ fixed precision rest) (bound : fixed precision rest ≤ 3 / 4)
include nonneg bound

theorem expPower_near (k : ℕ) :
    |fixed precision
        (powers (fun k power => mulFixed precision power rest / (k + 1)) (2 ^ precision) k) -
      fixed precision rest ^ k / k.factorial| ≤ 8 * (1 / 2 ^ precision) := by
  set x := fixed precision rest with hx
  induction k with
  | zero =>
      have one : fixed precision (2 ^ precision) = 1 := by
        rw [fixed_eq, Int.cast_pow, Int.cast_ofNat, div_self (by positivity)]
      simp [powers, one]
  | succ k ih =>
      set p := powers (fun k power => mulFixed precision power rest / (k + 1)) (2 ^ precision) k
        with hp
      have product := mulFixed_near precision p rest
      have quotient := fixed_ediv_near precision (mulFixed precision p rest) (Nat.succ_pos k)
      push_cast at quotient
      have denominator : (1 : ℝ) ≤ k + 1 := by
        have : (0 : ℝ) ≤ k := k.cast_nonneg
        linarith
      have divided (y : ℝ) : |y / (k + 1)| ≤ |y| := by
        rw [abs_div, abs_of_pos (by linarith : (0 : ℝ) < k + 1)]
        exact div_le_self (abs_nonneg y) denominator
      have first := (divided _).trans product
      have second : |(fixed precision p - x ^ k / k.factorial) * x / (k + 1)| ≤
          8 * (1 / 2 ^ precision) * (3 / 4) := by
        refine (divided _).trans ?_
        rw [abs_mul, abs_of_nonneg nonneg]
        exact mul_le_mul ih bound nonneg (by positivity)
      have split : fixed precision (mulFixed precision p rest / (k + 1)) -
          x ^ (k + 1) / (k + 1).factorial =
            (fixed precision (mulFixed precision p rest / (k + 1)) -
              fixed precision (mulFixed precision p rest) / (k + 1)) +
            (fixed precision (mulFixed precision p rest) - fixed precision p * x) / (k + 1) +
            (fixed precision p - x ^ k / k.factorial) * x / (k + 1) := by
        have : (k.factorial : ℝ) ≠ 0 := by exact_mod_cast k.factorial_ne_zero
        rw [Nat.factorial_succ]
        push_cast
        field_simp
        ring
      rw [powers, ← hp, split]
      refine (abs_add_three _ _ _).trans ?_
      linarith

theorem expSeries_near :
    |fixed precision (series (fun k power => mulFixed precision power rest / (k + 1))
        (fun _ power => power) (2 ^ precision) (precision / 2)) -
      Real.exp (fixed precision rest)| ≤ 1 / 2 ^ 200 := by
  have sums := abs_sum_sub_le (precision / 2) (expPower_near nonneg bound)
  rw [← fixed_sum, ← series_eq _ fun _ power => power] at sums
  have small : |fixed precision rest| ≤ 1 := by
    rw [abs_of_nonneg nonneg]
    linarith
  have tail := Real.exp_bound small (by decide : 0 < precision / 2)
  have count : ((precision / 2 : ℕ) : ℝ) = 210 := by norm_num [precision]
  have factorial : (2 : ℝ) ^ 209 ≤ (precision / 2).factorial := by
    exact_mod_cast (by decide +kernel : 2 ^ 209 ≤ (precision / 2).factorial)
  have rest_le : |fixed precision rest| ^ (precision / 2) *
      ((precision / 2).succ / ((precision / 2).factorial * (precision / 2 : ℕ))) ≤
        1 / 2 ^ 208 := by
    have succ : ((precision / 2).succ : ℝ) = 211 := by norm_num [precision]
    rw [succ, count]
    generalize ((precision / 2).factorial : ℝ) = f at factorial
    have positive : 0 < f := lt_of_lt_of_le (by positivity) factorial
    have quotient : 211 / (f * 210) ≤ 1 / 2 ^ 208 := by
      rw [div_le_div_iff₀ (by positivity) (by positivity)]
      linarith
    exact (mul_le_mul (pow_le_one₀ (abs_nonneg _) small) quotient (by positivity)
      zero_le_one).trans_eq (one_mul _)
  rw [abs_sub_comm] at tail
  rw [count] at sums
  have unit := unit_le
  refine (abs_sub_le _ _ _).trans ((add_le_add sums (tail.trans rest_le)).trans ?_)
  linarith

end

/-! Values that are off by a factor near 1. -/

/-- A value is off by a factor of which the logarithm is bounded. -/
def Within (e v x : ℝ) : Prop :=
  ∃ t, |t| ≤ e ∧ v = x * Real.exp t

namespace Within

variable {d e v w x y : ℝ}

theorem refl (he : 0 ≤ e) (x : ℝ) : Within e x x :=
  ⟨0, by simpa using he, by simp⟩

theorem of_eq (h : v = x) : Within 0 v x :=
  h ▸ refl le_rfl v

theorem mono (h : Within d v x) (hde : d ≤ e) : Within e v x :=
  h.imp fun _ ht => ⟨ht.1.trans hde, ht.2⟩

theorem trans (h : Within d w v) (h' : Within e v x) : Within (d + e) w x := by
  obtain ⟨s, hs, rfl⟩ := h
  obtain ⟨t, ht, rfl⟩ := h'
  exact ⟨s + t, (abs_add_le s t).trans (add_le_add hs ht), by rw [Real.exp_add]; ring⟩

theorem mul (h : Within d v x) (h' : Within e w y) : Within (d + e) (v * w) (x * y) := by
  obtain ⟨s, hs, rfl⟩ := h
  obtain ⟨t, ht, rfl⟩ := h'
  exact ⟨s + t, (abs_add_le s t).trans (add_le_add hs ht), by rw [Real.exp_add]; ring⟩

theorem neg (h : Within e v x) : Within e (-v) (-x) := by
  obtain ⟨t, ht, rfl⟩ := h
  exact ⟨t, ht, by ring⟩

theorem zpow (h : Within e v x) (n : ℤ) : Within (|(n : ℝ)| * e) (v ^ n) (x ^ n) := by
  obtain ⟨t, ht, rfl⟩ := h
  refine ⟨n * t, ?_, ?_⟩
  · rw [abs_mul]
    exact mul_le_mul_of_nonneg_left ht (abs_nonneg _)
  · rw [mul_zpow, mul_comm (n : ℝ), Real.exp_mul, Real.rpow_intCast]

theorem sqrt (h : Within e v x) : Within (e / 2) √v √x := by
  obtain ⟨t, ht, rfl⟩ := h
  refine ⟨t / 2, ?_, ?_⟩
  · rw [abs_div, abs_two]
    exact div_le_div_of_nonneg_right ht two_pos.le
  · rw [Real.sqrt_mul' x (Real.exp_pos t).le, Real.exp_half]

theorem eq_zero_iff (h : Within e v x) : v = 0 ↔ x = 0 := by
  obtain ⟨t, -, rfl⟩ := h
  simp [(Real.exp_pos t).ne']

theorem neg_iff (h : Within e v x) : v < 0 ↔ x < 0 := by
  obtain ⟨t, -, rfl⟩ := h
  rw [mul_neg_iff]
  simp [Real.exp_pos t, (Real.exp_pos t).le]

theorem abs_sub_le (h : Within e v x) (he : e ≤ 1) : |v - x| ≤ |x| * (2 * e) := by
  obtain ⟨t, ht, rfl⟩ := h
  rw [← mul_sub_one, abs_mul]
  have := Real.abs_exp_sub_one_le (ht.trans he)
  exact mul_le_mul_of_nonneg_left (this.trans (by linarith)) (abs_nonneg x)

/-- A value of the order of 1 that is near another. -/
theorem of_abs_sub_le (hv : 1 / 2 ≤ v) (hx : 1 / 2 ≤ x) (h : |v - x| ≤ e) :
    Within (2 * e) v x := by
  refine ⟨Real.log v - Real.log x, ?_, ?_⟩
  · exact (abs_log_sub_log_le hv hx).trans (mul_le_mul_of_nonneg_left h two_pos.le)
  · rw [Real.exp_sub, Real.exp_log (by linarith), Real.exp_log (by linarith),
      mul_div_cancel₀ _ (by linarith)]

end Within

theorem exp_within {q : ℚ} (hq : |(q : ℝ)| ≤ 100000) :
    Within (1 / 2 ^ 190) (exp q) (Real.exp q) := by
  obtain ⟨low, high⟩ := abs_le.mp hq
  have clamped : clampExponent q = q := by
    have below : ¬ exponentLimit < q := not_lt.mpr (by rw [exponentLimit]; exact_mod_cast high)
    have above : ¬ q < -exponentLimit := not_lt.mpr (by rw [exponentLimit]; exact_mod_cast low)
    rw [clampExponent, if_neg below, if_neg above]
  obtain ⟨half_le, le_seven⟩ := ln2_bounds
  set x := toFixed precision q with hx
  set turns := x / ln2 precision with hturns
  set rest := x - turns * ln2 precision with hrest
  have value : (exp q : ℝ) = fixed precision (series
      (fun k power => mulFixed precision power rest / (k + 1)) (fun _ power => power)
      (2 ^ precision) (precision / 2)) * 2 ^ turns := by
    simp only [exp, clamped]
    rw [Rat.cast_mul, ofFixed_eq, twoPow_eq]
  have remainder : rest = x % ln2 precision := by
    rw [hrest, Int.emod_def, mul_comm]
  have nonneg : 0 ≤ fixed precision rest := by
    refine fixed_nonneg ?_
    rw [remainder]
    exact Int.emod_nonneg x ln2_pos.ne'
  have below : fixed precision rest ≤ fixed precision (ln2 precision) := by
    refine fixed_mono ?_
    rw [remainder]
    exact (Int.emod_lt_of_pos x ln2_pos).le
  have near := expSeries_near nonneg (below.trans (le_seven.trans (by norm_num)))
  have parts : fixed precision x = fixed precision rest +
      turns * fixed precision (ln2 precision) := by
    simp only [fixed_eq, hrest]
    push_cast
    ring
  have rounding := toFixed_near precision q
  rw [← hx] at rounding
  have unit := unit_le
  obtain ⟨round_low, round_high⟩ := abs_le.mp (rounding.trans unit)
  have turns_le : |(turns : ℝ)| ≤ 200004 := by
    rw [abs_le]
    constructor
    · by_contra beyond
      nlinarith
    · by_contra beyond
      nlinarith
  have one_le := Real.one_le_exp nonneg
  have series_low : 1 / 2 ≤ fixed precision (series
      (fun k power => mulFixed precision power rest / (k + 1)) (fun _ power => power)
      (2 ^ precision) (precision / 2)) := by
    linarith [(abs_le.mp near).1]
  obtain ⟨t, ht, sum⟩ := Within.of_abs_sub_le series_low (by linarith) near
  have drift : |(turns : ℝ) * (Real.log 2 - fixed precision (ln2 precision))| ≤
      200004 * (1 / 2 ^ 228) := by
    rw [abs_mul, abs_sub_comm]
    exact mul_le_mul turns_le ln2_near (abs_nonneg _) (by norm_num)
  refine ⟨t + (fixed precision x - q) +
    turns * (Real.log 2 - fixed precision (ln2 precision)), ?_, ?_⟩
  · refine (abs_add_three _ _ _).trans ?_
    linarith
  · rw [value, sum, ← Real.rpow_intCast, Real.rpow_def_of_pos two_pos, ← Real.exp_add,
      ← Real.exp_add, ← Real.exp_add, parts]
    ring_nf

theorem pow_within {q y : ℚ} (hq : 0 < q) (base : |Real.log q| ≤ 4097) (hy : |(y : ℝ)| ≤ 2 ^ 70)
    (bound : |y * Real.log q| ≤ 90000) :
    Within (1 / 2 ^ 130) (pow q y) ((q : ℝ) ^ (y : ℝ)) := by
  have positive : (0 : ℝ) < q := by exact_mod_cast hq
  have error : |(y : ℝ) * (ln q - Real.log q)| ≤ 2 ^ 70 * (4098 / 2 ^ 227) := by
    rw [abs_mul]
    refine mul_le_mul hy ((ln_near hq).trans ?_) (abs_nonneg _) (by positivity)
    linarith
  have exponent : ((y * ln q : ℚ) : ℝ) = y * Real.log q + y * (ln q - Real.log q) := by
    push_cast
    ring
  have size : |((y * ln q : ℚ) : ℝ)| ≤ 100000 := by
    rw [exponent]
    refine (abs_add_le _ _).trans ((add_le_add bound error).trans ?_)
    norm_num
  obtain ⟨t, ht, value⟩ := exp_within size
  refine ⟨y * (ln q - Real.log q) + t, (abs_add_le _ _).trans ?_, ?_⟩
  · refine (add_le_add error ht).trans ?_
    norm_num
  · rw [pow, value, exponent, Real.rpow_def_of_pos positive, ← Real.exp_add, ← Real.exp_add]
    ring_nf

theorem pow_one (y : ℚ) : pow 1 y = 1 := by
  rw [pow, ln_one, mul_zero]
  decide +kernel

/-! Roots. -/

theorem floorSqrt_spec (digits : ℕ) {n : ℕ} (h : n < 4 ^ digits) :
    floorSqrt digits n ^ 2 ≤ n ∧ n < (floorSqrt digits n + 1) ^ 2 := by
  induction digits generalizing n with
  | zero =>
      obtain rfl : n = 0 := by simpa using h
      exact ⟨le_rfl, Nat.one_pos⟩
  | succ digits ih =>
      have quarter : n / 4 < 4 ^ digits := by
        rw [pow_succ] at h
        omega
      obtain ⟨low, high⟩ := ih quarter
      have above : n < 4 * (floorSqrt digits (n / 4) + 1) ^ 2 := by omega
      have below : 4 * floorSqrt digits (n / 4) ^ 2 ≤ n := by omega
      simp only [floorSqrt]
      split
      next fits => constructor <;> nlinarith
      next beyond => constructor <;> nlinarith

theorem root_spec (n : ℕ) :
    floorSqrt (n.log2 / 2 + 1) n ^ 2 ≤ n ∧ n < (floorSqrt (n.log2 / 2 + 1) n + 1) ^ 2 := by
  refine floorSqrt_spec _ ?_
  calc n < 2 ^ (n.log2 + 1) := Nat.lt_log2_self
    _ ≤ 2 ^ (2 * (n.log2 / 2 + 1)) := Nat.pow_le_pow_right two_pos (by omega)
    _ = 4 ^ (n.log2 / 2 + 1) := pow_mul 2 2 _

/-- A whole number that is the floor of a large real one. -/
theorem within_of_floor {r w : ℝ} (large : 2 ^ 200 ≤ w) (low : r ≤ w) (high : w < r + 1) :
    Within (1 / 2 ^ 199) r w := by
  have positive : 0 < w := lt_of_lt_of_le (by positivity) large
  have quotient : |r / w - 1| ≤ 1 / 2 ^ 200 := by
    rw [div_sub_one positive.ne', abs_div, abs_of_pos positive, div_le_iff₀ positive, abs_le]
    constructor <;> linarith
  have half : 1 / 2 ≤ r / w := by
    linarith [(abs_le.mp quotient).1]
  obtain ⟨t, ht, value⟩ := Within.of_abs_sub_le half (by norm_num) quotient
  refine ⟨t, ht.trans (by norm_num), ?_⟩
  rw [one_mul, div_eq_iff positive.ne'] at value
  rw [value, mul_comm]

theorem sqrt_within {q : ℚ} (hq : 0 ≤ q) : Within (1 / 2 ^ 199) (sqrt q) √(q : ℝ) := by
  obtain rfl | positive := hq.eq_or_lt
  · rw [(sqrt_eq_zero_iff le_rfl).mpr rfl, Rat.cast_zero, Real.sqrt_zero]
    exact Within.refl (by positivity) 0
  have num : q.num.natAbs ≠ 0 := by simpa using positive.ne'
  have den_pos : (0 : ℝ) < q.den := by exact_mod_cast q.den_pos
  have value : (q : ℝ) = q.num.natAbs / q.den := by
    rw [Rat.cast_def, Nat.cast_natAbs, abs_of_pos (Rat.num_pos.mpr positive)]
  simp only [sqrt]
  split
  next exact =>
    simp only [Bool.and_eq_true, beq_iff_eq] at exact
    set a := floorSqrt (q.num.natAbs.log2 / 2 + 1) q.num.natAbs
    set b := floorSqrt (q.den.log2 / 2 + 1) q.den
    have root : √(q : ℝ) = a / b := by
      rw [value, ← exact.1, ← exact.2]
      push_cast
      rw [← div_mul_div_comm, Real.sqrt_mul_self (by positivity)]
    rw [Rat.mkRat_eq_div, root]
    push_cast
    exact Within.refl (by positivity) _
  next =>
    set shift := precision + (q.den.log2 - q.num.natAbs.log2) with hshift
    set n := q.num.natAbs * 4 ^ shift / q.den with hn
    obtain ⟨low, high⟩ := root_spec n
    set r := floorSqrt (n.log2 / 2 + 1) n
    have scale : (0 : ℝ) < 2 ^ shift := by positivity
    have square : (√(q : ℝ) * 2 ^ shift) ^ 2 = q.num.natAbs * 4 ^ shift / q.den := by
      rw [mul_pow, Real.sq_sqrt (by exact_mod_cast hq), value, ← pow_mul, mul_comm shift,
        pow_mul]
      norm_num
      ring
    have large : (2 : ℝ) ^ 200 ≤ √(q : ℝ) * 2 ^ shift := by
      refine le_of_sq_le_sq ?_ (by positivity)
      rw [square, le_div_iff₀ den_pos, pow_two]
      exact_mod_cast two_pow_mul_le_shifted num q.den
    have floor_le : (n : ℝ) ≤ q.num.natAbs * 4 ^ shift / q.den := by
      rw [le_div_iff₀ den_pos]
      exact_mod_cast Nat.div_mul_le_self _ _
    have lt_floor : (q.num.natAbs * 4 ^ shift / q.den : ℝ) < n + 1 := by
      rw [div_lt_iff₀ den_pos]
      exact_mod_cast Nat.lt_mul_of_div_lt (Nat.lt_succ_self n) q.den_pos
    have root_le : (r : ℝ) ≤ √(q : ℝ) * 2 ^ shift := by
      refine le_of_sq_le_sq ?_ (by positivity)
      rw [square]
      exact (by exact_mod_cast low : (r : ℝ) ^ 2 ≤ n).trans floor_le
    have lt_root : √(q : ℝ) * 2 ^ shift < r + 1 := by
      refine lt_of_pow_lt_pow_left₀ 2 (by positivity) ?_
      rw [square]
      exact lt_floor.trans_le (by exact_mod_cast high)
    obtain ⟨t, ht, within⟩ := within_of_floor large root_le lt_root
    refine ⟨t, ht, ?_⟩
    rw [ofFixed_eq, fixed_eq]
    push_cast
    rw [div_eq_iff scale.ne', within]
    ring

theorem abs_sub_pi_le {q : ℚ} (low : 3.14159265358979323846 ≤ q)
    (high : q ≤ 3.14159265358979323847) : |(q : ℝ) - Real.pi| ≤ 1 / 10 ^ 20 := by
  have low : ((3.14159265358979323846 : ℚ) : ℝ) ≤ q := Rat.cast_le.mpr low
  have high : (q : ℝ) ≤ (3.14159265358979323847 : ℚ) := Rat.cast_le.mpr high
  push_cast at low high
  have above := Real.pi_gt_d20
  have below := Real.pi_lt_d20
  rw [abs_le]
  constructor <;> linarith

theorem piValue_near : |(Relation.Value.piValue : ℝ) - Real.pi| ≤ 1 / 10 ^ 20 :=
  abs_sub_pi_le (by decide +kernel) (by decide +kernel)

theorem pi_within : Within (1 / 2 ^ 65) Relation.Value.piValue Real.pi := by
  have near := piValue_near
  have three := Real.pi_gt_three
  refine (Within.of_abs_sub_le ?_ (by linarith) near).mono (by norm_num)
  linarith [(abs_le.mp near).1]

end Astrolabe.Number.Precise
