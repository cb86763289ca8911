import Mathlib

/-!
Which angles have a rational square. Of a rational angle other than zero the tangent is
not rational, and a rational number is not the square of a quarter turn. Both follow
from combinations of sine and cosine that are rational multiples of one number with
denominators that grow as powers, and that decrease as the reciprocals of factorials.
-/

namespace Astrolabe.Number

open Real

/-- Combinations of the sine and cosine of an angle. Each has the one before it, times
twice the angle, as its derivative. -/
noncomputable def approximant (θ : ℝ) : ℕ → ℝ
  | 0 => 2 * sin θ
  | 1 => 4 * sin θ - 4 * θ * cos θ
  | n + 2 => (4 * n + 6) * approximant θ (n + 1) - 4 * θ ^ 2 * approximant θ n

theorem approximant_zero_succ (n : ℕ) : approximant 0 (n + 1) = 0 := by
  induction n with
  | zero => simp [approximant]
  | succ n ih => simp [approximant, ih]

theorem hasDerivAt_approximant_zero (θ : ℝ) :
    HasDerivAt (approximant · 0) (2 * cos θ) θ :=
  (hasDerivAt_sin θ).const_mul 2

theorem hasDerivAt_approximant_one (θ : ℝ) :
    HasDerivAt (approximant · 1) (2 * θ * approximant θ 0) θ := by
  have linear : HasDerivAt (fun t : ℝ => 4 * t) 4 θ := by
    simpa using (hasDerivAt_id θ).const_mul 4
  refine (((hasDerivAt_sin θ).const_mul 4).sub (linear.mul (hasDerivAt_cos θ))).congr_deriv ?_
  simp only [approximant]
  ring

theorem hasDerivAt_approximant_add_two {θ a b : ℝ} (n : ℕ)
    (first : HasDerivAt (approximant · n) a θ)
    (second : HasDerivAt (approximant · (n + 1)) b θ) :
    HasDerivAt (approximant · (n + 2))
      ((4 * n + 6) * b - (8 * θ * approximant θ n + 4 * θ ^ 2 * a)) θ := by
  have square : HasDerivAt (fun t : ℝ => 4 * t ^ 2) (8 * θ) θ := by
    refine ((hasDerivAt_pow 2 θ).const_mul 4).congr_deriv ?_
    push_cast
    ring
  exact (second.const_mul _).sub (square.mul first)

theorem hasDerivAt_approximant (θ : ℝ) (n : ℕ) :
    HasDerivAt (approximant · (n + 1)) (2 * θ * approximant θ n) θ := by
  induction n using Nat.twoStepInduction with
  | zero => exact hasDerivAt_approximant_one θ
  | one =>
      refine (hasDerivAt_approximant_add_two 0 (hasDerivAt_approximant_zero θ)
        (hasDerivAt_approximant_one θ)).congr_deriv ?_
      simp only [approximant]
      push_cast
      ring
  | more n first second =>
      refine (hasDerivAt_approximant_add_two (n + 1) first second).congr_deriv ?_
      simp only [approximant]
      push_cast
      ring

theorem abs_approximant_le {θ : ℝ} (hθ : 0 ≤ θ) (n : ℕ) :
    |approximant θ n| ≤ 2 * (θ ^ 2) ^ n / n.factorial := by
  induction n generalizing θ with
  | zero =>
      have := abs_sin_le_one θ
      simp only [approximant, abs_mul, abs_two, pow_zero, Nat.factorial_zero, Nat.cast_one]
      linarith
  | succ n ih =>
      -- the bound has the bound before it, times twice the angle, as its derivative
      have slope (t : ℝ) : HasDerivAt (fun s : ℝ => 2 * (s ^ 2) ^ (n + 1) / (n + 1).factorial)
          (2 * t * (2 * (t ^ 2) ^ n / n.factorial)) t := by
        refine ((((hasDerivAt_pow 2 t).pow (n + 1)).const_mul 2).div_const _).congr_deriv ?_
        have positive : (n.factorial : ℝ) ≠ 0 := by exact_mod_cast n.factorial_ne_zero
        rw [Nat.factorial_succ, Nat.add_sub_cancel]
        push_cast
        field_simp
      have zero : ‖approximant 0 (n + 1)‖ ≤ 2 * ((0 : ℝ) ^ 2) ^ (n + 1) / (n + 1).factorial := by
        simp [approximant_zero_succ]
      refine image_norm_le_of_norm_deriv_right_le_deriv_boundary (a := 0) (b := θ)
        (fun t _ => (hasDerivAt_approximant t n).continuousAt.continuousWithinAt)
        (fun t _ => (hasDerivAt_approximant t n).hasDerivWithinAt) zero slope ?_
        (Set.right_mem_Icc.mpr hθ)
      intro t ht
      have double : 0 ≤ 2 * t := by linarith [ht.1]
      rw [norm_eq_abs, abs_mul, abs_of_nonneg double]
      exact mul_le_mul_of_nonneg_left (ih ht.1) double

theorem approximant_ne_zero {θ : ℝ} (hθ : θ ≠ 0) (n : ℕ) :
    approximant θ n ≠ 0 ∨ approximant θ (n + 1) ≠ 0 := by
  induction n with
  | zero =>
      by_contra zero
      rw [not_or, not_not, not_not] at zero
      obtain ⟨first, second⟩ := zero
      simp only [approximant] at first second
      have sine : sin θ = 0 := by linarith
      have cosine : cos θ = 0 := by
        rw [sine, mul_zero, zero_sub, neg_eq_zero, mul_eq_zero] at second
        exact second.resolve_left (mul_ne_zero four_ne_zero hθ)
      have := sin_sq_add_cos_sq θ
      simp [sine, cosine] at this
  | succ n ih =>
      by_contra zero
      rw [not_or, not_not, not_not] at zero
      obtain ⟨first, second⟩ := zero
      rw [approximant, first, mul_zero, zero_sub, neg_eq_zero, mul_eq_zero] at second
      have square : 4 * θ ^ 2 ≠ 0 := by positivity
      exact ih.elim (fun h => h (second.resolve_left square)) (fun h => h first)

section

variable {θ c : ℝ} {square first second : ℚ}

/-- The approximants are rational multiples of a number if the first two are. -/
theorem exists_int_approximant (hsquare : θ ^ 2 = square)
    (hfirst : approximant θ 0 = c * first) (hsecond : approximant θ 1 = c * second) (n : ℕ) :
    ∃ z : ℤ, (first.den * second.den : ℝ) * square.den ^ n * approximant θ n = c * z := by
  have whole (q : ℚ) : (q : ℝ) * q.den = q.num := by exact_mod_cast q.mul_den_eq_num
  induction n using Nat.twoStepInduction with
  | zero =>
      refine ⟨first.num * second.den, ?_⟩
      push_cast
      rw [hfirst, ← whole]
      ring
  | one =>
      refine ⟨second.num * first.den * square.den, ?_⟩
      push_cast
      rw [hsecond, ← whole]
      ring
  | more n before last =>
      obtain ⟨y, hy⟩ := before
      obtain ⟨z, hz⟩ := last
      refine ⟨(4 * n + 6) * square.den * z - 4 * square.num * square.den * y, ?_⟩
      push_cast
      rw [approximant, hsquare, ← whole square]
      linear_combination ((4 * n + 6) * square.den : ℝ) * hz -
        (4 * (square * square.den) * square.den : ℝ) * hy

theorem not_rational_approximants (hθ : 0 < θ) (hc : c ≠ 0) (hsquare : θ ^ 2 = square)
    (hfirst : approximant θ 0 = c * first) (hsecond : approximant θ 1 = c * second) : False := by
  have small := (FloorSemiring.tendsto_pow_div_factorial_atTop (square.den * θ ^ 2)).const_mul
    (2 * (first.den * second.den : ℝ))
  rw [mul_zero] at small
  obtain ⟨N, hN⟩ := Filter.eventually_atTop.mp (small.eventually_lt_const (abs_pos.mpr hc))
  -- one of two late approximants does not vanish, and then its multiple is not below 1
  obtain ⟨n, hn, nonzero⟩ : ∃ n ≥ N, approximant θ n ≠ 0 :=
    (approximant_ne_zero hθ.ne' N).elim (fun h => ⟨N, le_rfl, h⟩) fun h => ⟨N + 1, by omega, h⟩
  obtain ⟨z, hz⟩ := exists_int_approximant hsquare hfirst hsecond n
  have denominators : (0 : ℝ) < first.den * second.den * square.den ^ n := by
    have := first.den_pos
    have := second.den_pos
    have := square.den_pos
    positivity
  have one_le : (1 : ℝ) ≤ |(z : ℝ)| := by
    have : z ≠ 0 := by
      rintro rfl
      rw [Int.cast_zero, mul_zero, mul_eq_zero] at hz
      exact hz.elim denominators.ne' nonzero
    exact_mod_cast Int.one_le_abs this
  have bound : |c| * |(z : ℝ)| < |c| :=
    calc |c| * |(z : ℝ)|
        = first.den * second.den * square.den ^ n * |approximant θ n| := by
          rw [← abs_mul, ← hz, abs_mul, abs_of_pos denominators]
      _ ≤ first.den * second.den * square.den ^ n * (2 * (θ ^ 2) ^ n / n.factorial) :=
          mul_le_mul_of_nonneg_left (abs_approximant_le hθ.le n) denominators.le
      _ = 2 * (first.den * second.den) * ((square.den * θ ^ 2) ^ n / n.factorial) := by
          rw [mul_pow]
          ring
      _ < |c| := hN n hn
  exact absurd bound (not_lt.mpr (le_mul_of_one_le_right (abs_nonneg c) one_le))

end

/-- The square of the ratio of a circle to its diameter is not rational. -/
theorem pi_sq_ne (q : ℚ) : π ^ 2 ≠ q := by
  intro h
  refine @not_rational_approximants (π / 2) 1 (q / 4) 2 4 (by positivity) one_ne_zero ?_ ?_ ?_
  · push_cast
    rw [← h]
    ring
  · simp [approximant]
  · simp [approximant]

/-- The tangent of a rational number is not rational, but for zero. -/
theorem tan_ne {r : ℚ} (hr : r ≠ 0) (hcos : cos r ≠ 0) (q : ℚ) : tan r ≠ q := by
  intro h
  wlog positive : 0 < r generalizing r q
  · refine this (r := -r) (neg_ne_zero.mpr hr) ?_ (-q) ?_ ?_
    · rwa [Rat.cast_neg, cos_neg]
    · rw [Rat.cast_neg, tan_neg, h, Rat.cast_neg]
    · exact neg_pos.mpr ((not_lt.mp positive).lt_of_ne hr)
  have sine : sin r = cos r * q := by rw [← h, mul_comm, tan_mul_cos hcos]
  refine @not_rational_approximants r (cos r) (r ^ 2) (2 * q) (4 * q - 4 * r)
    (by exact_mod_cast positive) hcos ?_ ?_ ?_
  · push_cast
    rfl
  · simp only [approximant, sine]
    push_cast
    ring
  · simp only [approximant, sine]
    push_cast
    ring

end Astrolabe.Number
