import Mathlib
import Astrolabe.Proofs.Number.Accuracy
import Astrolabe.Proofs.Relation.Collected

/-!
The values of sides near their real ones. Sums, products and integer powers of given
numbers are exact, as long as the terms of no sum cancel. Other powers, logarithms and
multiples of pi are off by a factor near 1 that is bounded from the shape of the side.
-/

namespace Astrolabe.Relation

open Number Precise

/-! Values as rational numbers. -/

/-- A value is a rational number; only zero may be a true zero. -/
def Value.Holds (v : Value) (q : ℚ) : Prop :=
  v = .zero ∧ q = 0 ∨ v = .real q

/-- The total of the terms that are not zero; there are such terms unless the total is zero. -/
structure Value.Total.Holds (t : Value.Total) (q : ℚ) : Prop where
  sum : t.sum = q
  top : t.top = none ↔ q = 0

def Value.Partial.Holds : Value.Partial → ℚ → Prop
  | .value v, q => v.Holds q
  | .sum re im, q => re.Holds q ∧ im.Holds 0

namespace Value

variable {v w : Value} {q r : ℚ}

theorem holds_real (q : ℚ) : (real q).Holds q :=
  .inr rfl

theorem holds_zero : zero.Holds 0 :=
  .inl ⟨rfl, rfl⟩

theorem holds_ofRat (q : ℚ) : (ofRat q).Holds q := by
  unfold ofRat
  split
  next zero => exact .inl ⟨rfl, zero⟩
  next => exact .inr rfl

theorem Total.holds_empty : Total.empty.Holds 0 :=
  ⟨rfl, by simp [Total.empty]⟩

theorem Total.holds_ofPart (q : ℚ) : (Total.ofPart (some q)).Holds q := by
  unfold Total.ofPart
  split
  next part =>
    cases part
    split
    next zero => exact zero ▸ Total.holds_empty
    next nonzero => exact ⟨rfl, by simp [nonzero]⟩
  next => contradiction

theorem Total.Holds.join {s t : Total} (hs : s.Holds q) (ht : t.Holds r)
    (balanced : q + r = 0 → q = 0 ∧ r = 0) : (s.join t).Holds (q + r) := by
  obtain ⟨a, top⟩ := s
  obtain ⟨b, top'⟩ := t
  obtain ⟨rfl, hs⟩ := hs
  obtain ⟨rfl, ht⟩ := ht
  refine ⟨rfl, ?_⟩
  dsimp only at hs ht balanced
  constructor
  · intro none
    cases top with
    | none =>
        cases top' with
        | none => rw [hs.mp rfl, ht.mp rfl, add_zero]
        | some y => simp [Total.join] at none
    | some x => cases top' <;> simp [Total.join] at none
  · intro zero
    obtain ⟨left, right⟩ := balanced zero
    rw [hs.mpr left, ht.mpr right]
    rfl

theorem Total.Holds.part {t : Total} (h : t.Holds q) :
    t.part = if q = 0 then none else some q := by
  obtain ⟨rfl, top⟩ := h
  by_cases zero : t.sum = 0
  · rw [Total.part, top.mpr zero, if_pos zero, Option.map_none]
  · obtain ⟨e, he⟩ := Option.ne_none_iff_exists'.mp fun none => zero (top.mp none)
    rw [Total.part, he, Option.map_some, if_neg zero, if_neg zero]

theorem Partial.Holds.finish {p : Partial} (h : p.Holds q) : p.finish.Holds q := by
  cases p with
  | value v => exact h
  | sum re im =>
      simp only [Partial.finish, h.1.part, h.2.part, if_true]
      split
      next zero => exact .inl ⟨rfl, zero⟩
      next => exact .inr rfl

theorem Partial.Holds.open? {p : Partial} (h : p.Holds q) :
    ∃ re im, p.open? = some (re, im) ∧ re.Holds q ∧ im.Holds 0 := by
  cases p with
  | value v =>
      obtain ⟨rfl, rfl⟩ | rfl := h
      · exact ⟨_, _, rfl, Total.holds_empty, Total.holds_empty⟩
      · exact ⟨_, _, rfl, Total.holds_ofPart q, Total.holds_empty⟩
  | sum re im => exact ⟨re, im, rfl, h.1, h.2⟩

/-- A sum is exact where its terms do not cancel. -/
theorem Partial.Holds.add {p p' : Partial} (h : p.Holds q) (h' : p'.Holds r)
    (balanced : q + r = 0 → q = 0 ∧ r = 0) : (Value.add p p').Holds (q + r) := by
  obtain ⟨re, im, opened, hre, him⟩ := h.open?
  obtain ⟨re', im', opened', hre', him'⟩ := h'.open?
  simp only [Value.add, opened, opened']
  have imaginary := him.join him' fun _ => ⟨rfl, rfl⟩
  rw [add_zero] at imaginary
  exact ⟨hre.join hre' balanced, imaginary⟩

theorem Holds.mul (hv : v.Holds q) (hw : w.Holds r) : (v.mul w).Holds (q * r) := by
  obtain ⟨rfl, rfl⟩ | rfl := hv
  · obtain ⟨rfl, rfl⟩ | rfl := hw <;> exact .inl ⟨rfl, zero_mul _⟩
  · obtain ⟨rfl, rfl⟩ | rfl := hw
    · refine .inl ⟨?_, mul_zero _⟩
      by_cases zero : q = 0 <;> simp [Value.mul, isZero, isGivenZero, real, Value.zero]
    · by_cases left : q = 0
      · exact .inl ⟨by simp [Value.mul, isZero, isGivenZero, real, left], by simp [left]⟩
      · by_cases right : r = 0
        · exact .inl ⟨by simp [Value.mul, isZero, isGivenZero, real, right], by simp [right]⟩
        · exact .inr (by simp [Value.mul, isZero, isGivenZero, real, left, right])

/-! Powers. -/

/-- A power of a number that is not near zero, one or infinity beyond reason. -/
def PowerBounded (x y : ℝ) : Prop :=
  x ≠ 0 → |x| = 1 ∨ |Real.log x| ≤ 4096 ∧ |y| ≤ (2 ^ 69 : ℕ) ∧ |y * Real.log x| ≤ 80000

theorem powerBounded_iff {x y : ℝ} : PowerBounded x y ↔
    (x ≠ 0 → |x| = 1 ∨ |Real.log x| ≤ 4096 ∧ |y| ≤ 2 ^ 69 ∧ |y * Real.log x| ≤ 80000) := by
  rw [PowerBounded, Nat.cast_pow, Nat.cast_ofNat]

theorem pow_near {q y : ℚ} (hq : 0 < q)
    (bounded : q = 1 ∨ |Real.log q| ≤ 4097 ∧ |(y : ℝ)| ≤ 2 ^ 70 ∧ |y * Real.log q| ≤ 90000) :
    Within (1 / 2 ^ 120) (Precise.pow q y) ((q : ℝ) ^ (y : ℝ)) := by
  obtain rfl | ⟨base, exponent, product⟩ := bounded
  · rw [Precise.pow_one, Rat.cast_one, Real.one_rpow]
    exact Within.refl (by positivity) 1
  · exact (pow_within hq base exponent product).mono (by norm_num)

theorem abs_zpow_of_odd {q : ℚ} {n : ℤ} (hq : q < 0) (odd : n % 2 ≠ 0) :
    (q : ℝ) ^ n = -|(q : ℝ)| ^ n := by
  have : (q : ℝ) < 0 := by exact_mod_cast hq
  rw [abs_of_neg this, Odd.neg_zpow (Int.odd_iff.mpr (by omega)), neg_neg]

theorem abs_zpow_of_even {q : ℚ} {n : ℤ} (even : ¬(q < 0 ∧ n % 2 ≠ 0)) :
    (q : ℝ) ^ n = |(q : ℝ)| ^ n := by
  obtain negative | nonneg := lt_or_ge q 0
  · have : (q : ℝ) < 0 := by exact_mod_cast negative
    rw [abs_of_neg this, Even.neg_zpow (Int.even_iff.mpr (by
      by_contra odd
      exact even ⟨negative, odd⟩))]
  · rw [abs_of_nonneg (by exact_mod_cast nonneg)]

theorem wholePower_near {q : ℚ} {n : ℤ} (hq : q ≠ 0)
    (bounded : |(q : ℝ)| = 1 ∨
      |Real.log q| ≤ 4097 ∧ |(n : ℝ)| ≤ 2 ^ 70 ∧ |n * Real.log q| ≤ 90000) :
    Within (1 / 2 ^ 120) (wholePower q n) ((q : ℝ) ^ n) := by
  unfold wholePower
  split
  next =>
    push_cast
    exact Within.refl (by positivity) _
  next =>
    have size_eq : (absolute q : ℝ) = |(q : ℝ)| := by
      unfold absolute
      split
      next negative => rw [Rat.cast_neg, abs_of_neg (by exact_mod_cast negative)]
      next nonneg => rw [abs_of_nonneg (by exact_mod_cast not_lt.mp nonneg)]
    have positive : 0 < absolute q := by
      have : (0 : ℝ) < absolute q := by
        rw [size_eq]
        exact abs_pos.mpr (by exact_mod_cast hq)
      exact_mod_cast this
    have size : Within (1 / 2 ^ 120) (Precise.pow (absolute q) n) (|(q : ℝ)| ^ n) := by
      have bounds : absolute q = 1 ∨ |Real.log (absolute q)| ≤ 4097 ∧
          |((n : ℚ) : ℝ)| ≤ 2 ^ 70 ∧ |((n : ℚ) : ℝ) * Real.log (absolute q)| ≤ 90000 := by
        rw [size_eq, Real.log_abs, Rat.cast_intCast]
        refine bounded.imp_left fun one => ?_
        rw [← size_eq] at one
        exact_mod_cast one
      have near := pow_near positive bounds
      rw [size_eq, Rat.cast_intCast, Real.rpow_intCast] at near
      exact near
    simp only [Precise.pow] at size
    split
    next odd =>
      simp only [Bool.and_eq_true, decide_eq_true_eq, bne_iff_ne] at odd
      rw [abs_zpow_of_odd odd.1 odd.2, Rat.cast_neg]
      exact size.neg
    next even =>
      simp only [Bool.and_eq_true, decide_eq_true_eq, bne_iff_ne] at even
      rw [abs_zpow_of_even even]
      exact size

/-- An integer power, by the rule for numbers that are not zero. -/
theorem Holds.intPow (hv : v.Holds q) {n : ℤ} (h : q = 0 → 0 ≤ n) :
    ∃ w, v.intPow n = .ok w ∧ w.Holds (if q = 0 then 0 else wholePower q n) := by
  obtain ⟨rfl, rfl⟩ | rfl := hv
  · refine ⟨zero, ?_, by simpa using holds_zero⟩
    simp [Value.intPow, Value.zero, not_lt.mpr (h rfl)]
  · by_cases zero : q = 0
    · refine ⟨real 0, ?_, by simpa [zero] using holds_real 0⟩
      simp [Value.intPow, real, zero, not_lt.mpr (h zero)]
    · refine ⟨real (wholePower q n), ?_, by simpa [zero] using holds_real _⟩
      simp [Value.intPow, real, zero]

theorem Holds.sqrt (hv : v.Holds q) (hq : 0 ≤ q) : v.sqrt.Holds (Precise.sqrt q) := by
  obtain ⟨rfl, rfl⟩ | rfl := hv
  · exact .inl ⟨rfl, (sqrt_eq_zero_iff le_rfl).mpr rfl⟩
  · exact .inr (by simp [Value.sqrt, real, not_lt.mpr hq])

theorem zpow_num_of_den_eq_two {q y : ℚ} (hq : 0 ≤ q) (hy : y.den = 2) :
    √(q : ℝ) ^ y.num = (q : ℝ) ^ (y : ℝ) := by
  have nonneg : (0 : ℝ) ≤ q := by exact_mod_cast hq
  have half : (y : ℝ) = 1 / 2 * y.num := by
    rw [Rat.cast_def, hy]
    push_cast
    ring
  rw [half, Real.rpow_mul nonneg, ← Real.sqrt_eq_rpow, Real.rpow_intCast]

theorem rpow_num_of_den_eq_one {y : ℚ} (x : ℝ) (hy : y.den = 1) : x ^ y.num = x ^ (y : ℝ) := by
  rw [← Real.rpow_intCast, ← Rat.cast_intCast, Rat.coe_int_num_of_den_eq_one hy]

/-- The root of a number in bounds is in bounds, for twice the exponent. -/
theorem wholePower_sqrt_near {q y : ℚ} (hq : 0 < q) (hy : y.den = 2)
    (bounded : PowerBounded q y) :
    Within (1 / 2 ^ 100) (wholePower (Precise.sqrt q) y.num) ((q : ℝ) ^ (y : ℝ)) := by
  have positive : (0 : ℝ) < q := by exact_mod_cast hq
  have num : (y.num : ℝ) = 2 * y := by
    rw [Rat.cast_def, hy]
    push_cast
    ring
  have root := sqrt_within hq.le
  have nonzero : Precise.sqrt q ≠ 0 := (sqrt_eq_zero_iff hq.le).not.mpr hq.ne'
  rw [← zpow_num_of_den_eq_two hq.le hy]
  obtain one | ⟨base, exponent, product⟩ := powerBounded_iff.mp bounded positive.ne'
  · obtain rfl : q = 1 := by
      rw [abs_of_pos positive] at one
      exact_mod_cast one
    have root_one : Precise.sqrt 1 = 1 := by decide +kernel
    have near := wholePower_near (q := Precise.sqrt 1) (n := y.num) nonzero
      (.inl (by rw [root_one]; simp))
    simp only [root_one, Rat.cast_one, one_zpow] at near
    simp only [root_one, Rat.cast_one, Real.sqrt_one, one_zpow]
    exact near.mono (by norm_num)
  · obtain ⟨t, ht, value⟩ := sqrt_within hq.le
    have log_root : Real.log (Precise.sqrt q) = 1 / 2 * Real.log q + t := by
      rw [value, Real.log_mul (Real.sqrt_pos.mpr positive).ne' (Real.exp_pos t).ne', Real.log_exp,
        Real.log_sqrt positive.le]
      ring
    have near := wholePower_near (n := y.num) nonzero (.inr ⟨?_, ?_, ?_⟩)
    · have powers := near.trans (root.zpow y.num)
      refine powers.mono ?_
      have double : |(y.num : ℝ)| ≤ 2 ^ 70 := by
        rw [num, abs_mul, abs_two]
        linarith
      have := mul_le_mul_of_nonneg_right double (by positivity : (0 : ℝ) ≤ 1 / 2 ^ 199)
      linarith
    · rw [log_root]
      refine (abs_add_le _ _).trans ?_
      rw [abs_mul, abs_of_pos (by norm_num : (0 : ℝ) < 1 / 2)]
      linarith
    · rw [num, abs_mul, abs_two]
      linarith
    · have split : (y.num : ℝ) * Real.log (Precise.sqrt q) = y * Real.log q + 2 * y * t := by
        rw [log_root, num]
        ring
      have drift : |2 * (y : ℝ) * t| ≤ 2 * 2 ^ 69 * (1 / 2 ^ 199) := by
        rw [abs_mul, abs_mul, abs_two]
        gcongr
      rw [split]
      refine (abs_add_le _ _).trans ((add_le_add product drift).trans ?_)
      norm_num

theorem zero_rpow_within {q y : ℚ} (hq : q = 0) (hy : y ≠ 0) :
    Within (1 / 2 ^ 100) ((0 : ℚ) : ℝ) ((q : ℝ) ^ (y : ℝ)) := by
  have : (y : ℝ) ≠ 0 := by exact_mod_cast hy
  rw [hq, Rat.cast_zero, Real.zero_rpow this]
  exact Within.refl (by positivity) 0

theorem nonneg_of_fraction {q y : ℚ} (power : PowerDefined q y)
    (fraction : ¬y.den = 1) : 0 ≤ q := by
  by_contra negative
  obtain ⟨n, hn⟩ := power.whole (by exact_mod_cast not_le.mp negative)
  have : y = n := by exact_mod_cast hn
  exact fraction (by rw [this, Rat.den_intCast])

theorem ne_zero_of_fraction {y : ℚ} (fraction : ¬y.den = 1) : y ≠ 0 := by
  rintro rfl
  exact fraction Rat.den_zero

/-- A power with an integer for exponent, other than zero. -/
theorem intPow_near {q y : ℚ} (whole : y.den = 1) (nonzero : y ≠ 0) (nonneg : q = 0 → 0 ≤ y) :
    ∃ v r, (real q).intPow y.num = .ok v ∧ v.Holds r ∧
      (PowerBounded q y → Within (1 / 2 ^ 100) r ((q : ℝ) ^ (y : ℝ))) := by
  obtain ⟨v, value, holds⟩ := (holds_real q).intPow (n := y.num)
    fun zero => Rat.num_nonneg.mpr (nonneg zero)
  refine ⟨v, _, value, holds, fun bounded => ?_⟩
  by_cases hq : q = 0
  · simp only [hq, if_true]
    exact hq ▸ zero_rpow_within hq nonzero
  · have real_ne : (q : ℝ) ≠ 0 := by exact_mod_cast hq
    have num : (y.num : ℝ) = y := by
      rw [← Rat.cast_intCast, Rat.coe_int_num_of_den_eq_one whole]
    rw [if_neg hq, ← rpow_num_of_den_eq_one _ whole]
    have bounds := powerBounded_iff.mp bounded real_ne
    refine (wholePower_near hq (bounds.imp_right fun h => ?_)).mono (by norm_num)
    rw [num]
    exact ⟨by linarith [h.1], by linarith [h.2.1], by linarith [h.2.2]⟩

/-- A power with half an odd integer for exponent, which is taken of the square root. -/
theorem sqrt_intPow_near {q y : ℚ} (half : y.den = 2) (hq : 0 ≤ q) (nonneg : q = 0 → 0 ≤ y) :
    ∃ v r, (real (Precise.sqrt q)).intPow y.num = .ok v ∧ v.Holds r ∧
      (PowerBounded q y → Within (1 / 2 ^ 100) r ((q : ℝ) ^ (y : ℝ))) := by
  obtain ⟨v, value, holds⟩ := (holds_real (Precise.sqrt q)).intPow (n := y.num)
    fun zero => Rat.num_nonneg.mpr (nonneg ((sqrt_eq_zero_iff hq).mp zero))
  refine ⟨v, _, value, holds, fun bounded => ?_⟩
  obtain rfl | positive := hq.eq_or_lt
  · rw [if_pos ((sqrt_eq_zero_iff le_rfl).mpr rfl)]
    exact zero_rpow_within rfl (ne_zero_of_fraction (by omega))
  · rw [if_neg ((sqrt_eq_zero_iff hq).not.mpr positive.ne')]
    exact wholePower_sqrt_near positive half bounded

theorem pow_near_of_bounded {q y : ℚ} (positive : 0 < q) (bounded : PowerBounded q y) :
    Within (1 / 2 ^ 100) (Precise.pow q y) ((q : ℝ) ^ (y : ℝ)) := by
  have real_pos : (0 : ℝ) < q := by exact_mod_cast positive
  refine (pow_near positive ?_).mono (by norm_num)
  refine (powerBounded_iff.mp bounded real_pos.ne').imp (fun one => ?_) fun h =>
    ⟨by linarith [h.1], by linarith [h.2.1], by linarith [h.2.2]⟩
  rw [abs_of_pos real_pos] at one
  exact_mod_cast one

/-- A power of a real number where it is real; it is near the true power if that is in
bounds. -/
theorem realPow_near {q y : ℚ} (power : PowerDefined q y) :
    ∃ v r, realPow q y = .ok v ∧ v.Holds r ∧
      (PowerBounded q y → Within (1 / 2 ^ 100) r ((q : ℝ) ^ (y : ℝ))) := by
  have nonneg : q = 0 → 0 ≤ y := fun zero => by
    exact_mod_cast power.nonneg (by exact_mod_cast zero)
  unfold realPow
  split
  next whole =>
    split
    next zero =>
      refine ⟨_, 1, rfl, holds_real 1, fun _ => ?_⟩
      rw [zero, Rat.cast_zero, Real.rpow_zero, Rat.cast_one]
      exact Within.refl (by positivity) 1
    next nonzero => exact intPow_near whole nonzero nonneg
  next fraction =>
    have hq := nonneg_of_fraction power fraction
    split
    next half =>
      rw [if_neg (not_lt.mpr hq)]
      exact sqrt_intPow_near half hq nonneg
    next =>
      split
      next zero =>
        rw [if_neg (not_lt.mpr (nonneg zero))]
        exact ⟨_, 0, rfl, holds_real 0, fun _ =>
          zero_rpow_within zero (ne_zero_of_fraction fraction)⟩
      next nonzero =>
        have positive := hq.lt_of_ne' nonzero
        rw [if_pos positive]
        exact ⟨_, _, rfl, holds_real _, pow_near_of_bounded positive⟩

theorem Holds.pow {y : ℚ} (hv : v.Holds q) (hw : w.Holds y) (power : PowerDefined q y)
    (given : q = 0 → y = 0 → v = real 0) :
    ∃ u r, v.pow w = .ok u ∧ u.Holds r ∧
      (PowerBounded q y → Within (1 / 2 ^ 100) r ((q : ℝ) ^ (y : ℝ))) := by
  obtain ⟨rfl, rfl⟩ | rfl := hw
  · refine ⟨real 1, 1, rfl, holds_real 1, fun _ => ?_⟩
    rw [Rat.cast_zero, Real.rpow_zero, Rat.cast_one]
    exact Within.refl (by positivity) 1
  · obtain ⟨rfl, rfl⟩ | rfl := hv
    · have nonneg : 0 ≤ y := by exact_mod_cast power.nonneg Rat.cast_zero
      have nonzero : y ≠ 0 := fun none => by
        have := given rfl none
        simp [Value.zero, real] at this
      have : (y : ℝ) ≠ 0 := by exact_mod_cast nonzero
      refine ⟨Value.zero, 0, ?_, holds_zero, fun _ => ?_⟩
      · simp [Value.pow, Value.zero, real, not_lt.mpr nonneg]
      · rw [Rat.cast_zero, Real.zero_rpow this]
        exact Within.refl (by positivity) 0
    · exact realPow_near power

/-- A logarithm that is zero or not small. -/
theorem Holds.log (hv : v.Holds q) (hq : 0 < q) (far : q = 1 ∨ 1 ≤ |Real.log q|) :
    ∃ r, v.log.Holds r ∧ Within (1 / 2 ^ 120) r (Real.log q) := by
  obtain ⟨rfl, rfl⟩ | rfl := hv
  · exact absurd hq (lt_irrefl 0)
  refine ⟨ln q, .inr (by simp [Value.log, real, hq.ne', not_lt.mpr hq.le]), ?_⟩
  obtain rfl | far := far
  · rw [ln_one, Rat.cast_one, Real.log_one, Rat.cast_zero]
    exact Within.refl (by positivity) 0
  have nonzero : Real.log q ≠ 0 := fun zero => by
    rw [zero, abs_zero] at far
    norm_num at far
  have near : |(ln q : ℝ) / Real.log q - 1| ≤ 1 / 2 ^ 226 := by
    rw [div_sub_one nonzero, abs_div, div_le_iff₀ (abs_pos.mpr nonzero)]
    refine (ln_near hq).trans ?_
    linarith
  obtain ⟨t, ht, value⟩ := Within.of_abs_sub_le
    (by linarith [(abs_le.mp near).1]) (by norm_num) near
  refine ⟨t, ht.trans (by norm_num), ?_⟩
  rw [one_mul, div_eq_iff nonzero] at value
  rw [value, mul_comm]

end Value

end Astrolabe.Relation
