import Mathlib
import Astrolabe.Number.Binary64

/-!
Rounding to a double. A rational number so near to a double that no other double is as
near is rounded to that double; this is read off the shifts by which the quotient of two
natural numbers is rounded.
-/

namespace Astrolabe.Binary64

open Float.Model UnpackedFloat

/-! Mantissas with residual bits. -/

/-- An extended mantissa tells where a number is between two whole ones. -/
structure Tells (em : ExtendedMantissa) (x : ℚ) : Prop where
  low : (em.mantissa : ℚ) ≤ x
  high : x < em.mantissa + 1
  round : em.roundBit = true ↔ (em.mantissa : ℚ) + 1 / 2 ≤ x
  sticky : em.stickyBit = false ↔ x = em.mantissa ∨ x = em.mantissa + 1 / 2

theorem Tells.shiftRightOne {em : ExtendedMantissa} {x : ℚ} (h : Tells em x) :
    Tells em.shiftRightOne (x / 2) := by
  obtain ⟨low, high, round, sticky⟩ := h
  obtain ⟨m, roundBit, stickyBit⟩ := em
  dsimp only at low high round sticky
  -- a bit is lost: whether the mantissa is even decides the half in which the number is
  obtain ⟨k, rfl | rfl⟩ := Nat.even_or_odd' m
  · push_cast at low high round sticky
    have half : 2 * k / 2 = k := by omega
    refine ⟨?_, ?_, ?_, ?_⟩ <;>
      simp only [ExtendedMantissa.shiftRightOne, half, Nat.mul_mod_right, bne_self_eq_false,
        Bool.false_eq_true, false_iff, not_le, Bool.or_eq_false_iff]
    · linarith
    · linarith
    · linarith
    · rw [sticky, ← Bool.not_eq_true, round]
      constructor
      · rintro ⟨upper, exact | exact⟩
        · left; linarith
        · exact absurd exact.ge upper
      · rintro (exact | exact)
        · exact ⟨by linarith, .inl (by linarith)⟩
        · linarith
  · push_cast at low high round sticky
    have half : (2 * k + 1) / 2 = k := by omega
    have odd : (2 * k + 1) % 2 = 1 := by omega
    refine ⟨?_, ?_, ?_, ?_⟩ <;>
      simp only [ExtendedMantissa.shiftRightOne, half, odd, bne_iff_ne, ne_eq, one_ne_zero,
        not_false_eq_true, true_iff, Bool.or_eq_false_iff]
    · linarith
    · linarith
    · linarith
    · rw [sticky, ← Bool.not_eq_true, round]
      constructor
      · rintro ⟨upper, exact | exact⟩
        · right; linarith
        · exact absurd exact.ge upper
      · rintro (exact | exact)
        · linarith
        · exact ⟨by linarith, .inl (by linarith)⟩

theorem Tells.shiftRight {em : ExtendedMantissa} {x : ℚ} (h : Tells em x) (k : ℕ) :
    Tells (em >>> k) (x / 2 ^ k) := by
  induction k with
  | zero =>
      rw [pow_zero, div_one]
      exact h
  | succ k ih =>
      have next := ih.shiftRightOne
      rwa [div_div, ← pow_succ] at next

/-- Rounding goes to the whole number that is nearer than a half. -/
theorem Tells.roundedMantissa {em : ExtendedMantissa} {x : ℚ} (h : Tells em x) {n : ℕ}
    (near : |x - n| < 1 / 2) : em.roundedMantissa = n := by
  obtain ⟨low, high, round, sticky⟩ := h
  obtain ⟨m, roundBit, stickyBit⟩ := em
  dsimp only at low high round sticky
  rw [abs_lt] at near
  cases roundBit with
  | false =>
      have below : x < m + 1 / 2 := by simpa using round
      have same : m = n := by
        have upper : (m : ℚ) < n + 1 := by linarith
        have lower : (n : ℚ) < m + 1 := by linarith
        norm_cast at upper lower
        omega
      cases stickyBit <;> exact same
  | true =>
      have above : (m : ℚ) + 1 / 2 ≤ x := round.mp rfl
      have same : m + 1 = n := by
        have upper : (m : ℚ) < n := by linarith
        have lower : (n : ℚ) < m + 2 := by linarith
        norm_cast at upper lower
        omega
      cases stickyBit with
      | true => exact same
      | false =>
          obtain exact | exact := sticky.mp rfl
          · linarith
          · rw [← same] at near
            push_cast at near
            linarith

theorem tells_of_exact (m : ℕ) :
    Tells (ExtendedMantissa.ofMantissaAndAccuracy m .exact) m := by
  refine ⟨?_, ?_, ?_, ?_⟩ <;> simp [ExtendedMantissa.ofMantissaAndAccuracy]

theorem tells_of_inexact (m : ℕ) {rest : ℚ} (positive : 0 < rest) (less : rest < 1)
    {side : Ordering} (hlt : side = .lt ↔ rest < 1 / 2) (heq : side = .eq ↔ rest = 1 / 2) :
    Tells (ExtendedMantissa.ofMantissaAndAccuracy m (.inexact side)) (m + rest) := by
  cases side with
  | lt =>
      have below := hlt.mp rfl
      refine ⟨?_, ?_, ?_, ?_⟩ <;>
        simp [ExtendedMantissa.ofMantissaAndAccuracy] <;> grind
  | eq =>
      have half := heq.mp rfl
      refine ⟨?_, ?_, ?_, ?_⟩ <;>
        simp [ExtendedMantissa.ofMantissaAndAccuracy] <;> grind
  | gt =>
      have above : ¬rest < 1 / 2 := fun below => nomatch hlt.mpr below
      have apart : rest ≠ 1 / 2 := fun half => nomatch heq.mpr half
      refine ⟨?_, ?_, ?_, ?_⟩ <;>
        simp [ExtendedMantissa.ofMantissaAndAccuracy] <;> grind

/-- The quotient and the comparison of twice the rest with the divisor tell the number. -/
theorem tells_quotient (n : ℕ) {d : ℕ} (hd : 0 < d) :
    Tells (ExtendedMantissa.ofMantissaAndAccuracy (n / d) (accuracyOfFraction (n % d) d))
      (n / d) := by
  have positive : (0 : ℚ) < d := by exact_mod_cast hd
  have value : (n / d : ℚ) = (n / d : ℕ) + (n % d : ℕ) / d := by
    rw [eq_comm, ← mul_left_inj' positive.ne', add_mul, div_mul_cancel₀ _ positive.ne',
      div_mul_cancel₀ _ positive.ne']
    exact_mod_cast Nat.div_add_mod' n d
  rw [value]
  unfold accuracyOfFraction
  split
  next exact =>
    rw [exact, Nat.cast_zero, zero_div, add_zero]
    exact tells_of_exact _
  next inexact =>
    refine tells_of_inexact _ ?_ ?_ ?_ ?_
    · have rest : (0 : ℚ) < (n % d : ℕ) := by exact_mod_cast Nat.pos_of_ne_zero inexact
      positivity
    · rw [div_lt_one positive]
      exact_mod_cast Nat.mod_lt n hd
    · rw [Nat.compare_eq_lt, div_lt_div_iff₀ positive two_pos]
      norm_cast
      omega
    · rw [Nat.compare_eq_eq, div_eq_div_iff positive.ne' two_ne_zero]
      norm_cast
      omega

/-! Rounding to the format of doubles. -/

/-- Mantissa and exponent as a double has them, but for the bound above. -/
structure Canonical (m : ℕ) (e : ℤ) : Prop where
  pos : 0 < m
  bits : m < 2 ^ 53
  least : -1074 ≤ e
  full : 2 ^ 52 ≤ m ∨ e = -1074

theorem targetExponent_eq (n : ℕ) (e : ℤ) :
    Format.binary64.targetExponent (totalExponent n e) = max (n.log2 + e - 52) (-1074) := by
  simp only [Format.targetExponent, totalExponent, Format.mantissaBits, Format.minExponent]
  norm_num
  omega

theorem Canonical.targetExponent {m : ℕ} {e : ℤ} (h : Canonical m e) :
    Format.binary64.targetExponent (totalExponent m e) = e := by
  rw [targetExponent_eq]
  have upper : m.log2 < 53 := (Nat.log2_lt h.pos.ne').mpr h.bits
  obtain full | least := h.full
  · have lower : 52 ≤ m.log2 := (Nat.le_log2 h.pos.ne').mpr full
    have := h.least
    omega
  · omega

/-- A number as near to a double as rounding asks for, in terms of the double. -/
def Near (m : ℕ) (e : ℤ) (v : ℚ) : Prop :=
  |v - m * 2 ^ e| ≤ m * 2 ^ e / 2 ^ 60

theorem two_zpow_pos (e : ℤ) : (0 : ℚ) < 2 ^ e := zpow_pos two_pos e

theorem lt_of_two_zpow_lt {i j : ℤ} (h : (2 : ℚ) ^ i < 2 ^ j) : i < j :=
  (zpow_lt_zpow_iff_right₀ one_lt_two).mp h

theorem log2_add_lt_of_le {n : ℕ} {t e : ℤ} (pos : n ≠ 0) {v : ℚ} (low : n * 2 ^ t ≤ v)
    (high : v < 2 ^ e) : n.log2 + t < e := by
  refine lt_of_two_zpow_lt (lt_of_le_of_lt ?_ high)
  rw [zpow_add₀ two_ne_zero, zpow_natCast]
  have size : (2 : ℚ) ^ n.log2 ≤ n := by exact_mod_cast Nat.log2_self_le pos
  exact (mul_le_mul_of_nonneg_right size (two_zpow_pos t).le).trans low

theorem lt_log2_add_of_lt {n : ℕ} {t e : ℤ} {v : ℚ} (low : 2 ^ e ≤ v)
    (high : v < (n + 1) * 2 ^ t) : e < n.log2 + 1 + t := by
  refine lt_of_two_zpow_lt (low.trans_lt (high.trans_le ?_))
  rw [zpow_add₀ two_ne_zero]
  refine mul_le_mul_of_nonneg_right ?_ (two_zpow_pos t).le
  exact_mod_cast Nat.succ_le_of_lt Nat.lt_log2_self

theorem Canonical.lt_of_near {m : ℕ} {e : ℤ} {v : ℚ} (h : Canonical m e) (near : Near m e v) :
    v < 2 ^ (e + 53) := by
  have positive := two_zpow_pos e
  have bits : (m + 1 : ℚ) ≤ 2 ^ 53 := by exact_mod_cast h.bits
  have size := mul_le_mul_of_nonneg_right bits positive.le
  have upper := (abs_le.mp near).2
  rw [zpow_add₀ two_ne_zero]
  norm_num only at size upper ⊢
  linarith

/-- The exponent to which a number near a double is shifted is that of the double, or one
less where the number is just below a power of two. -/
theorem shiftedExponent_eq {m n : ℕ} {e t : ℤ} {v : ℚ} (h : Canonical m e) (near : Near m e v)
    (low : n * 2 ^ t ≤ v) (high : v < (n + 1) * 2 ^ t) (bits : 52 ≤ n.log2 ∨ t ≤ -1074) :
    max (n.log2 + t - 52) (-1074) = e ∨
      m = 2 ^ 52 ∧ -1074 < e ∧ max (n.log2 + t - 52) (-1074) = e - 1 := by
  have least := h.least
  have upper : max (n.log2 + t - 52) (-1074) ≤ e := by
    by_cases zero : n = 0
    · subst zero
      simp only [Nat.log2_zero, Nat.cast_zero] at bits ⊢
      omega
    · have := log2_add_lt_of_le zero low (h.lt_of_near near)
      omega
  by_cases subnormal : e = -1074
  · omega
  have full : 2 ^ 52 ≤ m := h.full.resolve_right subnormal
  have positive := two_zpow_pos e
  have below := (abs_le.mp near).1
  by_cases power : m = 2 ^ 52
  · have lower : (2 : ℚ) ^ (e + 51) ≤ v := by
      subst power
      rw [zpow_add₀ two_ne_zero]
      norm_num at below ⊢
      linarith
    have := lt_log2_add_of_lt lower high
    omega
  · have lower : (2 : ℚ) ^ (e + 52) ≤ v := by
      have more : (2 ^ 52 + 1 : ℚ) ≤ m := by exact_mod_cast (by omega : 2 ^ 52 + 1 ≤ m)
      have size := mul_le_mul_of_nonneg_right more positive.le
      rw [zpow_add₀ two_ne_zero]
      norm_num only at below size ⊢
      linarith
    have := lt_log2_add_of_lt lower high
    omega

theorem Near.scaled {m k : ℕ} {e t : ℤ} {v : ℚ} (near : Near m e v)
    (same : (k : ℚ) * 2 ^ t = m * 2 ^ e) (bits : k ≤ 2 ^ 53) : |v / 2 ^ t - k| < 1 / 2 := by
  have positive := two_zpow_pos t
  have size : (k : ℚ) ≤ 2 ^ 53 := by exact_mod_cast bits
  rw [Near, ← same] at near
  have scaled : |v / 2 ^ t - k| * 2 ^ t ≤ k / 2 ^ 60 * 2 ^ t := by
    calc |v / 2 ^ t - k| * 2 ^ t = |v - k * 2 ^ t| := by
          rw [← abs_of_pos positive, ← abs_mul, abs_of_pos positive, sub_mul,
            div_mul_cancel₀ _ positive.ne']
      _ ≤ k / 2 ^ 60 * 2 ^ t := by rwa [div_mul_eq_mul_div]
  refine (le_of_mul_le_mul_right scaled positive).trans_lt ?_
  norm_num only at size ⊢
  linarith

theorem ofMantissaAndAccuracy_mantissa (n : ℕ) (accuracy : Accuracy) :
    (ExtendedMantissa.ofMantissaAndAccuracy n accuracy).mantissa = n := by
  obtain _ | _ | _ | _ := accuracy <;> rfl

theorem shiftRight_mantissa (em : ExtendedMantissa) (k : ℕ) :
    (em >>> k).mantissa = em.mantissa / 2 ^ k := by
  induction k with
  | zero => simp [HShiftRight.hShiftRight, Nat.repeat]
  | succ k ih =>
      change (em >>> k).mantissa / 2 = _
      rw [ih, Nat.div_div_eq_div_mul, pow_succ]

/-- Once it is rounded, a mantissa is shifted by the bit that rounding may have added. -/
theorem roundWithAccuracy_of_rounded {n r m : ℕ} {t e : ℤ} {accuracy : Accuracy} (sign : Sign)
    (h : Canonical m e) {target : ℤ}
    (first : Format.binary64.targetExponent (totalExponent n t) = target) (grows : t ≤ target)
    (rounded : (ExtendedMantissa.ofMantissaAndAccuracy n accuracy >>>
      (target - t).toNat).roundedMantissa = r)
    (second : Format.binary64.targetExponent (totalExponent r target) = e)
    (shifted : r / 2 ^ (e - target).toNat = m) (exponent : target ≤ e) :
    roundWithAccuracy .binary64 sign n t accuracy = .finite sign m e h.pos := by
  have reached : t + ((target - t).toNat : ℤ) = target := by omega
  have reached' : target + ((e - target).toNat : ℤ) = e := by omega
  unfold roundWithAccuracy shiftToTargetExponent shiftToExponent
  simp only [first, rounded, reached, second, shiftRight_mantissa,
    ofMantissaAndAccuracy_mantissa, shifted, reached', h.pos.ne', dite_false]

/-- A number near a double is rounded to it. -/
theorem roundWithAccuracy_eq {m n : ℕ} {e t : ℤ} {v : ℚ} {accuracy : Accuracy} (sign : Sign)
    (h : Canonical m e) (near : Near m e v)
    (tells : Tells (ExtendedMantissa.ofMantissaAndAccuracy n accuracy) (v / 2 ^ t))
    (bits : 52 ≤ n.log2 ∨ t ≤ -1074) :
    roundWithAccuracy .binary64 sign n t accuracy = .finite sign m e h.pos := by
  have positive := two_zpow_pos t
  have low : n * 2 ^ t ≤ v := by
    have := tells.low
    rwa [ofMantissaAndAccuracy_mantissa, le_div_iff₀ positive] at this
  have high : v < (n + 1) * 2 ^ t := by
    have := tells.high
    rwa [ofMantissaAndAccuracy_mantissa, div_lt_iff₀ positive] at this
  have first := targetExponent_eq n t
  have grows : t ≤ max (n.log2 + t - 52) (-1074) := by omega
  have exponents := shiftedExponent_eq h near low high bits
  generalize max (n.log2 + t - 52 : ℤ) (-1074) = target at first grows exponents
  have shifted : Tells (ExtendedMantissa.ofMantissaAndAccuracy n accuracy >>>
      (target - t).toNat) (v / 2 ^ target) := by
    have := tells.shiftRight (target - t).toNat
    rwa [div_div, ← zpow_natCast, ← zpow_add₀ two_ne_zero,
      show t + ((target - t).toNat : ℤ) = target by omega] at this
  obtain rfl | ⟨rfl, above, rfl⟩ := exponents
  · refine roundWithAccuracy_of_rounded sign h first grows
      (shifted.roundedMantissa (near.scaled rfl h.bits.le)) h.targetExponent ?_ le_rfl
    rw [sub_self, Int.toNat_zero, pow_zero, Nat.div_one]
  · have same : ((2 ^ 53 : ℕ) : ℚ) * 2 ^ (e - 1) = (2 ^ 52 : ℕ) * 2 ^ e := by
      rw [zpow_sub₀ two_ne_zero]
      norm_num
      ring
    refine roundWithAccuracy_of_rounded sign h first grows
      (shifted.roundedMantissa (near.scaled same le_rfl)) ?_ ?_ (by omega)
    · rw [targetExponent_eq, Nat.log2_two_pow]
      omega
    · rw [show (e - (e - 1)).toNat = 1 by omega]
      norm_num

theorem log2_quotient {n d k : ℕ} (hn : 0 < n) (hd : 0 < d) (h : d.log2 + 53 ≤ n.log2 + k) :
    52 ≤ ((n <<< k) / d).log2 := by
  have quotient : 2 ^ 52 ≤ (n <<< k) / d := by
    rw [Nat.le_div_iff_mul_le hd, Nat.shiftLeft_eq]
    calc 2 ^ 52 * d ≤ 2 ^ 52 * 2 ^ (d.log2 + 1) :=
          Nat.mul_le_mul_left _ Nat.lt_log2_self.le
      _ = 2 ^ (d.log2 + 53) := by rw [← pow_add]; congr 1; omega
      _ ≤ 2 ^ (n.log2 + k) := Nat.pow_le_pow_right two_pos h
      _ = 2 ^ n.log2 * 2 ^ k := pow_add ..
      _ ≤ n * 2 ^ k := Nat.mul_le_mul_right _ (Nat.log2_self_le hn.ne')
  exact (Nat.le_log2 (by omega)).mpr quotient

/-- A quotient near a double is rounded to it. -/
theorem ofRatio_eq {n d m : ℕ} {e : ℤ} (hn : 0 < n) (hd : 0 < d) (h : Canonical m e)
    (near : Near m e (n / d)) (negative : Bool) :
    ofRatio negative n d =
      .ofModel (.pack (.finite (if negative then .negative else .positive) m e h.pos)) := by
  have sign : (if negative then Sign.negative else .positive) / Sign.positive =
      if negative then .negative else .positive := by cases negative <;> rfl
  rw [ofRatio, dif_pos hn, dif_pos hd, UnpackedFloat.div, divCore, sign]
  dsimp only
  congr 2
  -- the shift makes the quotient as long as the mantissa of a double, or reaches subnormals
  have target : Format.binary64.targetExponent (totalExponent n 0 - totalExponent d 0) =
      max ((n.log2 : ℤ) - d.log2 - 53) (-1074) := by
    simp only [Format.targetExponent, totalExponent, Format.mantissaBits, Format.minExponent]
    norm_num
  rw [target, sub_self]
  generalize exponent : min (0 : ℤ) (max (n.log2 - d.log2 - 53) (-1074)) = t
  have reached : ((0 - t).toNat : ℤ) = -t := by omega
  have tells := tells_quotient (n <<< (0 - t).toNat) hd
  have value : (((n <<< (0 - t).toNat : ℕ) : ℚ) / d) = n / d / 2 ^ t := by
    rw [Nat.shiftLeft_eq, Nat.cast_mul, Nat.cast_pow, Nat.cast_ofNat, ← zpow_natCast, reached,
      zpow_neg]
    ring
  rw [value] at tells
  refine roundWithAccuracy_eq _ h near tells ?_
  by_cases deep : t ≤ -1074
  · exact .inr deep
  · exact .inl (log2_quotient hn hd (by omega))

/-! Rounding rational numbers. -/

/-- A rational number that is a double, up to the bound of their exponents. -/
def Dyadic (r : ℚ) : Prop :=
  ∃ m e, Canonical m e ∧ |r| = m * 2 ^ e

theorem natAbs_div_den (q : ℚ) : (q.num.natAbs / q.den : ℚ) = |q| := by
  rw [Nat.cast_natAbs, Int.cast_abs]
  conv_rhs => rw [← Rat.num_div_den q, abs_div, Nat.abs_cast]

theorem ofRat_eq {q : ℚ} {m : ℕ} {e : ℤ} (hq : q ≠ 0) (h : Canonical m e)
    (near : Near m e |q|) :
    ofRat q =
      .ofModel (.pack (.finite (if q < 0 then .negative else .positive) m e h.pos)) := by
  rw [ofRat, ofRatio_eq (Int.natAbs_pos.mpr (Rat.num_ne_zero.mpr hq)) q.den_pos h
    (by rwa [natAbs_div_den])]
  simp only [Rat.num_neg, decide_eq_true_eq]

/-- All numbers near a double are rounded to that double. -/
theorem ofRat_eq_of_near {q r : ℚ} (dyadic : Dyadic r) (near : |q - r| ≤ |r| / 2 ^ 60) :
    ofRat q = ofRat r := by
  obtain ⟨m, e, h, value⟩ := dyadic
  have size : 0 < |r| := by
    rw [value]
    exact mul_pos (by exact_mod_cast h.pos) (two_zpow_pos e)
  have small : |q - r| < |r| := by
    refine near.trans_lt ?_
    linarith
  -- the two numbers have one sign
  have sign : q < 0 ↔ r < 0 := by
    rw [abs_lt] at small
    obtain negative | positive := lt_or_gt_of_ne (abs_pos.mp size)
    · rw [abs_of_neg negative] at small
      exact iff_of_true (by linarith) negative
    · rw [abs_of_pos positive] at small
      exact iff_of_false (by linarith) (by linarith)
  have nonzero : q ≠ 0 := by
    rintro rfl
    simp at small
  have near_q : Near m e |q| := by
    rw [Near, ← value]
    exact (abs_abs_sub_abs_le q r).trans near
  have near_r : Near m e |r| := by
    rw [Near, ← value, sub_self, abs_zero]
    positivity
  rw [ofRat_eq nonzero h near_q, ofRat_eq (abs_pos.mp size) h near_r]
  simp only [sign]

end Astrolabe.Binary64
