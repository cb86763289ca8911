import Astrolabe.Number.Elementary
import Astrolabe.Proofs.Number.Nearest

/-!
The square root of doubles. It halves exponents, so the root of a finite double that is not negative
is finite, and taking it is no fault.
-/

namespace Astrolabe.Binary64

open Float.Model UnpackedFloat

/-- A number in the half of a unit in which a root is, by the rest that the root leaves. -/
def rootPart (rest root : ℕ) : ℚ :=
  if rest = 0 then 0 else if rest ≤ root then 1 / 4 else 3 / 4

theorem rootPart_nonneg (rest root : ℕ) : 0 ≤ rootPart rest root := by
  unfold rootPart
  split_ifs <;> norm_num

theorem rootPart_lt_one (rest root : ℕ) : rootPart rest root < 1 := by
  unfold rootPart
  split_ifs <;> norm_num

theorem tells_root (root rest : ℕ) :
    Tells (ExtendedMantissa.ofMantissaAndAccuracy root
      (if rest = 0 then .exact else .inexact (if rest ≤ root then .lt else .gt)))
      (root + rootPart rest root) := by
  unfold rootPart
  split_ifs with none below
  · rw [add_zero]
    exact tells_of_exact root
  · exact tells_of_inexact root (by norm_num) (by norm_num) (iff_of_true rfl (by norm_num))
      (iff_of_false nofun (by norm_num))
  · exact tells_of_inexact root (by norm_num) (by norm_num) (iff_of_false nofun (by norm_num))
      (iff_of_false nofun (by norm_num))

/-- The exponent of the root of a mantissa with an exponent. -/
def rootExponent (m : ℕ) (e : ℤ) : ℤ :=
  min (e / 2) (Format.binary64.targetExponent ((totalExponent m e + 1) / 2))

theorem sqrtCore_eq (m : ℕ) (e : ℤ) :
    sqrtCore .binary64 m e =
      let scaled := m <<< (e - 2 * rootExponent m e).toNat
      (scaled.sqrt, rootExponent m e,
        if scaled - scaled.sqrt * scaled.sqrt = 0 then .exact
        else .inexact (if scaled - scaled.sqrt * scaled.sqrt ≤ scaled.sqrt then .lt else .gt)) :=
  rfl

/-- The shift makes the root as long as the mantissa of a double, or reaches subnormals. -/
theorem root_bits {m : ℕ} (e : ℤ) (pos : 0 < m) :
    52 ≤ (m <<< (e - 2 * rootExponent m e).toNat).sqrt.log2 ∨ rootExponent m e ≤ -1074 := by
  have target : rootExponent m e =
      min (e / 2) (max ((m.log2 + e + 2) / 2 - 53) (-1074)) := by
    simp only [rootExponent, Format.targetExponent, totalExponent, Format.mantissaBits,
      Format.minExponent]
    omega
  generalize rootExponent m e = t at target
  by_cases deep : t ≤ -1074
  · exact .inr deep
  left
  have long : 104 ≤ m.log2 + (e - 2 * t).toNat := by omega
  have scaled : 2 ^ 104 ≤ m <<< (e - 2 * t).toNat := by
    rw [Nat.shiftLeft_eq]
    calc 2 ^ 104 ≤ 2 ^ (m.log2 + (e - 2 * t).toNat) := Nat.pow_le_pow_right two_pos long
      _ = 2 ^ m.log2 * 2 ^ (e - 2 * t).toNat := pow_add ..
      _ ≤ m * 2 ^ (e - 2 * t).toNat := Nat.mul_le_mul_right _ (Nat.log2_self_le pos.ne')
  have root : 2 ^ 52 ≤ (m <<< (e - 2 * t).toNat).sqrt :=
    Nat.le_sqrt.mpr (le_trans (by norm_num) scaled)
  exact (Nat.le_log2 (by positivity)).mpr root

/-- A root has half the exponent of its radicand. -/
theorem root_lt {m : ℕ} {e : ℤ} (h : Canonical m e) (bound : e ≤ 971) :
    ((m <<< (e - 2 * rootExponent m e).toNat).sqrt : ℚ) * 2 ^ rootExponent m e < 2 ^ 512 := by
  have half : 2 * rootExponent m e ≤ e := by
    have : rootExponent m e ≤ e / 2 := min_le_left ..
    omega
  generalize rootExponent m e = t at half
  have square : (((m <<< (e - 2 * t).toNat).sqrt : ℚ) * 2 ^ t) ^ 2 < (2 ^ 512) ^ 2 := by
    calc (((m <<< (e - 2 * t).toNat).sqrt : ℚ) * 2 ^ t) ^ 2
        = ((m <<< (e - 2 * t).toNat).sqrt ^ 2 : ℕ) * 2 ^ (2 * t) := by
          rw [mul_pow, Nat.cast_pow, ← zpow_natCast ((2 : ℚ) ^ t), ← zpow_mul, mul_comm t]
          rfl
      _ ≤ (m <<< (e - 2 * t).toNat : ℕ) * 2 ^ (2 * t) := by
          refine mul_le_mul_of_nonneg_right ?_ (two_zpow_pos _).le
          exact_mod_cast Nat.sqrt_le' _
      _ = m * 2 ^ e := by
          rw [Nat.shiftLeft_eq, Nat.cast_mul, Nat.cast_pow, Nat.cast_ofNat, ← zpow_natCast,
            mul_assoc, ← zpow_add₀ two_ne_zero, Int.toNat_of_nonneg (by omega), sub_add_cancel]
      _ < 2 ^ 1024 := h.lt_iff.mpr bound
      _ = (2 ^ 512) ^ 2 := by rw [← pow_mul]
  exact lt_of_pow_lt_pow_left₀ 2 (by positivity) square

theorem sqrt_eq (x : Float) :
    x.sqrt = .ofModel (.pack (UnpackedFloat.sqrt .binary64 x.toModel.unpack)) :=
  rfl

theorem unpack_sqrt (x : Float) :
    x.sqrt.toModel.unpack =
      UnpackedFloat.unpack .binary64
        (UnpackedFloat.pack .binary64 (UnpackedFloat.sqrt .binary64 x.toModel.unpack)) :=
  rfl

/-- The root of a positive double is rounded from a number in the middle of the range. -/
theorem sqrt_rounds {x : Float} {m : ℕ} {e : ℤ} {pos : 0 < m}
    (h : x.toModel.unpack = .finite .positive m e pos) :
    ∃ v : ℚ, 0 ≤ v ∧ v ≤ 2 ^ 513 ∧ Rounds x.sqrt v := by
  obtain ⟨canonical, bound⟩ := canonical_of_unpack h
  have bits := root_bits e pos
  have small := root_lt canonical bound
  have scaled : 0 < m <<< (e - 2 * rootExponent m e).toNat := Nat.shiftLeft_pos_iff.mpr pos
  rw [sqrt_eq, h, UnpackedFloat.sqrt, sqrtCore_eq]
  dsimp only
  generalize m <<< (e - 2 * rootExponent m e).toNat = n at bits small scaled
  generalize rootExponent m e = t at bits small
  have tells := tells_root n.sqrt (n - n.sqrt * n.sqrt)
  have nonneg := rootPart_nonneg (n - n.sqrt * n.sqrt) n.sqrt
  have less := rootPart_lt_one (n - n.sqrt * n.sqrt) n.sqrt
  have one : (1 : ℚ) ≤ n.sqrt := by exact_mod_cast Nat.sqrt_pos.mpr scaled
  have unit := two_zpow_pos t
  generalize rootPart (n - n.sqrt * n.sqrt) n.sqrt = part at tells nonneg less
  have positive : 0 < ((n.sqrt : ℚ) + part) * 2 ^ t := mul_pos (by linarith) unit
  refine ⟨(n.sqrt + part) * 2 ^ t, positive.le, ?_, ?_⟩
  · calc ((n.sqrt : ℚ) + part) * 2 ^ t ≤ (2 * n.sqrt) * 2 ^ t :=
          mul_le_mul_of_nonneg_right (by linarith) unit.le
      _ = 2 * (n.sqrt * 2 ^ t) := by ring
      _ ≤ 2 * 2 ^ 512 := mul_le_mul_of_nonneg_left small.le two_pos.le
      _ = 2 ^ 513 := (pow_succ' 2 512).symm
  · rw [roundWithAccuracy_eq_nearest _ positive _ bits]
    · exact rounds_nearest _ positive
    · rwa [mul_div_cancel_right₀ _ unit.ne']

theorem sqrt_isFinite {x : Float} {m : ℕ} {e : ℤ} {pos : 0 < m}
    (h : x.toModel.unpack = .finite .positive m e pos) : x.sqrt.isFinite = true := by
  obtain ⟨v, nonneg, small, rounds⟩ := sqrt_rounds h
  have middle : Canonical (2 ^ 52) 461 := ⟨by decide, by decide, by decide, .inl le_rfl⟩
  have value : ((2 ^ 52 : ℕ) : ℚ) * 2 ^ (461 : ℤ) = 2 ^ 513 := by
    rw [Nat.cast_pow]
    exact (pow_add 2 52 461).symm
  have below : rounded v ≤ 2 ^ 513 := by
    rw [← value, ← middle.rounded]
    exact rounded_mono nonneg (value ▸ small)
  exact rounds.finite_iff.mpr (below.trans_lt (pow_lt_pow_right₀ one_lt_two (by decide)))

end Astrolabe.Binary64
