import Mathlib
import Astrolabe.Proofs.Number.Rounding

/-!
Finite doubles and their values. A double is unpacked to a mantissa and an exponent of
its format, which are packed into it again.
-/

namespace Astrolabe.Binary64

open Float.Model UnpackedFloat

theorem toNat_implicit {k : ℕ} (v : BitVec k) : (1#1 ++ v).toNat = 2 ^ k + v.toNat := by
  rw [BitVec.toNat_append, ← Nat.shiftLeft_add_eq_or_of_lt v.isLt]
  simp [Nat.shiftLeft_eq]

theorem exponentBias_eq : Format.binary64.exponentBias = 1023 := rfl

/-- A finite double has a mantissa and an exponent of the format. -/
theorem canonical_of_unpack {v : Float.Model} {sign : Sign} {m : ℕ} {e : ℤ} {pos : 0 < m}
    (h : v.unpack = .finite sign m e pos) : Canonical m e ∧ e ≤ 971 := by
  unfold Float.Model.unpack UnpackedFloat.unpack at h
  dsimp only at h
  rw [exponentBias_eq] at h
  have bits : (@unpackMantissa .binary64 v.toBits.toBitVec).toNat < 2 ^ 52 := BitVec.isLt _
  have width : (@unpackExponent .binary64 v.toBits.toBitVec).toNat < 2 ^ 11 := BitVec.isLt _
  split at h
  next => split at h <;> cases h
  next finite =>
    have below : (@unpackExponent .binary64 v.toBits.toBitVec).toNat ≠ 2047 :=
      fun same => finite (BitVec.eq_of_toNat_eq same)
    split at h
    next least =>
      split at h
      next => cases h
      next =>
        cases h
        rw [least]
        exact ⟨⟨pos, by omega, by decide, .inr (by decide)⟩, by decide⟩
    next normal =>
      have above : (@unpackExponent .binary64 v.toBits.toBitVec).toNat ≠ 0 :=
        fun same => normal (BitVec.eq_of_toNat_eq same)
      cases h
      have implicit : (1#1 ++ @unpackMantissa .binary64 v.toBits.toBitVec).toNat =
          2 ^ 52 + (@unpackMantissa .binary64 v.toBits.toBitVec).toNat := toNat_implicit _
      exact ⟨⟨pos, by omega, by omega, .inl (by omega)⟩, by omega⟩

theorem ofBitVec_unpackSign (sign : Sign) (exponent : BitVec 11) (mantissa : BitVec 52) :
    Sign.ofBitVec (unpackSign (packComponents .binary64 sign exponent mantissa)) = sign := by
  simp only [unpackSign, packComponents, BitVec.extractLsb]
  rw [BitVec.extractLsb'_append_eq_of_le (by omega),
    BitVec.extractLsb'_append_eq_of_le (by omega)]
  cases sign <;> rfl

theorem unpack_normal (sign : Sign) {exponent : BitVec 11} (mantissa : BitVec 52)
    (finite : exponent ≠ -1#_) (normal : exponent ≠ 0#_) :
    UnpackedFloat.unpack .binary64 (packComponents .binary64 sign exponent mantissa) =
      .finite sign (1#1 ++ mantissa).toNat (exponent.toNat - 1075)
        (by rw [toNat_implicit]; positivity) := by
  unfold UnpackedFloat.unpack
  simp only [unpackMantissa_packComponents, unpackExponent_packComponents,
    ofBitVec_unpackSign, exponentBias_eq]
  rw [if_neg finite, if_neg normal]
  rfl

theorem unpack_subnormal (sign : Sign) {mantissa : BitVec 52} (nonzero : mantissa ≠ 0#_) :
    UnpackedFloat.unpack .binary64 (packComponents .binary64 sign 0#11 mantissa) =
      .finite sign mantissa.toNat (-1074)
        (by simpa [BitVec.toNat_pos, BitVec.pos_iff_ne_zero]) := by
  unfold UnpackedFloat.unpack
  simp only [unpackMantissa_packComponents, unpackExponent_packComponents,
    ofBitVec_unpackSign, exponentBias_eq]
  rw [if_neg (by decide), if_pos trivial, dif_neg nonzero]
  rfl

theorem pack_finite (sign : Sign) {m : ℕ} (e : ℤ) (pos : 0 < m) :
    UnpackedFloat.pack .binary64 (.finite sign m e pos) =
      if 2 ^ 11 ≤ (e + (1023 : ℕ) + (52 : ℕ)).toNat + 1 then packedInfinity .binary64 sign
      else if m.log2 + 1 = 53 then
        packComponents .binary64 sign (.ofNat 11 (e + (1023 : ℕ) + (52 : ℕ)).toNat) (.ofNat 52 m)
      else packComponents .binary64 sign 0#11 (.ofNat 52 m) :=
  rfl

/-- Packing keeps what a double has room for. -/
theorem unpack_pack {m : ℕ} {e : ℤ} (h : Canonical m e) (bound : e ≤ 971) (sign : Sign) :
    UnpackedFloat.unpack .binary64 (UnpackedFloat.pack .binary64 (.finite sign m e h.pos)) =
      .finite sign m e h.pos := by
  have least := h.least
  have bits := h.bits
  rw [pack_finite, if_neg (by omega)]
  by_cases full : 2 ^ 52 ≤ m
  · have log : m.log2 = 52 := (Nat.log2_eq_iff h.pos.ne').mpr ⟨full, bits⟩
    have exponent : (BitVec.ofNat 11 (e + (1023 : ℕ) + (52 : ℕ)).toNat).toNat =
        (e + 1075).toNat := by
      rw [BitVec.toNat_ofNat, Nat.mod_eq_of_lt] <;> omega
    have mantissa : (1#1 ++ BitVec.ofNat 52 m).toNat = m := by
      rw [toNat_implicit, BitVec.toNat_ofNat]
      omega
    rw [log, if_pos rfl, unpack_normal]
    · simp only [mantissa, exponent, UnpackedFloat.finite.injEq, true_and]
      omega
    · intro same
      have := congrArg BitVec.toNat same
      rw [exponent] at this
      change (e + 1075).toNat = 2047 at this
      omega
    · intro same
      have := congrArg BitVec.toNat same
      rw [exponent] at this
      change (e + 1075).toNat = 0 at this
      omega
  · have log : m.log2 + 1 ≠ 53 := by
      have := (Nat.log2_lt h.pos.ne').mpr (not_le.mp full)
      omega
    have mantissa : (BitVec.ofNat 52 m).toNat = m := by
      rw [BitVec.toNat_ofNat, Nat.mod_eq_of_lt (by omega)]
    obtain rfl := h.full.resolve_left full
    rw [if_neg log, unpack_subnormal]
    · simp only [mantissa]
    · intro same
      have := congrArg BitVec.toNat same
      rw [mantissa] at this
      exact h.pos.ne' this

/-! Values of doubles. -/

theorem Parts.mkRat_ratio (d : Parts) :
    mkRat d.ratio.1 d.ratio.2 = d.mantissa * 2 ^ d.exponent := by
  rw [Rat.mkRat_eq_div, ratio]
  split
  next nonneg =>
    rw [Nat.cast_one, div_one]
    push_cast
    rw [← zpow_natCast, Int.toNat_of_nonneg nonneg]
  next negative =>
    push_cast
    rw [← zpow_natCast, Int.toNat_of_nonneg (by omega), zpow_neg, div_inv_eq_mul]

theorem Parts.abs_toRat (d : Parts) : |d.toRat| = d.mantissa * 2 ^ d.exponent := by
  have nonneg : (0 : ℚ) ≤ d.mantissa * 2 ^ d.exponent :=
    mul_nonneg (Nat.cast_nonneg _) (two_zpow_pos _).le
  rw [toRat, d.mkRat_ratio]
  split
  next => rw [abs_neg, abs_of_nonneg nonneg]
  next => rw [abs_of_nonneg nonneg]

theorem abs_of_toRat? {x : Float} {q : ℚ} (h : toRat? x = some q) (hq : q ≠ 0) :
    ∃ m e, Canonical m e ∧ e ≤ 971 ∧ |q| = m * 2 ^ e := by
  obtain ⟨d, split, rfl⟩ := Option.map_eq_some_iff.mp h
  unfold split? at split
  cases hu : x.toModel.unpack with
  | finite sign m e pos =>
      rw [hu] at split
      cases split
      obtain ⟨canonical, bound⟩ := canonical_of_unpack hu
      exact ⟨m, e, canonical, bound, Parts.abs_toRat _⟩
  | zero sign =>
      rw [hu] at split
      cases split
      cases sign <;> exact absurd rfl hq
  | infinity sign => rw [hu] at split; cases split
  | notANumber => rw [hu] at split; cases split

/-- The value of a double is rounded to it. -/
theorem dyadic_of_toRat? {x : Float} {q : ℚ} (h : toRat? x = some q) (hq : q ≠ 0) :
    Dyadic q := by
  obtain ⟨m, e, canonical, -, value⟩ := abs_of_toRat? h hq
  exact ⟨m, e, canonical, value⟩

theorem log2_mul_two_pow {n : ℕ} (pos : 0 < n) (k : ℕ) : (n * 2 ^ k).log2 = n.log2 + k := by
  rw [Nat.log2_eq_iff (by positivity), pow_add, add_right_comm, pow_add _ _ k]
  exact ⟨Nat.mul_le_mul_right _ (Nat.log2_self_le pos.ne'),
    Nat.mul_lt_mul_of_pos_right Nat.lt_log2_self (by positivity)⟩

theorem dyadic_of_scaled {r : ℚ} {n : ℕ} {j : ℤ} (pos : 0 < n) (bits : n < 2 ^ 53)
    (least : -1074 ≤ j) (value : |r| = n * 2 ^ j) : Dyadic r := by
  have log : n.log2 < 53 := (Nat.log2_lt pos.ne').mpr bits
  -- the mantissa is made as long as it can be
  obtain ⟨k, small, reached⟩ : ∃ k : ℕ, n.log2 + k ≤ 52 ∧ (n.log2 + k = 52 ∧ -1074 ≤ j - k ∨
      j - k = -1074) := by
    by_cases room : (52 - n.log2 : ℕ) ≤ (j + 1074).toNat
    · exact ⟨52 - n.log2, by omega, .inl (by omega)⟩
    · exact ⟨(j + 1074).toNat, by omega, .inr (by omega)⟩
  have log_shifted := log2_mul_two_pow pos k
  have positive : 0 < n * 2 ^ k := by positivity
  refine ⟨n * 2 ^ k, j - k, ⟨positive, ?_, by omega, ?_⟩, ?_⟩
  · exact (Nat.log2_lt positive.ne').mp (by omega)
  · refine reached.imp (fun full => ?_) id
    exact (Nat.le_log2 positive.ne').mp (by omega)
  · rw [value, zpow_sub₀ two_ne_zero, zpow_natCast]
    push_cast
    field_simp

theorem sub_self_eq {x : Float} (finite : x.isFinite = true) : x - x = 0 := by
  obtain ⟨v⟩ := x
  change v.unpack.isFinite = true at finite
  change Float.ofModel (.pack (.sub .binary64 v.unpack v.unpack)) = 0
  cases hu : v.unpack with
  | finite sign m e pos =>
      simp only [UnpackedFloat.sub, Int.sub_self, UnpackedFloat.normalize]
      rfl
  | zero sign => cases sign <;> rfl
  | infinity sign => rw [hu] at finite; cases finite
  | notANumber => rw [hu] at finite; cases finite

theorem zero_div_abs_eq {x : Float} (finite : x.isFinite = true) (nonzero : (x.abs == 0) = false) :
    0 / x.abs = 0 := by
  obtain ⟨v⟩ := x
  change v.unpack.isFinite = true at finite
  change (UnpackedFloat.beq (Float.Model.pack v.unpack.abs).unpack _) = false at nonzero
  change Float.ofModel (.pack (.div .binary64 _ (Float.Model.pack v.unpack.abs).unpack)) = 0
  cases hu : v.unpack with
  | finite sign m e pos =>
      obtain ⟨canonical, bound⟩ := canonical_of_unpack hu
      have unpacked : (Float.Model.pack (.finite .positive m e pos)).unpack =
          .finite .positive m e pos := unpack_pack canonical bound .positive
      rw [UnpackedFloat.abs, unpacked]
      rfl
  | zero sign =>
      rw [hu] at nonzero
      exact absurd nonzero (by cases sign <;> decide)
  | infinity sign => rw [hu] at finite; cases finite
  | notANumber => rw [hu] at finite; cases finite

/-! Doubles without a minus sign. -/

/-- No minus sign. -/
def Unsigned : UnpackedFloat → Prop
  | .finite s .. | .zero s | .infinity s => s = .positive
  | .notANumber => True

theorem unsigned_unpack {bits : BitVec 64}
    (h : Sign.ofBitVec (@unpackSign .binary64 bits) = .positive) :
    Unsigned (UnpackedFloat.unpack .binary64 bits) := by
  unfold UnpackedFloat.unpack
  dsimp only
  split
  next => split <;> simp [Unsigned, h]
  next =>
    split
    next => split <;> simp [Unsigned, h]
    next => exact h

theorem unsigned_pack {u : UnpackedFloat} (h : Unsigned u) :
    Unsigned (UnpackedFloat.unpack .binary64 (UnpackedFloat.pack .binary64 u)) := by
  cases u with
  | infinity s =>
      obtain rfl : s = .positive := h
      exact unsigned_unpack rfl
  | notANumber => exact unsigned_unpack rfl
  | zero s =>
      obtain rfl : s = .positive := h
      exact unsigned_unpack rfl
  | finite s m e pos =>
      obtain rfl : s = .positive := h
      rw [pack_finite]
      split
      next => exact unsigned_unpack rfl
      next =>
        split
        next => exact unsigned_unpack (ofBitVec_unpackSign _ _ _)
        next => exact unsigned_unpack (ofBitVec_unpackSign _ _ _)

theorem unsigned_roundWithAccuracy (m : ℕ) (e : ℤ) (accuracy : Accuracy) :
    Unsigned (roundWithAccuracy .binary64 .positive m e accuracy) := by
  simp only [roundWithAccuracy]
  generalize shiftToTargetExponent _ _ _ _ = shifted
  split <;> rfl

theorem unsigned_mul {u v : UnpackedFloat} (hu : Unsigned u) (hv : Unsigned v) :
    Unsigned (UnpackedFloat.mul .binary64 u v) := by
  cases u <;> cases v <;> simp only [Unsigned] at hu hv <;> subst_vars <;>
    first
    | exact unsigned_roundWithAccuracy _ _ _
    | rfl
    | trivial

theorem unsigned_abs (u : UnpackedFloat) : Unsigned u.abs := by
  cases u <;> simp [UnpackedFloat.abs, Unsigned]

/-- Nothing without a minus sign is below zero. -/
theorem not_lt_zero {x : Float} (h : Unsigned x.toModel.unpack) : ¬ x < 0 := by
  intro below
  have less : UnpackedFloat.lt x.toModel.unpack (.zero .positive) = true := by
    have : x.toModel < (0 : Float).toModel := of_decide_eq_true below
    exact this
  cases hu : x.toModel.unpack <;> rw [hu] at h less <;> simp only [Unsigned] at h <;>
    subst_vars <;> simp [UnpackedFloat.lt, UnpackedFloat.compare] at less

theorem unpack_mul (x y : Float) : (x * y).toModel.unpack =
    UnpackedFloat.unpack .binary64 (UnpackedFloat.pack .binary64
      (UnpackedFloat.mul .binary64 x.toModel.unpack y.toModel.unpack)) := rfl

theorem unpack_abs (x : Float) : x.abs.toModel.unpack =
    UnpackedFloat.unpack .binary64 (UnpackedFloat.pack .binary64 x.toModel.unpack.abs) := rfl

theorem unsigned_of_isNegative {x : Float} (h : isNegative x = false) :
    Unsigned x.toModel.unpack := by
  unfold isNegative at h
  cases hu : x.toModel.unpack with
  | notANumber => trivial
  | finite s m e pos => cases s <;> simp [hu, Unsigned] at h ⊢
  | zero s => cases s <;> simp [hu, Unsigned] at h ⊢
  | infinity s => cases s <;> simp [hu, Unsigned] at h ⊢

end Astrolabe.Binary64
