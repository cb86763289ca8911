import Astrolabe.Proofs.Number.Magnitude

/-!
Signs of doubles, and whole numbers among them. A double with a value compares with zero as its
value does, and is an integer where its value is one.
-/

namespace Astrolabe.Binary64

open Float.Model UnpackedFloat

/-! The parts of a double. -/

theorem Parts.ratio_pos (d : Parts) : 0 < d.ratio.2 := by
  rw [ratio]
  split
  next => exact Nat.one_pos
  next => exact Nat.two_pow_pos _

theorem Parts.ratio_eq (d : Parts) : (d.ratio.1 : ℚ) / d.ratio.2 = |d.toRat| := by
  rw [d.abs_toRat, ← d.mkRat_ratio, Rat.mkRat_eq_div]
  rfl

theorem Parts.negative_iff {d : Parts} (nonzero : d.toRat ≠ 0) :
    d.negative = true ↔ d.toRat < 0 := by
  have magnitude : 0 ≤ mkRat d.ratio.1 d.ratio.2 := by
    rw [d.mkRat_ratio]
    exact mul_nonneg (Nat.cast_nonneg _) (two_zpow_pos _).le
  rw [toRat] at nonzero ⊢
  cases negative : d.negative with
  | true =>
      rw [negative, if_pos rfl, neg_ne_zero] at nonzero
      rw [if_pos rfl, neg_lt_zero]
      exact iff_of_true rfl (lt_of_le_of_ne magnitude nonzero.symm)
  | false => exact iff_of_false Bool.false_ne_true magnitude.not_gt

theorem beq_zero_iff {x : Float} : (x == 0) = true ↔ toRat? x = some 0 := by
  change UnpackedFloat.beq x.toModel.unpack (.zero .positive) = true ↔ _
  cases h : x.toModel.unpack with
  | zero s =>
      refine iff_of_true rfl ?_
      rw [toRat?, split?, h]
      cases s <;> rfl
  | finite s m e pos =>
      obtain ⟨p, value, magnitude⟩ := toRat?_of_unpack_finite h
      refine iff_of_false (by cases s <;> exact Bool.false_ne_true) ?_
      rw [value, Option.some.injEq, ← abs_eq_zero, magnitude]
      exact (mul_pos (by exact_mod_cast pos) (two_zpow_pos e)).ne'
  | infinity s =>
      refine iff_of_false (by cases s <;> exact Bool.false_ne_true) ?_
      rw [toRat?, split?, h]
      exact Option.some_ne_none 0 ∘ Eq.symm
  | notANumber =>
      refine iff_of_false Bool.false_ne_true ?_
      rw [toRat?, split?, h]
      exact Option.some_ne_none 0 ∘ Eq.symm

/-- A positive double has a mantissa and an exponent or is infinite. -/
theorem unpack_of_pos {x : Float} (h : 0 < x) :
    (∃ m e, ∃ c : Canonical m e, e ≤ 971 ∧ x.toModel.unpack = .finite .positive m e c.pos) ∨
      x.toModel.unpack = .infinity .positive := by
  change decide (UnpackedFloat.lt (.zero .positive) x.toModel.unpack = true) = true at h
  rw [decide_eq_true_eq] at h
  cases unpacked : x.toModel.unpack with
  | finite s m e pos =>
      rw [unpacked] at h
      cases s with
      | positive =>
          obtain ⟨canonical, bound⟩ := canonical_of_unpack unpacked
          exact .inl ⟨m, e, canonical, bound, rfl⟩
      | negative => cases h
  | infinity s =>
      rw [unpacked] at h
      cases s with
      | positive => exact .inr rfl
      | negative => cases h
  | zero s | notANumber => rw [unpacked] at h; cases h

/-- The opposite of a positive double is the same but for the sign. -/
theorem unpack_neg_of_pos {x : Float} (h : 0 < x) :
    (-x).toModel.unpack = x.toModel.unpack.neg := by
  change UnpackedFloat.unpack .binary64 (UnpackedFloat.pack .binary64 x.toModel.unpack.neg) = _
  obtain ⟨m, e, canonical, bound, unpacked⟩ | unpacked := unpack_of_pos h
  · rw [unpacked]
    exact unpack_pack canonical bound .negative
  · rw [unpacked]
    exact unpack_pack_infinity .negative

theorem abs_neg_of_pos {x : Float} (h : 0 < x) : (-x).abs = x.abs := by
  change Float.ofModel (.pack (-x).toModel.unpack.abs) = .ofModel (.pack x.toModel.unpack.abs)
  rw [unpack_neg_of_pos h]
  cases x.toModel.unpack <;> rfl

theorem beq_zero_neg {x : Float} (h : 0 < x) : (-x == 0) = (x == 0) := by
  change UnpackedFloat.beq (-x).toModel.unpack (.zero .positive) =
    UnpackedFloat.beq x.toModel.unpack (.zero .positive)
  rw [unpack_neg_of_pos h]
  cases x.toModel.unpack with
  | finite s | infinity s => cases s <;> rfl
  | zero | notANumber => rfl

/-! Comparisons with zero. -/

/-- A double compares with zero as its value does. -/
theorem compare_zero {x : Float} {p : ℚ} (h : toRat? x = some p) :
    UnpackedFloat.compare x.toModel.unpack (.zero .positive) = some (compare p 0) := by
  obtain ⟨s, unpacked, rfl⟩ | ⟨s, m, e, canonical, unpacked, rfl⟩ := unpack_of_toRat? h <;>
    rw [unpacked]
  · rfl
  · have positive : (0 : ℚ) < m * 2 ^ e :=
      mul_pos (by exact_mod_cast canonical.pos) (two_zpow_pos e)
    cases s with
    | positive => rw [compare_gt_iff_gt.mpr (by simpa [Sign.apply] using positive)]; rfl
    | negative => rw [compare_lt_iff_lt.mpr (by simpa [Sign.apply] using positive)]; rfl

theorem lt_zero_iff {x : Float} {p : ℚ} (h : toRat? x = some p) : x < 0 ↔ p < 0 := by
  change decide (UnpackedFloat.lt x.toModel.unpack (.zero .positive) = true) = true ↔ _
  rw [decide_eq_true_eq, UnpackedFloat.lt, compare_zero h, beq_iff_eq, Option.some.injEq,
    compare_lt_iff_lt]

theorem le_zero_iff {x : Float} {p : ℚ} (h : toRat? x = some p) : x ≤ 0 ↔ p ≤ 0 := by
  change decide (UnpackedFloat.le x.toModel.unpack (.zero .positive) = true) = true ↔ _
  rw [decide_eq_true_eq, UnpackedFloat.le, compare_zero h, Option.any_some]
  exact Ordering.ne_gt_iff_isLE.symm.trans compare_le_iff_le

/-- What is not at most zero is positive or compares with nothing. -/
theorem isNaN_or_pos {x : Float} (h : ¬x ≤ 0) : x.isNaN = true ∨ 0 < x := by
  change ¬decide (UnpackedFloat.le x.toModel.unpack (.zero .positive) = true) = true at h
  rw [decide_eq_true_eq] at h
  change x.toModel.unpack.isNaN = true ∨
    decide (UnpackedFloat.lt (.zero .positive) x.toModel.unpack = true) = true
  rw [decide_eq_true_eq]
  cases unpacked : x.toModel.unpack with
  | notANumber => exact .inl rfl
  | zero s => rw [unpacked] at h; exact absurd rfl h
  | infinity s | finite s =>
      rw [unpacked] at h
      cases s with
      | positive => exact .inr rfl
      | negative => exact absurd rfl h

/-! Whole numbers. -/

theorem exists_int_iff {a b : ℕ} (pos : 0 < b) : (∃ n : ℤ, (a : ℚ) / b = n) ↔ b ∣ a := by
  have positive : (b : ℚ) ≠ 0 := by exact_mod_cast pos.ne'
  constructor
  · rintro ⟨n, same⟩
    rw [div_eq_iff positive] at same
    have whole : (a : ℤ) = b * n := by
      rw [mul_comm]
      exact_mod_cast same
    exact Int.natCast_dvd_natCast.mp ⟨n, whole⟩
  · rintro ⟨k, rfl⟩
    exact ⟨k, by push_cast; field_simp⟩

/-- A double is an integer just where its value is one. -/
theorem isInteger_iff {x : Float} {p : ℚ} (h : toRat? x = some p) :
    isInteger x = true ↔ ∃ n : ℤ, p = n := by
  obtain ⟨d, split, rfl⟩ := Option.map_eq_some_iff.mp h
  have magnitude : (∃ n : ℤ, |d.toRat| = n) ↔ ∃ n : ℤ, d.toRat = n := by
    constructor
    · rintro ⟨n, same⟩
      obtain positive | negative := abs_choice d.toRat
      · exact ⟨n, positive ▸ same⟩
      · exact ⟨-n, by rw [Int.cast_neg, ← same, negative, neg_neg]⟩
    · rintro ⟨n, same⟩
      exact ⟨|n|, by rw [same, Int.cast_abs]⟩
  rw [isInteger, split, Option.any_some, Parts.isInteger, beq_iff_eq, ← Nat.dvd_iff_mod_eq_zero,
    ← exists_int_iff d.ratio_pos, d.ratio_eq, magnitude]

end Astrolabe.Binary64
