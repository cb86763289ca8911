import Astrolabe.Proofs.Number.Nearest

/-!
Magnitudes of doubles. Comparing doubles compares their values, and the operations of a conversion
between units keep the order of magnitudes, where what is not finite counts as larger than all.
-/

namespace Astrolabe.Binary64

open Float.Model UnpackedFloat

/-! Comparisons. -/

theorem Canonical.lt_of_exponent_lt {m n : ℕ} {e f : ℤ} (hm : Canonical m e) (hn : Canonical n f)
    (less : e < f) : (m : ℚ) * 2 ^ e < n * 2 ^ f := by
  have least := hm.least
  have bits : (m : ℚ) < 2 ^ 53 := by exact_mod_cast hm.bits
  have full : (2 : ℚ) ^ 52 ≤ n := by exact_mod_cast hn.full.resolve_right (by omega)
  calc (m : ℚ) * 2 ^ e < 2 ^ 53 * 2 ^ e := mul_lt_mul_of_pos_right bits (two_zpow_pos e)
    _ = 2 ^ 52 * 2 ^ (e + 1) := by
        rw [zpow_add₀ two_ne_zero]
        ring
    _ ≤ n * 2 ^ f := by
        refine mul_le_mul full ?_ (two_zpow_pos _).le (Nat.cast_nonneg n)
        exact zpow_le_zpow_right₀ one_le_two less

theorem Canonical.compare_eq {m n : ℕ} {e f : ℤ} (hm : Canonical m e) (hn : Canonical n f) :
    (compare e f).then (compare m n) = compare ((m : ℚ) * 2 ^ e) (n * 2 ^ f) := by
  obtain less | rfl | more := lt_trichotomy e f
  · rw [compare_lt_iff_lt.mpr less, compare_lt_iff_lt.mpr (hm.lt_of_exponent_lt hn less)]
    rfl
  · rw [compare_eq_iff_eq.mpr rfl, Ordering.eq_then]
    obtain less | rfl | more := lt_trichotomy m n
    · rw [compare_lt_iff_lt.mpr less, compare_lt_iff_lt.mpr]
      exact mul_lt_mul_of_pos_right (by exact_mod_cast less) (two_zpow_pos e)
    · rw [compare_eq_iff_eq.mpr rfl, compare_eq_iff_eq.mpr rfl]
    · rw [compare_gt_iff_gt.mpr more, compare_gt_iff_gt.mpr]
      exact mul_lt_mul_of_pos_right (by exact_mod_cast more) (two_zpow_pos e)
  · rw [compare_gt_iff_gt.mpr more, compare_gt_iff_gt.mpr (hn.lt_of_exponent_lt hm more)]
    rfl

theorem compare_abs {x y : Float} {p q : ℚ} (hx : toRat? x = some p) (hy : toRat? y = some q)
    (nonneg : 0 ≤ q) :
    UnpackedFloat.compare x.abs.toModel.unpack y.toModel.unpack = some (compare |p| q) := by
  rw [unpack_abs]
  obtain ⟨t, uy, rfl⟩ | ⟨t, n, f, hn, uy, rfl⟩ := unpack_of_toRat? hy <;>
    obtain ⟨s, ux, rfl⟩ | ⟨s, m, e, hm, ux, rfl⟩ := unpack_of_toRat? hx <;>
    rw [ux, uy, UnpackedFloat.abs]
  case inl.inl =>
    rw [unpack_pack_zero, abs_zero, compare_eq_iff_eq.mpr rfl]
    cases t <;> rfl
  case inl.inr =>
    rw [unpack_pack hm (canonical_of_unpack ux).2, abs_apply, compare_gt_iff_gt.mpr]
    · cases t <;> rfl
    · exact mul_pos (by exact_mod_cast hm.pos) (two_zpow_pos e)
  all_goals
    have value : ((t.apply n : ℤ) : ℚ) * 2 ^ f = n * 2 ^ f := by
      rw [← abs_apply t n f, abs_of_nonneg nonneg]
    have positive : (0 : ℚ) < n * 2 ^ f := mul_pos (by exact_mod_cast hn.pos) (two_zpow_pos f)
    obtain rfl : t = .positive := by
      cases t with
      | positive => rfl
      | negative =>
          simp only [Sign.apply, Int.cast_neg, Int.cast_natCast, neg_mul] at value
          linarith
  case inr.inl =>
    rw [unpack_pack_zero, abs_zero, value, compare_lt_iff_lt.mpr positive]
    rfl
  case inr.inr =>
    rw [unpack_pack hm (canonical_of_unpack ux).2, abs_apply, value, ← hm.compare_eq hn]
    rfl

theorem abs_le_iff {x y : Float} {p q : ℚ} (hx : toRat? x = some p) (hy : toRat? y = some q)
    (nonneg : 0 ≤ q) : x.abs ≤ y ↔ |p| ≤ q := by
  change decide (UnpackedFloat.le _ _ = true) = true ↔ _
  rw [decide_eq_true_eq, UnpackedFloat.le, compare_abs hx hy nonneg, Option.any_some]
  exact Ordering.ne_gt_iff_isLE.symm.trans compare_le_iff_le

theorem abs_lt_iff {x y : Float} {p q : ℚ} (hx : toRat? x = some p) (hy : toRat? y = some q)
    (nonneg : 0 ≤ q) : x.abs < y ↔ |p| < q := by
  change decide (UnpackedFloat.lt _ _ = true) = true ↔ _
  rw [decide_eq_true_eq, UnpackedFloat.lt, compare_abs hx hy nonneg, beq_iff_eq,
    Option.some.injEq, compare_lt_iff_lt]

theorem compare_swap (u v : UnpackedFloat) :
    UnpackedFloat.compare v u = (UnpackedFloat.compare u v).map Ordering.swap := by
  have signs (s t : Sign) : compare t s = (compare s t).swap := by
    cases s <;> cases t <;> rfl
  have sizes (m n : ℕ) (e f : ℤ) :
      (compare f e).then (compare n m) = ((compare e f).then (compare m n)).swap := by
    rw [Ordering.swap_then, @Std.OrientedCmp.eq_swap ℤ compare _ f,
      @Std.OrientedCmp.eq_swap ℕ compare _ n]
  cases u with
  | notANumber => cases v <;> rfl
  | infinity s =>
      cases v with
      | infinity t => exact congrArg some (signs s t)
      | _ => cases s <;> rfl
  | zero s =>
      cases v with
      | infinity t | finite t => cases t <;> rfl
      | _ => rfl
  | finite s m e =>
      cases v with
      | notANumber => rfl
      | infinity t => cases t <;> rfl
      | zero t => cases s <;> rfl
      | finite t n f =>
          cases s <;> cases t
          · exact congrArg some (congrArg Ordering.swap (sizes m n e f))
          · rfl
          · rfl
          · exact congrArg some (sizes m n e f)

theorem le_abs_iff {x y : Float} {p q : ℚ} (hx : toRat? x = some p) (hy : toRat? y = some q)
    (nonneg : 0 ≤ q) : y ≤ x.abs ↔ q ≤ |p| := by
  change decide (UnpackedFloat.le _ _ = true) = true ↔ _
  rw [decide_eq_true_eq, UnpackedFloat.le, compare_swap x.abs.toModel.unpack,
    compare_abs hx hy nonneg, Option.map_some, Option.any_some,
    ← @Std.OrientedCmp.eq_swap ℚ compare _]
  exact Ordering.ne_gt_iff_isLE.symm.trans compare_le_iff_le

theorem unpack_pack_infinity (sign : Sign) :
    UnpackedFloat.unpack .binary64 (UnpackedFloat.pack .binary64 (.infinity sign)) =
      .infinity sign := by
  cases sign <;> rfl

theorem unpack_pack_notANumber :
    UnpackedFloat.unpack .binary64 (UnpackedFloat.pack .binary64 .notANumber) = .notANumber := rfl

/-- Nothing finite bounds what is not finite. -/
theorem isFinite_of_abs_le {x y : Float} (finite : y.isFinite = true) (le : x.abs ≤ y) :
    x.isFinite = true := by
  change decide (UnpackedFloat.le x.abs.toModel.unpack y.toModel.unpack = true) = true at le
  change y.toModel.unpack.isFinite = true at finite
  change x.toModel.unpack.isFinite = true
  rw [decide_eq_true_eq, unpack_abs] at le
  cases hx : x.toModel.unpack with
  | finite | zero => rfl
  | infinity s =>
      rw [hx, UnpackedFloat.abs, unpack_pack_infinity] at le
      cases hy : y.toModel.unpack <;> rw [hy] at le finite <;>
        first | cases le | cases finite
  | notANumber =>
      rw [hx, UnpackedFloat.abs, unpack_pack_notANumber] at le
      cases le

theorem isFinite_of_beq_zero {x : Float} (zero : (x == 0) = true) : x.isFinite = true := by
  change UnpackedFloat.beq x.toModel.unpack (.zero .positive) = true at zero
  change x.toModel.unpack.isFinite = true
  cases h : x.toModel.unpack with
  | finite | zero => rfl
  | infinity s => rw [h] at zero; cases s <;> cases zero
  | notANumber => rw [h] at zero; cases zero

/-! Results of what is not finite. -/

theorem isFinite_of_pack {u : UnpackedFloat}
    (h : (Float.ofModel (.pack u)).isFinite = true) : u.isFinite = true := by
  change (UnpackedFloat.unpack .binary64 (UnpackedFloat.pack .binary64 u)).isFinite = true at h
  cases u with
  | finite | zero => rfl
  | infinity s => rwa [unpack_pack_infinity] at h
  | notANumber => rwa [unpack_pack_notANumber] at h

theorem isFinite_of_neg {x : Float} (h : (-x).isFinite = true) : x.isFinite = true := by
  have negated : x.toModel.unpack.neg.isFinite = true := isFinite_of_pack h
  change x.toModel.unpack.isFinite = true
  cases hx : x.toModel.unpack <;> rw [hx] at negated <;> exact negated

/-- An operation that gives nothing finite for what is not finite on its left. -/
theorem isFinite_of_operation {operation : UnpackedFloat → UnpackedFloat → UnpackedFloat}
    (strict : ∀ u v, u.isFinite = false → (operation u v).isFinite = false) {x y : Float}
    (h : (Float.ofModel (.pack (operation x.toModel.unpack y.toModel.unpack))).isFinite = true) :
    x.isFinite = true := by
  have finite := isFinite_of_pack h
  change x.toModel.unpack.isFinite = true
  cases left : x.toModel.unpack.isFinite with
  | true => rfl
  | false => rw [strict _ _ left] at finite; cases finite

theorem isFinite_of_mul {x y : Float} (h : (x * y).isFinite = true) : x.isFinite = true := by
  refine isFinite_of_operation (fun u v left => ?_) h
  cases u <;> cases v <;> first | rfl | cases left

theorem isFinite_of_div {x y : Float} (h : (x / y).isFinite = true) : x.isFinite = true := by
  refine isFinite_of_operation (fun u v left => ?_) h
  cases u <;> cases v <;> first | rfl | cases left

theorem isFinite_of_add {x y : Float} (h : (x + y).isFinite = true) : x.isFinite = true := by
  refine isFinite_of_operation (fun u v left => ?_) h
  cases u with
  | finite | zero => cases left
  | notANumber => rfl
  | infinity s =>
      cases v with
      | infinity t => cases s <;> cases t <;> rfl
      | _ => rfl

theorem isFinite_of_sub {x y : Float} (h : (x - y).isFinite = true) : x.isFinite = true := by
  refine isFinite_of_operation (fun u v left => ?_) h
  cases u with
  | finite | zero => cases left
  | notANumber => rfl
  | infinity s =>
      cases v with
      | infinity t => cases s <;> cases t <;> rfl
      | _ => rfl

/-! The order of magnitudes. -/

/-- A double is no farther from zero than another one, if that is finite. -/
def Within (x y : Float) : Prop :=
  ∀ q, toRat? y = some q → ∃ p, toRat? x = some p ∧ |p| ≤ |q|

theorem Within.isFinite {x y : Float} (h : Within x y) (finite : y.isFinite = true) :
    x.isFinite = true := by
  obtain ⟨q, hy⟩ := isFinite_iff.mp finite
  obtain ⟨p, hx, -⟩ := h q hy
  exact isFinite_iff.mpr ⟨p, hx⟩

/-- Results are in the order of the magnitudes that are rounded to them. -/
theorem Rounds.within {x y : Float} {v w : ℚ} (hx : Rounds x v) (hy : Rounds y w)
    (nonneg : 0 ≤ v) (le : v ≤ w) : Within x y := by
  intro q value
  obtain ⟨p, value'⟩ := isFinite_iff.mp
    (hx.isFinite_of_le hy nonneg le (isFinite_iff.mpr ⟨q, value⟩))
  refine ⟨p, value', ?_⟩
  rw [hx.value p value', hy.value q value]
  exact rounded_mono nonneg le

theorem Within.mul {x y c : Float} {r : ℚ} (h : Within x y) (hc : toRat? c = some r) :
    Within (x * c) (y * c) := by
  intro q value
  obtain ⟨b, hy⟩ := isFinite_iff.mp (isFinite_of_mul (isFinite_iff.mpr ⟨q, value⟩))
  obtain ⟨a, hx, le⟩ := h b hy
  refine (mul_rounds hx hc).within (mul_rounds hy hc) (abs_nonneg _) ?_ q value
  rw [abs_mul, abs_mul]
  exact mul_le_mul_of_nonneg_right le (abs_nonneg r)

theorem Within.div {x y c : Float} {r : ℚ} (h : Within x y) (hc : toRat? c = some r)
    (nonzero : r ≠ 0) : Within (x / c) (y / c) := by
  intro q value
  obtain ⟨b, hy⟩ := isFinite_iff.mp (isFinite_of_div (isFinite_iff.mpr ⟨q, value⟩))
  obtain ⟨a, hx, le⟩ := h b hy
  refine (div_rounds hx hc nonzero).within (div_rounds hy hc nonzero) (abs_nonneg _) ?_ q value
  rw [abs_div, abs_div]
  exact div_le_div_of_nonneg_right le (abs_nonneg r)

theorem Within.add {x y z : Float} (h : Within x y) (zero : toRat? z = some 0) :
    Within (x + z) (y + z) := by
  intro q value
  obtain ⟨b, hy⟩ := isFinite_iff.mp (isFinite_of_add (isFinite_iff.mpr ⟨q, value⟩))
  obtain ⟨a, hx, le⟩ := h b hy
  refine (add_rounds hx zero).within (add_rounds hy zero) (abs_nonneg _) ?_ q value
  rwa [add_zero, add_zero]

theorem Within.sub {x y z : Float} (h : Within x y) (zero : toRat? z = some 0) :
    Within (x - z) (y - z) := by
  intro q value
  obtain ⟨b, hy⟩ := isFinite_iff.mp (isFinite_of_sub (isFinite_iff.mpr ⟨q, value⟩))
  obtain ⟨a, hx, le⟩ := h b hy
  refine (sub_rounds hx zero).within (sub_rounds hy zero) (abs_nonneg _) ?_ q value
  rwa [sub_zero, sub_zero]

/-- A difference is no farther from zero than the sum of magnitudes. -/
theorem Within.sub_add {x y z : Float} {c : ℚ} (h : Within x y)
    (nonneg : ∀ b, toRat? y = some b → 0 ≤ b) (hz : toRat? z = some c) (nonneg' : 0 ≤ c) :
    Within (x - z) (y + z) := by
  intro q value
  obtain ⟨b, hy⟩ := isFinite_iff.mp (isFinite_of_add (isFinite_iff.mpr ⟨q, value⟩))
  obtain ⟨a, hx, le⟩ := h b hy
  refine (sub_rounds hx hz).within (add_rounds hy hz) (abs_nonneg _) ?_ q value
  rw [abs_of_nonneg (add_nonneg (nonneg b hy) nonneg')]
  rw [abs_of_nonneg (nonneg b hy)] at le
  calc |a - c| ≤ |a| + |c| := abs_sub a c
    _ ≤ b + c := by rw [abs_of_nonneg nonneg']; exact add_le_add_left le c

theorem within_of_abs_le {x y : Float} {p q : ℚ} (hx : toRat? x = some p) (hy : toRat? y = some q)
    (le : |p| ≤ |q|) : Within x y := by
  intro q' hy'
  cases hy.symm.trans hy'
  exact ⟨p, hx, le⟩

/-- The greatest double. -/
def greatest : Float := 1.7976931348623157e308

theorem within_greatest {x : Float} (finite : x.isFinite = true) : Within x greatest := by
  obtain ⟨p, hx⟩ := isFinite_iff.mp finite
  have value : toRat? greatest = some ((2 ^ 53 - 1) * 2 ^ 971) := by decide +kernel
  refine within_of_abs_le hx value ?_
  obtain rfl | nonzero := eq_or_ne p 0
  · rw [abs_zero]
    exact abs_nonneg _
  · obtain ⟨m, e, canonical, bound, abs⟩ := abs_of_toRat? hx nonzero
    rw [abs, abs_of_nonneg (by norm_num)]
    have bits : (m : ℚ) ≤ 2 ^ 53 - 1 := by
      have := canonical.bits
      rw [le_sub_iff_add_le]
      exact_mod_cast this
    refine mul_le_mul bits ?_ (two_zpow_pos e).le (by norm_num)
    rw [← zpow_natCast]
    exact zpow_le_zpow_right₀ one_le_two bound

theorem split?_eq_some {x : Float} {m : ℕ} {e : ℤ} (h : split? x = some ⟨false, m, e⟩)
    (pos : 0 < m) : Canonical m e ∧ toRat? x = some ((m : ℚ) * 2 ^ e) := by
  have value : toRat? x = some ((m : ℚ) * 2 ^ e) := by
    rw [toRat?, h, Option.map_some, Parts.toRat, Parts.mkRat_ratio]
    rfl
  refine ⟨?_, value⟩
  unfold split? at h
  cases unpacked : x.toModel.unpack with
  | finite s n f hn =>
      simp only [unpacked, Option.some.injEq, Parts.mk.injEq] at h
      obtain ⟨-, rfl, rfl⟩ := h
      exact (canonical_of_unpack unpacked).1
  | zero s =>
      simp only [unpacked, Option.some.injEq, Parts.mk.injEq] at h
      omega
  | infinity | notANumber => rw [unpacked] at h; cases h

/-- One positive double is the next after another, with the same exponent. -/
def Consecutive (x y : Float) : Prop :=
  ∃ m e, 0 < m ∧ split? x = some ⟨false, m, e⟩ ∧ split? y = some ⟨false, m + 1, e⟩

theorem Consecutive.toRat?_right {x y : Float} (h : Consecutive x y) :
    ∃ q, toRat? y = some q ∧ 0 ≤ q := by
  obtain ⟨m, e, -, -, hy⟩ := h
  exact ⟨_, (split?_eq_some hy (Nat.succ_pos m)).2,
    mul_nonneg (Nat.cast_nonneg _) (two_zpow_pos e).le⟩

/-- What is below a double is no farther from zero than the double before it. -/
theorem Consecutive.within {x y z : Float} (h : Consecutive y z) (finite : x.isFinite = true)
    (below : x.abs < z) : Within x y := by
  obtain ⟨m, e, pos, hy, hz⟩ := h
  obtain ⟨p, hx⟩ := isFinite_iff.mp finite
  obtain ⟨canonical_y, hy⟩ := split?_eq_some hy pos
  obtain ⟨canonical_z, hz⟩ := split?_eq_some hz (Nat.succ_pos m)
  rw [abs_lt_iff hx hz (mul_nonneg (Nat.cast_nonneg _) (two_zpow_pos e).le)] at below
  refine within_of_abs_le hx hy ?_
  rw [abs_of_nonneg (mul_nonneg (Nat.cast_nonneg m) (two_zpow_pos e).le)]
  obtain rfl | nonzero := eq_or_ne p 0
  · rw [abs_zero]
    exact mul_nonneg (Nat.cast_nonneg m) (two_zpow_pos e).le
  obtain ⟨n, f, canonical, -, abs⟩ := abs_of_toRat? hx nonzero
  rw [abs] at below ⊢
  obtain less | rfl | more := lt_trichotomy f e
  · exact (canonical.lt_of_exponent_lt canonical_y less).le
  · have upper : (n : ℚ) < (m + 1 : ℕ) := lt_of_mul_lt_mul_right below (two_zpow_pos f).le
    have : n ≤ m := Nat.lt_succ_iff.mp (by exact_mod_cast upper)
    exact mul_le_mul_of_nonneg_right (by exact_mod_cast this) (two_zpow_pos f).le
  · exact absurd below (canonical_z.lt_of_exponent_lt canonical more).not_gt

end Astrolabe.Binary64
