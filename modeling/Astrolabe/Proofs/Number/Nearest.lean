import Mathlib.Data.Int.Log
import Mathlib.Data.Rat.Floor
import Astrolabe.Proofs.Number.Doubles

/-!
The double nearest to a number. Were the exponents of doubles not bounded above, every number would
be rounded to a double, a larger one to no smaller double, and doubles to themselves. The operations
on doubles give that double for the exact result, or nothing finite where it is beyond the range.
-/

namespace Astrolabe.Binary64

open Float.Model UnpackedFloat

/-! Whole numbers. -/

/-- The nearest whole number, the even one of two. -/
def halfEven (x : ℚ) : ℕ :=
  if x < ⌊x⌋₊ + 1 / 2 then ⌊x⌋₊
  else if x = ⌊x⌋₊ + 1 / 2 then ⌊x⌋₊ + ⌊x⌋₊ % 2
  else ⌊x⌋₊ + 1

theorem floor_le_halfEven (x : ℚ) : ⌊x⌋₊ ≤ halfEven x := by
  unfold halfEven
  split <;> [skip; split] <;> omega

theorem halfEven_le_floor_add_one (x : ℚ) : halfEven x ≤ ⌊x⌋₊ + 1 := by
  unfold halfEven
  split <;> [skip; split] <;> omega

theorem halfEven_natCast (n : ℕ) : halfEven n = n := by
  rw [halfEven, Nat.floor_natCast, if_pos (by linarith)]

theorem halfEven_mono {x y : ℚ} (h : x ≤ y) : halfEven x ≤ halfEven y := by
  obtain less | same := (Nat.floor_mono h).lt_or_eq
  · exact (halfEven_le_floor_add_one x).trans (Nat.le_trans less (floor_le_halfEven y))
  · unfold halfEven
    rw [same]
    split_ifs <;> first | omega | grind

theorem halfEven_le {x : ℚ} {n : ℕ} (h : x ≤ n) : halfEven x ≤ n :=
  halfEven_natCast n ▸ halfEven_mono h

theorem le_halfEven {x : ℚ} {n : ℕ} (h : n ≤ x) : n ≤ halfEven x :=
  halfEven_natCast n ▸ halfEven_mono h

/-- The residual bits of a mantissa tell how it is rounded. -/
theorem Tells.roundedMantissa_eq {em : ExtendedMantissa} {x : ℚ} (h : Tells em x) :
    em.roundedMantissa = halfEven x := by
  obtain ⟨low, high, round, sticky⟩ := h
  obtain ⟨m, roundBit, stickyBit⟩ := em
  dsimp only at low high round sticky
  have floor : ⌊x⌋₊ = m :=
    (Nat.floor_eq_iff ((Nat.cast_nonneg m).trans low)).mpr ⟨low, high⟩
  rw [halfEven, floor]
  cases roundBit with
  | false =>
      rw [if_pos (by simpa using round)]
      cases stickyBit <;> rfl
  | true =>
      have above := round.mp rfl
      rw [if_neg (not_lt.mpr above)]
      cases stickyBit with
      | true =>
          rw [if_neg fun half => nomatch sticky.mpr (.inr half)]
          rfl
      | false =>
          rw [if_pos ((sticky.mp rfl).resolve_left (by linarith))]
          rfl

/-! Exponents. -/

/-- The exponent of the last place to which a number is rounded. -/
def unitExponent (v : ℚ) : ℤ := max (Int.log 2 v - 52) (-1074)

theorem least_le_unitExponent (v : ℚ) : -1074 ≤ unitExponent v := le_max_right ..

theorem unitExponent_mono {v w : ℚ} (pos : 0 < v) (h : v ≤ w) :
    unitExponent v ≤ unitExponent w :=
  max_le_max_right _ (Int.sub_le_sub_right (Int.log_mono_right pos h) _)

theorem div_unit_lt (v : ℚ) : v / 2 ^ unitExponent v < 2 ^ 53 := by
  rw [div_lt_iff₀ (two_zpow_pos _), ← zpow_natCast, ← zpow_add₀ two_ne_zero]
  refine (Int.lt_zpow_succ_log_self one_lt_two v).trans_le ?_
  refine zpow_le_zpow_right₀ one_le_two ?_
  have : Int.log 2 v - 52 ≤ unitExponent v := le_max_left ..
  push_cast
  omega

theorem le_div_unit {v : ℚ} (pos : 0 < v) (normal : unitExponent v ≠ -1074) :
    2 ^ 52 ≤ v / 2 ^ unitExponent v := by
  have exponent : unitExponent v = Int.log 2 v - 52 := by
    unfold unitExponent at normal ⊢
    omega
  rw [le_div_iff₀ (two_zpow_pos _), ← zpow_natCast, ← zpow_add₀ two_ne_zero, exponent]
  refine le_trans ?_ (Int.zpow_log_le_self one_lt_two pos)
  norm_num

theorem Canonical.unitExponent {m : ℕ} {e : ℤ} (h : Canonical m e) :
    unitExponent (m * 2 ^ e) = e := by
  have positive : (0 : ℚ) < m * 2 ^ e := mul_pos (by exact_mod_cast h.pos) (two_zpow_pos e)
  have upper : Int.log 2 ((m : ℚ) * 2 ^ e) < 53 + e := by
    refine (Int.lt_zpow_iff_log_lt one_lt_two positive).mp ?_
    push_cast
    rw [zpow_add₀ two_ne_zero]
    refine mul_lt_mul_of_pos_right ?_ (two_zpow_pos e)
    exact_mod_cast h.bits
  have least := h.least
  unfold Binary64.unitExponent
  obtain full | subnormal := h.full
  · have lower : 52 + e ≤ Int.log 2 ((m : ℚ) * 2 ^ e) := by
      refine (Int.zpow_le_iff_le_log one_lt_two positive).mp ?_
      push_cast
      rw [zpow_add₀ two_ne_zero]
      refine mul_le_mul_of_nonneg_right ?_ (two_zpow_pos e).le
      exact_mod_cast full
    omega
  · omega

/-! Magnitudes. -/

/-- The magnitude to which a magnitude is rounded. -/
def rounded (v : ℚ) : ℚ := halfEven (v / 2 ^ unitExponent v) * 2 ^ unitExponent v

theorem rounded_zero : rounded 0 = 0 := by
  have : halfEven 0 = 0 := by exact_mod_cast halfEven_natCast 0
  rw [rounded, zero_div, this, Nat.cast_zero, zero_mul]

theorem rounded_nonneg (v : ℚ) : 0 ≤ rounded v :=
  mul_nonneg (Nat.cast_nonneg _) (two_zpow_pos _).le

theorem Canonical.rounded {m : ℕ} {e : ℤ} (h : Canonical m e) :
    rounded (m * 2 ^ e) = m * 2 ^ e := by
  rw [Binary64.rounded, h.unitExponent, mul_div_cancel_right₀ _ (two_zpow_pos e).ne',
    halfEven_natCast]

theorem halfEven_div_unit_le (v : ℚ) : halfEven (v / 2 ^ unitExponent v) ≤ 2 ^ 53 :=
  halfEven_le (by exact_mod_cast (div_unit_lt v).le)

theorem rounded_mono {v w : ℚ} (nonneg : 0 ≤ v) (h : v ≤ w) : rounded v ≤ rounded w := by
  obtain rfl | pos := nonneg.eq_or_lt
  · rw [rounded_zero]
    exact rounded_nonneg w
  obtain less | same := (unitExponent_mono pos h).lt_or_eq
  · -- a power of two lies between the two numbers
    have least := least_le_unitExponent v
    have wide : 2 ^ 52 ≤ halfEven (w / 2 ^ unitExponent w) :=
      le_halfEven (by exact_mod_cast le_div_unit (pos.trans_le h) (by omega))
    calc rounded v ≤ 2 ^ 53 * 2 ^ unitExponent v :=
          mul_le_mul_of_nonneg_right (by exact_mod_cast halfEven_div_unit_le v)
            (two_zpow_pos _).le
      _ = 2 ^ 52 * 2 ^ (unitExponent v + 1) := by
          rw [zpow_add₀ two_ne_zero]
          ring
      _ ≤ 2 ^ 52 * 2 ^ unitExponent w := by
          refine mul_le_mul_of_nonneg_left ?_ (by positivity)
          exact zpow_le_zpow_right₀ one_le_two less
      _ ≤ rounded w :=
          mul_le_mul_of_nonneg_right (by exact_mod_cast wide) (two_zpow_pos _).le
  · unfold rounded
    rw [same]
    refine mul_le_mul_of_nonneg_right ?_ (two_zpow_pos _).le
    exact_mod_cast halfEven_mono ((div_le_div_iff_of_pos_right (two_zpow_pos _)).mpr h)

/-! Rounding to a mantissa and an exponent. -/

/-- The nearest number with a mantissa and an exponent as doubles have them. -/
def nearest (sign : Sign) (v : ℚ) : UnpackedFloat :=
  if h : halfEven (v / 2 ^ unitExponent v) = 0 then .zero sign
  else if halfEven (v / 2 ^ unitExponent v) = 2 ^ 53 then
    .finite sign (2 ^ 52) (unitExponent v + 1) (by decide)
  else .finite sign (halfEven (v / 2 ^ unitExponent v)) (unitExponent v) (Nat.pos_of_ne_zero h)

theorem nearest_cases (sign : Sign) {v : ℚ} (pos : 0 < v) :
    nearest sign v = .zero sign ∧ rounded v = 0 ∨
      ∃ (m : ℕ) (e : ℤ) (h : Canonical m e),
        nearest sign v = .finite sign m e h.pos ∧ rounded v = m * 2 ^ e := by
  have bits := halfEven_div_unit_le v
  have least := least_le_unitExponent v
  unfold nearest rounded
  split_ifs with zero carry
  · exact .inl ⟨rfl, by rw [zero, Nat.cast_zero, zero_mul]⟩
  · refine .inr ⟨2 ^ 52, unitExponent v + 1, ⟨by decide, by decide, by omega, .inl le_rfl⟩, rfl, ?_⟩
    rw [carry, zpow_add₀ two_ne_zero]
    push_cast
    ring
  · refine .inr ⟨_, unitExponent v, ⟨Nat.pos_of_ne_zero zero, by omega, least, ?_⟩, rfl, rfl⟩
    by_cases subnormal : unitExponent v = -1074
    · exact .inr subnormal
    · exact .inl (le_halfEven (by exact_mod_cast le_div_unit pos subnormal))

/-- The exponent to which a mantissa is shifted is that of the number it stands for. -/
theorem targetExponent_eq_unitExponent {n : ℕ} {t : ℤ} {v : ℚ} (pos : 0 < v) (low : n * 2 ^ t ≤ v)
    (high : v < (n + 1) * 2 ^ t) (bits : 52 ≤ n.log2 ∨ t ≤ -1074) :
    max (n.log2 + t - 52) (-1074) = unitExponent v := by
  have upper : Int.log 2 v < n.log2 + 1 + t :=
    lt_log2_add_of_lt (Int.zpow_log_le_self one_lt_two pos) high
  unfold unitExponent
  obtain rfl | nonzero := eq_or_ne n 0
  · rw [Nat.log2_zero] at bits upper ⊢
    omega
  · have lower := log2_add_lt_of_le nonzero low (Int.lt_zpow_succ_log_self one_lt_two v)
    omega

/-- A rounded mantissa is shifted again where it has one bit too many. -/
theorem secondShift_eq {r : ℕ} {e : ℤ} (bits : r ≤ 2 ^ 53) (least : -1074 ≤ e) :
    (max (r.log2 + e - 52) (-1074) - e).toNat = if r = 2 ^ 53 then 1 else 0 := by
  split_ifs with carry
  · rw [carry, Nat.log2_two_pow]
    omega
  · have : r.log2 ≤ 52 := by
      obtain rfl | nonzero := eq_or_ne r 0
      · simp
      · have := (Nat.log2_lt nonzero).mpr (by omega : r < 2 ^ 53)
        omega
    omega

theorem roundWithAccuracy_eq_nearest {n : ℕ} {t : ℤ} {v : ℚ} {accuracy : Accuracy} (sign : Sign)
    (pos : 0 < v) (tells : Tells (ExtendedMantissa.ofMantissaAndAccuracy n accuracy) (v / 2 ^ t))
    (bits : 52 ≤ n.log2 ∨ t ≤ -1074) :
    roundWithAccuracy .binary64 sign n t accuracy = nearest sign v := by
  have positive := two_zpow_pos t
  have low : n * 2 ^ t ≤ v := by
    have := tells.low
    rwa [ofMantissaAndAccuracy_mantissa, le_div_iff₀ positive] at this
  have high : v < (n + 1) * 2 ^ t := by
    have := tells.high
    rwa [ofMantissaAndAccuracy_mantissa, div_lt_iff₀ positive] at this
  have same := targetExponent_eq_unitExponent pos low high bits
  have first := (targetExponent_eq n t).trans same
  have grows : t + ((unitExponent v - t).toNat : ℤ) = unitExponent v := by omega
  have shifted := tells.shiftRight (unitExponent v - t).toNat
  rw [div_div, ← zpow_natCast, ← zpow_add₀ two_ne_zero, grows] at shifted
  unfold roundWithAccuracy shiftToTargetExponent shiftToExponent nearest
  simp only [first, grows, shifted.roundedMantissa_eq, shiftRight_mantissa,
    ofMantissaAndAccuracy_mantissa, targetExponent_eq,
    secondShift_eq (halfEven_div_unit_le v) (least_le_unitExponent v)]
  by_cases carry : halfEven (v / 2 ^ unitExponent v) = 2 ^ 53
  · simp only [carry, if_true, pow_one, Nat.cast_one]
    rfl
  · simp only [carry, if_false, pow_zero, Nat.div_one, Nat.cast_zero, add_zero]

/-! Results of operations. -/

theorem Canonical.lt_iff {m : ℕ} {e : ℤ} (h : Canonical m e) :
    (m : ℚ) * 2 ^ e < 2 ^ 1024 ↔ e ≤ 971 := by
  constructor
  · intro less
    by_contra large
    have full : (2 ^ 52 : ℚ) ≤ m := by exact_mod_cast h.full.resolve_right (by omega)
    have beyond : (2 : ℚ) ^ 1024 ≤ m * 2 ^ e := by
      rw [show (2 : ℚ) ^ 1024 = 2 ^ 52 * 2 ^ (972 : ℤ) from pow_add 2 52 972]
      refine mul_le_mul full ?_ (two_zpow_pos _).le (Nat.cast_nonneg m)
      exact zpow_le_zpow_right₀ one_le_two (by omega)
    exact less.not_ge beyond
  · intro small
    have bits : (m : ℚ) < 2 ^ 53 := by exact_mod_cast h.bits
    calc (m : ℚ) * 2 ^ e < 2 ^ 53 * 2 ^ e := mul_lt_mul_of_pos_right bits (two_zpow_pos e)
      _ ≤ 2 ^ 53 * 2 ^ (971 : ℤ) := by
          refine mul_le_mul_of_nonneg_left ?_ (by positivity)
          exact zpow_le_zpow_right₀ one_le_two small
      _ = 2 ^ 1024 := (pow_add 2 53 971).symm

theorem isFinite_iff {x : Float} : x.isFinite = true ↔ ∃ p, toRat? x = some p := by
  change x.toModel.unpack.isFinite = true ↔ _
  unfold toRat? split?
  cases x.toModel.unpack <;> simp [UnpackedFloat.isFinite]

theorem toRat?_of_unpack_finite {x : Float} {sign : Sign} {m : ℕ} {e : ℤ} {pos : 0 < m}
    (h : x.toModel.unpack = .finite sign m e pos) :
    ∃ p, toRat? x = some p ∧ |p| = m * 2 ^ e := by
  refine ⟨_, by rw [toRat?, split?, h]; rfl, ?_⟩
  exact Parts.abs_toRat _

/-- A double is what a magnitude is rounded to, or not finite where that is beyond the range. -/
structure Rounds (z : Float) (v : ℚ) : Prop where
  finite_iff : z.isFinite = true ↔ rounded v < 2 ^ 1024
  value : ∀ r, toRat? z = some r → |r| = rounded v

theorem rounds_of_zero {z : Float} {sign : Sign} {v : ℚ} (h : z.toModel.unpack = .zero sign)
    (zero : rounded v = 0) : Rounds z v := by
  refine ⟨iff_of_true ?_ (by rw [zero]; positivity), fun r value => ?_⟩
  · change z.toModel.unpack.isFinite = true
    rw [h]
    rfl
  · rw [toRat?, split?, h] at value
    cases value
    rw [zero]
    cases sign <;> rfl

theorem rounds_of_finite {z : Float} {sign : Sign} {m : ℕ} {e : ℤ} {v : ℚ} (h : Canonical m e)
    (unpacked : z.toModel.unpack = .finite sign m e h.pos) (value : rounded v = m * 2 ^ e) :
    Rounds z v := by
  obtain ⟨p, toRat, abs⟩ := toRat?_of_unpack_finite unpacked
  refine ⟨iff_of_true ?_ ?_, fun r other => ?_⟩
  · change z.toModel.unpack.isFinite = true
    rw [unpacked]
    rfl
  · rw [value, h.lt_iff]
    exact (canonical_of_unpack unpacked).2
  · cases toRat.symm.trans other
    rw [abs, value]

theorem unpack_pack_zero (sign : Sign) :
    UnpackedFloat.unpack .binary64 (UnpackedFloat.pack .binary64 (.zero sign)) = .zero sign := by
  cases sign <;> rfl

theorem rounds_pack_zero (sign : Sign) {v : ℚ} (zero : rounded v = 0) :
    Rounds (.ofModel (.pack (.zero sign))) v :=
  rounds_of_zero (unpack_pack_zero sign) zero

theorem rounds_nearest (sign : Sign) {v : ℚ} (pos : 0 < v) :
    Rounds (.ofModel (.pack (nearest sign v))) v := by
  obtain ⟨zero, value⟩ | ⟨m, e, h, finite, value⟩ := nearest_cases sign pos
  · rw [zero]
    exact rounds_pack_zero sign value
  rw [finite]
  by_cases bound : e ≤ 971
  · exact rounds_of_finite h (unpack_pack h bound sign) value
  · have least := h.least
    have infinite : Float.Model.unpack (.pack (.finite sign m e h.pos)) = .infinity sign := by
      change UnpackedFloat.unpack .binary64 (UnpackedFloat.pack .binary64 _) = _
      rw [pack_finite, if_pos (by omega)]
      cases sign <;> rfl
    have beyond : (Float.ofModel (.pack (.finite sign m e h.pos))).isFinite ≠ true := by
      change (Float.Model.unpack _).isFinite ≠ true
      rw [infinite]
      exact Bool.false_ne_true
    refine ⟨iff_of_false beyond ?_, fun r finite => absurd (isFinite_iff.mpr ⟨r, finite⟩) beyond⟩
    rwa [value, h.lt_iff]

theorem unpack_of_toRat? {x : Float} {p : ℚ} (h : toRat? x = some p) :
    (∃ s, x.toModel.unpack = .zero s ∧ p = 0) ∨
      ∃ (s : Sign) (m : ℕ) (e : ℤ) (c : Canonical m e),
        x.toModel.unpack = .finite s m e c.pos ∧ p = (s.apply m : ℤ) * 2 ^ e := by
  unfold toRat? split? at h
  cases unpacked : x.toModel.unpack with
  | zero s =>
      rw [unpacked] at h
      cases h
      exact .inl ⟨s, rfl, by cases s <;> rfl⟩
  | finite s m e pos =>
      obtain ⟨canonical, -⟩ := canonical_of_unpack unpacked
      rw [unpacked] at h
      cases h
      refine .inr ⟨s, m, e, canonical, rfl, ?_⟩
      rw [Parts.toRat, Parts.mkRat_ratio]
      cases s <;> simp [Sign.apply]
  | infinity s => rw [unpacked] at h; cases h
  | notANumber => rw [unpacked] at h; cases h

theorem abs_apply (s : Sign) (m : ℕ) (e : ℤ) :
    |((s.apply m : ℤ) : ℚ) * 2 ^ e| = m * 2 ^ e := by
  rw [abs_mul, abs_of_pos (two_zpow_pos e)]
  cases s <;> simp [Sign.apply]

/-- A double is rounded to itself. -/
theorem rounds_self {x : Float} {p : ℚ} (h : toRat? x = some p) : Rounds x |p| := by
  obtain ⟨s, unpacked, rfl⟩ | ⟨s, m, e, canonical, unpacked, rfl⟩ := unpack_of_toRat? h
  · exact rounds_of_zero unpacked (by rw [abs_zero, rounded_zero])
  · rw [abs_apply]
    exact rounds_of_finite canonical unpacked canonical.rounded

theorem roundWithAccuracy_exact (sign : Sign) {n : ℕ} {t : ℤ} (pos : 0 < n)
    (bits : 52 ≤ n.log2 ∨ t ≤ -1074) :
    roundWithAccuracy .binary64 sign n t .exact = nearest sign (n * 2 ^ t) := by
  refine roundWithAccuracy_eq_nearest sign ?_ ?_ bits
  · exact mul_pos (by exact_mod_cast pos) (two_zpow_pos t)
  · rw [mul_div_cancel_right₀ _ (two_zpow_pos t).ne']
    exact tells_of_exact n

theorem le_log2_mul {m n : ℕ} (full : 2 ^ 52 ≤ m) (pos : 0 < n) : 52 ≤ (m * n).log2 :=
  (Nat.le_log2 (by positivity)).mpr (full.trans (Nat.le_mul_of_pos_right m pos))

theorem mul_eq (x y : Float) :
    x * y = .ofModel (.pack (.mul .binary64 x.toModel.unpack y.toModel.unpack)) := rfl

theorem div_eq (x y : Float) :
    x / y = .ofModel (.pack (.div .binary64 x.toModel.unpack y.toModel.unpack)) := rfl

theorem add_eq (x y : Float) :
    x + y = .ofModel (.pack (.add .binary64 x.toModel.unpack y.toModel.unpack)) := rfl

theorem sub_eq (x y : Float) :
    x - y = .ofModel (.pack (.sub .binary64 x.toModel.unpack y.toModel.unpack)) := rfl

/-- The product of doubles is rounded. -/
theorem mul_rounds {x y : Float} {p q : ℚ} (hx : toRat? x = some p) (hy : toRat? y = some q) :
    Rounds (x * y) |p * q| := by
  obtain ⟨s, ux, rfl⟩ | ⟨s, m, e, hm, ux, rfl⟩ := unpack_of_toRat? hx <;>
    obtain ⟨t, uy, rfl⟩ | ⟨t, n, f, hn, uy, rfl⟩ := unpack_of_toRat? hy
  case inr.inr =>
    have bits : 52 ≤ (m * n).log2 ∨ e + f ≤ -1074 := by
      obtain full | least := hm.full
      · exact .inl (le_log2_mul full hn.pos)
      · obtain full | least' := hn.full
        · exact .inl (Nat.mul_comm n m ▸ le_log2_mul full hm.pos)
        · omega
    have value : |((s.apply m : ℤ) : ℚ) * 2 ^ e * ((t.apply n : ℤ) * 2 ^ f)| =
        (m * n : ℕ) * 2 ^ (e + f) := by
      rw [abs_mul, abs_apply, abs_apply, zpow_add₀ two_ne_zero]
      push_cast
      ring
    rw [value, mul_eq, ux, uy, UnpackedFloat.mul,
      roundWithAccuracy_exact _ (Nat.mul_pos hm.pos hn.pos) bits]
    refine rounds_nearest _ (mul_pos ?_ (two_zpow_pos _))
    exact_mod_cast Nat.mul_pos hm.pos hn.pos
  all_goals
    rw [mul_eq, ux, uy]
    exact rounds_pack_zero (s * t) (by simp [rounded_zero])

theorem div_eq_nearest (s t : Sign) {m n : ℕ} (e f : ℤ) (hm : 0 < m) (hn : 0 < n) :
    UnpackedFloat.div .binary64 (.finite s m e hm) (.finite t n f hn) =
      nearest (s / t) (m * 2 ^ e / (n * 2 ^ f)) := by
  have target : Format.binary64.targetExponent (totalExponent m e - totalExponent n f) =
      max (m.log2 + e - (n.log2 + f) - 53) (-1074) := by
    simp only [Format.targetExponent, totalExponent, Format.mantissaBits, Format.minExponent]
    omega
  rw [UnpackedFloat.div, divCore, target]
  dsimp only
  -- the shift makes the quotient as long as the mantissa of a double, or reaches subnormals
  generalize exponent : min (e - f) (max (m.log2 + e - (n.log2 + f) - 53 : ℤ) (-1074)) = t
  have reached : ((e - f - t).toNat : ℤ) = e - f - t := by omega
  have positive : (0 : ℚ) < m * 2 ^ e / (n * 2 ^ f) :=
    div_pos (mul_pos (by exact_mod_cast hm) (two_zpow_pos e))
      (mul_pos (by exact_mod_cast hn) (two_zpow_pos f))
  have value : (((m <<< (e - f - t).toNat : ℕ) : ℚ) / n) = m * 2 ^ e / (n * 2 ^ f) / 2 ^ t := by
    rw [Nat.shiftLeft_eq, Nat.cast_mul, Nat.cast_pow, Nat.cast_ofNat, ← zpow_natCast, reached,
      zpow_sub₀ two_ne_zero, zpow_sub₀ two_ne_zero]
    field_simp
  refine roundWithAccuracy_eq_nearest _ positive (value ▸ tells_quotient _ hn) ?_
  by_cases deep : t ≤ -1074
  · exact .inr deep
  · exact .inl (log2_quotient hm hn (by omega))

/-- The quotient of doubles is rounded. -/
theorem div_rounds {x y : Float} {p q : ℚ} (hx : toRat? x = some p) (hy : toRat? y = some q)
    (nonzero : q ≠ 0) : Rounds (x / y) |p / q| := by
  obtain ⟨t, uy, rfl⟩ | ⟨t, n, f, hn, uy, rfl⟩ := unpack_of_toRat? hy
  · exact absurd rfl nonzero
  obtain ⟨s, ux, rfl⟩ | ⟨s, m, e, hm, ux, rfl⟩ := unpack_of_toRat? hx
  · rw [div_eq, ux, uy]
    exact rounds_pack_zero (s / t) (by simp [rounded_zero])
  · rw [abs_div, abs_apply, abs_apply, div_eq, ux, uy, div_eq_nearest]
    refine rounds_nearest _ (div_pos ?_ ?_)
    · exact mul_pos (by exact_mod_cast hm.pos) (two_zpow_pos e)
    · exact mul_pos (by exact_mod_cast hn.pos) (two_zpow_pos f)

theorem round_eq_nearest (sign : Sign) {n : ℕ} (e : ℤ) (pos : 0 < n) :
    UnpackedFloat.round .binary64 sign n e = nearest sign (n * 2 ^ e) := by
  simp only [UnpackedFloat.round, decreaseExponent, targetExponent_eq]
  generalize target : max (n.log2 + e - 52 : ℤ) (-1074) = t
  generalize shift : (e - t).toNat = k
  have log : (n <<< k).log2 = n.log2 + k := Nat.shiftLeft_eq n k ▸ log2_mul_two_pow pos k
  have value : ((n <<< k : ℕ) : ℚ) * 2 ^ (e - k) = n * 2 ^ e := by
    rw [Nat.shiftLeft_eq, zpow_sub₀ two_ne_zero, zpow_natCast]
    push_cast
    field_simp
  rw [roundWithAccuracy_exact sign (Nat.shiftLeft_pos_iff.mpr pos) (by omega), value]

/-- A number with a sign is rounded to a magnitude. -/
theorem normalize_rounds (n e : ℤ) :
    Rounds (.ofModel (.pack (UnpackedFloat.normalize .binary64 n e .positive))) |n * 2 ^ e| := by
  rw [abs_mul, abs_of_pos (two_zpow_pos e), ← Int.cast_abs, Int.abs_eq_natAbs, Int.cast_natCast]
  unfold UnpackedFloat.normalize
  split
  next below =>
    have size : (-n).toNat = n.natAbs := by
      have := Int.compare_eq_lt.mp below
      omega
    have pos : 0 < n.natAbs := by
      have := Int.compare_eq_lt.mp below
      omega
    rw [size, round_eq_nearest _ e pos]
    exact rounds_nearest _ (mul_pos (by exact_mod_cast pos) (two_zpow_pos e))
  next equal =>
    rw [Int.compare_eq_eq.mp equal]
    exact rounds_pack_zero _ (by simp [rounded_zero])
  next above =>
    have size : n.toNat = n.natAbs := by
      have := Int.compare_eq_gt.mp above
      omega
    have pos : 0 < n.natAbs := by
      have := Int.compare_eq_gt.mp above
      omega
    rw [size, round_eq_nearest _ e pos]
    exact rounds_nearest _ (mul_pos (by exact_mod_cast pos) (two_zpow_pos e))

theorem rounds_pack_finite (sign : Sign) {m : ℕ} {e : ℤ} (h : Canonical m e) (bound : e ≤ 971) :
    Rounds (.ofModel (.pack (.finite sign m e h.pos))) (m * 2 ^ e) :=
  rounds_of_finite h (unpack_pack h bound sign) h.rounded

/-- A mantissa that is taken to a smaller exponent keeps its value. -/
theorem aligned_value (s : Sign) (m : ℕ) {e t : ℤ} (le : t ≤ e) :
    ((s.apply (m <<< (e - t).toNat : ℕ) : ℤ) : ℚ) * 2 ^ t = (s.apply m : ℤ) * 2 ^ e := by
  have magnitude : ((m <<< (e - t).toNat : ℕ) : ℚ) * 2 ^ t = m * 2 ^ e := by
    rw [Nat.shiftLeft_eq, Nat.cast_mul, Nat.cast_pow, Nat.cast_ofNat, ← zpow_natCast, mul_assoc,
      ← zpow_add₀ two_ne_zero, Int.toNat_of_nonneg (by omega), sub_add_cancel]
  cases s with
  | positive => exact magnitude
  | negative =>
      simp only [Sign.apply, Int.cast_neg, Int.cast_natCast, neg_mul]
      rw [magnitude]

/-- The sum of doubles is rounded. -/
theorem add_rounds {x y : Float} {p q : ℚ} (hx : toRat? x = some p) (hy : toRat? y = some q) :
    Rounds (x + y) |p + q| := by
  obtain ⟨s, ux, rfl⟩ | ⟨s, m, e, hm, ux, rfl⟩ := unpack_of_toRat? hx <;>
    obtain ⟨t, uy, rfl⟩ | ⟨t, n, f, hn, uy, rfl⟩ := unpack_of_toRat? hy <;>
    rw [add_eq, ux, uy]
  case inl.inl =>
    cases s <;> cases t <;> exact rounds_pack_zero _ (by simp [rounded_zero])
  case inl.inr =>
    rw [zero_add, abs_apply]
    exact rounds_pack_finite t hn (canonical_of_unpack uy).2
  case inr.inl =>
    rw [add_zero, abs_apply]
    exact rounds_pack_finite s hm (canonical_of_unpack ux).2
  case inr.inr =>
    have sum := normalize_rounds (s.apply (m <<< (e - min e f).toNat : ℕ) +
      t.apply (n <<< (f - min e f).toNat : ℕ)) (min e f)
    rwa [Int.cast_add, add_mul, aligned_value s m (min_le_left e f),
      aligned_value t n (min_le_right e f)] at sum

/-- The difference of doubles is rounded. -/
theorem sub_rounds {x y : Float} {p q : ℚ} (hx : toRat? x = some p) (hy : toRat? y = some q) :
    Rounds (x - y) |p - q| := by
  obtain ⟨s, ux, rfl⟩ | ⟨s, m, e, hm, ux, rfl⟩ := unpack_of_toRat? hx <;>
    obtain ⟨t, uy, rfl⟩ | ⟨t, n, f, hn, uy, rfl⟩ := unpack_of_toRat? hy <;>
    rw [sub_eq, ux, uy]
  case inl.inl =>
    cases s <;> cases t <;> exact rounds_pack_zero _ (by simp [rounded_zero])
  case inl.inr =>
    rw [zero_sub, abs_neg, abs_apply]
    exact rounds_pack_finite (-t) hn (canonical_of_unpack uy).2
  case inr.inl =>
    rw [sub_zero, abs_apply]
    exact rounds_pack_finite s hm (canonical_of_unpack ux).2
  case inr.inr =>
    have difference := normalize_rounds (s.apply (m <<< (e - min e f).toNat : ℕ) -
      t.apply (n <<< (f - min e f).toNat : ℕ)) (min e f)
    rwa [Int.cast_sub, sub_mul, aligned_value s m (min_le_left e f),
      aligned_value t n (min_le_right e f)] at difference

/-- A result no larger than a finite one is finite. -/
theorem Rounds.isFinite_of_le {x y : Float} {v w : ℚ} (hx : Rounds x v) (hy : Rounds y w)
    (nonneg : 0 ≤ v) (le : v ≤ w) (finite : y.isFinite = true) : x.isFinite = true :=
  hx.finite_iff.mpr ((rounded_mono nonneg le).trans_lt (hy.finite_iff.mp finite))

/-- A factor of at most one does not lead out of the range. -/
theorem mul_isFinite_of_abs_le_one {x y : Float} {q : ℚ} (finite : x.isFinite = true)
    (hy : toRat? y = some q) (le : |q| ≤ 1) : (x * y).isFinite = true := by
  obtain ⟨p, hx⟩ := isFinite_iff.mp finite
  refine (mul_rounds hx hy).isFinite_of_le (rounds_self hx) (abs_nonneg _) ?_ finite
  rw [abs_mul]
  exact mul_le_of_le_one_right (abs_nonneg p) le

end Astrolabe.Binary64
