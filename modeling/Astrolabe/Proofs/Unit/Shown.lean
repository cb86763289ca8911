import Astrolabe.Proofs.Number.Digits
import Astrolabe.Proofs.Number.ReadBack
import Astrolabe.Proofs.Number.Sign
import Astrolabe.Proofs.Number.Text

/-!
Numbers for display, read back. The text of a number has its sign and is off by at most half a unit
of its last digit. The notations are chosen by the magnitude in such a way that this is at most one
part in two thousand, so no number but zero is shown as zero.
-/

namespace Astrolabe

namespace Number

open Binary64 Rounding

/-! Numbers in decimal text. -/

/-- A decimal number with a sign. -/
def signed (negative : Bool) (d : Decimal) : ℚ :=
  if negative then -d.value else d.value

/-- A text that shows a number: what it is read back as has the sign of the number and is not zero,
and is off by at most half a unit of its last digit and one part in two thousand. -/
structure Shows (text : String) (q : ℚ) (negative : Bool) (d : Decimal) : Prop where
  read : signedDecimal? text = some (negative, d)
  nonzero : d.digits ≠ 0
  sign : negative = true ↔ q < 0
  digit : |signed negative d - q| ≤ 10 ^ d.exponent / 2
  relative : |signed negative d - q| ≤ |q| / 2000

/-- A text without a sign that shows a positive number. -/
def Writes (text : String) (q : ℚ) (d : Decimal) : Prop :=
  decimal? text.toList = some d ∧ |d.value - q| ≤ 10 ^ d.exponent / 2 ∧ |d.value - q| ≤ q / 2000

/-- A text with a sign shows a number if the text behind it shows its magnitude. -/
theorem Writes.shows {text : String} {q : ℚ} {d : Decimal} (h : Writes text |q| d) (hq : q ≠ 0)
    {negative : Bool} (sign : negative = true ↔ q < 0) :
    Shows ((if negative then "-" else "") ++ text) q negative d := by
  obtain ⟨read, digit, relative⟩ := h
  have same : |signed negative d - q| = |d.value - abs q| := by
    rw [signed]
    cases negative with
    | true =>
        rw [if_pos rfl, abs_of_neg (sign.mp rfl), ← abs_neg]
        congr 1
        ring
    | false =>
        rw [if_neg Bool.false_ne_true]
        rw [abs_of_nonneg (not_lt.mp fun less => Bool.false_ne_true (sign.mpr less))]
  refine ⟨signedDecimal?_of_decimal? read negative, fun zero => ?_, sign, same ▸ digit,
    same ▸ relative⟩
  have none : d.value = 0 := by rw [Decimal.value, zero, Nat.cast_zero, zero_mul]
  rw [none, zero_sub, abs_neg, abs_abs] at relative
  linarith [abs_pos.mpr hq]

/-- What a layout writes for a double, with the sign of the double. -/
theorem exists_shows_withSign {layout : ℕ → ℕ → String} {x : Float} {q : ℚ}
    (value : toRat? x = some q) (hq : q ≠ 0)
    (writes : ∀ num den : ℕ, 0 < num → 0 < den → (num : ℚ) / den = |q| →
      ∃ d, Writes (layout num den) |q| d) :
    ∃ negative d, Shows (withSign layout x) q negative d := by
  obtain ⟨parts, split, rfl⟩ := Option.map_eq_some_iff.mp value
  have positive : 0 < parts.ratio.1 := by
    refine Nat.pos_of_ne_zero fun zero => hq ?_
    rw [← abs_eq_zero, ← parts.ratio_eq, zero, Nat.cast_zero, zero_div]
  obtain ⟨d, written⟩ := writes _ _ positive parts.ratio_pos parts.ratio_eq
  refine ⟨parts.negative, d, ?_⟩
  rw [withSign, split]
  exact written.shows hq (Parts.negative_iff hq)

/-- Positional notation shows what is at least a thousand units of its last digit. -/
theorem exists_shows_fixed {places : ℕ} (pos : 0 < places) {x : Float} {q : ℚ}
    (value : toRat? x = some q) (large : 1000 * 10 ^ (-(places : ℤ)) ≤ |q|) :
    ∃ negative d, Shows (fixed places x) q negative d := by
  have unit : (0 : ℚ) < 10 ^ (-(places : ℤ)) := by positivity
  have hq : q ≠ 0 := by
    rintro rfl
    rw [abs_zero] at large
    linarith
  refine exists_shows_withSign value hq fun num den _ hd same => ?_
  have near := units_near num hd places
  rw [same] at near
  have read := decimal?_unitsText pos (units num den places) (show exponent? [] = some 0 from rfl)
  rw [List.append_nil, zero_sub] at read
  exact ⟨_, read, near, near.trans (by linarith)⟩

/-- Scientific notation shows every number. -/
theorem exists_shows_scientific {x : Float} {q : ℚ} (value : toRat? x = some q) (hq : q ≠ 0) :
    ∃ negative d, Shows (scientific 4 x) q negative d := by
  refine exists_shows_withSign value hq fun num den hn hd same => ?_
  obtain ⟨digit, relative⟩ := significant_near hn hd 4
  generalize rounded : significant num den 4 = rounding at digit relative
  obtain ⟨n, e⟩ := rounding
  have read := decimal?_unitsText (by decide : 0 < 4) n (exponent?_exponentText e)
  have text : scientificText num den 4 = unitsText 4 n ++ exponentText e := by
    rw [scientificText, if_neg hn.ne', rounded]
  rw [← String.toList_append, ← text] at read
  rw [same] at digit relative
  refine ⟨_, read, digit, relative.trans ?_⟩
  exact div_le_div_of_nonneg_left (abs_nonneg q) (by norm_num) (by norm_num)

/-- A layout writes a negative number as its magnitude behind a minus. -/
theorem withSign_neg (layout : ℕ → ℕ → String) {x : Float} (h : 0 < x) :
    withSign layout (-x) = "-" ++ withSign layout x := by
  obtain ⟨m, e, canonical, -, unpacked⟩ | unpacked := unpack_of_pos h
  · have positive : split? x = some ⟨false, m, e⟩ := by rw [split?, unpacked]
    have negative : split? (-x) = some ⟨true, m, e⟩ := by
      rw [split?, unpack_neg_of_pos h, unpacked]
      rfl
    rw [withSign, withSign, positive, negative]
    dsimp only
    rw [if_pos rfl, if_neg Bool.false_ne_true, String.empty_append]
    rfl
  · have positive : withSign layout x = "inf" := by
      have infinite : split? x = none := by rw [split?, unpacked]
      have named : x.isNaN = false := by
        change x.toModel.unpack.isNaN = false
        rw [unpacked]
        rfl
      have plus : isNegative x = false := by rw [isNegative, unpacked]
      rw [withSign, infinite]
      dsimp only
      rw [named, if_neg Bool.false_ne_true, plus, if_neg Bool.false_ne_true]
    have negative : withSign layout (-x) = "-inf" := by
      have unpacked' : (-x).toModel.unpack = .infinity .negative := by
        rw [unpack_neg_of_pos h, unpacked]
        rfl
      have infinite : split? (-x) = none := by rw [split?, unpacked']
      have named : (-x).isNaN = false := by
        change (-x).toModel.unpack.isNaN = false
        rw [unpacked']
        rfl
      have minus : isNegative (-x) = true := by rw [isNegative, unpacked']
      rw [withSign, infinite]
      dsimp only
      rw [named, if_neg Bool.false_ne_true, minus, if_pos rfl]
    rw [positive, negative]
    rfl

end Number

namespace Unit

open Number Binary64 Float.Model

/-- What is not zero is shown, if it is finite. -/
theorem exists_shows_shown {x : Float} {q : ℚ} (value : toRat? x = some q) (hq : q ≠ 0) :
    ∃ negative d, Shows (shown x) q negative d := by
  have nonzero : ¬(x == 0) = true := by
    rw [beq_zero_iff, value, Option.some.injEq]
    exact hq
  have thousand : toRat? 1000 = some 1000 := by decide +kernel
  have one : toRat? 1 = some 1 := by decide +kernel
  have thousandth : ∃ r, toRat? 1e-3 = some r ∧ 1 / 1000 ≤ r := by
    have known : (toRat? 1e-3).any (1 / 1000 ≤ ·) = true := by decide +kernel
    simpa [Option.any_eq_true] using known
  unfold shown
  rw [if_neg nonzero]
  split_ifs with extreme large medium
  · exact exists_shows_scientific value hq
  · rw [le_abs_iff value thousand (by norm_num)] at large
    exact exists_shows_fixed (by decide) value (le_trans (by norm_num) large)
  · rw [le_abs_iff value one (by norm_num)] at medium
    exact exists_shows_fixed (by decide) value (le_trans (by norm_num) medium)
  · obtain ⟨r, small, bound⟩ := thousandth
    rw [Bool.or_eq_true, decide_eq_true_eq, decide_eq_true_eq, not_or,
      abs_lt_iff value small (by linarith), not_lt] at extreme
    refine exists_shows_fixed (by decide) value (le_trans ?_ (bound.trans extreme.2))
    norm_num

/-- The opposite of a positive number is shown as the number behind a minus. -/
theorem shown_neg {x : Float} (h : 0 < x) : shown (-x) = "-" ++ shown x := by
  have nonzero : ¬(x == 0) = true := by
    rw [beq_zero_iff]
    obtain ⟨m, e, canonical, -, unpacked⟩ | unpacked := unpack_of_pos h
    · obtain ⟨p, value, magnitude⟩ := toRat?_of_unpack_finite unpacked
      rw [value, Option.some.injEq, ← abs_eq_zero, magnitude]
      exact (mul_pos (by exact_mod_cast canonical.pos) (two_zpow_pos e)).ne'
    · rw [toRat?, split?, unpacked]
      exact Option.some_ne_none 0 ∘ Eq.symm
  unfold shown
  rw [beq_zero_neg h, abs_neg_of_pos h, if_neg nonzero, if_neg nonzero]
  split_ifs <;> exact withSign_neg _ h

/-- Only zero is shown as zero. -/
theorem shown_eq_zero_iff {x : Float} : shown x = "0" ↔ (x == 0) = true := by
  constructor
  · intro zero
    have finite : x.isFinite = true := by
      rw [← numeric_shown_iff, zero]
      decide
    obtain ⟨q, value⟩ := isFinite_iff.mp finite
    rw [beq_zero_iff, value, Option.some.injEq]
    by_contra hq
    obtain ⟨negative, d, shows⟩ := exists_shows_shown value hq
    have read := shows.read
    have none : signedDecimal? "0" = some (false, ⟨0, 0⟩) := by decide +kernel
    rw [zero, none] at read
    cases read
    exact shows.nonzero rfl
  · intro zero
    unfold shown
    rw [if_pos zero]

/-- The text of a finite number other than zero has its sign when it is read back, is not zero, and
is off by at most half a unit of its last digit, and so by at most one part in two thousand. Zero,
with either sign, and no other number is shown as zero. The opposite of a positive number is shown
with a minus before it. -/
theorem shown_readBack :
    (∀ x : Float, x.isFinite = true → (x == 0) = false →
      ∃ q negative d, toRat? x = some q ∧ Shows (shown x) q negative d) ∧
    (∀ x : Float, shown x = "0" ↔ (x == 0) = true) ∧
    ∀ x : Float, 0 < x → shown (-x) = "-" ++ shown x := by
  refine ⟨fun x finite nonzero => ?_, fun x => shown_eq_zero_iff, fun x h => shown_neg h⟩
  obtain ⟨q, value⟩ := isFinite_iff.mp finite
  have hq : q ≠ 0 := by
    rintro rfl
    rw [beq_zero_iff.mpr value] at nonzero
    cases nonzero
  obtain ⟨negative, d, shows⟩ := exists_shows_shown value hq
  exact ⟨q, negative, d, value, shows⟩

/-- The least double, and one that is rounded up to a further digit. -/
theorem least_readBack :
    (5e-324 : Float).isFinite = true ∧ ((5e-324 : Float) == 0) = false ∧ (0 : Float) < 5e-324 ∧
      shown 5e-324 = "4.9407e-324" ∧ shown (-5e-324) = "-4.9407e-324" ∧
      shown 999999.9999 = "1000000.00" ∧
      (∃ q negative d, toRat? 5e-324 = some q ∧ Shows (shown 5e-324) q negative d) ∧
      ∃ q negative d, toRat? 999999.9999 = some q ∧ Shows (shown 999999.9999) q negative d := by
  have finite : (5e-324 : Float).isFinite = true := by decide +kernel
  have nonzero : ((5e-324 : Float) == 0) = false := by decide +kernel
  have positive : (0 : Float) < 5e-324 := by decide +kernel
  have text : shown 5e-324 = "4.9407e-324" := by decide +kernel
  refine ⟨finite, nonzero, positive, text, ?_, by decide +kernel,
    shown_readBack.1 _ finite nonzero, shown_readBack.1 _ (by decide +kernel) (by decide +kernel)⟩
  rw [shown_readBack.2.2 _ positive, text]
  rfl

end Unit

end Astrolabe
