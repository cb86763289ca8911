import Astrolabe.Proofs.Number.Doubles
import Astrolabe.Proofs.Relation.Plain
import Astrolabe.Relation.Residual

/-!
When the two sides of a relation evaluate to the same double. They do where they are
exact, and where their common value is a double that they are near to.
-/

namespace Astrolabe.Relation

open Number Precise Binary64

/-! The mismatch of a double with itself. -/

theorem mismatch_self_eq (x : Float) :
    mismatch x x = if x.abs == 0 then (x - x).abs else (x - x).abs / x.abs := by
  have scale : (if x.abs > x.abs then x.abs else x.abs) = x.abs := ite_self _
  simp only [mismatch, scale]

theorem mismatch_self {x : Float} (finite : x.isFinite = true) : mismatch x x = 0 := by
  have zero : (0 : Float).abs = 0 := by decide
  rw [mismatch_self_eq, sub_self_eq finite, zero]
  split
  next => rfl
  next nonzero => exact zero_div_abs_eq finite (by simpa using nonzero)

open Float.Model in
theorem sub_self_eq_nan {x : Float} (infinite : x.isFinite = false) : x - x = nan := by
  obtain ⟨v⟩ := x
  change v.unpack.isFinite = false at infinite
  change Float.ofModel (.pack (.sub .binary64 v.unpack v.unpack)) = nan
  cases hu : v.unpack with
  | finite sign m e pos => rw [hu] at infinite; cases infinite
  | zero sign => rw [hu] at infinite; cases infinite
  | infinity sign => cases sign <;> rfl
  | notANumber => rfl

open Float.Model in
theorem nan_abs_div (x : Float) : nan.abs / x = nan := by
  have numerator : nan.abs.toModel.unpack = .notANumber := by rfl
  change Float.ofModel (.pack (.div .binary64 nan.abs.toModel.unpack x.toModel.unpack)) = nan
  rw [numerator]
  cases x.toModel.unpack <;> rfl

theorem mismatch_self_isFinite (x : Float) : (mismatch x x).isFinite = x.isFinite := by
  cases finite : x.isFinite with
  | true =>
      rw [mismatch_self finite]
      decide
  | false =>
      rw [mismatch_self_eq, sub_self_eq_nan finite]
      split
      next => rfl
      next =>
        rw [nan_abs_div]
        rfl

/-! The double of a value. -/

theorem imaginary_bound (x : Float) :
    ¬ (ofRat 0).abs > imaginaryTolerance * (if x.abs > 1 then x.abs else 1) := by
  have zero : (ofRat 0).abs = 0 := by decide
  rw [zero]
  refine not_lt_zero ?_
  rw [unpack_mul]
  refine unsigned_pack (unsigned_mul (unsigned_of_isNegative (by decide)) ?_)
  split
  next => exact unsigned_pack (unsigned_abs _)
  next => exact unsigned_of_isNegative (by decide)

theorem toFloat_number (q : Rat) (part : Option Rat) (h : part.getD 0 = q) :
    (Value.number part none).toFloat = ofRat q := by
  subst h
  exact if_neg (imaginary_bound _)

/-- The double that a value near a number is rounded to. -/
theorem toFloat_of_holds {v : Value} {q : ℚ} (h : v.Holds q) : v.toFloat = ofRat q := by
  obtain ⟨rfl, rfl⟩ | rfl := h
  · exact toFloat_number 0 none rfl
  · exact toFloat_number q (some q) rfl

/-- A common value of two sides is rational, and both have the double nearest to it. -/
def Agree (values : String → Option Float) (s t : Side) (y : ℝ) : Prop :=
  ∃ q : ℚ, y = q ∧ side values s = .ok (ofRat q) ∧ side values t = .ok (ofRat q)

/-- The sides of a relation are defined and equal for given values, and the terms of no
sum cancel. -/
structure Satisfied (values : String → Option Float) (ρ : String → ℝ) (s t : Side) (y : ℝ) :
    Prop where
  left : s.Denotes ρ y
  right : t.Denotes ρ y
  left_balanced : s.Balanced ρ
  right_balanced : t.Balanced ρ
  reads : ∀ key ∈ s.keys ++ t.keys, Side.Reads values ρ key

namespace Satisfied

variable {values : String → Option Float} {ρ : String → ℝ} {s t : Side} {y : ℝ}

theorem side_eq {s : Side} {p : Value.Partial} {q : ℚ} (h : s.evaluate values = .ok p)
    (holds : p.Holds q) : side values s = .ok (ofRat q) := by
  have value : s.value values = .ok p.finish := by
    rw [Side.value, h]
    rfl
  rw [side, value]
  exact congrArg _ (toFloat_of_holds holds.finish)

variable (h : Satisfied values ρ s t y)
include h

theorem reads_left {key : String} (mem : key ∈ s.keys) : Side.Reads values ρ key :=
  h.reads key (List.mem_append_left _ mem)

theorem reads_right {key : String} (mem : key ∈ t.keys) : Side.Reads values ρ key :=
  h.reads key (List.mem_append_right _ mem)

theorem left_value (rational : s.rational = true) :
    ∃ q : ℚ, y = q ∧ side values s = .ok (ofRat q) := by
  obtain ⟨p, q, value, holds, real⟩ := Side.evaluate_rational rational h.left.defined
    h.left_balanced fun key => h.reads_left
  exact ⟨q, h.left.real_eq.symm.trans real, side_eq value holds⟩

theorem agree_of_rational (left_rational : s.rational = true)
    (right_rational : t.rational = true) : Agree values s t y := by
  obtain ⟨q, rfl, value⟩ := h.left_value left_rational
  obtain ⟨p, r, evaluated, holds, real⟩ := Side.evaluate_rational right_rational
    h.right.defined h.right_balanced fun key => h.reads_right
  rw [h.right.real_eq] at real
  obtain rfl : q = r := by exact_mod_cast real
  exact ⟨q, rfl, value, side_eq evaluated holds⟩

/-- A value that is near a double is rounded to it. -/
theorem agree_of_near (left_rational : s.rational = true)
    (dyadic : ∀ q : ℚ, y = q → q ≠ 0 → Dyadic q) {p : Value.Partial} {r : ℚ}
    (evaluated : t.evaluate values = .ok p) (holds : p.Holds r)
    (near : |(r : ℝ) - y| ≤ |y| / 2 ^ 60) : Agree values s t y := by
  obtain ⟨q, rfl, value⟩ := h.left_value left_rational
  refine ⟨q, rfl, value, ?_⟩
  rw [side_eq evaluated holds]
  have rational : |r - q| ≤ |q| / 2 ^ 60 := by exact_mod_cast near
  by_cases zero : q = 0
  · rw [zero, sub_zero, abs_zero, zero_div, abs_nonpos_iff] at rational
    rw [rational, zero]
  · rw [ofRat_eq_of_near (dyadic q rfl zero) rational]

/-- A relation with a plain right side. -/
theorem agree_of_plain (left_rational : s.rational = true)
    (dyadic : ∀ q : ℚ, y = q → q ≠ 0 → Dyadic q) (plain : t.plain = true)
    (slack : t.slack ≤ 1 / 2 ^ 61) (moderate : t.Moderate ρ) :
    Agree values s t y := by
  obtain ⟨p, r, evaluated, holds, within⟩ := Side.evaluate_plain plain h.right.defined
    h.right_balanced moderate fun key => h.reads_right
  rw [h.right.real_eq] at within
  have bound : (t.slack : ℝ) ≤ (1 / 2 ^ 61 : ℚ) := Rat.cast_le.mpr slack
  rw [Side.cast_unit] at bound
  refine h.agree_of_near left_rational dyadic evaluated holds ?_
  refine (within.abs_sub_le (bound.trans (by norm_num))).trans ?_
  have := mul_le_mul_of_nonneg_left bound (abs_nonneg y)
  linarith

/-- A relation with a sum of a plain side and a rational one on its right, where the plain
side is not too great beside the sum. -/
theorem agree_of_sum {a b : Side} (sum : t = .add a b) (left_rational : s.rational = true)
    (dyadic : ∀ q : ℚ, y = q → q ≠ 0 → Dyadic q) (plain : a.plain = true)
    (slack : a.slack ≤ 1 / 2 ^ 118) (moderate : a.Moderate ρ) (rational : b.rational = true)
    (bound : |a.real ρ| ≤ 2 ^ 54 * |y|) : Agree values s t y := by
  subst sum
  obtain ⟨⟨a_defined, b_defined⟩, total⟩ := h.right
  obtain ⟨a_balanced, b_balanced, -⟩ := h.right_balanced
  obtain ⟨p, r, hp, holds, within⟩ := Side.evaluate_plain plain a_defined a_balanced moderate
    fun key mem => h.reads_right (List.mem_append_left _ mem)
  obtain ⟨p', c, hp', holds', real⟩ := Side.evaluate_rational rational b_defined b_balanced
    fun key mem => h.reads_right (List.mem_append_right _ mem)
  have bound_slack : (a.slack : ℝ) ≤ (1 / 2 ^ 118 : ℚ) := Rat.cast_le.mpr slack
  rw [Side.cast_unit] at bound_slack
  have near : |((r + c : ℚ) : ℝ) - y| ≤ |y| / 2 ^ 60 := by
    have split : ((r + c : ℚ) : ℝ) - y = r - a.real ρ := by
      rw [← total, Side.real, real]
      push_cast
      ring
    rw [split]
    calc |(r : ℝ) - a.real ρ|
        ≤ |a.real ρ| * (2 * a.slack) := within.abs_sub_le (bound_slack.trans (by norm_num))
      _ ≤ |a.real ρ| * (2 * (1 / 2 ^ 118)) := by gcongr
      _ ≤ 2 ^ 54 * |y| * (2 * (1 / 2 ^ 118)) := by gcongr
      _ ≤ |y| / 2 ^ 60 := by linarith [abs_nonneg y]
  refine h.agree_of_near left_rational dyadic (Side.evaluate_add hp hp')
    (holds.add holds' fun zero => ?_) near
  -- the sum is zero only where both of its terms are
  have none : y = 0 := by
    rw [zero, Rat.cast_zero, zero_sub, abs_neg] at near
    exact abs_nonpos_iff.mp (by linarith)
  rw [none, abs_zero, mul_zero, abs_nonpos_iff] at bound
  have : r = 0 := by exact_mod_cast within.eq_zero_iff.mpr bound
  exact ⟨this, by rwa [this, zero_add] at zero⟩

end Satisfied

end Astrolabe.Relation
