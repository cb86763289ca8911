import Mathlib.Analysis.SpecialFunctions.Log.Base
import Mathlib.Analysis.SpecialFunctions.Pow.Real
import Mathlib.Analysis.SpecialFunctions.Trigonometric.Arctan
import Astrolabe.Proofs.Solver.Symbols

/-!
Terms over the real numbers. `exactValue?` evaluates a term as the doubles do, with the
guards of the operations and without their rounding. `real` and `Defined` split the
result into a total function and the condition under which it means something.
-/

namespace Astrolabe.Inversion

/-- The cube root that has the sign of its argument. -/
noncomputable def realCbrt (x : ℝ) : ℝ :=
  if x < 0 then -(-x) ^ (3⁻¹ : ℝ) else x ^ (3⁻¹ : ℝ)

@[simp] theorem realCbrt_pow_three (x : ℝ) : realCbrt x ^ 3 = x := by
  have root {y : ℝ} (hy : 0 ≤ y) : (y ^ (3⁻¹ : ℝ)) ^ 3 = y := by
    simpa using Real.rpow_inv_natCast_pow hy (n := 3) (by decide)
  unfold realCbrt
  split
  next negative =>
    rw [Odd.neg_pow (by decide), root (by linarith), neg_neg]
  next positive => exact root (not_lt.mp positive)

theorem realCbrt_of_pow_three (x : ℝ) : realCbrt (x ^ 3) = x :=
  (Odd.strictMono_pow (by decide : Odd 3)).injective (realCbrt_pow_three (x ^ 3))

theorem realCbrt_pos {x : ℝ} (hx : 0 < x) : 0 < realCbrt x := by
  rw [realCbrt, if_neg (not_lt.mpr hx.le)]
  exact Real.rpow_pos_of_pos hx _

namespace Term

open Classical in
/-- The value of a term over the reals, absent where a symbol has none or an operation
is not defined. -/
noncomputable def exactValue? (values : String → Option ℝ) : Term → Option ℝ
  | var symbol => values symbol
  | literal d => some (d.digits * 10 ^ d.exponent)
  | pi => some Real.pi
  | neg a => do
    let x ← a.exactValue? values
    some (-x)
  | add a b => do
    let x ← a.exactValue? values
    let y ← b.exactValue? values
    some (x + y)
  | sub a b => do
    let x ← a.exactValue? values
    let y ← b.exactValue? values
    some (x - y)
  | mul a b => do
    let x ← a.exactValue? values
    let y ← b.exactValue? values
    some (x * y)
  | div a b => do
    let x ← a.exactValue? values
    let y ← b.exactValue? values
    if y ≠ 0 then some (x / y) else none
  | natPow a n => do
    let x ← a.exactValue? values
    some (x ^ n)
  | sqrt a => do
    let x ← a.exactValue? values
    if 0 ≤ x then some (√x) else none
  | cbrt a => do
    let x ← a.exactValue? values
    some (realCbrt x)
  | log10 a => do
    let x ← a.exactValue? values
    if 0 < x then some (Real.logb 10 x) else none
  | ln a => do
    let x ← a.exactValue? values
    if 0 < x then some (Real.log x) else none
  | pow a b => do
    let x ← a.exactValue? values
    let y ← b.exactValue? values
    if (x < 0 → ∃ n : ℤ, y = n) ∧ (x = 0 → 0 ≤ y) then some (x ^ y) else none
  | tan a => do
    let x ← a.exactValue? values
    if Real.cos x ≠ 0 then some (Real.tan x) else none
  | atan a => do
    let x ← a.exactValue? values
    some (Real.arctan x)

/-- The value of a term where all its operations are defined. -/
@[simp] noncomputable def real (a : String → ℝ) : Term → ℝ
  | var symbol => a symbol
  | literal d => d.digits * 10 ^ d.exponent
  | pi => Real.pi
  | neg s => -s.real a
  | add s t => s.real a + t.real a
  | sub s t => s.real a - t.real a
  | mul s t => s.real a * t.real a
  | div s t => s.real a / t.real a
  | natPow s n => s.real a ^ n
  | sqrt s => √(s.real a)
  | cbrt s => realCbrt (s.real a)
  | log10 s => Real.logb 10 (s.real a)
  | ln s => Real.log (s.real a)
  | pow s t => s.real a ^ t.real a
  | tan s => Real.tan (s.real a)
  | atan s => Real.arctan (s.real a)

/-- No operation of a term is refused. -/
@[simp] def Defined (a : String → ℝ) : Term → Prop
  | var _ | literal _ | pi => True
  | neg s | natPow s _ | cbrt s | atan s => s.Defined a
  | add s t | sub s t | mul s t => s.Defined a ∧ t.Defined a
  | div s t => s.Defined a ∧ t.Defined a ∧ t.real a ≠ 0
  | sqrt s => s.Defined a ∧ 0 ≤ s.real a
  | log10 s | ln s => s.Defined a ∧ 0 < s.real a
  | pow s t =>
      s.Defined a ∧ t.Defined a ∧ (s.real a < 0 → ∃ n : ℤ, t.real a = n) ∧
        (s.real a = 0 → 0 ≤ t.real a)
  | tan s => s.Defined a ∧ Real.cos (s.real a) ≠ 0

/-! Numerals and operators are constructors. -/

section

variable (a : String → ℝ) (n m e : Nat) (negative : Bool)

@[simp] theorem real_ofNat :
    (no_index (OfNat.ofNat n) : Term).real a = (OfNat.ofNat n : ℕ) := by
  change (n : ℝ) * 10 ^ (0 : ℤ) = n
  simp

@[simp] theorem defined_ofNat : (no_index (OfNat.ofNat n) : Term).Defined a := trivial

@[simp] theorem symbols_ofNat : (no_index (OfNat.ofNat n) : Term).symbols = [] := rfl

@[simp] theorem ofScientific_eq :
    (OfScientific.ofScientific m negative e : Term) =
      literal ⟨m, if negative then -(e : Int) else e⟩ := rfl

end

@[simp] theorem neg_eq (s : Term) : -s = neg s := rfl

@[simp] theorem add_eq (s t : Term) : s + t = add s t := rfl

@[simp] theorem sub_eq (s t : Term) : s - t = sub s t := rfl

@[simp] theorem mul_eq (s t : Term) : s * t = mul s t := rfl

@[simp] theorem div_eq (s t : Term) : s / t = div s t := rfl

@[simp] theorem pow_eq (s : Term) (n : Nat) : s ^ n = natPow s n := rfl

open Classical in
/-- Guards and arithmetic come apart as soon as every symbol has a value. -/
theorem exactValue?_eq {values : String → Option ℝ} {a : String → ℝ} (t : Term)
    (h : ∀ s ∈ t.symbols, values s = some (a s)) :
    t.exactValue? values = if t.Defined a then some (t.real a) else none := by
  induction t with
  | var symbol => simpa [exactValue?] using h symbol (by simp)
  | literal _ | pi => simp [exactValue?]
  -- an operation is refused where a part of it is, and else by its own guard only
  | neg s ih | natPow s _ ih | cbrt s ih | atan s ih | sqrt s ih | log10 s ih | ln s ih
  | tan s ih =>
      by_cases ds : s.Defined a <;> simp [exactValue?, ih h, ds]
  | add s t ihs iht | sub s t ihs iht | mul s t ihs iht | div s t ihs iht
  | pow s t ihs iht =>
      have hs := ihs fun x hx => h x (List.mem_append_left _ hx)
      have ht := iht fun x hx => h x (List.mem_append_right _ hx)
      by_cases ds : s.Defined a <;> by_cases dt : t.Defined a <;>
        simp [exactValue?, hs, ht, ds, dt]

end Term

end Astrolabe.Inversion
