import Astrolabe.Inversion.Guard

/-!
Terms: closed forms over named values. Operands are evaluated from left to right; the first value
that is missing and the first operation that is refused end the evaluation.
-/

namespace Astrolabe.Inversion

open Number

/-- A closed form. `natPow` has a fixed exponent, `pow` a computed one. -/
inductive Term where
  | var (symbol : String)
  | literal (d : Decimal)
  | pi
  | neg (a : Term)
  | add (a b : Term)
  | sub (a b : Term)
  | mul (a b : Term)
  | div (a b : Term)
  | natPow (a : Term) (n : Nat)
  | sqrt (a : Term)
  | cbrt (a : Term)
  | log10 (a : Term)
  | ln (a : Term)
  | pow (a b : Term)
  | tan (a : Term)
  | atan (a : Term)
deriving DecidableEq

namespace Term

instance (n : Nat) : OfNat Term n := ⟨literal ⟨n, 0⟩⟩

instance : OfScientific Term where
  ofScientific m negative e := literal ⟨m, if negative then -(e : Int) else e⟩

instance : Coe String Term := ⟨var⟩

instance : Neg Term := ⟨neg⟩

instance : Add Term := ⟨add⟩

instance : Sub Term := ⟨sub⟩

instance : Mul Term := ⟨mul⟩

instance : Div Term := ⟨div⟩

instance : HPow Term Nat Term := ⟨natPow⟩

/-- Why a term has no value. -/
inductive Error where
  | missing (symbol : String)
  | refused (r : Reason)

/-- A guarded operation as a step of an evaluation. -/
def guarded (result : Except Reason Float) : Except Error Float :=
  result.mapError .refused

/-- The value of a term. -/
def value (values : String → Option Float) : Term → Except Error Float
  | var symbol =>
    match values symbol with
    | some x => .ok x
    | none => .error (.missing symbol)
  | literal d => .ok d.toFloat
  | pi => .ok Elementary.pi
  | neg a => do
    let x ← a.value values
    .ok (-x)
  | add a b => do
    let x ← a.value values
    let y ← b.value values
    .ok (x + y)
  | sub a b => do
    let x ← a.value values
    let y ← b.value values
    .ok (x - y)
  | mul a b => do
    let x ← a.value values
    let y ← b.value values
    .ok (x * y)
  | div a b => do
    let x ← a.value values
    let y ← b.value values
    guarded (Guard.div x y)
  | natPow a n => do
    let x ← a.value values
    guarded (Guard.natPow x n)
  | sqrt a => do
    let x ← a.value values
    guarded (Guard.sqrt x)
  | cbrt a => do
    let x ← a.value values
    guarded (Guard.cbrt x)
  | log10 a => do
    let x ← a.value values
    guarded (Guard.log10 x)
  | ln a => do
    let x ← a.value values
    guarded (Guard.ln x)
  | pow a b => do
    let x ← a.value values
    let y ← b.value values
    guarded (Guard.pow x y)
  | tan a => do
    let x ← a.value values
    guarded (Guard.within (Elementary.tan x))
  | atan a => do
    let x ← a.value values
    guarded (Guard.within (Elementary.atan x))

end Term

end Astrolabe.Inversion
