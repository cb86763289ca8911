import Astrolabe.Number.Elementary
import Astrolabe.Number.Text

/-!
Guarded operations on doubles: division, roots, logarithms and powers that refuse, with a reason,
where the operation on the reals is not defined or the result is too large.
-/

namespace Astrolabe.Inversion

open Number

/-- Why an equation has no solution in the doubles. -/
inductive Reason where
  | zeroDivision
  | negativeRoot (x : Float)
  | logarithm (x : Float)
  | complexPower (base exponent : Float)
  | overflow
  | outsideDomain
  | notFinite (x : Float)

def Reason.message : Reason → String
  | zeroDivision => "division by zero"
  | negativeRoot x => "square root of negative value " ++ general 6 x
  | logarithm x => "logarithm of non-positive value " ++ general 6 x
  | complexPower base exponent =>
    "complex result for " ++ general 6 base ++ "^" ++ general 6 exponent
  | overflow => "result overflows"
  | outsideDomain => "math domain error"
  | notFinite x => "non-finite result " ++ general 6 x

/-- A fault as a reason. -/
def Reason.ofFault : Fault → Reason
  | .domain => outsideDomain
  | .range => overflow
  | .zeroDivision => zeroDivision

namespace Guard

/-- The functions that the platform computes. Division and the square root are those of the
doubles. -/
structure Functions where
  cbrt : Float → Float
  log10 : Float → Float
  ln : Float → Float
  pow : Float → Float → Float

def Functions.native : Functions := ⟨Float.cbrt, Float.log10, Float.log, Float.pow⟩

/-- A guarded operation with its operands. The cube root is the real one, which has the sign of its
operand. -/
inductive Call (α : Type) where
  | div (x y : α)
  | sqrt (x : α)
  | cbrt (x : α)
  | log10 (x : α)
  | ln (x : α)
  | pow (x y : α)

/-- How a call ends without a result: the guard refuses the operands, or a fault of the operation
gets past the guard. -/
inductive Stop where
  | refused (r : Reason)
  | fault (f : Fault)

def Stop.reason : Stop → Reason
  | refused r => r
  | fault f => .ofFault f

/-- A refusal where the operands are outside the domain, and else the operation. -/
def check (outside : Bool) (reason : Reason) (result : Except Fault Float) : Except Stop Float :=
  if outside then .error (.refused reason) else result.mapError .fault

/-- An operation behind the conditions of its guard. The guard of the power also takes up the fault
of a result that is too large. -/
def attempt (f : Functions) : Call Float → Except Stop Float
  | .div x y => check (y == 0) .zeroDivision (Elementary.div x y)
  | .sqrt x => check (x < 0) (.negativeRoot x) (Elementary.sqrt x)
  | .cbrt x => (Elementary.inDomain x (f.cbrt x)).mapError .fault
  | .log10 x => check (x ≤ 0) (.logarithm x) (Elementary.inDomain x (f.log10 x))
  | .ln x => check (x ≤ 0) (.logarithm x) (Elementary.inDomain x (f.ln x))
  | .pow x y =>
    if x < 0 && !Binary64.isInteger y then .error (.refused (.complexPower x y))
    else if x == 0 && y < 0 then .error (.refused .zeroDivision)
    else
      (Elementary.powInDomain x y (f.pow x y)).mapError fun
        | .range => .refused .overflow
        | fault => .fault fault

/-- The result of a call on this platform. A fault that gets past the guard is told as a reason. -/
def perform (call : Call Float) : Except Reason Float :=
  (attempt .native call).mapError Stop.reason

def div (x y : Float) : Except Reason Float := perform (.div x y)

def sqrt (x : Float) : Except Reason Float := perform (.sqrt x)

def cbrt (x : Float) : Except Reason Float := perform (.cbrt x)

def log10 (x : Float) : Except Reason Float := perform (.log10 x)

def ln (x : Float) : Except Reason Float := perform (.ln x)

def pow (x y : Float) : Except Reason Float := perform (.pow x y)

/-- A power with a fixed natural exponent. -/
def natPow (x : Float) (n : Nat) : Except Reason Float :=
  let result := x.pow (Float.ofNat n)
  if result.isInf && x.isFinite then .error .overflow else .ok result

/-- A function with a domain of its own. -/
def within (result : Except Fault Float) : Except Reason Float :=
  result.mapError fun _ => .outsideDomain

end Guard

end Astrolabe.Inversion
