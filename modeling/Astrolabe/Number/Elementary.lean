import Astrolabe.Number.Numeral

/-!
Elementary functions on doubles that refuse instead of returning a NaN or an infinity of their own.
An argument outside the domain and a finite argument with an infinite result are faults; infinities
and NaNs among the arguments pass where the function has a limit there.
-/

namespace Astrolabe.Number

/-- Why an operation on doubles has no result. -/
inductive Fault where
  | domain
  | range
  | zeroDivision
deriving DecidableEq, Repr

namespace Elementary

def pi : Float := Decimal.toFloat ⟨3141592653589793, -15⟩

def euler : Float := Decimal.toFloat ⟨2718281828459045, -15⟩

/-- A result outside the range of a function whose only poles lie outside its domain. -/
def inDomain (x result : Float) : Except Fault Float :=
  if result.isNaN && !x.isNaN then .error .domain
  else if result.isInf && x.isFinite then .error .domain
  else .ok result

def sin (x : Float) : Except Fault Float := inDomain x x.sin

def cos (x : Float) : Except Fault Float := inDomain x x.cos

def tan (x : Float) : Except Fault Float := inDomain x x.tan

def asin (x : Float) : Except Fault Float := inDomain x x.asin

def acos (x : Float) : Except Fault Float := inDomain x x.acos

def atan (x : Float) : Except Fault Float := inDomain x x.atan

def sqrt (x : Float) : Except Fault Float := inDomain x x.sqrt

def cbrt (x : Float) : Except Fault Float := inDomain x x.cbrt

def ln (x : Float) : Except Fault Float := inDomain x x.log

def log10 (x : Float) : Except Fault Float := inDomain x x.log10

/-- The exponential function; a finite argument may be too large for it. -/
def exp (x : Float) : Except Fault Float :=
  if x.exp.isInf && x.isFinite then .error .range else .ok x.exp

/-- Division, refused for a zero divisor of either sign. -/
def div (x y : Float) : Except Fault Float :=
  if y == 0 then .error .zeroDivision else .ok (x / y)

/-- A result of the power function. A negative base needs a whole exponent, a zero base an exponent
that is not negative; these conditions do not touch infinite arguments. -/
def powInDomain (x y result : Float) : Except Fault Float :=
  if !(x.isFinite && y.isFinite) || result.isFinite then .ok result
  else if result.isNaN || x == 0 then .error .domain
  else .error .range

def pow (x y : Float) : Except Fault Float := powInDomain x y (x.pow y)

/-- The logarithm to a base. The logarithm of a base of 1 is zero. -/
def logBase (x base : Float) : Except Fault Float := do
  let numerator ← ln x
  let denominator ← ln base
  div numerator denominator

end Elementary

end Astrolabe.Number
