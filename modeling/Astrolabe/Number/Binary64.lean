/-!
Doubles as exact numbers. A finite double is `± mantissa · 2 ^ exponent`, and `ofRat` goes the
other way: the double nearest to a rational number, ties to the even mantissa, infinite beyond the
range. The bits and the rounding are those of the logical model of `Float`.
-/

namespace Astrolabe.Binary64

open Float.Model

-- `^` means core's power, also where a module above declares another one.
attribute [local instance (high)] instPowNat

/-- The number `± mantissa · 2 ^ exponent`; a zero keeps its sign. -/
structure Parts where
  negative : Bool
  mantissa : Nat
  exponent : Int
deriving DecidableEq, Repr

namespace Parts

/-- The magnitude as a quotient of natural numbers, the second of them positive. -/
def ratio (d : Parts) : Nat × Nat :=
  if 0 ≤ d.exponent then (d.mantissa * 2 ^ d.exponent.toNat, 1)
  else (d.mantissa, 2 ^ (-d.exponent).toNat)

/-- The number as a rational. -/
def toRat (d : Parts) : Rat :=
  let magnitude := mkRat d.ratio.1 d.ratio.2
  if d.negative then -magnitude else magnitude

/-- Whether the number is an integer. -/
def isInteger (d : Parts) : Bool :=
  d.ratio.1 % d.ratio.2 == 0

end Parts

/-- Sign, mantissa and exponent of a finite double; nothing for an infinity or a NaN. -/
def split? (x : Float) : Option Parts :=
  match x.toModel.unpack with
  | .finite sign mantissa exponent _ => some ⟨sign matches .negative, mantissa, exponent⟩
  | .zero sign => some ⟨sign matches .negative, 0, 0⟩
  | .infinity _ | .notANumber => none

/-- The exact value of a finite double. -/
def toRat? (x : Float) : Option Rat :=
  (split? x).map Parts.toRat

/-- Whether the sign bit is set; a NaN has none. -/
def isNegative (x : Float) : Bool :=
  match x.toModel.unpack with
  | .finite .negative .. | .zero .negative | .infinity .negative => true
  | _ => false

/-- Whether a double is finite and an integer. -/
def isInteger (x : Float) : Bool :=
  (split? x).any Parts.isInteger

/-- The double nearest to `± num / den`. -/
def ofRatio (negative : Bool) (num den : Nat) : Float :=
  let sign : UnpackedFloat.Sign := if negative then .negative else .positive
  if hn : 0 < num then
    if hd : 0 < den then
      .ofModel (.pack (.div .binary64 (.finite sign num 0 hn) (.finite .positive den 0 hd)))
    else .ofModel (.pack (.infinity sign))
  else .ofModel (.pack (.zero sign))

/-- The double nearest to a rational number. -/
def ofRat (q : Rat) : Float :=
  ofRatio (q.num < 0) q.num.natAbs q.den

/-- The double nearest to a natural number, or nothing where that number lies beyond the range. -/
def ofNat? (n : Nat) : Option Float :=
  let x := ofRatio false n 1
  if x.isFinite then some x else none

/-- The double nearest to an integer, or nothing where that number lies beyond the range. -/
def ofInt? (n : Int) : Option Float :=
  (ofNat? n.natAbs).map fun x => if n < 0 then -x else x

end Astrolabe.Binary64
