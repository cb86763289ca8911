import Astrolabe.Number.Rounding

/-!
Doubles as decimal text with a fixed number of digits: `scientific` and `fixed` count the digits
after the point, `general` the significant ones. Digits are rounded from the exact binary value, a
tie to the even digit. An exponent has a sign and at least two digits.
-/

namespace Astrolabe.Number

open Binary64 Rounding

-- `^` means core's power, also where a module above declares another one.
attribute [local instance (high)] instPowNat

/-- A natural number padded on the left with zeros to a width. -/
def padded (width n : Nat) : String :=
  let digits := toString n
  String.ofList (List.replicate (width - digits.length) '0') ++ digits

/-- An exponent: the letter, its sign and at least two digits. -/
def exponentText (e : Int) : String :=
  (if e < 0 then "e-" else "e+") ++ padded 2 e.natAbs

/-- A number of units of `10 ^ -places`, with a point where there are places. -/
def unitsText (places units : Nat) : String :=
  if places = 0 then toString units
  else toString (units / 10 ^ places) ++ "." ++ padded places (units % 10 ^ places)

/-- One digit, `places` further ones, and the exponent; of a quotient. -/
def scientificText (num den places : Nat) : String :=
  if num = 0 then unitsText places 0 ++ exponentText 0
  else
    let (digits, exponent) := significant num den places
    unitsText places digits ++ exponentText exponent

/-- The text without the zeros that end its fraction, and without a point that ends it then. -/
def trimFraction (text : String) : String :=
  if text.contains '.' then
    let kept := text.toList.reverse.dropWhile (· == '0')
    String.ofList (kept.dropWhile (· == '.')).reverse
  else text

/-- At most `precision` significant digits: positional for exponents from -4 up to `precision`,
scientific otherwise, zeros at the end of the fraction dropped. -/
def generalText (num den precision : Nat) : String :=
  if num = 0 then "0"
  else
    let (digits, exponent) := significant num den (precision - 1)
    if -4 ≤ exponent ∧ exponent < precision then
      let places := (precision - 1 - exponent).toNat
      trimFraction (unitsText places (units num den places))
    else
      trimFraction (unitsText (precision - 1) digits) ++ exponentText exponent

/-- The text of a double whose magnitude a layout writes; an infinity and a NaN have names. -/
def withSign (layout : Nat → Nat → String) (x : Float) : String :=
  match split? x with
  | some d =>
    let (num, den) := d.ratio
    (if d.negative then "-" else "") ++ layout num den
  | none => if x.isNaN then "nan" else if isNegative x then "-inf" else "inf"

/-- Scientific notation with `places` digits after the point. -/
def scientific (places : Nat) (x : Float) : String :=
  withSign (fun num den => scientificText num den places) x

/-- Positional notation with `places` digits after the point. -/
def fixed (places : Nat) (x : Float) : String :=
  withSign (fun num den => unitsText places (units num den places)) x

/-- The shorter of both notations with at most `precision` significant digits. -/
def general (precision : Nat) (x : Float) : String :=
  withSign (fun num den => generalText num den precision) x

end Astrolabe.Number
