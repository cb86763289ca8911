import Astrolabe.Number.Text

/-!
The shortest decimal text that reads back as the same double. Among the decimals with the fewest
digits inside the interval of numbers that round to the double, the nearest one is taken.
-/

namespace Astrolabe.Number

open Binary64 Rounding

-- `^` means core's power, also where a module above declares another one.
attribute [local instance (high)] instPowNat

namespace Shortest

/-- The numbers that round to a positive double, as bounds over one denominator. Both bounds belong
to it exactly where the mantissa is even. -/
structure Interval where
  low : Nat
  value : Nat
  high : Nat
  den : Nat
  closed : Bool

/-- Half the gap to each neighbour; below a power of two the gap is half as wide. -/
def interval (d : Parts) : Interval :=
  let (quarter, den) := (⟨false, 1, d.exponent - 2⟩ : Parts).ratio
  let narrow := d.mantissa == 2 ^ (52 : Nat) && d.exponent != -1074
  { low := (4 * d.mantissa - if narrow then 1 else 2) * quarter
    value := 4 * d.mantissa * quarter
    high := (4 * d.mantissa + 2) * quarter
    den
    closed := d.mantissa % 2 == 0 }

/-- Whether `n / d` rounds to the double. -/
def Interval.contains (i : Interval) (n d : Nat) : Bool :=
  let (left, mid, right) := (i.low * d, n * i.den, i.high * d)
  if i.closed then left ≤ mid && mid ≤ right else left < mid && mid < right

/-- The nearer neighbour of the value among the decimals with `count` digits, if one reads back. -/
def onGrid (i : Interval) (exponent : Int) (count : Nat) : Option (Nat × Int) :=
  let shift : Int := count - 1 - exponent
  let (n, d) := scaled i.value i.den shift
  let best := nearest n d
  let other := if best * d ≤ n then best + 1 else best - 1
  let readsBack (digits : Nat) : Bool :=
    if 0 ≤ shift then i.contains digits (10 ^ shift.toNat)
    else i.contains (digits * 10 ^ (-shift).toNat) 1
  if readsBack best then some (best, shift)
  else if readsBack other then some (other, shift)
  else none

/-- The digits of the shortest decimal and how many of them follow the point; the numerals with
seventeen digits tell all doubles apart. -/
def digits (d : Parts) : Nat × Int :=
  let i := interval d
  let exponent := leadingExponent i.value i.den
  ((List.range 17).findSome? fun k => onGrid i exponent (k + 1)).getD (0, 0)

/-- A number without the zeros at its end, and how many these were. -/
def dropZeros (n : Nat) : Nat × Nat :=
  let ds := (Nat.toDigits 10 n).reverse
  let zeros := (ds.takeWhile (· == '0')).length
  (n / 10 ^ zeros, zeros)

end Shortest

/-- The shortest text of a magnitude: positional for exponents from -4 to 15, scientific otherwise.
`whole` is written after a positional integer. -/
def shortestText (whole : String) (d : Parts) : String :=
  if d.mantissa = 0 then "0" ++ whole
  else
    let (raw, shift) := Shortest.digits d
    let (ds, zeros) := Shortest.dropZeros raw
    let places : Int := shift - zeros
    let count := digitCount ds
    let exponent : Int := count - 1 - places
    if -4 ≤ exponent ∧ exponent < 16 then
      if places ≤ 0 then toString (ds * 10 ^ (-places).toNat) ++ whole
      else unitsText places.toNat ds
    else unitsText (count - 1) ds ++ exponentText exponent

/-- The shortest text that reads back as the same double; `whole` marks an integer. -/
def shortestWith (whole : String) (x : Float) : String :=
  match split? x with
  | some d => (if d.negative then "-" else "") ++ shortestText whole d
  | none => if x.isNaN then "nan" else if isNegative x then "-inf" else "inf"

/-- The shortest text of a double, `.0` marking an integer. -/
def shortest : Float → String :=
  shortestWith ".0"

end Astrolabe.Number
