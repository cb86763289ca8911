import Astrolabe.Number.Binary64

/-!
Rounding a quotient of natural numbers to a whole number or to a given count of decimal digits. A
tie goes to the even neighbour.
-/

namespace Astrolabe.Rounding

-- `^` means core's power, also where a module above declares another one.
attribute [local instance (high)] instPowNat

/-- The integer nearest to `num / den`, of two equally near ones the even one. -/
def nearest (num den : Nat) : Nat :=
  let down := num / den
  let rest := 2 * (num % den)
  if den < rest || (rest == den && down % 2 == 1) then down + 1 else down

/-- How many decimal digits a natural number has. -/
def digitCount (n : Nat) : Nat :=
  (Nat.toDigits 10 n).length

/-- The exponent `e` with `10 ^ e ≤ num / den < 10 ^ (e + 1)`, both numbers being positive. -/
def leadingExponent (num den : Nat) : Int :=
  if den ≤ num then (digitCount (num / den) : Int) - 1
  else -(digitCount ((den - 1) / num) : Int)

/-- The quotient `num · 10 ^ shift / den` as a quotient of natural numbers. -/
def scaled (num den : Nat) (shift : Int) : Nat × Nat :=
  if 0 ≤ shift then (num * 10 ^ shift.toNat, den) else (num, den * 10 ^ (-shift).toNat)

/-- A positive quotient rounded to `places + 1` digits: these digits as one number, with the
exponent of the first. Rounding up to a further digit moves the exponent. -/
def significant (num den places : Nat) : Nat × Int :=
  let exponent := leadingExponent num den
  let (n, d) := scaled num den (places - exponent)
  let digits := nearest n d
  if digits = 10 ^ (places + 1) then (10 ^ places, exponent + 1) else (digits, exponent)

/-- A quotient rounded to `places` digits after the point, as a number of units of the last
digit. -/
def units (num den places : Nat) : Nat :=
  nearest (num * 10 ^ places) den

end Astrolabe.Rounding
