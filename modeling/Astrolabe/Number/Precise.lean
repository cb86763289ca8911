/-!
Roots, exponentials, logarithms and trigonometric functions of rational numbers, with a relative
error far below that of a double. Sums of series are taken in fixed point: an integer `n` stands for
`n / 2 ^ bits`.
-/

namespace Astrolabe.Number.Precise

-- `^` means core's power, also where a module above declares another one.
attribute [local instance (high)] instPowNat

/-- The number of binary digits that results are good for, with a margin for the magnitude of
doubles. -/
def precision : Nat := 420

/-- The exponent `e` with `2 ^ (e - 1) ≤ |q| < 2 ^ (e + 1)`, for a number that is not zero. -/
def magnitude (q : Rat) : Int :=
  (q.num.natAbs.log2 : Int) - q.den.log2

def absolute (q : Rat) : Rat :=
  if q < 0 then -q else q

/-- A power of two with an integer exponent. -/
def twoPow (e : Int) : Rat :=
  if 0 ≤ e then mkRat (2 ^ e.toNat) 1 else mkRat 1 (2 ^ (-e).toNat)

def toFixed (bits : Nat) (q : Rat) : Int :=
  q.num * 2 ^ bits / q.den

def ofFixed (bits : Nat) (n : Int) : Rat :=
  mkRat n (2 ^ bits)

def mulFixed (bits : Nat) (a b : Int) : Int :=
  a * b / 2 ^ bits

/-- The sum of the first terms of a series, each term made from the one before it. -/
def series (step term : Nat → Int → Int) (first : Int) (count : Nat) : Int :=
  ((List.range count).foldl
    (fun (sum, power) k => (sum + term k power, step k power)) ((0, first) : Int × Int)).1

/-- The sum of `± z ^ (2 k + 1) / (2 k + 1)`, with alternating signs or all of one sign. -/
def oddSeries (bits : Nat) (alternating : Bool) (z : Int) : Int :=
  let square := mulFixed bits z z
  series (fun _ power => mulFixed bits power (if alternating then -square else square))
    (fun k power => power / (2 * k + 1)) z bits

/-- The ratio of a circle to its diameter. -/
def pi (bits : Nat) : Int :=
  4 * (4 * oddSeries bits true (2 ^ bits / 5) - oddSeries bits true (2 ^ bits / 239))

/-- The natural logarithm of 2. -/
def ln2 (bits : Nat) : Int :=
  2 * oddSeries bits false (2 ^ bits / 3)

/-- The greatest natural number whose square is at most `n`, for `n < 4 ^ digits`. -/
def floorSqrt : Nat → Nat → Nat
  | 0, _ => 0
  | digits + 1, n =>
    let low := 2 * floorSqrt digits (n / 4)
    if (low + 1) * (low + 1) ≤ n then low + 1 else low

/-- The square root of a number that is not negative, exact where it is rational. -/
def sqrt (q : Rat) : Rat :=
  let root (n : Nat) : Nat := floorSqrt (n.log2 / 2 + 1) n
  let num := q.num.natAbs
  let (a, b) := (root num, root q.den)
  if a * a == num && b * b == q.den then mkRat a b
  else
    let shift := precision + (q.den.log2 - num.log2)
    ofFixed shift (root (num * 4 ^ shift / q.den))

/-- The natural logarithm of a positive number. -/
def ln (q : Rat) : Rat :=
  let bits := precision
  let exponent := magnitude q
  let m := q * twoPow (-exponent)
  let z := toFixed bits ((m - 1) / (m + 1))
  ofFixed bits (2 * oddSeries bits false z + exponent * ln2 bits)

/-- The greatest exponent that the exponential function tells from larger ones. -/
def exponentLimit : Rat := 100000

/-- An exponent brought within `exponentLimit`. -/
def clampExponent (q : Rat) : Rat :=
  if exponentLimit < q then exponentLimit
  else if q < -exponentLimit then -exponentLimit
  else q

/-- The exponential function, constant beyond `exponentLimit`. -/
def exp (q : Rat) : Rat :=
  let bits := precision
  let x := toFixed bits (clampExponent q)
  let turns := x / ln2 bits
  let rest := x - turns * ln2 bits
  let sum := series (fun k power => mulFixed bits power rest / (k + 1)) (fun _ power => power)
    (2 ^ bits) (bits / 2)
  ofFixed bits sum * twoPow turns

/-- Sine and cosine in fixed point. -/
def sinCos (bits : Nat) (x : Int) : Int × Int :=
  let square := mulFixed bits x x
  (series (fun k power => -(mulFixed bits power square) / ((2 * k + 2) * (2 * k + 3)))
      (fun _ power => power) x (bits / 2),
    series (fun k power => -(mulFixed bits power square) / ((2 * k + 1) * (2 * k + 2)))
      (fun _ power => power) (2 ^ bits) (bits / 2))

/-- Whether the terms of third order hold all digits of a function at an argument. -/
def isTiny (q : Rat) : Bool :=
  magnitude q < -100

def tan (q : Rat) : Rat :=
  if isTiny q then q + q * q * q / 3
  else
    let bits := precision + (magnitude q).toNat
    let x := toFixed bits q
    let p := pi bits
    let turns := (2 * x + p) / (2 * p)
    let (s, c) := sinCos bits (x - turns * p)
    mkRat s 1 / mkRat c 1

/-- The arctangent of an argument of at most 1. -/
def atanInner (q : Rat) : Rat :=
  if isTiny q then q - q * q * q / 3
  else
    let z := q / (1 + sqrt (1 + q * q))
    ofFixed precision (2 * oddSeries precision true (toFixed precision z))

def atan (q : Rat) : Rat :=
  if absolute q ≤ 1 then atanInner q
  else
    let right := ofFixed precision (pi precision) / 2
    (if q < 0 then -right else right) - atanInner (1 / q)

/-- A power of a positive number. -/
def pow (q exponent : Rat) : Rat :=
  exp (exponent * ln q)

/-- Cosine and sine of a multiple of a half turn. -/
def halfTurns (q : Rat) : Rat × Rat :=
  let bits := precision
  let angle := mulFixed bits (toFixed bits (q - 2 * ((q + 1) / 2).floor)) (pi bits)
  let (s, c) := sinCos bits angle
  (ofFixed bits c, ofFixed bits s)

end Astrolabe.Number.Precise
