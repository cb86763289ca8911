import Astrolabe.Expression.Parser

/-!
Sides of a relation: sums, products and powers of numbers and names, with a few functions. They are
built in a collected form: like terms of a sum are added up, like factors of a product share one
power, and arithmetic between numbers is done exactly.
-/

namespace Astrolabe.Relation

/-- A side of a relation. `unbounded` is the quotient of a number by the number zero. -/
inductive Side where
  | number (q : Rat)
  | unbounded
  | pi
  | name (key : String)
  | add (a b : Side)
  | mul (a b : Side)
  | pow (base exponent : Side)
  | log (a : Side)
  | tan (a : Side)
  | atan (a : Side)
deriving DecidableEq

namespace Side

def isInteger (q : Rat) : Bool :=
  q.den == 1

/-- A number to an integer power; there is none for zero to a negative power. -/
def numberPow (q : Rat) (n : Int) : Side :=
  if q == 0 && n < 0 then unbounded else number (q ^ n)

/-- The greatest exponent for which powers of numbers are written out. -/
def exponentLimit : Nat := 1000

/-! Sums -/

/-- The terms of a sum with their coefficients; the term of a number is the number 1. -/
def terms : Side → List (Side × Rat)
  | number q => [(number 1, q)]
  | add a b => terms a ++ terms b
  | mul (number q) a => [(a, q)]
  | a => [(a, 1)]

/-- Adds a term to others, joining it with the one it is like. -/
def addTerm (others : List (Side × Rat)) (term : Side × Rat) : List (Side × Rat) :=
  match others with
  | [] => [term]
  | (a, q) :: rest => if a = term.1 then (a, q + term.2) :: rest else (a, q) :: addTerm rest term

def ofTerm (term : Side × Rat) : Side :=
  if term.1 = number 1 then number term.2
  else if term.2 = 1 then term.1
  else mul (number term.2) term.1

/-- The sum of terms, where no two are alike. -/
def ofTerms (all : List (Side × Rat)) : Side :=
  match (all.filter fun term => term.2 ≠ 0 ∨ term.1 = unbounded).map ofTerm with
  | [] => number 0
  | first :: rest => rest.foldl add first

/-- A sum. -/
def plus (a b : Side) : Side :=
  ofTerms ((terms a ++ terms b).foldl addTerm [])

/-! Products -/

/-- The factors of a product, as bases with exponents, and its coefficient. -/
def factors : Side → Rat × List (Side × Side)
  | number q => (q, [])
  | mul a b =>
    let (p, left) := factors a
    let (q, right) := factors b
    (p * q, left ++ right)
  | pow base exponent => (1, [(base, exponent)])
  | a => (1, [(a, number 1)])

/-- Adds a factor to others, joining it with the one of the same base. -/
def addFactor (others : List (Side × Side)) (factor : Side × Side) : List (Side × Side) :=
  match others with
  | [] => [factor]
  | (base, exponent) :: rest =>
    if base = factor.1 then (base, plus exponent factor.2) :: rest
    else (base, exponent) :: addFactor rest factor

/-- A power of which base and exponent are in collected form. -/
def ofFactor (factor : Side × Side) : Side :=
  match factor with
  | (base, number 1) => base
  | (_, number 0) => number 1
  | (number q, number e) =>
    if isInteger e && e.num.natAbs ≤ exponentLimit then numberPow q e.num
    else pow (number q) (number e)
  | (base, exponent) => pow base exponent

/-- A coefficient times factors. A coefficient of a sum goes to its terms. -/
def ofFactors (coefficient : Rat) (all : List Side) : Side :=
  let q := all.foldl (fun q a => match a with | number p => q * p | _ => q) coefficient
  let others := all.filter fun a => match a with | number _ => false | _ => true
  if q = 0 ∧ unbounded ∉ others then number 0
  else
    match others with
    | [] => number q
    | [a] => ofTerms ((terms a).map fun (b, p) => (b, p * q))
    | first :: rest =>
      let product := rest.foldl mul first
      if q = 1 then product else mul (number q) product

/-- A product. -/
def times (a b : Side) : Side :=
  let (p, left) := factors a
  let (q, right) := factors b
  ofFactors (p * q) (((left ++ right).foldl addFactor []).map ofFactor)

/-! Powers -/

/-- A power with an integer exponent, which goes to the factors of a product. -/
def intPower (n : Int) : Side → Side
  | mul a b => times (intPower n a) (intPower n b)
  | pow base exponent => ofFactor (base, times exponent (number n))
  | unbounded => if n < 0 then number 0 else unbounded
  | a => ofFactor (a, number n)

/-- A power. -/
def power (base exponent : Side) : Side :=
  match base, exponent with
  | number 1, _ => number 1
  | number 0, number q =>
    if q = 0 then number 1 else if q < 0 then unbounded else number 0
  | base, number q => if isInteger q then intPower q.num base else pow base (number q)
  | base, exponent => pow base exponent

/-! Functions -/

def squareRoot (a : Side) : Side :=
  power a (number (1 / 2))

def logarithm : Side → Side
  | number 1 => number 0
  | number 0 => unbounded
  | a => log a

def tangent : Side → Side
  | number 0 => number 0
  | a => tan a

def arctangent : Side → Side
  | number 0 => number 0
  | number 1 => times pi (number (1 / 4))
  | a => atan a

/-! Reading -/

def negate (a : Side) : Side :=
  times (number (-1)) a

def divide (a b : Side) : Side :=
  times a (power b (number (-1)))

/-- The names of the functions that numerals are read by: whole ones and decimal ones. A declared
name hides a function of that name. -/
def wholeReader : String := "Integer"
def decimalReader : String := "Float"

/-- The side that an expression stands for, if it is one. A name is read as declared before it is
read as that of a constant or a function. -/
def ofExpr? (declared : List String) : Expr → Option Side
  | .whole n => if declared.contains wholeReader then none else some (number n)
  | .decimal d =>
    if declared.contains decimalReader then none
    else (Binary64.toRat? d.toFloat).map number
  | .name id =>
    if declared.contains id then some (name id)
    else if id == "pi" then some pi
    else if ["sqrt", "log", "tan", "atan"].contains id then none
    else some (name id)
  | .unary .plus e => ofExpr? declared e
  | .unary .minus e => (ofExpr? declared e).map negate
  | .binary op left right => do
    let a ← ofExpr? declared left
    let b ← ofExpr? declared right
    match op with
    | .add => some (plus a b)
    | .sub => some (plus a (negate b))
    | .mul => some (times a b)
    | .div => some (divide a b)
    | .pow => some (power a b)
    | _ => none
  | .call (.name id) [argument] [] =>
    if declared.contains id then none
    else do
      let a ← ofExpr? declared argument
      match id with
      | "sqrt" => some (squareRoot a)
      | "log" => some (logarithm a)
      | "tan" => some (tangent a)
      | "atan" => some (arctangent a)
      | _ => none
  | .call (.name id) [argument, base] [] =>
    if declared.contains id || id != "log" then none
    else do
      let a ← ofExpr? declared argument
      let b ← ofExpr? declared base
      some (divide (logarithm a) (logarithm b))
  | _ => none

/-- The side that a text stands for. A caret is a power. -/
def ofText? (declared : List String) (text : List Char) : Option Side := do
  let expanded := text.flatMap fun c => if c == '^' then ['*', '*'] else [c]
  ofExpr? declared (← Expr.ofText? (String.ofList expanded))

end Side

end Astrolabe.Relation
