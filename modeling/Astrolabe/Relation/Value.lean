import Astrolabe.Number.Precise
import Astrolabe.Relation.Side

/-!
Values of the sides of a relation: complex numbers with exact or very precise rational parts. Two
kinds of zero are told apart. A part that is absent is truly zero; a part that is present may be
zero because a given value is. Terms that are not zero and cancel leave a trace far below their own
magnitude.
-/

namespace Astrolabe.Relation

open Number

/-- The value of a side. -/
inductive Value where
  | number (re im : Option Rat)
  | unbounded
  | undefined

/-- A given zero stands under a fraction bar. -/
inductive Fault where
  | zeroDivision

namespace Value

def zero : Value := number none none

def real (q : Rat) : Value := number (some q) none

/-- A number as it is written. -/
def ofRat (q : Rat) : Value :=
  if q = 0 then zero else real q

/-- A given double. -/
def ofFloat (x : Float) : Value :=
  match Binary64.toRat? x with
  | some q => real q
  | none => if x.isNaN then undefined else unbounded

/-! Sums -/

/-- Terms of a sum that are not zero: their total, and the exponent of a power of two above the
magnitude of each, absent if there are no terms. -/
structure Total where
  sum : Rat
  top : Option Int

namespace Total

def empty : Total := ⟨0, none⟩

def ofPart (part : Option Rat) : Total :=
  match part with
  | some q =>
    if q = 0 then empty
    else
      let lead := Precise.magnitude q
      let exponent := if Precise.twoPow lead ≤ Precise.absolute q then lead else lead - 1
      ⟨q, some (exponent + 1)⟩
  | none => empty

def join (a b : Total) : Total :=
  ⟨a.sum + b.sum,
    match a.top, b.top with
    | some x, some y => some (max x y)
    | some x, none => some x
    | none, top => top⟩

/-- The number of binary digits to which terms are known when they cancel. -/
def digits : Int := 415

/-- The total as a part of a number. -/
def part (t : Total) : Option Rat :=
  t.top.map fun top => if t.sum = 0 then Precise.twoPow (top - digits) else t.sum

end Total

/-- A value, or a sum of which terms are still to come. -/
inductive Partial where
  | value (v : Value)
  | sum (re im : Total)

def Partial.finish : Partial → Value
  | value v => v
  | sum re im => number re.part im.part

def Partial.open? : Partial → Option (Total × Total)
  | value (number re im) => some (.ofPart re, .ofPart im)
  | value _ => none
  | sum re im => some (re, im)

def add (a b : Partial) : Partial :=
  match a.open?, b.open? with
  | some (re, im), some (re', im') => .sum (re.join re') (im.join im')
  | _, _ =>
    match a.finish, b.finish with
    | undefined, _ => .value undefined
    | _, undefined => .value undefined
    | _, _ => .value unbounded

/-! Products -/

def isGivenZero : Value → Bool
  | number (some q) _ => q == 0
  | _ => false

def isZero : Value → Bool
  | number none none => true
  | v => v.isGivenZero

def mul (a b : Value) : Value :=
  match a, b with
  | undefined, _ => undefined
  | _, undefined => undefined
  | unbounded, b => if b.isZero then undefined else unbounded
  | a, unbounded => if a.isZero then undefined else unbounded
  | number re im, number re' im' =>
    if a.isZero || b.isZero then zero
    else
      match re, im, re', im' with
      | some x, none, some y, none => number (some (x * y)) none
      | some x, none, none, some y => number none (some (x * y))
      | none, some x, some y, none => number none (some (x * y))
      | none, some x, none, some y => number (some (-(x * y))) none
      | _, _, _, _ =>
        let (a, b) := (re.getD 0, im.getD 0)
        let (c, d) := (re'.getD 0, im'.getD 0)
        number (some (a * c - b * d)) (some (a * d + b * c))

/-! Powers -/

/-- The greatest exponent for which powers are taken exactly. -/
def exponentLimit : Nat := 1024

/-- An integer power of a number that is not zero. -/
def wholePower (q : Rat) (n : Int) : Rat :=
  if n.natAbs ≤ exponentLimit then q ^ n
  else
    let size := Precise.exp (n * Precise.ln (Precise.absolute q))
    if q < 0 && n % 2 != 0 then -size else size

/-- A power of the imaginary unit, times a real number. -/
def quarterTurns (n : Int) (q : Rat) : Value :=
  match n % 4 with
  | 0 => real q
  | 1 => number none (some q)
  | 2 => real (-q)
  | _ => number none (some (-q))

/-- An integer power. -/
def intPow (n : Int) : Value → Except Fault Value
  | number none none => .ok (if n < 0 then unbounded else zero)
  | number (some x) none =>
    if x = 0 then if n < 0 then .error .zeroDivision else .ok (real 0)
    else .ok (real (wholePower x n))
  | number none (some y) => .ok (quarterTurns n (wholePower y n))
  | number (some x) (some y) =>
    let size := x * x + y * y
    if size = 0 || n.natAbs > exponentLimit then .ok undefined
    else
      let base : Value :=
        if n < 0 then number (some (x / size)) (some (-y / size)) else number (some x) (some y)
      .ok ((List.range n.natAbs).foldl (fun v _ => v.mul base) (real 1))
  | unbounded => .ok (if n < 0 then zero else unbounded)
  | undefined => .ok undefined

def sqrt : Value → Value
  | number none none => zero
  | number (some x) none =>
    if x < 0 then number none (some (Precise.sqrt (-x))) else real (Precise.sqrt x)
  | unbounded => unbounded
  | _ => undefined

/-- A power of a real number with an exponent that is no literal integer. -/
def realPow (x y : Rat) : Except Fault Value :=
  if y.den = 1 then
    if y = 0 then .ok (real 1)
    else intPow y.num (real x)
  else if y.den = 2 then
    if x < 0 then .ok (quarterTurns y.num (wholePower (Precise.sqrt (-x)) y.num))
    else intPow y.num (real (Precise.sqrt x))
  else if x = 0 then .ok (if y < 0 then undefined else real 0)
  else if 0 < x then .ok (real (Precise.pow x y))
  else
    let size := Precise.pow (-x) y
    let (c, s) := Precise.halfTurns y
    .ok (number (some (size * c)) (some (size * s)))

/-- A power with an exponent that has a value of its own. -/
def pow (base exponent : Value) : Except Fault Value :=
  match exponent with
  | number none none => .ok (real 1)
  | number (some y) none =>
    match base with
    | number none none => .ok (if y < 0 then unbounded else zero)
    | number (some x) none => realPow x y
    | unbounded => .ok (if y < 0 then zero else unbounded)
    | _ => .ok undefined
  | _ => .ok undefined

/-! Functions -/

def piValue : Rat := Precise.ofFixed Precise.precision (Precise.pi Precise.precision)

def log : Value → Value
  | number (some x) none =>
    if x = 0 then undefined
    else if x < 0 then number (some (Precise.ln (-x))) (some piValue)
    else real (Precise.ln x)
  | unbounded => unbounded
  | _ => undefined

def tan : Value → Value
  | number none none => zero
  | number (some x) none => if x = 0 then zero else real (Precise.tan x)
  | _ => undefined

def atan : Value → Value
  | number none none => zero
  | number (some x) none => real (Precise.atan x)
  | _ => undefined

end Value

/-- The value of a side, as far as its terms go. -/
def Side.evaluate (values : String → Option Float) : Side → Except Fault Value.Partial
  | .number q => .ok (.value (.ofRat q))
  | .unbounded => .ok (.value .unbounded)
  | .pi => .ok (.value (.real Value.piValue))
  | .name key =>
    match values key with
    | some x => .ok (.value (.ofFloat x))
    | none => .ok (.value .undefined)
  | .add a b => do
    let x ← a.evaluate values
    let y ← b.evaluate values
    .ok (Value.add x y)
  | .mul a b => do
    let x ← a.evaluate values
    let y ← b.evaluate values
    .ok (.value (x.finish.mul y.finish))
  | .pow base (.number q) => do
    let x ← base.evaluate values
    if q.den = 1 then do .ok (.value (← x.finish.intPow q.num))
    else if q = 1 / 2 then .ok (.value x.finish.sqrt)
    else do .ok (.value (← x.finish.pow (.ofRat q)))
  | .pow base exponent => do
    let x ← base.evaluate values
    let y ← exponent.evaluate values
    .ok (.value (← x.finish.pow y.finish))
  | .log a => do .ok (.value (← a.evaluate values).finish.log)
  | .tan a => do .ok (.value (← a.evaluate values).finish.tan)
  | .atan a => do .ok (.value (← a.evaluate values).finish.atan)

/-- The value of a side. -/
def Side.value (values : String → Option Float) (side : Side) : Except Fault Value := do
  .ok (← side.evaluate values).finish

end Astrolabe.Relation
