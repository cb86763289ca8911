import Astrolabe.Formula
import Astrolabe.Relation.Value

/-!
How far values are from satisfying the relation of a formula: the difference of the two sides,
relative to the greater of them.
-/

namespace Astrolabe.Relation

open Number

/-- Why a relation cannot be checked. The last two faults are those of relations that are no
texts. -/
inductive Error where
  | equalsSigns (text : String)
  | unreadable
  | missing (symbol : String)
  | zeroDivision
  | notText
  | collection

def Error.message : Error → String
  | equalsSigns text => "Relation must have exactly one '=': " ++ text
  | unreadable => "Cannot parse relation"
  | missing symbol => Text.quoted symbol
  | zeroDivision => ""
  | notText => "a relation that is no text"
  | collection => "a relation that is a collection"

/-- The two sides of a relation that is written over declared names. -/
def sides (declared : List String) (text : String) : Except Error (Side × Side) :=
  match text.toList.span (· != '=') with
  | (left, _ :: right) =>
    if right.contains '=' then .error (.equalsSigns text)
    else
      match Side.ofText? declared left, Side.ofText? declared right with
      | some a, some b => .ok (a, b)
      | _, _ => .error .unreadable
  | (_, []) => .error (.equalsSigns text)

/-- The part of the imaginary unit that passes for a rounding error. -/
def imaginaryTolerance : Float := 1e-12

/-- A value as a double; NaN if it is not real. -/
def Value.toFloat : Value → Float
  | number re im =>
    let x := Binary64.ofRat (re.getD 0)
    let y := Binary64.ofRat (im.getD 0)
    if y.abs > imaginaryTolerance * (if x.abs > 1 then x.abs else 1) then nan else x
  | _ => nan

/-- The difference of two numbers relative to the greater magnitude. -/
def mismatch (x y : Float) : Float :=
  let scale := if y.abs > x.abs then y.abs else x.abs
  if scale == 0 then (x - y).abs else (x - y).abs / scale

/-- The double that a side has as its value. -/
def side (values : String → Option Float) (a : Side) : Except Error Float :=
  match a.value values with
  | .ok v => .ok v.toFloat
  | .error .zeroDivision => .error .zeroDivision

end Astrolabe.Relation

namespace Astrolabe

/-- The values of a formula by the names of its relation; a constant takes precedence over a
variable. -/
def Formula.relationValues (f : Formula) (values : String → Option Float) :
    Except Relation.Error (List (String × Float)) := do
  let given ← f.vars.mapM fun v =>
    match values v.symbol with
    | some x => .ok (v.key, x)
    | none => .error (.missing v.symbol)
  .ok (f.constants ++ given)

/-- How far values are from satisfying the relation of a formula; nothing if it has none. The
residual is NaN where a side is not a real number. -/
def Formula.residual (f : Formula) (values : String → Option Float) :
    Except Relation.Error (Option Float) :=
  if f.relation.isEmptyLike then .ok none
  else
    match f.relation with
    | .text text => do
      let declared := f.vars.map Variable.key ++ f.constants.map (·.1)
      let (left, right) ← Relation.sides declared text
      let named ← f.relationValues values
      let value (key : String) : Option Float := List.lookup key named
      let x ← Relation.side value left
      let y ← Relation.side value right
      .ok (some (Relation.mismatch x y))
    | .list _ | .map _ => .error .collection
    | _ => .error .notText

end Astrolabe
