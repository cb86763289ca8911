import Astrolabe.Unit.Table

/-!
Conversion between units of one dimension, through its reference unit. A unit converts to another
spelling of its own name without change, whether or not it has a rule. What is said of rules holds
for any kind of numbers; the table has doubles.
-/

namespace Astrolabe.Unit

variable {α : Type}

/-- Whether two rules measure the same thing. -/
def Rule.compatible (source target : Rule α) : Bool :=
  source.dimension == target.dimension

variable [Add α] [Sub α] [Mul α] [Div α]

/-- A value taken from one unit to another. -/
def Rule.convert (source target : Rule α) (value : α) : α :=
  (value * source.factor + source.offset - target.offset) / target.factor

/-- A value in another unit by given rules; nothing where a unit has none or the two measure
different things. -/
def convertBy (rules : String → Option (Rule α)) (value : α) (source target : String) :
    Option α :=
  if sameName source target then some value
  else
    match rules source, rules target with
    | some a, some b => if a.compatible b then some (a.convert b value) else none
    | _, _ => none

/-- A value in another unit by the table. -/
def convert (value : Float) (source target : String) : Option Float :=
  convertBy rule? value source target

end Astrolabe.Unit
