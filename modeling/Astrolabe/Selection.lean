import Astrolabe.Entry
import Astrolabe.Formula
import Astrolabe.Refusal
import Astrolabe.Unit.Alternatives

/-!
Which field of a variable is used. A variable has one field in its canonical unit, or several in
units of the caller's choice. The alternatives of the canonical unit come first, in their order,
then the other units in the caller's. Of several fields with one unit the first stands for all.
-/

namespace Astrolabe

/-- A filled field: its unit and what was typed into it. -/
structure Selection where
  unit : String
  entry : Datum

namespace Selection

/-- The number that a field stands for, nothing if it is blank. The unit is a hint for whoever reads
the entry, and nothing depends on it: a degree mark makes radians in a field for any unit. -/
def read (field : Selection) : Except Entry.Failure (Option Float) :=
  Entry.read field.entry

/-- Fields by unit. -/
abbrev Fields := List (String × Datum)

/-- The fields without those whose unit came before. -/
def distinctUnits (fields : Fields) : Fields :=
  fields.foldl
    (fun done field =>
      if done.any fun other => Unit.normalize other.1 == Unit.normalize field.1 then done
      else done ++ [field]) []

/-- The first field in a unit. -/
def inUnit? (fields : Fields) (unit : String) : Option (String × Datum) :=
  fields.find? fun field => Unit.normalize field.1 == Unit.normalize unit

/-- The fields of a variable in order of preference. -/
def byPreference (canonical : String) (fields : Fields) : Fields :=
  distinctUnits ((Unit.alternatives canonical).filterMap (inUnit? fields) ++ fields)

/-- The first filled field of several. -/
def ofFields (canonical : String) (fields : Fields) : Option Selection :=
  ((byPreference canonical fields).find? fun field => !Entry.isBlank field.2).map
    fun (unit, entry) => { unit, entry }

/-- The filled field of a variable, if it has one. -/
def ofInput (canonical : String) : Datum → Option Selection
  | .map fields => ofFields canonical fields
  | entry => if Entry.isBlank entry then none else some { unit := canonical, entry }

end Selection

/-- The one variable of a formula that has no value. -/
def Formula.unknown (f : Formula) (hasValue : String → Bool) : Except Refusal String :=
  match f.symbols.filter fun symbol => !hasValue symbol with
  | [symbol] => .ok symbol
  | symbols => .error (.unknowns symbols)

end Astrolabe
