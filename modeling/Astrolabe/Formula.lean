import Astrolabe.Datum

/-!
Formulas. A formula is a relation between variables, each with a canonical unit, and named
constants. The relation itself is kept as it was given; it is written over the keys of the variables
and the symbols of the constants.
-/

namespace Astrolabe

/-- A variable of a formula. The symbol is shown; the key stands for the variable in the
relation. -/
structure Variable where
  symbol : String
  name : String
  unit : String
  description : String
  key : String
deriving DecidableEq

/-- A constant that formulas refer to by its key. -/
structure Constant where
  key : String
  value : Float
  unit : String
  notes : String

/-- A formula of a catalog. -/
structure Formula where
  id : String
  name : String
  description : String
  equation : String
  vars : List Variable
  constants : List (String × Float)
  category : String
  relation : Datum

namespace Variable

/-- A variable whose symbol is also its key. -/
def plain (symbol name unit description : String) : Variable :=
  { symbol, name, unit, description, key := symbol }

/-- A variable with a key of its own. -/
def keyed (key symbol name unit description : String) : Variable :=
  { symbol, name, unit, description, key }

/-- What is told about a variable. -/
def toDatum (v : Variable) : Datum :=
  .map [("symbol", .text v.symbol), ("name", .text v.name), ("unit", .text v.unit),
    ("description", .text v.description)]

end Variable

namespace Formula

def symbols (f : Formula) : List String :=
  f.vars.map Variable.symbol

/-- The variable with a symbol. -/
def lookup? (f : Formula) (symbol : String) : Option Variable :=
  f.vars.find? (·.symbol == symbol)

/-- Whether a symbol is that of a constant of the formula. -/
def hasConstant (f : Formula) (symbol : String) : Bool :=
  f.constants.any (·.1 == symbol)

/-- What is told about a formula. -/
def toDatum (f : Formula) : Datum :=
  .map [("id", .text f.id), ("name", .text f.name), ("description", .text f.description),
    ("equation", .text f.equation), ("category", .text f.category),
    ("variables", .list (f.vars.map Variable.toDatum)),
    ("constants", .map (f.constants.map fun (symbol, value) => (symbol, .float value)))]

end Formula

end Astrolabe
