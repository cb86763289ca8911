import Astrolabe.Selection
import Astrolabe.Solver
import Astrolabe.Unit.Canonical
import Astrolabe.Unit.Display

/-!
Resolving a request: of each variable the filled field is selected, exactly one variable has none,
the entries are parsed and taken to canonical units, the formula is solved, and the solution is
checked against the relation and prepared for display. Every step is on record.
-/

namespace Astrolabe

/-- The answer to a request. -/
structure Answer where
  symbol : String
  value : Float
  unit : String
  display : Option (Unit.Shown Float)
  residual : Option Float
  warnings : List String

namespace Answer

/-- The value with the long name of its unit. -/
def text (a : Answer) : String :=
  Unit.shown a.value ++ " " ++ Unit.describe a.unit

def displayDatum : Option (Unit.Shown Float) → Datum
  | some s => .map [("value", .float s.value), ("unit", .text s.unit), ("text", .text s.text)]
  | none => .null

def toDatum (a : Answer) : Datum :=
  .map [("symbol", .text a.symbol), ("value", .float a.value), ("unit", .text a.unit),
    ("text", .text a.text), ("display", displayDatum a.display),
    ("residual", (a.residual.map Datum.float).getD .null),
    ("warnings", .list (a.warnings.map .text))]

end Answer

/-- A computation that is on record, whether it succeeds or fails. -/
abbrev Recorded := ExceptT Failure (StateM Trace)

namespace Recorded

def step (s : Trace.Step) : Recorded Unit :=
  modify (· ++ [s])

def steps (more : Trace) : Recorded Unit :=
  modify (· ++ more)

def ofExcept {ε α : Type} (onError : ε → Failure) : Except ε α → Recorded α
  | .ok x => pure x
  | .error e => throw (onError e)

def lift {α : Type} : Except Failure α → Recorded α :=
  ofExcept fun e => e

end Recorded

namespace Solver

open Recorded

/-- Symbols of inputs that are neither variables nor constants of a formula, sorted. -/
def ignoredSymbols (f : Formula) (inputs : List (String × Datum)) : List String :=
  let others := (inputs.map (·.1)).filter fun symbol =>
    !(f.symbols.contains symbol || f.hasConstant symbol)
  others.mergeSort (· ≤ ·)

/-- The filled field of a variable. -/
def selectionFor (inputs : List (String × Datum)) (v : Variable) : Option Selection :=
  Selection.ofInput v.unit ((Datum.lookup? v.symbol inputs).getD .null)

/-- The fields selected for the variables of a formula, in their order. -/
def selections (f : Formula) (inputs : List (String × Datum)) : List (Variable × Selection) :=
  f.vars.filterMap fun v => (selectionFor inputs v).map (v, ·)

/-- The unit in which an entry was typed; a degree mark has already made radians of it. -/
def sourceUnit (selection : Selection) : String :=
  if Entry.hasDegreeMark selection.entry then "radians" else selection.unit

/-- The value of a selected field in the canonical unit of its variable. -/
def canonicalValue (f : Formula) (v : Variable) (selection : Selection) : Recorded Float := do
  let value ← ofExcept .ofEntry (Entry.value selection.entry)
  step (.parsed v.symbol selection.entry value)
  let source := sourceUnit selection
  let (converted, fallbacks) := Unit.toCanonical value source v.unit
  steps fallbacks
  if converted.isFinite then do
    step (.converted v.symbol source v.unit converted)
    pure converted
  else throw (.refused (.outOfRange f.id v.symbol v.unit))

/-- Solves a formula on record. -/
def solveRecorded (s : Solver) (id unknown : String) (known : List (String × Float)) :
    Recorded Float := do
  let value ← lift (s.solve id unknown known)
  step (.solved id unknown value)
  pure value

/-- The text of a field of a note. -/
def noteText (key : String) (detail : List (String × Datum)) : Except Failure String :=
  match Datum.lookup? key detail with
  | some value => .ok value.asText
  | none => .error (.missing key)

/-- The warning for a value that was not converted. -/
def fallbackWarning (detail : List (String × Datum)) : Except Failure String := do
  let source ← noteText "from" detail
  let target ← noteText "to" detail
  .ok ("No conversion from " ++ source ++ " to " ++ target ++ "; value used as entered")

/-- The greatest residual of a solution that is not worth a warning. -/
def tolerance : Float := 1e-6

/-- The warning for a solution that misses the relation. -/
def mismatchWarning (f : Formula) (residual : Float) : String :=
  "Result does not satisfy " ++ f.equation ++ " (relative residual " ++
    Number.general 3 residual ++ ")"

/-- Checks the relation; a residual that is no finite number is not told. -/
def check (f : Formula) (values : String → Option Float) : Recorded (Option Float) := do
  match ← ofExcept .ofRelation (f.residual values) with
  | none => pure none
  | some residual =>
    if residual.isFinite then do
      step (.checked residual)
      pure (some residual)
    else do
      step .unchecked
      pure none

/-- Prepares a value for display. -/
def prepare (value : Float) (unit : String) : Recorded (Option (Unit.Shown Float)) := do
  let display := Unit.display? value unit
  if let some shown := display then step (.displayed shown.value shown.unit)
  pure display

/-- The answer to a request. Values that were not converted are warned of for the whole record,
which may have begun before the request. -/
def resolve (s : Solver) (id : String) (inputs : List (String × Datum)) : Recorded Answer := do
  step (.inputs id inputs)
  let (f, _) ← ofExcept .refused (s.formula id)
  let ignored := ignoredSymbols f inputs
  if !ignored.isEmpty then step (.ignored ignored)
  let selected := selections f inputs
  steps (selected.map fun (v, selection) => .selected v.symbol selection.unit selection.entry)
  let unknown ← ofExcept .refused
    (f.unknown fun symbol => selected.any fun (v, _) => v.symbol == symbol)
  let known ← selected.mapM fun (v, selection) => do
    pure (v.symbol, ← canonicalValue f v selection)
  let value ← s.solveRecorded id unknown known
  let unit := ((f.lookup? unknown).map Variable.unit).getD ""
  let fallbacks ← lift ((Trace.ofKind (← get) "unit_fallback").mapM fallbackWarning)
  let residual ← check f fun symbol => ((unknown, value) :: known).lookup symbol
  let mismatches :=
    match residual with
    | some r => if r > tolerance then [mismatchWarning f r] else []
    | none => []
  let display ← prepare value unit
  pure { symbol := unknown, value, unit, display, residual, warnings := fallbacks ++ mismatches }

end Solver

/-- An answer or a refusal, with the record of the request. -/
structure Resolution where
  outcome : Except Refusal Answer
  trace : Trace

namespace Resolution

def toDatum (r : Resolution) : Datum :=
  let told :=
    match r.outcome with
    | .ok a => [("ok", .bool true), ("result", a.toDatum), ("error", .null), ("error_kind", .null)]
    | .error e =>
      [("ok", .bool false), ("result", .null), ("error", .text e.message),
        ("error_kind", .text e.kind)]
  (Datum.map (told ++ [("trace", .list (r.trace.map Trace.Step.toDatum))])).finite

end Resolution

/-- The answer to a request or its refusal. A refusal is the last step on record. -/
def Solver.tryResolve (s : Solver) (id : String) (inputs : List (String × Datum)) :
    Except Failure Resolution :=
  match (s.resolve id inputs).run.run [] with
  | (.ok a, trace) => .ok ⟨.ok a, trace⟩
  | (.error (.refused r), trace) => .ok ⟨.error r, trace ++ [.failed r.kind r.message]⟩
  | (.error e, _) => .error e

end Astrolabe
