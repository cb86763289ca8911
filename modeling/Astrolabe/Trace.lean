import Astrolabe.Datum

/-!
Traces: the ordered record of what was done for a request. Each step has a kind and a detail, which
is a map. Steps are only ever added at the end.
-/

namespace Astrolabe

namespace Trace

/-- One step. A note is a step of any kind that somebody else wrote. -/
inductive Step where
  | inputs (formula : String) (given : List (String × Datum))
  | ignored (symbols : List String)
  | selected (symbol unit : String) (entry : Datum)
  | parsed (symbol : String) (entry : Datum) (value : Float)
  | fallback (source target : String) (value : Float)
  | converted (symbol source target : String) (value : Float)
  | solved (formula symbol : String) (value : Float)
  | checked (residual : Float)
  | unchecked
  | displayed (value : Float) (unit : String)
  | failed (kind message : String)
  | note (kind : String) (detail : List (String × Datum))

namespace Step

/-- The label of a step. -/
def kind : Step → String
  | inputs _ _ => "inputs_raw"
  | ignored _ => "inputs_ignored"
  | selected _ _ _ => "input_selected"
  | parsed _ _ _ => "value_parsed"
  | fallback _ _ _ => "unit_fallback"
  | converted _ _ _ _ => "unit_converted"
  | solved _ _ _ => "solved"
  | checked _ => "relation_check"
  | unchecked => "relation_unchecked"
  | displayed _ _ => "display_conversion"
  | failed _ _ => "error"
  | note kind _ => kind

/-- What a step tells, by key. -/
def detail : Step → List (String × Datum)
  | .inputs formula given => [("formula", .text formula), ("inputs", .map given)]
  | ignored symbols => [("symbols", .list (symbols.map .text))]
  | selected symbol unit entry => [("symbol", .text symbol), ("unit", .text unit), ("text", entry)]
  | parsed symbol entry value =>
    [("symbol", .text symbol), ("text", entry), ("value", .float value)]
  | fallback source target value =>
    [("from", .text source), ("to", .text target), ("value", .float value)]
  | converted symbol source target value =>
    [("symbol", .text symbol), ("from", .text source), ("to", .text target),
      ("value", .float value)]
  | solved formula symbol value =>
    [("formula", .text formula), ("symbol", .text symbol), ("value", .float value)]
  | checked residual => [("residual", .float residual)]
  | unchecked => [("reason", .text "relation is not real at these values")]
  | displayed value unit => [("value", .float value), ("unit", .text unit)]
  | failed kind message => [("kind", .text kind), ("message", .text message)]
  | note _ detail => detail

/-- A step as a map of its kind and detail. -/
def toDatum (s : Step) : Datum :=
  .map [("kind", .text s.kind), ("detail", .map s.detail)]

end Step

end Trace

/-- The steps taken so far, in order. -/
abbrev Trace := List Trace.Step

namespace Trace

/-- The labels of the steps. -/
def kinds (t : Trace) : List String :=
  t.map Step.kind

/-- The details of the steps of one kind. -/
def ofKind (t : Trace) (kind : String) : List (List (String × Datum)) :=
  (t.filter (·.kind == kind)).map Step.detail

end Trace

end Astrolabe
