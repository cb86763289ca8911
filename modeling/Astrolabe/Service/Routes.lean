import Astrolabe.Resolution
import Astrolabe.Service.Path
import Astrolabe.Unit.Alternatives

/-!
The service over HTTP: listing the catalog, telling about a formula or a unit, parsing one entry and
resolving a request. A refusal of a request to resolve is an answer like any other; the body of a
request that is not of the expected form is refused before.
-/

namespace Astrolabe.Service

/-- The places that requests go to. -/
inductive Place where
  | health
  | catalog
  | formula (id : String)
  | unit (name : String)
  | parse
  | resolve

/-- The method by which a place is used. -/
def Place.method : Place → String
  | parse | resolve => "POST"
  | _ => "GET"

/-- The place of a path. -/
def place? (path : String) : Option Place :=
  match segments path with
  | ["", "health"] => some .health
  | ["", "catalog"] => some .catalog
  | ["", "formulas", id] => if id.isEmpty then none else some (.formula id)
  | ["", "units", name, "alternatives"] => if name.isEmpty then none else some (.unit name)
  | ["", "parse"] => some .parse
  | ["", "resolve"] => some .resolve
  | _ => none

/-- The place of a path, or else of the path without slashes at its end. -/
def findPlace? (path : String) : Option Place :=
  match place? path with
  | some place => some place
  | none => place? (dropEndSlashes path)

/-- What is sent back. -/
structure Response where
  status : Nat
  body : Datum

namespace Response

def ok (body : Datum) : Response := ⟨200, body⟩

/-- A response that only tells what is wrong. -/
def detail (status : Nat) (message : String) : Response :=
  ⟨status, .map [("detail", .text message)]⟩

/-- The response to a body that is not of the expected form. -/
def malformed : Response := ⟨422, .text "validation"⟩

end Response

/-- What is told about a formula: with each variable the units of its fields. -/
def describeFormula (f : Formula) : Datum :=
  let withUnits (v : Variable) : Datum :=
    match v.toDatum with
    | .map told =>
      .map (told ++ [("alternative_units", .list ((Unit.alternatives v.unit).map .text))])
    | other => other
  match f.toDatum with
  | .map told =>
    .map (Datum.insertEntry "variables" (Datum.list (f.vars.map withUnits)) told)
  | other => other

/-- The text and the unit of a request to parse. -/
def parseRequest? (body : Option Datum) : Option String :=
  match body with
  | some (.map fields) =>
    match Datum.lookup? "text" fields, (Datum.lookup? "unit" fields).getD .null with
    | some (.text text), .null => some text
    | some (.text text), .text _ => some text
    | _, _ => none
  | _ => none

/-- Whether a value is a text or nothing. -/
def isOptionalText : Datum → Bool
  | .text _ | .null => true
  | _ => false

/-- An input of a request to resolve. -/
def input? : Datum → Option Datum
  | .text s => some (.text s)
  | .float x => some (.float x)
  | .bool b => some (.float (if b then 1 else 0))
  | .null => some .null
  | .map fields =>
    if fields.all fun field => isOptionalText field.2 then some (.map fields) else none
  | _ => none

/-- The formula and the inputs of a request to resolve. -/
def resolveRequest? (body : Option Datum) : Option (String × List (String × Datum)) :=
  match body with
  | some (.map fields) =>
    match Datum.lookup? "formula_id" fields, Datum.lookup? "inputs" fields with
    | some (.text id), some (.map inputs) => do
      let inputs ← inputs.mapM fun (symbol, value) => do some (symbol, ← input? value)
      some (id, inputs)
    | _, _ => none
  | _ => none

/-- The response for a place, by the method of that place. -/
def answer (s : Solver) (body : Option Datum) : Place → Except Failure Response
  | .health => .ok (.ok (.map [("ok", .bool true)]))
  | .catalog =>
    .ok (.ok (.map [("count", .int s.catalog.formulas.length), ("items", .list s.catalog.list)]))
  | .formula id =>
    match s.catalog.get? id with
    | some f => .ok (.ok (describeFormula f))
    | none => .ok (.detail 404 ("Unknown formula: " ++ id))
  | .unit name =>
    .ok (.ok (.map
      [("unit", .text name), ("alternatives", .list ((Unit.alternatives name).map .text))]))
  | .parse =>
    match parseRequest? body with
    | none => .ok .malformed
    | some text =>
      match Entry.read (.text text) with
      | .ok value => .ok (.ok (.map [("value", (value.map Datum.float).getD .null)]))
      | .error (.refused r) => .ok (.detail 422 r.message)
      | .error e => .error (.ofEntry e)
  | .resolve =>
    match resolveRequest? body with
    | none => .ok .malformed
    | some (id, inputs) => do .ok (.ok (← s.tryResolve id inputs).toDatum)

/-- The response to a request. -/
def respond (s : Solver) (method path : String) (body : Option Datum) : Except Failure Response :=
  match findPlace? (decodedPath path) with
  | none => .ok (.detail 404 "Not Found")
  | some place =>
    if method == place.method then answer s body place else .ok (.detail 405 "Method Not Allowed")

end Astrolabe.Service
