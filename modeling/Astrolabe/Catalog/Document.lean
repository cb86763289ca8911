import Astrolabe.Catalog.Basic
import Astrolabe.Number.Numeral

/-!
Reading a catalog from a document: a map with `constants`, by key, and `categories`, by name, each
with its `formulas`. The first fault in the order of reading ends it; that two formulas share an id
is noticed last.
-/

namespace Astrolabe.Catalog

/-- Why a document is no catalog. The last three faults are those of values that do not have what is
read from them: items or fields, entries, or a double near them. -/
inductive Error where
  | invalidText
  | rootNotMap
  | missingField (place field : String)
  | constantNotNumber (key : String)
  | truthAsConstant (formula symbol : String)
  | unknownConstant (formula reference symbol : String)
  | repeatedVariable (formula symbol : String)
  | noVariables (formula : String)
  | shadowedVariables (formula : String) (symbols : List String)
  | repeatedFormula (id : String)
  | noItems
  | noEntries
  | tooLarge
deriving DecidableEq

def Error.message : Error → String
  | invalidText => "Invalid YAML"
  | rootNotMap => "Catalog root must be a mapping"
  | missingField place field => place ++ ": missing field '" ++ field ++ "'"
  | constantNotNumber key => "constant " ++ key ++ ": value is not a number"
  | truthAsConstant formula symbol =>
    formula ++ ": constant " ++ symbol ++ " must be a number or a key"
  | unknownConstant formula reference symbol =>
    formula ++ ": unknown constant key '" ++ reference ++ "' for " ++ symbol
  | repeatedVariable formula symbol => formula ++ ": duplicate variable " ++ symbol
  | noVariables formula => formula ++ ": formula has no variables"
  | shadowedVariables formula symbols =>
    formula ++ ": constants shadow variables: " ++ (Datum.list (symbols.map .text)).literal
  | repeatedFormula id => "Duplicate formula id: " ++ id
  | noItems => "a value without items or fields"
  | noEntries => "a value without entries"
  | tooLarge => "int too large to convert to float"

/-- The items of a value: those of a list, the keys of a map, the characters of a text. -/
def items : Datum → Except Error (List Datum)
  | .list items => .ok items
  | .map entries => .ok (entries.map fun entry => .text entry.1)
  | .text s => .ok (s.toList.map fun c => .text c.toString)
  | _ => .error .noItems

/-- The entries of a map; whatever is empty has none. -/
def entries : Datum → Except Error (List (String × Datum))
  | .map entries => .ok entries
  | value => if value.isEmptyLike then .ok [] else .error .noEntries

/-- Whether a word occurs in a text. -/
def occurs (word : List Char) : List Char → Bool
  | [] => word.isEmpty
  | c :: rest => word.isPrefixOf (c :: rest) || occurs word rest

theorem occurs_iff {word text : List Char} : occurs word text = true ↔ word <:+: text := by
  induction text with
  | nil => simp [occurs]
  | cons c rest ih => simp [occurs, ih, List.infix_cons_iff]

/-- A field that must be there and hold something. A list or a text has no fields, which is noticed
only if the word for the field occurs in it. -/
def require (place field : String) (value : Datum) : Except Error Datum :=
  let whenFound (found : Bool) : Except Error Datum :=
    .error (if found then .noItems else .missingField place field)
  match value with
  | .map entries =>
    match Datum.lookup? field entries with
    | some v => if v.isNull then whenFound false else .ok v
    | none => whenFound false
  | .text s => whenFound (occurs field.toList s.toList)
  | .list items => whenFound (items.any fun | .text s => s == field | _ => false)
  | _ => .error .noItems

/-- The text of an optional field. -/
def optionalText (field fallback : String) (entries : List (String × Datum)) : String :=
  ((Datum.lookup? field entries).map Datum.asText).getD fallback

/-- The number that a value stands for where one is expected. -/
def numberOf? : Datum → Except Error (Option Float)
  | .bool b => .ok (some (if b then 1 else 0))
  | .float x => .ok (some x)
  | .int n =>
    match Binary64.ofInt? n with
    | some x => .ok (some x)
    | none => .error .tooLarge
  | .text s => .ok (Number.readFloat? s)
  | _ => .ok none

/-- A constant of the document. -/
def constantOf (key : String) (value : Datum) : Except Error Constant :=
  match require ("constant " ++ key) "value" value with
  | .error .noItems => .error (.constantNotNumber key)
  | .error e => .error e
  | .ok v => do
    match ← numberOf? v with
    | none => .error (.constantNotNumber key)
    | some x =>
      let fields ← entries value
      .ok { key, value := x, unit := optionalText "unit" "" fields,
            notes := optionalText "notes" "" fields }

/-- A variable of a formula, given the ones before it. -/
def variableOf (formula : String) (before : List Variable) (value : Datum) :
    Except Error Variable := do
  let symbol := (← require formula "symbol" value).asText
  let fields ← entries value
  let key :=
    match Datum.lookup? "key" fields with
    | some k => if k.isEmptyLike then symbol else k.asText
    | none => symbol
  if before.any fun v => v.symbol == symbol || v.key == key then
    .error (.repeatedVariable formula symbol)
  else do
    let unit ← require (formula ++ "/" ++ symbol) "unit" value
    .ok { symbol, name := optionalText "name" symbol fields, unit := unit.asText,
          description := optionalText "description" "" fields, key }

/-- The variables of a formula, of which there is at least one. -/
def variablesOf (formula : String) (value : Datum) : Except Error (List Variable) := do
  let parts ← items (← require formula "variables" value)
  let found ← parts.foldlM
    (fun before part => do .ok (before ++ [← variableOf formula before part])) []
  if found.isEmpty then .error (.noVariables formula) else .ok found

/-- The value of a constant of a formula: a number, or a key of a constant of the catalog, or the
text of a number. -/
def constantValue (known : List Constant) (formula symbol : String) (value : Datum) :
    Except Error Float :=
  let byKey (whenNone : Except Error Float) : Except Error Float :=
    match known.find? (·.key == value.asText) with
    | some c => .ok c.value
    | none => whenNone
  match value with
  | .bool _ => .error (.truthAsConstant formula symbol)
  | .float x => .ok x
  | .int n =>
    match Binary64.ofInt? n with
    | some x => .ok x
    | none => .error .tooLarge
  | .text s =>
    byKey <|
      match Number.readFloat? s with
      | some x => .ok x
      | none => .error (.unknownConstant formula s symbol)
  | _ => byKey (.error .noItems)

/-- The constants of a formula by symbol. -/
def constantsOf (known : List Constant) (formula : String) (fields : List (String × Datum)) :
    Except Error (List (String × Float)) := do
  let given ← entries ((Datum.lookup? "constants" fields).getD .null)
  given.mapM fun (symbol, value) => do .ok (symbol, ← constantValue known formula symbol value)

/-- A formula of a category. -/
def formulaOf (known : List Constant) (category : String) (value : Datum) :
    Except Error Formula := do
  let id := (← require ("category " ++ category) "id" value).asText
  let vars ← variablesOf id value
  let fields ← entries value
  let constants ← constantsOf known id fields
  let shadowed := (constants.map (·.1)).filter fun symbol => vars.any (·.symbol == symbol)
  if shadowed.isEmpty then do
    let name ← require id "name" value
    let equation ← require id "equation" value
    .ok { id, name := name.asText, description := optionalText "description" "" fields,
          equation := equation.asText, vars, constants, category,
          relation := (Datum.lookup? "relation" fields).getD .null }
  else .error (.shadowedVariables id (shadowed.mergeSort (· ≤ ·)))

/-- The formulas of a category. -/
def categoryOf (known : List Constant) (name : String) (value : Datum) :
    Except Error (List Formula) := do
  match Datum.lookup? "formulas" (← entries value) with
  | none => .ok []
  | some formulas => (← items formulas).mapM (formulaOf known name)

/-- The first text that occurs before in a list. -/
def firstRepeated? (before : List String) : List String → Option String
  | [] => none
  | s :: rest => if before.contains s then some s else firstRepeated? (s :: before) rest

/-- The catalog of a document. -/
def ofDatum (document : Datum) : Except Error Catalog :=
  match document with
  | .map fields => do
    let constants ← (← entries ((Datum.lookup? "constants" fields).getD .null)).mapM
      fun (key, value) => constantOf key value
    let categories ← entries ((Datum.lookup? "categories" fields).getD .null)
    let formulas ← categories.mapM fun (name, value) => categoryOf constants name value
    match firstRepeated? [] (formulas.flatten.map Formula.id) with
    | some id => .error (.repeatedFormula id)
    | none => .ok ⟨constants, formulas.flatten⟩
  | _ => .error .rootNotMap

end Astrolabe.Catalog
