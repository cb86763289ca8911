import Astrolabe.Number.Shortest
import Astrolabe.Text.Quoted

/-!
Data as it is typed in, read from a document or sent: nothing, a truth value, a number, a text, a
list, or a map with text keys. A map keeps the order of its entries.
-/

namespace Astrolabe

/-- A value of the data format. -/
inductive Datum where
  | null
  | bool (b : Bool)
  | int (n : Int)
  | float (x : Float)
  | text (s : String)
  | list (items : List Datum)
  | map (entries : List (String × Datum))
deriving Inhabited

namespace Datum

/-- Nothing, false, zero and whatever is empty. -/
def isEmptyLike : Datum → Bool
  | null => true
  | bool b => !b
  | int n => n == 0
  | float x => x == 0
  | text s => s.isEmpty
  | list items => items.isEmpty
  | map entries => entries.isEmpty

def isNull : Datum → Bool
  | null => true
  | _ => false

mutual

/-- A value as written inside a list or a map: texts stand between quotes. -/
def literal : Datum → String
  | null => "None"
  | bool true => "True"
  | bool false => "False"
  | int n => toString n
  | float x => Number.shortest x
  | text s => Text.quoted s
  | list items => "[" ++ literals items ++ "]"
  | map entries => "\x7b" ++ literalEntries entries ++ "\x7d"

/-- Values separated by commas. -/
def literals : List Datum → String
  | [] => ""
  | [item] => literal item
  | item :: rest => literal item ++ ", " ++ literals rest

/-- Entries of a map separated by commas. -/
def literalEntries : List (String × Datum) → String
  | [] => ""
  | [(key, value)] => Text.quoted key ++ ": " ++ literal value
  | (key, value) :: rest => Text.quoted key ++ ": " ++ literal value ++ ", " ++ literalEntries rest

end

/-- A value as text. A text stands for itself. -/
def asText : Datum → String
  | text s => s
  | value => literal value

/-- The value of a key, the last one where the key is repeated. -/
def lookup? (key : String) (entries : List (String × Datum)) : Option Datum :=
  (entries.reverse.find? fun entry => entry.1 == key).map (·.2)

/-- Puts an entry in: a new key goes to the end, a known one keeps its place and takes the new
value. -/
def insertEntry {α : Type} (key : String) (value : α) :
    List (String × α) → List (String × α)
  | [] => [(key, value)]
  | (k, v) :: rest => if k == key then (k, value) :: rest else (k, v) :: insertEntry key value rest

/-- Entries with each key once, at its first place and with its last value. -/
def distinctEntries {α : Type} (entries : List (String × α)) : List (String × α) :=
  entries.foldl (fun done (key, value) => insertEntry key value done) []

mutual

/-- The value without infinities and NaNs, which become nothing. -/
def finite : Datum → Datum
  | float x => if x.isFinite then float x else null
  | list items => list (finiteItems items)
  | map entries => map (finiteEntries entries)
  | value => value

def finiteItems : List Datum → List Datum
  | [] => []
  | item :: rest => finite item :: finiteItems rest

def finiteEntries : List (String × Datum) → List (String × Datum)
  | [] => []
  | (key, value) :: rest => (key, finite value) :: finiteEntries rest

end

end Datum

end Astrolabe
