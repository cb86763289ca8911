import Astrolabe.Datum
import Astrolabe.Number.Numeral

/-!
Plain scalars of YAML 1.1. A text without quotes is nothing, a truth value, an integer in one of
five notations, a number with a point, or else the text itself. A number with an exponent needs a
point, and the exponent a sign.
-/

namespace Astrolabe.Yaml

open Number

/-- A word in lower case, capitalised or in upper case. -/
def spellings (word : String) : List String :=
  [word, word.capitalize, word.toUpper]

def isTrue (s : String) : Bool :=
  ["yes", "true", "on"].any fun word => (spellings word).contains s

def isFalse (s : String) : Bool :=
  ["no", "false", "off"].any fun word => (spellings word).contains s

def isNull (s : String) : Bool :=
  s == "" || s == "~" || (spellings "null").contains s

/-- The number that digits of a base stand for; underscores are dropped. There is at least one digit
or underscore. -/
def digits? (base : Nat) (s : List Char) : Option Nat :=
  let value (c : Char) : Option Nat :=
    let v := if c.isDigit then c.toNat - 48 else c.toLower.toNat - 87
    if c.isAlphanum && v < base then some v else none
  let ds := s.filter (· != '_')
  if s.isEmpty then none
  else (ds.mapM value).map fun vs => vs.foldl (fun n v => base * n + v) 0

/-- The parts of a text between colons. -/
def colonParts (s : List Char) : List (List Char) :=
  ((String.ofList s).splitOn ":").map String.toList

/-- A part of a number to base 60 after the first. -/
def sixtieth? (s : List Char) : Option Nat :=
  match s with
  | [c] => if c.isDigit then some (c.toNat - 48) else none
  | [c, d] => if c.isDigit && d.isDigit && c.toNat < 54 then digits? 10 [c, d] else none
  | _ => none

/-- A number to base 60, written with colons. -/
def sexagesimal? (parts : List (List Char)) : Option Nat :=
  match parts with
  | first :: second :: rest =>
    if first.head?.any Char.isDigit && (first.head? != some '0') then do
      let lead ← digits? 10 first
      let others ← (second :: rest).mapM sixtieth?
      some (others.foldl (fun n v => 60 * n + v) lead)
    else none
  | _ => none

/-- An unsigned integer. -/
def natural? (s : List Char) : Option Nat :=
  match s with
  | ['0'] => some 0
  | '0' :: 'b' :: ds => digits? 2 ds
  | '0' :: 'x' :: ds => digits? 16 ds
  | '0' :: ds => digits? 8 ds
  | c :: _ =>
    if c.isDigit then
      match digits? 10 s with
      | some n => some n
      | none => sexagesimal? (colonParts s)
    else none
  | [] => none

/-- An exponent, which has a sign. -/
def signedExponent? (s : List Char) : Option (List Char) :=
  match s with
  | [] => some []
  | mark :: sign :: ds =>
    if (mark == 'e' || mark == 'E') && (sign == '+' || sign == '-') && !ds.isEmpty &&
        ds.all Char.isDigit
    then some (mark :: sign :: ds)
    else none
  | _ => none

/-- An unsigned number with a point. -/
def pointed? (s : List Char) : Option Decimal :=
  let inNumber (c : Char) : Bool := c.isDigit || c == '_'
  let whole := s.takeWhile inNumber
  match s.dropWhile inNumber with
  | '.' :: more =>
    let fraction := more.takeWhile inNumber
    if whole.head? == some '_' || (whole.isEmpty && !fraction.head?.any Char.isDigit) then none
    else do
      let exponent ← signedExponent? (more.dropWhile inNumber)
      decimal? ((whole ++ '.' :: fraction).filter (· != '_') ++ exponent)
  | _ => none

/-- A number with a point, infinity or NaN. -/
def float? (s : List Char) : Option Float :=
  let (negative, body) := splitSign s
  let word := String.ofList body
  let signed := body.length != s.length
  if [".inf", ".Inf", ".INF"].contains word then some (applySign negative infinity)
  else if [".nan", ".NaN", ".NAN"].contains word && !signed then some nan
  else if signed && body.head? == some '.' then none
  else (pointed? body).map fun d => applySign negative d.toFloat

def integer? (s : List Char) : Option Int :=
  let (negative, body) := splitSign s
  (natural? body).map fun n => if negative then -(n : Int) else n

/-- What a plain scalar stands for. -/
def scalar (s : String) : Datum :=
  if isNull s then .null
  else if isTrue s then .bool true
  else if isFalse s then .bool false
  else
    match integer? s.toList, float? s.toList with
    | some n, _ => .int n
    | none, some x => .float x
    | none, none => .text s

end Astrolabe.Yaml
