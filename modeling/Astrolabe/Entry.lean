import Astrolabe.Datum
import Astrolabe.Expression.Value
import Astrolabe.Number.Numeral
import Astrolabe.Text.Blank

/-!
Entries: what is typed into a field for a value. An entry is blank, a number, or a text that stands
for a number: a numeral, a quotient at the last slash, or an expression, tried in this order. A text
may end with a degree mark, which turns degrees into radians.
-/

namespace Astrolabe.Entry

open Number

/-- Why an entry stands for no number. -/
inductive Reason where
  | truthValue
  | infiniteNumber
  | noNumber (kind : String)
  | loneDegreeMark
  | noQuotient
  | zeroDivisor
  | infiniteQuotient
  | infiniteResult (x : Float)
  | expression (e : Expression.Error)

def Reason.message : Reason → String
  | truthValue => "Booleans are not numbers"
  | infiniteNumber => "Value is not finite"
  | noNumber kind => "Unsupported input type " ++ kind
  | loneDegreeMark => "Degree marker without a number"
  | noQuotient => "Not a fraction"
  | zeroDivisor => "Division by zero"
  | infiniteQuotient => "Result is not finite"
  | infiniteResult x => "Result is not finite: " ++ shortest x
  | expression e => e.message

/-- An entry that stands for no number, with the text that the refusal is about. -/
structure Refusal where
  text : String
  reason : Reason

def Refusal.message (r : Refusal) : String :=
  "Cannot parse expression: " ++ r.text ++ ". " ++ r.reason.message

/-- A refusal, or a whole number beyond the range of doubles. -/
inductive Failure where
  | refused (r : Refusal)
  | tooLarge

/-- Whether a text is empty but for blanks, or the word null. -/
def isBlankText (s : String) : Bool :=
  let t := Text.strip s
  t == "" || Text.lower t == "null"

/-- Whether an entry holds no value. -/
def isBlank : Datum → Bool
  | .null => true
  | .text s => isBlankText s
  | _ => false

/-- A letter for comparison with the words for degrees. The long s counts as an s. -/
def foldLetter (c : Char) : Char :=
  if c == 'ſ' then 's' else c.toLower

/-- The words for degrees, in reverse, longer ones first. -/
def degreeMarks : List (List Char) :=
  ["degrees".toList.reverse, "deg".toList.reverse, ['°']]

/-- A text without the degree mark at its end and the blanks around it, if it has a mark. -/
def dropDegreeMark? (s : List Char) : Option (List Char) :=
  let reversed := s.reverse.dropWhile Text.isBlank
  (degreeMarks.find? fun mark => mark.isPrefixOf (reversed.map foldLetter)).map fun mark =>
    ((reversed.drop mark.length).dropWhile Text.isBlank).reverse

/-- Whether an entry is a text with a degree mark. -/
def hasDegreeMark : Datum → Bool
  | .text s => (dropDegreeMark? s.toList).isSome
  | _ => false

/-- The factor from degrees to radians. -/
def radiansPerDegree : Float := Elementary.pi / 180

/-- A finite numeral. -/
def numeral? (s : String) : Option Float :=
  (signedNumeral? s.toList).filter Float.isFinite

/-- The finite value of an expression. -/
def finiteValue (s : String) : Except Reason Float :=
  match Expression.evaluate s with
  | .ok x => if x.isFinite then .ok x else .error (.infiniteResult x)
  | .error e => .error (.expression e)

/-- One side of a quotient: a constant, a numeral or an expression. -/
def operand (s : String) : Except Refusal Float :=
  let t := Text.strip s
  match Expression.constantNamed? (Text.lower t) with
  | some x => .ok x
  | none =>
    match numeral? t with
    | some x => .ok x
    | none => (finiteValue t).mapError fun reason => ⟨t, reason⟩

/-- The parts before and after the last slash. -/
def splitAtLastSlash? (s : List Char) : Option (List Char × List Char) :=
  match s.reverse.span (· != '/') with
  | (after, _ :: before) => some (before.reverse, after.reverse)
  | (_, []) => none

/-- The quotient of the parts before and after the last slash. -/
def quotient (s : String) : Except Refusal Float :=
  match splitAtLastSlash? s.toList with
  | none => .error ⟨s, .noQuotient⟩
  | some (before, after) =>
    if before.all Text.isBlank || after.all Text.isBlank then .error ⟨s, .noQuotient⟩
    else do
      let numerator ← operand (String.ofList before)
      let denominator ← operand (String.ofList after)
      if denominator == 0 then .error ⟨s, .zeroDivisor⟩
      else if (numerator / denominator).isFinite then .ok (numerator / denominator)
      else .error ⟨s, .infiniteQuotient⟩

/-- Whether a quotient is tried before the general notation: there is a slash and no parenthesis. -/
def isPlainQuotient (s : String) : Bool :=
  s.contains '/' && !s.contains '(' && !s.contains ')'

/-- The number that a text without a degree mark stands for. The last try is a quotient again; if it
fails too, the refusal is that of the general notation, about the whole entry. -/
def number (body whole : String) : Except Refusal Float :=
  match numeral? body with
  | some x => .ok x
  | none =>
    match if isPlainQuotient body then (quotient body).toOption else none with
    | some x => .ok x
    | none =>
      match finiteValue body with
      | .ok x => .ok x
      | .error reason => (quotient body).mapError fun _ => ⟨whole, reason⟩

/-- The number that a text which is not blank stands for. -/
def textValue (s : String) : Except Refusal Float :=
  let whole := Text.strip s
  match dropDegreeMark? whole.toList with
  | none => number whole whole
  | some marked =>
    let body := Text.strip (String.ofList marked)
    if body.isEmpty then .error ⟨whole, .loneDegreeMark⟩
    else (number body whole).map (· * radiansPerDegree)

/-- The number that an entry which is not blank stands for. -/
def value (entry : Datum) : Except Failure Float :=
  let refuse (reason : Reason) : Except Failure Float :=
    .error (.refused ⟨entry.asText, reason⟩)
  match entry with
  | .null => refuse (.noNumber "null")
  | .text s => (textValue s).mapError .refused
  | .bool _ => refuse .truthValue
  | .int n =>
    match Binary64.ofInt? n with
    | some x => .ok x
    | none => .error .tooLarge
  | .float x => if x.isFinite then .ok x else refuse .infiniteNumber
  | .list _ => refuse (.noNumber "list")
  | .map _ => refuse (.noNumber "dict")

/-- The number that an entry stands for, nothing if it is blank. -/
def read (entry : Datum) : Except Failure (Option Float) :=
  if isBlank entry then .ok none else (value entry).map some

end Astrolabe.Entry
