import Astrolabe.Number.Binary64
import Astrolabe.Text.Blank
import Astrolabe.Text.Digit

/-!
Decimal numerals: digits, a point, an exponent. `decimal?` reads an unsigned numeral as an exact
decimal number, and `Decimal.toFloat` rounds it to the nearest double. `readFloat?` also takes
blanks around the numeral, underscores between digits, digits of any script, and the names of
infinity and NaN.
-/

namespace Astrolabe.Number

/-- The number `digits · 10 ^ exponent`. -/
structure Decimal where
  digits : Nat
  exponent : Int
deriving DecidableEq, Repr

/-- The nearest double; beyond the range it is infinite. -/
def Decimal.toFloat (d : Decimal) : Float :=
  .ofModel (.ofScientific d.digits d.exponent)

/-- The number written by decimal digits. -/
def digitsValue (s : List Char) : Nat :=
  s.foldl (fun n c => 10 * n + (c.toNat - 48)) 0

/-- The exponent part of a numeral, which is absent in most. -/
def exponent? : List Char → Option Int
  | [] => some 0
  | mark :: rest =>
    if mark == 'e' || mark == 'E' then
      let (negative, ds) :=
        match rest with
        | '-' :: ds => (true, ds)
        | '+' :: ds => (false, ds)
        | ds => (false, ds)
      if ds.isEmpty || !ds.all Char.isDigit then none
      else some (if negative then -(digitsValue ds : Int) else digitsValue ds)
    else none

/-- An unsigned decimal numeral in ASCII digits: at least one digit before or after the point. -/
def decimal? (s : List Char) : Option Decimal :=
  let whole := s.takeWhile Char.isDigit
  let rest := s.dropWhile Char.isDigit
  let (fraction, rest) :=
    match rest with
    | '.' :: more => (more.takeWhile Char.isDigit, more.dropWhile Char.isDigit)
    | _ => ([], rest)
  if whole.isEmpty && fraction.isEmpty then none
  else (exponent? rest).map fun e => ⟨digitsValue (whole ++ fraction), e - fraction.length⟩

/-- A text with the digits of all scripts as ASCII digits. -/
def asciiDigits (s : List Char) : List Char :=
  s.map fun c =>
    match Text.digitValue? c with
    | some value => Char.ofNat (48 + value)
    | none => c

/-- Drops underscores that stand between digits; there is no result if one stands elsewhere. -/
def dropSeparators (before : Bool) : List Char → Option (List Char)
  | [] => some []
  | '_' :: rest =>
    if before && (rest.head?.any Char.isDigit) then dropSeparators false rest else none
  | c :: rest => (dropSeparators c.isDigit rest).map (c :: ·)

/-- Splits a sign off; the first part tells whether it is a minus. -/
def splitSign : List Char → Bool × List Char
  | '-' :: rest => (true, rest)
  | '+' :: rest => (false, rest)
  | s => (false, s)

/-- A double with its sign changed where a minus was read. -/
def applySign (negative : Bool) (x : Float) : Float :=
  if negative then -x else x

/-- A signed decimal numeral, with digits of any script, and without blanks or underscores. -/
def signedNumeral? (s : List Char) : Option Float :=
  let (negative, digits) := splitSign (asciiDigits s)
  (decimal? digits).map fun d => applySign negative d.toFloat

def infinity : Float := Binary64.ofRatio false 1 0

def nan : Float := infinity - infinity

/-- The blanks that `readFloat?` drops at both ends. -/
def isOuterBlank (c : Char) : Bool :=
  c == ' ' || (9 ≤ c.toNat && c.toNat ≤ 13) || (128 ≤ c.toNat && Text.isBlank c)

/-- The number that a text stands for, in the widest notation. -/
def readFloat? (s : String) : Option Float :=
  let trimmed := (s.toList.dropWhile isOuterBlank).reverse.dropWhile isOuterBlank |>.reverse
  let (negative, body) := splitSign (asciiDigits trimmed)
  let name := body.map Char.toLower
  if name == "inf".toList || name == "infinity".toList then some (applySign negative infinity)
  else if name == "nan".toList then some nan
  else
    ((dropSeparators false body).bind decimal?).map fun d => applySign negative d.toFloat

end Astrolabe.Number
