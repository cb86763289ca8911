import Astrolabe.Text.Ranges

/-!
The body of a text literal: its end, and the characters that its escapes stand for.
-/

namespace Astrolabe.Expression

/-- Splits at the closing quote, given how many quotes close and whether lines may end inside. A
character after a backslash never closes. -/
def splitBody (quote : Char) (triple : Bool) : List Char → Option (List Char × List Char)
  | [] => none
  | '\\' :: c :: rest =>
    (splitBody quote triple rest).map fun (body, after) => ('\\' :: c :: body, after)
  | c :: rest =>
    if c == quote && !triple then some ([], rest)
    else if c == quote && rest.take 2 == [quote, quote] then some ([], rest.drop 2)
    else if c == '\n' && !triple then none
    else (splitBody quote triple rest).map fun (body, after) => (c :: body, after)

def isHexDigit (c : Char) : Bool :=
  c.isDigit || ('a' ≤ c && c ≤ 'f') || ('A' ≤ c && c ≤ 'F')

def isOctalDigit (c : Char) : Bool :=
  '0' ≤ c && c ≤ '7'

/-- The character of an escape with one letter. -/
def simpleEscape? (c : Char) : Option (List Char) :=
  match c with
  | '\n' => some []
  | '\\' => some ['\\']
  | 'a' => some [Char.ofNat 7]
  | 'b' => some [Char.ofNat 8]
  | 'f' => some [Char.ofNat 12]
  | 'n' => some ['\n']
  | 'r' => some ['\r']
  | 't' => some ['\t']
  | 'v' => some [Char.ofNat 11]
  | c => if c.toNat == 34 || c.toNat == 39 then some [c] else none

/-- How many hexadecimal digits follow the letter of an escape. Bytes have only the two-digit
form. -/
def hexEscapeWidth (bytes : Bool) (c : Char) : Option Nat :=
  match c with
  | 'x' => some 2
  | 'u' => if bytes then none else some 4
  | 'U' => if bytes then none else some 8
  | _ => none

/-- Replaces escapes by what they stand for; a backslash before any other character stays. The first
argument bounds the number of steps. -/
def unescapeSteps (bytes : Bool) : Nat → List Char → Option (List Char)
  | _, [] => some []
  | 0, _ => none
  | steps + 1, '\\' :: c :: rest =>
    match simpleEscape? c with
    | some cs => (unescapeSteps bytes steps rest).map (cs ++ ·)
    | none =>
      if isOctalDigit c then
        let digits := (c :: rest).takeWhile isOctalDigit |>.take 3
        let code := digits.foldl (fun n d => 8 * n + (d.toNat - 48)) 0
        let code := if bytes then code % 256 else code
        (unescapeSteps bytes steps ((c :: rest).drop digits.length)).map (Char.ofNat code :: ·)
      else
        match hexEscapeWidth bytes c with
        | some width =>
          let digits := rest.take width
          let code := Text.hexNumber digits
          if digits.length == width && digits.all isHexDigit && code < 0x110000 then
            (unescapeSteps bytes steps (rest.drop width)).map (Char.ofNat code :: ·)
          else none
        | none =>
          if c == 'N' && !bytes then none
          else (unescapeSteps bytes steps rest).map fun cs => '\\' :: c :: cs
  | steps + 1, c :: rest => (unescapeSteps bytes steps rest).map (c :: ·)

/-- The characters that the body of a literal stands for. A character name in an escape is not
known. -/
def unescape (bytes : Bool) (body : List Char) : Option (List Char) :=
  unescapeSteps bytes body.length body

end Astrolabe.Expression
