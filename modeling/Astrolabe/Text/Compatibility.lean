import Astrolabe.Text.CompatibilityData

/-!
The compatibility form of a name. Letters that differ in typography alone (full width, script,
ligature) become plain ones; then combining marks are ordered and composed with the letters before
them.
-/

namespace Astrolabe.Text

namespace Hangul

/-- The first syllable, and the first of the leading consonants, vowels and trailing consonants. -/
def syllableBase : Nat := 0xAC00

def leadBase : Nat := 0x1100

def vowelBase : Nat := 0x1161

def tailBase : Nat := 0x11A7

/-- The letters of a syllable. -/
def letters? (code : Nat) : Option (List Nat) :=
  if syllableBase ≤ code && code < syllableBase + 11172 then
    let index := code - syllableBase
    let tail := index % 28
    some ([leadBase + index / 588, vowelBase + index % 588 / 28]
      ++ if tail = 0 then [] else [tailBase + tail])
  else none

/-- The syllable of two letters, or of an open syllable and a trailing consonant. -/
def syllable? (a b : Nat) : Option Nat :=
  if leadBase ≤ a && a < leadBase + 19 && vowelBase ≤ b && b < vowelBase + 21 then
    some (syllableBase + ((a - leadBase) * 21 + (b - vowelBase)) * 28)
  else if syllableBase ≤ a && a < syllableBase + 11172 && (a - syllableBase) % 28 == 0
      && tailBase < b && b < tailBase + 28 then
    some (a + (b - tailBase))
  else none

end Hangul

/-- What a name character stands for. -/
def decompose (code : Nat) : List Nat :=
  if code < 128 then [code]
  else
    match Hangul.letters? code with
    | some letters => letters
    | none =>
      match substituteRuns.findSome? (·.image? code) with
      | some image => [image]
      | none =>
        match decompositions.find? fun entry => entry.1 == code with
        | some (_, sequence) => sequence.toList
        | none => [code]

/-- The order class of a combining mark, 0 for other characters. -/
def combiningClass (code : Nat) : Nat :=
  if code < 128 then 0
  else
    match combiningClasses.find? fun (a, b, _) => a ≤ code && code ≤ b with
    | some (_, _, k) => k
    | none => 0

/-- Puts a mark behind the marks of its class or of a smaller one. The list is in reverse. -/
def insertMark (code : Nat) : List Nat → List Nat
  | [] => [code]
  | last :: before =>
    let k := combiningClass code
    if k != 0 && k < combiningClass last then last :: insertMark code before
    else code :: last :: before

/-- Orders the combining marks behind each letter by class. -/
def orderMarks (codes : List Nat) : List Nat :=
  (codes.foldl (fun done code => insertMark code done) []).reverse

/-- The character that two characters compose. -/
def compose? (a b : Nat) : Option Nat :=
  match Hangul.syllable? a b with
  | some code => some code
  | none => (compositions.find? fun entry => entry.2 == #[a, b]).map (·.1)

/-- Composes marks with the letter before them, of which `marks` (in reverse) have found no
partner. -/
def composeFrom (letter : Nat) (marks : List Nat) : List Nat → List Nat
  | [] => letter :: marks.reverse
  | code :: rest =>
    let k := combiningClass code
    let blocked :=
      match marks with
      | [] => false
      | last :: _ => combiningClass last == 0 || k ≤ combiningClass last
    match if blocked then none else compose? letter code with
    | some composed => composeFrom composed marks rest
    | none =>
      if k == 0 then letter :: marks.reverse ++ composeFrom code [] rest
      else composeFrom letter (code :: marks) rest

/-- The compatibility form of a name. -/
def compatibilityForm (s : String) : String :=
  if s.toList.all (fun c => c.toNat < 128) then s
  else
    match orderMarks (s.toList.flatMap fun c => decompose c.toNat) with
    | [] => ""
    | first :: rest => String.ofList ((composeFrom first [] rest).map Char.ofNat)

end Astrolabe.Text
