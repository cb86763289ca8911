import Astrolabe.Text.Quoted
import Astrolabe.Yaml.Scalar

/-!
Flow notation of YAML, on one line: scalars with and without quotes, lists in brackets and maps in
braces.
-/

namespace Astrolabe.Yaml

def isSpace (c : Char) : Bool :=
  c == ' ' || c == '\t'

def skipSpaces (s : List Char) : List Char :=
  s.dropWhile isSpace

/-- Whether nothing but blanks and a comment is left of a line; a comment stands apart from what is
before it. -/
def isRestEmpty (s : List Char) : Bool :=
  match s, skipSpaces s with
  | _, [] => true
  | c :: _, '#' :: _ => isSpace c
  | _, _ => false

/-- A text without the blanks at its end. -/
def trimEnd (s : List Char) : List Char :=
  (s.reverse.dropWhile isSpace).reverse

/-- Characters that begin no plain scalar. -/
def isIndicator (c : Char) : Bool :=
  ",[]\x7b\x7d#&*!|>%@\x60".toList.contains c || c == Text.singleQuote || c == Text.doubleQuote

/-- Whether a plain scalar may begin here. -/
def startsPlain (s : List Char) : Bool :=
  match s with
  | [] => false
  | c :: rest =>
    if c == '-' || c == '?' || c == ':' then
      match rest with
      | d :: _ => !isSpace d
      | [] => false
    else !isIndicator c

/-- The value of a hexadecimal digit. -/
def hexValue? (c : Char) : Option Nat :=
  digits? 16 (if c == '_' then [] else [c])

/-- The character written by some hexadecimal digits at the start of a text. -/
def hexEscape? (count : Nat) (s : List Char) : Option Char := do
  let ds ← (s.take count).mapM hexValue?
  if ds.length == count then some (Char.ofNat (ds.foldl (fun n d => 16 * n + d) 0)) else none

/-- The character of an escape of one letter. -/
def letterEscape? (c : Char) : Option Char :=
  match c with
  | '0' => some (Char.ofNat 0)
  | 'a' => some (Char.ofNat 7)
  | 'b' => some (Char.ofNat 8)
  | 't' => some '\t'
  | 'n' => some '\n'
  | 'v' => some (Char.ofNat 11)
  | 'f' => some (Char.ofNat 12)
  | 'r' => some '\r'
  | 'e' => some (Char.ofNat 27)
  | ' ' => some ' '
  | '/' => some '/'
  | '\\' => some '\\'
  | 'N' => some (Char.ofNat 0x85)
  | '_' => some (Char.ofNat 0xa0)
  | 'L' => some (Char.ofNat 0x2028)
  | 'P' => some (Char.ofNat 0x2029)
  | c => if c == Text.doubleQuote then some c else none

/-- How many digits the escape of a code point has. -/
def escapeWidth? (c : Char) : Option Nat :=
  match c with
  | 'x' => some 2
  | 'u' => some 4
  | 'U' => some 8
  | _ => none

/-- A text up to a closing double quote, and what follows. -/
def doubleQuoted? (fuel : Nat) (done : List Char) (s : List Char) :
    Option (List Char × List Char) :=
  match fuel, s with
  | 0, _ => none
  | _, [] => none
  | fuel + 1, c :: rest =>
    if c == Text.doubleQuote then some (done.reverse, rest)
    else if c == '\\' then
      match rest with
      | [] => none
      | e :: more =>
        match escapeWidth? e with
        | some width => do
          let decoded ← hexEscape? width more
          doubleQuoted? fuel (decoded :: done) (more.drop width)
        | none => do
          let decoded ← letterEscape? e
          doubleQuoted? fuel (decoded :: done) more
    else doubleQuoted? fuel (c :: done) rest

/-- A text up to a closing single quote, which is written twice inside, and what follows. -/
def singleQuoted? (done : List Char) : List Char → Option (List Char × List Char)
  | [] => none
  | c :: rest =>
    if c == Text.singleQuote then
      match rest with
      | d :: more =>
        if d == Text.singleQuote then singleQuoted? (d :: done) more else some (done.reverse, rest)
      | [] => some (done.reverse, [])
    else singleQuoted? (c :: done) rest

/-- A text in quotes at the start, and what follows. -/
def quoted? (s : List Char) : Option (List Char × List Char) :=
  match s with
  | c :: rest =>
    if c == Text.doubleQuote then doubleQuoted? s.length [] rest
    else if c == Text.singleQuote then singleQuoted? [] rest
    else none
  | [] => none

def isQuote (c : Char) : Bool :=
  c == Text.doubleQuote || c == Text.singleQuote

/-- The plain scalar at the start of a text within brackets or braces, and what follows. -/
def flowPlain (before : Char) : List Char → List Char × List Char
  | [] => ([], [])
  | c :: rest =>
    let closes (d : Char) : Bool := isSpace d || ",[]\x7b\x7d".toList.contains d
    let ends :=
      ",?[]\x7b\x7d".toList.contains c || (c == '#' && isSpace before) ||
        (c == ':' && (rest.head?.all closes))
    if ends then ([], c :: rest)
    else
      let (taken, left) := flowPlain c rest
      (c :: taken, left)

mutual

/-- A value within brackets or braces, and what follows. -/
def flowValue? (fuel : Nat) (s : List Char) : Option (Datum × List Char) :=
  match fuel with
  | 0 => none
  | fuel + 1 =>
    match s with
    | '[' :: rest =>
      (flowItems? fuel [] (skipSpaces rest)).map fun (items, left) => (.list items, left)
    | '\x7b' :: rest =>
      (flowEntries? fuel [] (skipSpaces rest)).map fun (entries, left) => (.map entries, left)
    | c :: _ =>
      if isQuote c then (quoted? s).map fun (text, left) => (.text (String.ofList text), left)
      else if startsPlain s then
        let (text, left) := flowPlain ' ' s
        some (scalar (String.ofList (trimEnd text)), left)
      else none
    | [] => none

/-- The items of a list up to its closing bracket. A key with a value is a map of its own. -/
def flowItems? (fuel : Nat) (done : List Datum) (s : List Char) :
    Option (List Datum × List Char) :=
  match fuel with
  | 0 => none
  | fuel + 1 =>
    match s with
    | ']' :: rest => some (done, rest)
    | _ => do
      let (value, left) ← flowValue? fuel s
      let (item, left) ←
        match skipSpaces left with
        | ':' :: more => do
          let (v, left) ← flowMember? fuel (skipSpaces more)
          some (Datum.map [(value.asText, v)], left)
        | left => some (value, left)
      match skipSpaces left with
      | ',' :: more => flowItems? fuel (done ++ [item]) (skipSpaces more)
      | ']' :: more => some (done ++ [item], more)
      | _ => none

/-- The value of a key, which may be left out. -/
def flowMember? (fuel : Nat) (s : List Char) : Option (Datum × List Char) :=
  match fuel with
  | 0 => none
  | fuel + 1 =>
    match s with
    | c :: _ => if c == ',' || c == '\x7d' || c == ']' then some (.null, s) else flowValue? fuel s
    | [] => none

/-- The entries of a map up to its closing brace. -/
def flowEntries? (fuel : Nat) (done : List (String × Datum)) (s : List Char) :
    Option (List (String × Datum) × List Char) :=
  match fuel with
  | 0 => none
  | fuel + 1 =>
    match s with
    | '\x7d' :: rest => some (done, rest)
    | _ => do
      let (key, left) ← flowValue? fuel s
      let (value, left) ←
        match skipSpaces left with
        | ':' :: more => flowMember? fuel (skipSpaces more)
        | left => some (Datum.null, left)
      let entries := Datum.insertEntry key.asText value done
      match skipSpaces left with
      | ',' :: more => flowEntries? fuel entries (skipSpaces more)
      | '\x7d' :: more => some (entries, more)
      | _ => none

end

end Astrolabe.Yaml
