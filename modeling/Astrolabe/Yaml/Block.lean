import Astrolabe.Yaml.Flow

/-!
Block notation of YAML: maps and lists by indentation, whose scalars may also be in flow notation. A
plain scalar may go on in deeper lines. There are no anchors, tags and block scalars, and flow
notation stays on one line.
-/

namespace Astrolabe.Yaml

/-- A line with its indentation taken off. -/
structure Line where
  indent : Nat
  content : List Char

/-- A line, or nothing if it holds at most a comment. -/
def Line.ofText? (text : String) : Option Line :=
  let cs := text.toList.filter (· != '\r')
  let content := trimEnd (cs.dropWhile (· == ' '))
  match content with
  | [] => none
  | '#' :: _ => none
  | _ => some ⟨(cs.takeWhile (· == ' ')).length, content⟩

/-- The lines of a text that hold something. -/
def lines (text : String) : List Line :=
  (text.splitOn "\n").filterMap Line.ofText?

/-- What follows the dash of an item of a list. -/
def item? (content : List Char) : Option (List Char) :=
  match content with
  | ['-'] => some []
  | '-' :: c :: rest => if isSpace c then some (c :: rest) else none
  | _ => none

/-- Splits a plain text at a colon that ends a key; a comment ends the text. -/
def splitKey? (before : Char) : List Char → Option (List Char × List Char)
  | [] => none
  | c :: rest =>
    if c == '#' && isSpace before then none
    else if c == ':' && (rest.head?.all isSpace) then some ([], rest)
    else (splitKey? c rest).map fun (key, value) => (c :: key, value)

/-- The key at the start of a line and what follows its colon. -/
def key? (content : List Char) : Option (String × List Char) :=
  match content with
  | c :: _ =>
    if isQuote c then do
      let (key, left) ← quoted? content
      match skipSpaces left with
      | ':' :: value => if value.head?.all isSpace then some (String.ofList key, value) else none
      | _ => none
    else if startsPlain content then
      (splitKey? ' ' content).map fun (key, value) =>
        ((scalar (String.ofList (trimEnd key))).asText, value)
    else none
  | [] => none

/-- A plain text without its comment, and whether it had one. -/
def dropComment (before : Char) : List Char → List Char × Bool
  | [] => ([], false)
  | c :: rest =>
    if c == '#' && isSpace before then ([], true)
    else
      let (text, commented) := dropComment c rest
      (c :: text, commented)

/-- The lines that go on with a plain scalar, joined by blanks. -/
def continued (indent : Nat) (text : List Char) : List Line → Option (List Char × List Line)
  | [] => some (text, [])
  | line :: rest =>
    if line.indent ≤ indent then some (text, line :: rest)
    else if (splitKey? ' ' line.content).isSome then none
    else
      let (more, commented) := dropComment ' ' line.content
      let joined := text ++ ' ' :: trimEnd more
      if commented then some (joined, rest) else continued indent joined rest

/-- A scalar or a value in flow notation that begins on a line, inside a block of some
indentation. -/
def inline? (indent : Nat) (content : List Char) (rest : List Line) : Option (Datum × List Line) :=
  match content with
  | c :: _ =>
    if isQuote c || c == '[' || c == '\x7b' then do
      let (value, left) ← flowValue? (2 * content.length + 2) content
      if isRestEmpty left then some (value, rest) else none
    else if startsPlain content && (splitKey? ' ' content).isNone then do
      let (text, commented) := dropComment ' ' content
      let (whole, rest) ←
        if commented then some (trimEnd text, rest) else continued indent (trimEnd text) rest
      some (scalar (String.ofList whole), rest)
    else none
  | [] => none

/-- Whether a block follows the key of a map: deeper lines, or a list that is not indented. -/
def blockFollows (indent : Nat) : List Line → Bool
  | [] => false
  | line :: _ => indent < line.indent || (indent == line.indent && (item? line.content).isSome)

mutual

/-- The value that begins with the first line, inside a block of some indentation. -/
def node? (fuel indent : Nat) (all : List Line) : Option (Datum × List Line) :=
  match fuel with
  | 0 => none
  | fuel + 1 =>
    match all with
    | [] => none
    | line :: rest =>
      if (item? line.content).isSome then
        (items? fuel line.indent [] all).map fun (items, left) => (.list items, left)
      else if (key? line.content).isSome then
        (entries? fuel line.indent [] all).map fun (entries, left) => (.map entries, left)
      else inline? indent line.content rest

/-- The items of a list. What follows a dash is taken as a line of its own. -/
def items? (fuel indent : Nat) (done : List Datum) (all : List Line) :
    Option (List Datum × List Line) :=
  match fuel with
  | 0 => none
  | fuel + 1 =>
    match all with
    | [] => some (done, [])
    | line :: rest =>
      if line.indent < indent then some (done, all)
      else if indent < line.indent then none
      else
        match item? line.content with
        | none => some (done, all)
        | some after =>
          let content := skipSpaces after
          if isRestEmpty after then
            if rest.head?.any fun next => indent < next.indent then do
              let (value, left) ← node? fuel indent rest
              items? fuel indent (done ++ [value]) left
            else items? fuel indent (done ++ [.null]) rest
          else do
            let column := indent + 1 + (after.length - content.length)
            let (value, left) ← node? fuel indent (⟨column, content⟩ :: rest)
            items? fuel indent (done ++ [value]) left

/-- The entries of a map. -/
def entries? (fuel indent : Nat) (done : List (String × Datum)) (all : List Line) :
    Option (List (String × Datum) × List Line) :=
  match fuel with
  | 0 => none
  | fuel + 1 =>
    match all with
    | [] => some (done, [])
    | line :: rest =>
      if line.indent < indent then some (done, all)
      else if indent < line.indent then none
      else if (item? line.content).isSome then none
      else do
        let (key, after) ← key? line.content
        let (value, left) ←
          if isRestEmpty after then
            if blockFollows indent rest then node? fuel indent rest else some (Datum.null, rest)
          else inline? indent (skipSpaces after) rest
        entries? fuel indent (Datum.insertEntry key value done) left

end

/-- The value of a document; a text without a value is no document. -/
def document? (text : String) : Option Datum :=
  match lines text with
  | [] => some .null
  | first :: rest => do
    let (value, left) ← node? (4 * text.length + 4) 0 (first :: rest)
    if left.isEmpty then some value else none

end Astrolabe.Yaml
