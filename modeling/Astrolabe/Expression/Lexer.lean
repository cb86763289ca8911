import Astrolabe.Expression.Token
import Astrolabe.Expression.Escape
import Astrolabe.Text.Identifier
import Astrolabe.Text.Compatibility

/-!
From text to tokens. Numerals, names, text literals and symbols are cut off in turn; blanks and
comments between them are dropped, and so are line ends inside brackets. There is no result where
the text has a character or a numeral that no expression has.
-/

namespace Astrolabe.Expression

open Number

/-- A number token and the text after it. -/
abbrev Cut := Token × List Char

/-- Whether a character continues a word. -/
def isWordPart (c : Char) : Bool :=
  c.isAlphanum || c == '_' || 128 ≤ c.toNat

/-- The words that may follow a numeral without a blank. -/
def closeWords : List (List Char) :=
  ["and", "else", "for", "if", "in", "is", "not", "or"].map String.toList

/-- Whether a numeral may end here: no word follows, or one of those that may. -/
def endsNumeral (rest : List Char) : Bool :=
  match rest with
  | [] => true
  | c :: _ => !isWordPart c || closeWords.any fun word => word.isPrefixOf rest

/-- Digits with single underscores between them, the underscores dropped. There is no result if an
underscore has no digit after it. -/
def digitRun (isDigit : Char → Bool) : List Char → Option (List Char × List Char)
  | [] => some ([], [])
  | '_' :: c :: rest =>
    if isDigit c then (digitRun isDigit rest).map fun (ds, after) => (c :: ds, after) else none
  | ['_'] => none
  | c :: rest =>
    if isDigit c then (digitRun isDigit rest).map fun (ds, after) => (c :: ds, after)
    else some ([], c :: rest)

/-- Digits that begin with a digit, if there are any. -/
def digits (isDigit : Char → Bool) (s : List Char) : Option (List Char × List Char) :=
  match s with
  | c :: _ => if isDigit c then digitRun isDigit s else some ([], s)
  | [] => some ([], [])

/-- The exponent of a numeral and the text after it. A letter that no digit follows may begin a
word. -/
def exponentCut (s : List Char) : Option (Option Int × List Char) :=
  match s with
  | mark :: rest =>
    if mark == 'e' || mark == 'E' then
      let (negative, signed, ds) :=
        match rest with
        | '-' :: ds => (true, true, ds)
        | '+' :: ds => (false, true, ds)
        | ds => (false, false, ds)
      if ds.head?.any Char.isDigit then
        (digitRun Char.isDigit ds).map fun (run, after) =>
          (some (if negative then -(digitsValue run : Int) else digitsValue run), after)
      else if signed then none
      else some (none, s)
    else some (none, s)
  | [] => some (none, s)

/-- The most digits that a whole decimal number may have. -/
def maxWholeDigits : Nat := 4300

/-- Ends a decimal numeral that has a fraction or an exponent: it may be imaginary. -/
def finishDecimal (d : Decimal) (rest : List Char) : Option Cut :=
  match rest with
  | 'j' :: after | 'J' :: after => if endsNumeral after then some (.imaginary d, after) else none
  | _ => if endsNumeral rest then some (.decimal d, rest) else none

/-- The end of a decimal numeral, behind the digits of its whole part and its fraction. A whole
number has no zero in front, except where all its digits are zeros. -/
def decimalTail (whole fraction : List Char) (pointed : Bool) (rest : List Char) : Option Cut := do
  let (exponent, rest) ← exponentCut rest
  let d : Decimal := ⟨digitsValue (whole ++ fraction), exponent.getD 0 - fraction.length⟩
  if pointed || exponent.isSome then finishDecimal d rest
  else
    match rest with
    | 'j' :: _ | 'J' :: _ => finishDecimal d rest
    | _ =>
      let zeros := whole.all (· == '0')
      if whole.head? == some '0' && !zeros then none
      else if maxWholeDigits < whole.length && !zeros then none
      else if endsNumeral rest then some (.whole (digitsValue whole), rest)
      else none

/-- A decimal numeral. -/
def decimalCut (s : List Char) : Option Cut := do
  let (whole, rest) ← digits Char.isDigit s
  match rest with
  | '.' :: more => do
    let (fraction, rest) ← digits Char.isDigit more
    decimalTail whole fraction true rest
  | _ => decimalTail whole [] false rest

/-- A whole number in another base. An underscore may stand before each digit. -/
def basedCut (base : Nat) (isDigit : Char → Bool) (s : List Char) : Option Cut := do
  let s := match s with
    | '_' :: c :: rest => if isDigit c then c :: rest else s
    | _ => s
  let (ds, rest) ← digits isDigit s
  if ds.isEmpty then none
  else if rest.head?.any Char.isDigit then none
  else if endsNumeral rest then
    some (.whole (ds.foldl (fun n c => base * n + Text.hexDigit c) 0), rest)
  else none

/-- A numeral; the text begins with a digit, or with a point before a digit. -/
def numeralCut (s : List Char) : Option Cut :=
  match s with
  | '0' :: mark :: rest =>
    match mark.toLower with
    | 'x' => basedCut 16 isHexDigit rest
    | 'o' => basedCut 8 isOctalDigit rest
    | 'b' => basedCut 2 (fun c => c == '0' || c == '1') rest
    | _ => decimalCut s
  | _ => decimalCut s

/-- What the letters before a text literal say. -/
structure LiteralMode where
  raw : Bool
  bytes : Bool
  template : Bool

/-- The letters that may stand before a text literal. -/
def literalMode? (word : List Char) : Option LiteralMode :=
  match String.ofList (word.map Char.toLower) with
  | "" | "u" => some ⟨false, false, false⟩
  | "r" => some ⟨true, false, false⟩
  | "b" => some ⟨false, true, false⟩
  | "br" | "rb" => some ⟨true, true, false⟩
  | "f" => some ⟨false, false, true⟩
  | "fr" | "rf" => some ⟨true, false, true⟩
  | _ => none

/-- The end of an expression inside a template: the first mark of its end outside brackets and
quotes. The second part begins with that mark. -/
def fieldEnd (depth : Nat) (quote : Option Char) : List Char → Option (List Char × List Char)
  | [] => none
  | c :: rest =>
    let go (depth : Nat) (quote : Option Char) :=
      (fieldEnd depth quote rest).map fun (inside, after) => (c :: inside, after)
    if c == '\\' then none
    else
      match quote with
      | some q => go depth (if c == q then none else quote)
      | none =>
        if c.toNat == 34 || c.toNat == 39 then go depth (some c)
        else if c == '#' then none
        else if c == '(' || c == '[' || c.toNat == 0x7b then go (depth + 1) none
        else if depth != 0 then
          go (if c == ')' || c == ']' || c.toNat == 0x7d then depth - 1 else depth) none
        else if c == ')' || c == ']' then none
        else if c == ':' || c.toNat == 0x7d then some ([], c :: rest)
        else if c == '!' && rest.head? != some '=' then some ([], c :: rest)
        else go depth none

/-- Drops a sign of self-documentation at the end of an expression in a template. -/
def dropEqualsMark (s : List Char) : List Char :=
  match (s.reverse.dropWhile Char.isWhitespace) with
  | '=' :: before =>
    if before.head?.any (fun c => c == '=' || c == '!' || c == '<' || c == '>') then s
    else before.reverse
  | _ => s

/-- The texts of the expressions in a template. A doubled brace stands for itself; after an
expression may come a conversion and a format, which may hold expressions itself. `nested` tells
that the text is such a format, and then the text ends with it. -/
def templateFields (nested : Bool) : Nat → List Char → Option (List (List Char) × List Char)
  | _, [] => if nested then none else some ([], [])
  | 0, _ => none
  | steps + 1, c :: rest =>
    if c.toNat == 0x7b then
      if rest.head?.any (fun d => d.toNat == 0x7b) && !nested then
        templateFields nested steps (rest.drop 1)
      else do
        let (inside, after) ← fieldEnd 0 none rest
        let inside := dropEqualsMark inside
        let after ←
          match after with
          | '!' :: kind :: more =>
            if kind == 's' || kind == 'r' || kind == 'a' then some more else none
          | _ => some after
        let (inner, after) ←
          match after with
          | ':' :: more => if nested then none else templateFields true steps more
          | _ => some ([], after)
        match after with
        | d :: more =>
          if d.toNat == 0x7d then do
            let (others, last) ← templateFields nested steps more
            some (inside :: inner ++ others, last)
          else none
        | [] => none
    else if c.toNat == 0x7d then
      if nested then some ([], c :: rest)
      else if rest.head?.any (fun d => d.toNat == 0x7d) then
        templateFields nested steps (rest.drop 1)
      else none
    else templateFields nested steps rest

/-- Whether a text has a character other than blanks. -/
def hasSubstance (s : List Char) : Bool :=
  s.any fun c => !c.isWhitespace

/-- The token of a name or a reserved word. Names are brought to their compatibility form. -/
def wordToken? (word : List Char) : Option Token :=
  let s := String.ofList word
  if keywords.contains s then some (.keyword s)
  else if Text.isName word then some (.name (Text.compatibilityForm s))
  else none

/-- Adds a line end, unless the line has no token. -/
def endLine (done : List Token) : List Token :=
  match done with
  | [] => []
  | .lineEnd :: _ => done
  | _ => .lineEnd :: done

/-- Whether the next line begins with blanks before a token. -/
def isIndented (rest : List Char) : Bool :=
  let blank (c : Char) := c == ' ' || c == '\t'
  rest.head?.any blank &&
    ((rest.dropWhile blank).head?.any fun c => c != '\n' && c != '#' && c.toNat != 12)

/-- The tokens of a text, in reverse, behind those done. `depth` counts the open brackets; the first
argument bounds the number of steps. -/
def lexSteps : Nat → Nat → List Token → List Char → Option (List Token)
  | _, depth, done, [] => some (if depth == 0 then endLine done else done)
  | 0, _, _, _ => none
  | steps + 1, depth, done, c :: rest =>
    if c == ' ' || c == '\t' || c.toNat == 12 then lexSteps steps depth done rest
    else if c == '\n' then
      if depth != 0 then lexSteps steps depth done rest
      else if isIndented rest then none
      else lexSteps steps depth (endLine done) rest
    else if c == '#' then lexSteps steps depth done (rest.dropWhile (· != '\n'))
    else if c == '\\' then
      match rest with
      | '\n' :: d :: more => lexSteps steps depth done (d :: more)
      | _ => none
    else if c.isDigit || (c == '.' && rest.head?.any Char.isDigit) then do
      let (token, after) ← numeralCut (c :: rest)
      lexSteps steps depth (token :: done) after
    else if isWordPart c || c.toNat == 34 || c.toNat == 39 then
      let word := (c :: rest).takeWhile isWordPart
      let after := (c :: rest).dropWhile isWordPart
      let asWord : Option (List Token) := do
        lexSteps steps depth ((← wordToken? word) :: done) after
      match after, literalMode? word with
      | quote :: body, some mode =>
        if quote.toNat == 34 || quote.toNat == 39 then do
          let triple := body.take 2 == [quote, quote]
          let (inside, after) ← splitBody quote triple (if triple then body.drop 2 else body)
          let cs ← if mode.raw then some inside else unescape mode.bytes inside
          if mode.template then do
            let (fields, _) ← templateFields false inside.length inside
            let fields ← fields.mapM fun field =>
              if hasSubstance field then lexSteps steps 1 [] field else none
            lexSteps steps depth (.template (fields.map List.reverse) :: done) after
          else do
            guard (!(mode.bytes && inside.any fun c => 128 ≤ c.toNat))
            let token :=
              if mode.bytes then .bytes (cs.map Char.toNat) else Token.text (String.ofList cs)
            lexSteps steps depth (token :: done) after
        else asWord
      | _, _ => asWord
    else
      match symbols.find? fun mark => mark.toList.isPrefixOf (c :: rest) with
      | some mark =>
        let depth :=
          if openers.contains mark then depth + 1
          else if closers.contains mark then depth - 1
          else depth
        lexSteps steps depth (.symbol mark :: done) ((c :: rest).drop mark.length)
      | none => none

/-- Line ends as one character each. -/
def unifyLineEnds : List Char → List Char
  | '\r' :: '\n' :: rest => '\n' :: unifyLineEnds rest
  | '\r' :: rest => '\n' :: unifyLineEnds rest
  | c :: rest => c :: unifyLineEnds rest
  | [] => []

/-- The tokens of a text without the line end behind the last one. -/
def lex (s : List Char) : Option (List Token) :=
  let s := unifyLineEnds s
  (lexSteps s.length 0 [] s).map fun done =>
    match done with
    | .lineEnd :: before => before.reverse
    | _ => done.reverse

end Astrolabe.Expression
