import Astrolabe.Text.Printable

/-!
Texts between quotes. Single quotes are used unless the text has single quotes and no double ones.
Characters that would not show are written as escapes.
-/

namespace Astrolabe.Text

def singleQuote : Char := Char.ofNat 39

def doubleQuote : Char := Char.ofNat 34

/-- The quotes around a text. -/
def quoteFor (s : List Char) : Char :=
  if s.contains singleQuote && !s.contains doubleQuote then doubleQuote else singleQuote

/-- A number in hexadecimal digits, padded with zeros to a width. -/
def hexPadded (width n : Nat) : List Char :=
  let digits := Nat.toDigits 16 n
  List.replicate (width - digits.length) '0' ++ digits

/-- The escape of a code point, as short as the code point allows. -/
def escapeCode (code : Nat) : List Char :=
  if code < 0x100 then ['\\', 'x'] ++ hexPadded 2 code
  else if code < 0x10000 then ['\\', 'u'] ++ hexPadded 4 code
  else ['\\', 'U'] ++ hexPadded 8 code

/-- One character between quotes. -/
def quotedChar (quote : Char) (c : Char) : List Char :=
  if c == quote || c == '\\' then ['\\', c]
  else if c == '\n' then ['\\', 'n']
  else if c == '\r' then ['\\', 'r']
  else if c == '\t' then ['\\', 't']
  else if isPrintable c then [c]
  else escapeCode c.toNat

/-- A text between quotes. -/
def quoted (s : String) : String :=
  let cs := s.toList
  let quote := quoteFor cs
  String.ofList ([quote] ++ cs.flatMap (quotedChar quote) ++ [quote])

/-- A sequence of bytes between quotes; bytes outside ASCII are escapes. -/
def quotedBytes (bytes : List Nat) : String :=
  let cs := bytes.map Char.ofNat
  let quote := quoteFor cs
  let body := cs.flatMap fun c => if c.toNat < 128 then quotedChar quote c else escapeCode c.toNat
  String.ofList (['b', quote] ++ body ++ [quote])

end Astrolabe.Text
