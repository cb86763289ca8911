import Astrolabe.Expression.Basic

/-!
The tokens of expressions, and the words and symbols that have a meaning of their own.
-/

namespace Astrolabe.Expression

/-- Tokens. A template is a text with expressions in it, each given by its own tokens. -/
inductive Token where
  | whole (n : Nat)
  | decimal (d : Number.Decimal)
  | imaginary (d : Number.Decimal)
  | text (s : String)
  | bytes (values : List Nat)
  | template (fields : List (List Token))
  | name (id : String)
  | keyword (word : String)
  | symbol (mark : String)
  | lineEnd
deriving Inhabited

/-- The reserved words. -/
def keywords : List String :=
  ["False", "None", "True", "and", "as", "assert", "async", "await", "break", "class", "continue",
   "def", "del", "elif", "else", "except", "finally", "for", "from", "global", "if", "import", "in",
   "is", "lambda", "nonlocal", "not", "or", "pass", "raise", "return", "try", "while", "with",
   "yield"]

/-- The symbols, longer ones first, so that the first match is the longest. -/
def symbols : List String :=
  ["**=", "//=", ">>=", "<<=", "...",
   "!=", "%=", "&=", "**", "*=", "+=", "-=", "->", "//", "/=", ":=", "<<", "<=", "<>", "==", ">=",
   ">>", "@=", "|=",
   "%", "&", "(", ")", "*", "+", ",", "-", ".", "/", ":", ";", "<", "=", ">", "@", "[", "]", "\x7b",
   "|", "\x7d", "~"]

/-- The symbols that open a bracket. -/
def openers : List String := ["(", "[", "\x7b"]

/-- The symbols that close a bracket. -/
def closers : List String := [")", "]", "\x7d"]

end Astrolabe.Expression
