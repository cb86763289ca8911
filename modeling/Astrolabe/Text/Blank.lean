/-!
Blank characters of all scripts, and texts without the blanks around them or without any.
-/

namespace Astrolabe.Text

/-- Spaces, tabs, line ends and separators, in ASCII and beyond. -/
def isBlank (c : Char) : Bool :=
  let n := c.toNat
  (9 ≤ n && n ≤ 13) || (28 ≤ n && n ≤ 32) || n == 0x85 || n == 0xA0 || n == 0x1680
    || (0x2000 ≤ n && n ≤ 0x200A) || n == 0x2028 || n == 0x2029 || n == 0x202F || n == 0x205F
    || n == 0x3000

/-- Without the blanks at the beginning. -/
def stripStart (s : List Char) : List Char :=
  s.dropWhile isBlank

/-- Without the blanks at the end. -/
def stripEnd (s : List Char) : List Char :=
  (s.reverse.dropWhile isBlank).reverse

/-- Without the blanks at both ends. -/
def strip (s : String) : String :=
  String.ofList (stripEnd (stripStart s.toList))

/-- Without any blank. -/
def compact (s : String) : String :=
  String.ofList (s.toList.filter fun c => !isBlank c)

end Astrolabe.Text
