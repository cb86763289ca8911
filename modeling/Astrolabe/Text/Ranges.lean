/-!
Ranges and runs of code points, of which the tables of characters are made, and hexadecimal digits.
-/

namespace Astrolabe.Text

/-- The value of a hexadecimal digit. -/
def hexDigit (c : Char) : Nat :=
  if c.isDigit then c.toNat - 48 else c.toLower.toNat - 87

/-- The number written by hexadecimal digits. -/
def hexNumber (s : List Char) : Nat :=
  s.foldl (fun n c => 16 * n + hexDigit c) 0

/-- Whether a character lies in one of the ranges; both ends belong to a range. -/
def inRanges (table : Array (Nat × Nat)) (c : Char) : Bool :=
  table.any fun (a, b) => a ≤ c.toNat && c.toNat ≤ b

/-- Equally spaced code points that go to code points with the same spacing. -/
structure MappedRun where
  first : Nat
  last : Nat
  step : Nat
  image : Nat

/-- Where a run sends a code point of it. -/
def MappedRun.image? (run : MappedRun) (code : Nat) : Option Nat :=
  if run.first ≤ code && code ≤ run.last && (code - run.first) % run.step == 0 then
    some (run.image + (code - run.first))
  else none

end Astrolabe.Text
