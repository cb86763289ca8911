import Astrolabe.Text.Ranges

/-!
Paths of requests. A path ends at a query; dot segments are resolved before the percent signs are
decoded, and only then is the path cut into segments.
-/

namespace Astrolabe.Service

/-- The bytes of a text in which a percent sign and two hexadecimal digits stand for a byte. -/
def percentBytes : List Char → List UInt8
  | '%' :: a :: b :: rest =>
    let isHex (c : Char) : Bool := c.isDigit || ('a' ≤ c.toLower && c.toLower ≤ 'f')
    if isHex a && isHex b then
      UInt8.ofNat (16 * Text.hexDigit a + Text.hexDigit b) :: percentBytes rest
    else 37 :: percentBytes (a :: b :: rest)
  | c :: rest => c.toString.toUTF8.toList ++ percentBytes rest
  | [] => []
termination_by s => s.length

/-- The text of bytes; a byte that belongs to no character becomes the replacement character. -/
def decodeBytes (fuel : Nat) (bytes : List UInt8) : List Char :=
  match fuel, bytes with
  | 0, _ => []
  | _, [] => []
  | fuel + 1, byte :: rest =>
    let attempt (count : Nat) : Option (List Char) := do
      let piece := (byte :: rest).take count
      if piece.length == count then do
        let text ← String.fromUTF8? ⟨piece.toArray⟩
        if text.length == 1 then some text.toList else none
      else none
    match [1, 2, 3, 4].findSome? fun count => (attempt count).map (count, ·) with
    | some (count, cs) => cs ++ decodeBytes fuel (rest.drop (count - 1))
    | none => Char.ofNat 0xfffd :: decodeBytes fuel rest

/-- A text with its percent signs decoded. -/
def percentDecode (s : List Char) : String :=
  let bytes := percentBytes s
  String.ofList (decodeBytes bytes.length bytes)

/-- Segments without those that stand for the same place or the place above. -/
def resolveDots (segments : List String) : List String :=
  segments.foldl
    (fun done segment =>
      if segment == "." then done
      else if segment == ".." then if done == [] || done == [""] then done else done.dropLast
      else done ++ [segment]) []

/-- A path without its query, decoded. -/
def decodedPath (path : String) : String :=
  let bare := (path.toList.takeWhile fun c => c != '?' && c != '#')
  let resolved := "/".intercalate (resolveDots ((String.ofList bare).splitOn "/"))
  percentDecode resolved.toList

/-- The parts of a path between its slashes. -/
def segments (path : String) : List String :=
  path.splitOn "/"

/-- A path without slashes at its end. -/
def dropEndSlashes (path : String) : String :=
  String.ofList (path.toList.reverse.dropWhile (· == '/')).reverse

end Astrolabe.Service
