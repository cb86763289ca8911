import Astrolabe.Proofs.Entry
import Astrolabe.Proofs.Entry.Quotient
import Astrolabe.Proofs.Expression.LetterCase

/-!
Entries and letter case. A text is read by several rules, tried in turn: as a constant, a numeral, a
quotient or an expression. Each of them gives the number that it gives for the text in letters of
another case, or none for both, so the first rule that gives a number is the same.
-/

namespace Astrolabe

namespace Entry

open Expression Number Text

variable {s t : String}

/-! Numerals and expressions. -/

theorem numeral?_congr (h : SameLetters s.toList t.toList) : numeral? s = numeral? t := by
  rw [numeral?, numeral?, signedNumeral?_congr h]

theorem evaluate_sameLetters {x : Float} (h : SameLetters s.toList t.toList)
    (value : evaluate s = .ok x) : evaluate t = .ok x := by
  obtain ⟨e, tree, value⟩ := evaluate_eq_ok_iff.mp value
  obtain ⟨e', tree', value'⟩ := tree?_sameLetters h tree (Expr.value_eq_ok_iff.mp value)
  exact evaluate_eq_ok_iff.mpr ⟨e', tree', Expr.value_eq_ok_iff.mpr value'⟩

theorem evaluate_congr (h : SameLetters s.toList t.toList) :
    (evaluate s).toOption = (evaluate t).toOption := by
  refine Option.ext fun x => ?_
  rw [Except.toOption_eq_some_iff, Except.toOption_eq_some_iff]
  exact ⟨evaluate_sameLetters h, evaluate_sameLetters h.symm⟩

theorem finiteValue_toOption (s : String) :
    (finiteValue s).toOption = (evaluate s).toOption.filter Float.isFinite := by
  unfold finiteValue
  cases evaluate s with
  | error e => rfl
  | ok x =>
      change _ = if x.isFinite then some x else none
      dsimp only
      split <;> rfl

theorem finiteValue_congr (h : SameLetters s.toList t.toList) :
    (finiteValue s).toOption = (finiteValue t).toOption := by
  rw [finiteValue_toOption, finiteValue_toOption, evaluate_congr h]

/-- A side of a quotient is tried as a constant, a numeral and an expression. -/
theorem operand_toOption (s : String) :
    (operand s).toOption = (constantNamed? (lower (strip s))).or
      ((numeral? (strip s)).or (finiteValue (strip s)).toOption) := by
  unfold operand
  dsimp only
  generalize constantNamed? (lower (strip s)) = constant
  generalize numeral? (strip s) = numeral
  cases constant with
  | some x => rfl
  | none =>
      cases numeral with
      | some x => rfl
      | none => simp only [Option.none_or, Except.toOption_mapError]

theorem operand_congr (h : SameLetters s.toList t.toList) :
    (operand s).toOption = (operand t).toOption := by
  have inside := sameLetters_strip h
  rw [operand_toOption, operand_toOption, lower_congr inside, numeral?_congr inside,
    finiteValue_congr inside]

/-! Quotients. -/

theorem splitAtLastSlash?_congr {s t : List Char} (h : SameLetters s t) :
    Option.Rel (fun parts parts' : List Char × List Char =>
      SameLetters parts.1 parts'.1 ∧ SameLetters parts.2 parts'.2)
      (splitAtLastSlash? s) (splitAtLastSlash? t) := by
  have other {c d : Char} (h : SameLetter c d) : (c != '/') = (d != '/') :=
    h.congr (f := (· != '/')) (by decide)
  obtain ⟨behind, front⟩ := h.reverse.span fun _ _ => other
  unfold splitAtLastSlash?
  rw [List.span_eq_takeWhile_dropWhile, List.span_eq_takeWhile_dropWhile]
  generalize s.reverse.dropWhile _ = before at front
  generalize t.reverse.dropWhile _ = before' at front
  cases front with
  | nil => exact .none
  | cons slash front => exact .some ⟨SameLetters.reverse front, behind.reverse⟩

/-- What is left of a quotient without its refusals. -/
theorem quotient_toOption (s : String) :
    (quotient s).toOption = (splitAtLastSlash? s.toList).bind fun (before, after) =>
      if before.all Text.isBlank || after.all Text.isBlank then none
      else (operand (String.ofList before)).toOption.bind fun x =>
        (operand (String.ofList after)).toOption.bind fun y =>
          if y == 0 then none else if (x / y).isFinite then some (x / y) else none := by
  unfold quotient
  cases splitAtLastSlash? s.toList with
  | none => rfl
  | some parts =>
      obtain ⟨before, after⟩ := parts
      dsimp only [Option.bind_some]
      split
      next => rfl
      next =>
        rw [Except.toOption_bind]
        refine congrArg _ (funext fun x => ?_)
        rw [Except.toOption_bind]
        refine congrArg _ (funext fun y => ?_)
        split
        next => rfl
        next => split <;> rfl

theorem quotient_congr (h : SameLetters s.toList t.toList) :
    (quotient s).toOption = (quotient t).toOption := by
  have parts := splitAtLastSlash?_congr h
  rw [quotient_toOption, quotient_toOption]
  generalize splitAtLastSlash? s.toList = split at parts
  generalize splitAtLastSlash? t.toList = split' at parts
  cases parts with
  | none => rfl
  | some sides =>
      obtain ⟨left, right⟩ := sides
      have blank := left.all_eq fun _ _ => SameLetter.isBlank_eq
      have blank' := right.all_eq fun _ _ => SameLetter.isBlank_eq
      have numerator := operand_congr left.ofList
      have denominator := operand_congr right.ofList
      simp only [Option.bind_some, blank, blank', numerator, denominator]

theorem isPlainQuotient_congr (h : SameLetters s.toList t.toList) :
    isPlainQuotient s = isPlainQuotient t := by
  rw [Bool.eq_iff_iff, isPlainQuotient_iff, isPlainQuotient_iff, h.mem_iff rfl,
    h.mem_iff rfl, h.mem_iff rfl]

/-! Whole texts. -/

/-- A text is tried as a numeral, a quotient if it is plainly one, an expression and a quotient. -/
theorem number_toOption (body whole : String) :
    (number body whole).toOption = (numeral? body).or
      ((if isPlainQuotient body then (quotient body).toOption else none).or
        ((finiteValue body).toOption.or (quotient body).toOption)) := by
  unfold number
  generalize numeral? body = numeral
  generalize (if isPlainQuotient body then (quotient body).toOption else none) = plain
  cases numeral with
  | some x => rfl
  | none =>
      cases plain with
      | some x => rfl
      | none =>
          cases finiteValue body with
          | ok x => rfl
          | error reason => exact Except.toOption_mapError _ _

theorem number_congr (h : SameLetters s.toList t.toList) (whole whole' : String) :
    (number s whole).toOption = (number t whole').toOption := by
  rw [number_toOption, number_toOption, numeral?_congr h, isPlainQuotient_congr h, quotient_congr h,
    finiteValue_congr h]

theorem dropDegreeMark?_congr {s t : List Char} (h : SameLetters s t) :
    Option.Rel SameLetters (dropDegreeMark? s) (dropDegreeMark? t) := by
  have reversed := h.reverse.dropBlanks
  have folded := reversed.map_eq fun _ _ h => h.congr (f := foldLetter) (by decide)
  unfold dropDegreeMark?
  dsimp only
  rw [folded]
  cases degreeMarks.find? _ with
  | none => exact .none
  | some mark => exact .some (SameLetters.dropBlanks (List.forall₂_drop _ reversed)).reverse

theorem hasDegreeMark_congr (h : SameLetters s.toList t.toList) :
    hasDegreeMark (.text s) = hasDegreeMark (.text t) := by
  have marks := dropDegreeMark?_congr h
  rw [hasDegreeMark, hasDegreeMark]
  generalize dropDegreeMark? s.toList = marked at marks
  generalize dropDegreeMark? t.toList = marked' at marks
  cases marks with
  | none => rfl
  | some => rfl

theorem textValue_congr (h : SameLetters s.toList t.toList) :
    (textValue s).toOption = (textValue t).toOption := by
  have inside := sameLetters_strip h
  unfold textValue
  dsimp only
  have marks := dropDegreeMark?_congr inside
  generalize dropDegreeMark? (strip s).toList = marked at marks
  generalize dropDegreeMark? (strip t).toList = marked' at marks
  cases marks with
  | none => exact number_congr inside _ _
  | @some m m' same =>
      have marked := same.ofList
      have empty : (strip (String.ofList m)).isEmpty = (strip (String.ofList m')).isEmpty := by
        rw [Bool.eq_iff_iff, String.isEmpty_iff, String.isEmpty_iff]
        exact strip_eq_empty_congr marked
      dsimp only
      rw [empty]
      split
      next => rfl
      next =>
        rw [Except.toOption_map, Except.toOption_map, number_congr (sameLetters_strip marked)]

theorem isBlankText_congr (h : SameLetters s.toList t.toList) : isBlankText s = isBlankText t := by
  rw [Bool.eq_iff_iff, isBlankText_iff, isBlankText_iff, strip_eq_empty_congr h,
    (sameLetters_strip h).toLower]

/-- A text that is not blank gives its number, and a blank one gives none. -/
theorem read_toOption (s : String) : (Entry.read (.text s)).toOption =
    if isBlankText s then some none else (textValue s).toOption.map some := by
  rw [read_eq]
  split
  next => rfl
  next => rw [Except.toOption_map, Except.toOption_mapError]

theorem read_congr (h : SameLetters s.toList t.toList) :
    (Entry.read (.text s)).toOption = (Entry.read (.text t)).toOption := by
  rw [read_toOption, read_toOption, isBlankText_congr h, textValue_congr h]

end Entry

/-- What a text in ASCII stands for in a field, a number or nothing, it stands for in letters of
either case, whatever the units of the fields. The same holds of each way to read it alone: the word
for nothing, the degree mark, a numeral, a quotient and an expression. -/
theorem Selection.read_letterCase {s t : String} (ascii : ∀ c ∈ s.toList, c.toNat < 128)
    (same : s.toList.map Char.toLower = t.toList.map Char.toLower) :
    (∀ unit unit' value, Selection.read ⟨unit, .text s⟩ = .ok value ↔
        Selection.read ⟨unit', .text t⟩ = .ok value) ∧
      Entry.isBlankText s = Entry.isBlankText t ∧
      Entry.hasDegreeMark (.text s) = Entry.hasDegreeMark (.text t) ∧
      Entry.numeral? s = Entry.numeral? t ∧
      (∀ x, Entry.quotient s = .ok x ↔ Entry.quotient t = .ok x) ∧
      ∀ x, Expression.evaluate s = .ok x ↔ Expression.evaluate t = .ok x := by
  have letters : Text.SameLetters s.toList t.toList := .of_toLower ascii same
  refine ⟨fun unit unit' value => ?_, Entry.isBlankText_congr letters,
    Entry.hasDegreeMark_congr letters, Entry.numeral?_congr letters, fun x => ?_, fun x => ?_⟩
  · exact Except.eq_ok_congr (Entry.read_congr letters) value
  · exact Except.eq_ok_congr (Entry.quotient_congr letters) x
  · exact Except.eq_ok_congr (Entry.evaluate_congr letters) x

/-- A call, a number in another base and a power of ten, in capitals and in small letters. -/
theorem Selection.call_letterCase :
    (∀ c ∈ "SQRT(0X10) * 1E2".toList, c.toNat < 128) ∧
      "SQRT(0X10) * 1E2".toList.map Char.toLower = "sqrt(0x10) * 1e2".toList.map Char.toLower ∧
      Selection.read ⟨"meters", .text "SQRT(0X10) * 1E2"⟩ = .ok (some 400) ∧
      ∀ unit, Selection.read ⟨unit, .text "sqrt(0x10) * 1e2"⟩ = .ok (some 400) := by
  have ascii : ∀ c ∈ "SQRT(0X10) * 1E2".toList, c.toNat < 128 := by
    have all : ("SQRT(0X10) * 1E2".toList.all fun c => c.toNat < 128) = true := by decide +kernel
    exact fun c mem => of_decide_eq_true (List.all_eq_true.mp all c mem)
  have same : "SQRT(0X10) * 1E2".toList.map Char.toLower =
      "sqrt(0x10) * 1e2".toList.map Char.toLower := by decide
  have filled : Entry.isBlankText "SQRT(0X10) * 1E2" = false := by decide +kernel
  have noSlash : '/' ∉ (Text.strip "SQRT(0X10) * 1E2").toList := by decide +kernel
  have value : Entry.textValue "SQRT(0X10) * 1E2" = .ok 400 :=
    (Entry.textValue_eq_evaluate (by decide +kernel)).1 _ (Entry.evaluate_eq (by decide +kernel))
      (by decide +kernel) fun _ plain => absurd (Entry.isPlainQuotient_iff.mp plain).1 noSlash
  have capitals : Selection.read ⟨"meters", .text "SQRT(0X10) * 1E2"⟩ = .ok (some 400) := by
    rw [Selection.read, ← Except.toOption_eq_some_iff, Entry.read_toOption, filled, value]
    rfl
  exact ⟨ascii, same, capitals, fun unit =>
    ((Selection.read_letterCase ascii same).1 "meters" unit _).mp capitals⟩

end Astrolabe
