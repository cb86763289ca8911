import Astrolabe.Proofs.Entry
import Astrolabe.Proofs.Entry.Quotient
import Astrolabe.Proofs.Resolution.Problem
import Astrolabe.Proofs.Text.Compact

/-!
Degree marks. A mark behind a text is taken off once, with the blanks around it, and what is left is
read as the text without the mark is read. The number is then in radians, whatever the unit of the
field, so the unit has no part in the canonical value.
-/

namespace Astrolabe

namespace Entry

/-- The sign and the words for degrees. -/
def degreeWords : List (List Char) :=
  [['°'], "deg".toList, "degrees".toList]

/-- A degree mark as it may be written: the sign or one of the words, in letters of either case and
with any blanks before and behind. -/
inductive DegreeMark : List Char → Prop
  | intro {before word after : List Char} (named : word.map foldLetter ∈ degreeWords)
      (blank : ∀ c ∈ before, Text.isBlank c = true) (blank' : ∀ c ∈ after, Text.isBlank c = true) :
      DegreeMark (before ++ (word ++ after))

/-! The letters of a mark. -/

theorem foldLetter_of_blank {c : Char} (blank : Text.isBlank c = true) : foldLetter c = c := by
  have notLong : (c == 'ſ') = false := by
    apply beq_false_of_ne
    intro long
    rw [long] at blank
    cases blank
  rw [foldLetter, notLong, if_neg Bool.false_ne_true]
  obtain ascii | outside := Nat.lt_or_ge c.toNat 128
  · have same := Text.lowerChar_of_blank blank
    rwa [Text.lowerChar, if_pos ascii] at same
  · exact Text.toLower_of_not_ascii outside

theorem visible_of_named {word : List Char} (named : word.map foldLetter ∈ degreeWords) {c : Char}
    (mem : c ∈ word) : Text.isBlank c = false := by
  have visible : (degreeWords.all fun letters => letters.all fun d => !Text.isBlank d) = true := by
    decide +kernel
  have letters := List.all_eq_true.mp (List.all_eq_true.mp visible _ named)
  have letter : Text.isBlank (foldLetter c) = false := by
    simpa using letters _ (List.mem_map_of_mem mem)
  cases blank : Text.isBlank c with
  | false => rfl
  | true => rwa [foldLetter_of_blank blank, blank] at letter

/-- The last letter of a mark is none of the word null. -/
theorem last_of_named {word : List Char} (named : word.map foldLetter ∈ degreeWords) :
    ∃ front c, word = front ++ [c] ∧ c.toLower ≠ 'l' := by
  have nonempty : [] ∉ degreeWords := by decide
  have others : ∀ letters ∈ degreeWords, letters.getLast? ≠ some 'l' := by decide
  obtain rfl | ⟨front, c, rfl⟩ := List.eq_nil_or_concat word
  · exact absurd named nonempty
  · refine ⟨front, c, by simp, fun small => ?_⟩
    have notLong : (c == 'ſ') = false := by
      apply beq_false_of_ne
      intro long
      rw [long] at small
      exact absurd small (by decide)
    apply others _ named
    simp [foldLetter, notLong, small]

/-! Taking the mark off. -/

theorem find?_degreeMarks {letters : List Char} (named : letters ∈ degreeWords)
    (behind : List Char) :
    degreeMarks.find? (fun mark => mark.isPrefixOf (letters.reverse ++ behind)) =
      some letters.reverse := by
  simp only [degreeWords, List.mem_cons, List.not_mem_nil, or_false] at named
  obtain rfl | rfl | rfl := named <;> rfl

/-- Of a text and a mark behind it the text is left, without the blanks at its end. -/
theorem dropDegreeMark?_append {m : List Char} (mark : DegreeMark m) (s : List Char) :
    dropDegreeMark? (s ++ m) = some (Text.stripEnd s) := by
  cases mark with
  | @intro before word after named blank blank' =>
      have ends : (s ++ (before ++ (word ++ after))).reverse.dropWhile Text.isBlank =
          word.reverse ++ (before.reverse ++ s.reverse) := by
        have shown : ∀ c ∈ word.reverse.head?, ¬Text.isBlank c = true := by
          intro c first
          have mem := List.mem_of_mem_head? first
          exact ne_true_of_eq_false (visible_of_named named (List.mem_reverse.mp mem))
        have nonempty : word ≠ [] := by
          obtain ⟨front, c, rfl, -⟩ := last_of_named named
          simp
        simp only [List.reverse_append, List.append_assoc]
        rw [List.dropWhile_append_of_pos fun c mem => blank' c (List.mem_reverse.mp mem)]
        cases back : word.reverse with
        | nil => exact absurd (List.reverse_eq_nil_iff.mp back) nonempty
        | cons c rest => exact List.dropWhile_cons_of_neg (shown c (by rw [back]; rfl))
      have found := find?_degreeMarks named ((before.reverse ++ s.reverse).map foldLetter)
      rw [← List.map_reverse, ← List.map_append] at found
      have left : (word.reverse ++ (before.reverse ++ s.reverse)).drop
          (word.reverse.map foldLetter).length = before.reverse ++ s.reverse := by
        rw [List.length_map, List.drop_left]
      simp only [dropDegreeMark?, ends, found, Option.map_some, left]
      rw [List.dropWhile_append_of_pos fun c mem => blank c (List.mem_reverse.mp mem),
        Text.stripEnd]

/-- Without the blanks around them, a text and a mark behind it are still a text and a mark. -/
theorem strip_append {s m : String} (mark : DegreeMark m.toList) (filled : Text.strip s ≠ "") :
    ∃ m', DegreeMark m' ∧ Text.strip (s ++ m) = String.ofList (Text.stripStart s.toList ++ m') ∧
      ∃ front c, m' = front ++ [c] ∧ c.toLower ≠ 'l' := by
  generalize chars : m.toList = marked at mark
  cases mark with
  | @intro before word after named blank blank' =>
      obtain ⟨front, last, rfl, notL⟩ := last_of_named named
      refine ⟨before ++ (front ++ [last]), ?_, ?_, before ++ front, last, by simp, notL⟩
      · have bare : DegreeMark (before ++ (front ++ [last] ++ [])) := .intro named blank nofun
        rwa [List.append_nil] at bare
      · have parts : (s ++ m) = String.ofList (s.toList.takeWhile Text.isBlank ++
            ((Text.stripStart s.toList ++ (before ++ (front ++ [last]))) ++ after)) := by
          rw [← String.toList_inj, String.toList_append, String.toList_ofList, chars,
            Text.stripStart]
          simp only [← List.append_assoc, List.takeWhile_append_dropWhile]
        rw [parts]
        apply Text.strip_between
        · exact fun c mem => List.mem_takeWhile_imp mem
        · exact blank'
        · intro c first
          cases start : Text.stripStart s.toList with
          | nil => exact absurd (by rw [Text.strip, start]; rfl) filled
          | cons d rest =>
              rw [start] at first
              cases first
              have visible := List.head?_dropWhile_not Text.isBlank s.toList
              rw [← Text.stripStart, start] at visible
              exact visible
        · intro c ending
          have same : c = last := by simpa using ending.symm
          rw [same]
          exact visible_of_named named (by simp)

/-! Reading what is left. -/

/-- A refusal is about the whole entry; all else depends on the body. -/
theorem number_whole (body whole whole' : String) :
    number body whole' = (number body whole).mapError fun r => ⟨whole', r.reason⟩ := by
  unfold number
  split
  next => rfl
  next =>
    split
    next => rfl
    next =>
      split
      next => rfl
      next => cases quotient body <;> rfl

/-- A text with a mark behind it stands for the number of the text in radians, or both are refused
for one reason. -/
theorem textValue_append {s m : String} (mark : DegreeMark m.toList) (filled : Text.strip s ≠ "")
    (unmarked : hasDegreeMark (.text s) = false) :
    textValue (s ++ m) = ((textValue s).map (· * radiansPerDegree)).mapError
      fun r => ⟨Text.strip (s ++ m), r.reason⟩ := by
  obtain ⟨m', mark', stripped, -⟩ := strip_append mark filled
  have dropped : dropDegreeMark? (Text.strip (s ++ m)).toList = some (Text.strip s).toList := by
    rw [stripped, String.toList_ofList, dropDegreeMark?_append mark', Text.strip,
      String.toList_ofList]
  have nonempty : (Text.strip s).isEmpty = false := by simpa using filled
  rw [textValue_of_unmarked unmarked, textValue]
  simp only [dropped, String.ofList_toList, Text.strip_strip, nonempty, Bool.false_eq_true,
    if_false]
  rw [number_whole (Text.strip s) (Text.strip s) (Text.strip (s ++ m))]
  cases number (Text.strip s) (Text.strip s) <;> rfl

theorem isBlankText_append {s m : String} (mark : DegreeMark m.toList)
    (filled : Text.strip s ≠ "") : isBlankText (s ++ m) = false := by
  obtain ⟨m', -, stripped, front, c, rfl, notL⟩ := strip_append mark filled
  refine Bool.eq_false_iff.mpr fun blank => ?_
  rw [isBlankText_iff, stripped] at blank
  obtain empty | null := blank
  · have : Text.stripStart s.toList ++ (front ++ [c]) = [] := by
      simpa using congrArg String.toList empty
    simp at this
  · have last := congrArg List.getLast? null
    rw [String.toList_ofList] at last
    apply notL
    simpa using last

end Entry

/-- A text that is not blank is read for its number. -/
theorem Selection.read_of_filled {s : String} (filled : Entry.isBlankText s = false)
    (unit : String) : Selection.read ⟨unit, .text s⟩ =
      ((Entry.textValue s).mapError Entry.Failure.refused).map some := by
  rw [Selection.read, Entry.read_eq, filled]
  rfl

namespace Solver

/-- The canonical value of a number of radians for a variable. -/
def fromRadians (f : Formula) (v : Variable) (x : Float) : Except Failure Float :=
  let converted := (Unit.toCanonical x "radians" v.unit).1
  if converted.isFinite then .ok converted else .error (.refused (.outOfRange f.id v.symbol v.unit))

/-- A mark makes radians of an entry in a field for any unit. -/
theorem sourceUnit_of_marked {entry : Datum} (marked : Entry.hasDegreeMark entry = true)
    (unit : String) : sourceUnit ⟨unit, entry⟩ = "radians" := by
  simp only [sourceUnit, marked, if_true]

theorem canonicalValue_of_marked {entry : Datum} (marked : Entry.hasDegreeMark entry = true)
    (f : Formula) (v : Variable) (unit unit' : String) :
    canonicalValue f v ⟨unit, entry⟩ = canonicalValue f v ⟨unit', entry⟩ := by
  simp only [canonicalValue, sourceUnit_of_marked marked]

theorem canonical_of_marked {entry : Datum} (marked : Entry.hasDegreeMark entry = true)
    (f : Formula) (v : Variable) (unit : String) :
    canonical f v ⟨unit, entry⟩ =
      ((Entry.value entry).mapError Failure.ofEntry).bind (fromRadians f v) := by
  simp only [canonical, sourceUnit_of_marked marked]
  rfl

theorem canonicalValue_run {f : Formula} {v : Variable} {selection : Selection} (t : Trace) :
    ((canonicalValue f v selection).run.run t).1 = canonical f v selection := by
  obtain ⟨added, run, -⟩ := canonicalValue_yields f v selection t
  rw [run]

/-- A text that is not blank and has no degree mark, with a mark behind it, has a mark. It stands
for the number of the text times the radians of a degree, and that is taken to the canonical unit
from radians; or both are refused for one reason, each as a whole. The unit of the field changes
neither the outcome nor what is on record. -/
theorem canonicalValue_degrees {s m : String} (filled : Entry.isBlankText s = false)
    (unmarked : Entry.hasDegreeMark (.text s) = false) (mark : Entry.DegreeMark m.toList) :
    Entry.hasDegreeMark (.text (s ++ m)) = true ∧
      ((∃ x, (∀ unit, Selection.read ⟨unit, .text s⟩ = .ok (some x)) ∧
          (∀ unit, Selection.read ⟨unit, .text (s ++ m)⟩ =
            .ok (some (x * Entry.radiansPerDegree))) ∧
          ∀ f v unit t, ((canonicalValue f v ⟨unit, .text (s ++ m)⟩).run.run t).1 =
            fromRadians f v (x * Entry.radiansPerDegree)) ∨
        ∃ reason,
          (∀ unit, Selection.read ⟨unit, .text s⟩ =
            .error (.refused ⟨Text.strip s, reason⟩)) ∧
          (∀ unit, Selection.read ⟨unit, .text (s ++ m)⟩ =
            .error (.refused ⟨Text.strip (s ++ m), reason⟩)) ∧
          ∀ f v unit t, ((canonicalValue f v ⟨unit, .text (s ++ m)⟩).run.run t).1 =
            .error (.ofEntry (.refused ⟨Text.strip (s ++ m), reason⟩))) ∧
      ∀ f v unit unit',
        canonicalValue f v ⟨unit, .text (s ++ m)⟩ = canonicalValue f v ⟨unit', .text (s ++ m)⟩ := by
  have shows : Text.strip s ≠ "" := by
    intro empty
    simp [Entry.isBlankText, empty] at filled
  have marked : Entry.hasDegreeMark (.text (s ++ m)) = true := by
    rw [Entry.hasDegreeMark, String.toList_append, Entry.dropDegreeMark?_append mark]
    rfl
  have value := Entry.textValue_append mark shows unmarked
  have filled' := Entry.isBlankText_append mark shows
  refine ⟨marked, ?_, canonicalValue_of_marked marked⟩
  obtain ⟨x, -, ok⟩ | ⟨reason, refused⟩ := Entry.textValue_outcome s
  · rw [ok] at value
    refine .inl ⟨x, fun unit => ?_, fun unit => ?_, fun f v unit t => ?_⟩
    · rw [Selection.read_of_filled filled, ok]
      rfl
    · rw [Selection.read_of_filled filled', value]
      rfl
    · rw [canonicalValue_run, canonical_of_marked marked, Entry.value, value]
      rfl
  · rw [refused] at value
    refine .inr ⟨reason, fun unit => ?_, fun unit => ?_, fun f v unit t => ?_⟩
    · rw [Selection.read_of_filled filled, refused]
      rfl
    · rw [Selection.read_of_filled filled', value]
      rfl
    · rw [canonicalValue_run, canonical_of_marked marked, Entry.value, value]
      rfl

/-- Forty-five degrees, with the mark in capitals and between blanks. -/
theorem fortyFive_degrees :
    Entry.isBlankText "45" = false ∧ Entry.hasDegreeMark (.text "45") = false ∧
      Entry.DegreeMark " DEG ".toList ∧ Entry.hasDegreeMark (.text ("45" ++ " DEG ")) = true ∧
      ∀ unit, Selection.read ⟨unit, .text ("45" ++ " DEG ")⟩ =
        .ok (some (45 * Entry.radiansPerDegree)) := by
  have filled : Entry.isBlankText "45" = false := by decide +kernel
  have unmarked : Entry.hasDegreeMark (.text "45") = false := by decide +kernel
  have mark : Entry.DegreeMark " DEG ".toList := by
    have blank : ∀ c ∈ [' '], Text.isBlank c = true := List.forall_mem_singleton.mpr rfl
    have parts : Entry.DegreeMark ([' '] ++ ("DEG".toList ++ [' '])) :=
      .intro (by decide +kernel) blank blank
    exact parts
  have number : Entry.textValue "45" = .ok 45 :=
    Except.toOption_eq_some_iff.mp (by decide +kernel)
  obtain ⟨marked, ⟨x, plain, radians, -⟩ | ⟨reason, refused, -⟩, -⟩ :=
    canonicalValue_degrees filled unmarked mark
  · have read := plain "degrees"
    rw [Selection.read_of_filled filled, number] at read
    cases read
    exact ⟨filled, unmarked, mark, marked, radians⟩
  · have read := refused "degrees"
    rw [Selection.read_of_filled filled, number] at read
    cases read

end Solver

end Astrolabe
