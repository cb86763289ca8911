import Astrolabe.Proofs.Entry.LetterCase
import Astrolabe.Proofs.Expression.Slashed
import Astrolabe.Proofs.Number.Magnitude

/-!
Entries of numbers between slashes. Such an entry is split at its last slash, and what is before it
is read in the general notation, which divides from the left. Both refuse a zero divisor, but only
the split refuses a quotient beyond the range at once; the general notation goes on with it, and no
further division makes it finite again. So a partial quotient that is not finite is refused wherever
it stands.
-/

namespace Astrolabe

namespace Entry

open Expression Number

/-! Quotients in a row. -/

/-- The quotient of two numbers, if it is one and finite. -/
def finiteQuotient? (x y : Float) : Option Float :=
  if y == 0 then none else if (x / y).isFinite then some (x / y) else none

/-- No divisor is zero and all partial quotients are finite, the first number among them. -/
def DividesInTurn (x : Float) (ys : List Float) : Prop :=
  (∀ y ∈ ys, (y == 0) = false) ∧ ∀ q ∈ ys.scanl (· / ·) x, q.isFinite = true

theorem dividesInTurn_cons {x y : Float} {ys : List Float} (finite : x.isFinite = true) :
    DividesInTurn x (y :: ys) ↔ (y == 0) = false ∧ DividesInTurn (x / y) ys := by
  simp only [DividesInTurn, List.scanl_cons, List.forall_mem_cons, finite, true_and, and_assoc]

theorem finiteQuotients_eq_some_iff {x q : Float} {ys : List Float} (finite : x.isFinite = true) :
    ys.foldlM finiteQuotient? x = some q ↔ DividesInTurn x ys ∧ q = ys.foldl (· / ·) x := by
  induction ys generalizing x with
  | nil => simp [DividesInTurn, finite, pure, @eq_comm _ q]
  | cons y rest ih =>
      rw [List.foldlM_cons, List.foldl_cons, dividesInTurn_cons finite, finiteQuotient?]
      cases zero : y == 0 with
      | true => simp
      | false =>
          cases next : (x / y).isFinite with
          | true => simpa using ih next
          | false =>
              have stops : ¬DividesInTurn (x / y) rest := fun divides => by
                have := divides.2 (x / y) (by cases rest <;> simp)
                rw [next] at this
                cases this
              simp [stops]

/-- A quotient that is not finite is not made finite by dividing it. -/
theorem isFinite_of_quotients {x q : Float} {ys : List Float}
    (run : ys.foldlM Elementary.div x = .ok q) (finite : q.isFinite = true) :
    x.isFinite = true := by
  induction ys generalizing x with
  | nil =>
      cases run
      exact finite
  | cons y rest ih =>
      rw [List.foldlM_cons, Elementary.div] at run
      obtain ⟨p, step, run⟩ := Except.bind_eq_ok_iff.mp run
      split at step
      next => cases step
      next =>
        cases step
        exact Binary64.isFinite_of_div (ih run)

/-- Where only the last quotient is asked to be finite, all are. -/
theorem quotients_toOption {x : Float} (ys : List Float) (finite : x.isFinite = true) :
    (ys.foldlM Elementary.div x).toOption.filter Float.isFinite = ys.foldlM finiteQuotient? x := by
  induction ys generalizing x with
  | nil => exact Option.filter_some_pos finite
  | cons y rest ih =>
      rw [List.foldlM_cons, List.foldlM_cons, Elementary.div, finiteQuotient?]
      cases zero : y == 0 with
      | true => rfl
      | false =>
          cases next : (x / y).isFinite with
          | true => exact ih next
          | false =>
              refine Option.filter_eq_none_iff.mpr fun q run last => ?_
              have first := isFinite_of_quotients (Except.toOption_eq_some_iff.mp run) last
              rw [next] at first
              cases first

/-! The two ways to read. -/

variable {s : String} {a : Atom} {d : Divisor} {ds : List Divisor}

/-- The values of the divisors. -/
def divisors (ds : List Divisor) : List Float :=
  ds.map (·.atom.value)

theorem finiteValue_slashed (text : Text.strip s = String.ofList (slashed a ds)) :
    (finiteValue s).toOption = (divisors ds).foldlM finiteQuotient? a.value := by
  rw [finiteValue_toOption, evaluate_slashed text, ← quotients_toOption _ a.isFinite_value,
    divisors]
  cases List.foldlM Elementary.div a.value (ds.map (·.atom.value)) <;> rfl

theorem slash_mem_slashed (a : Atom) (d : Divisor) (ds : List Divisor) :
    '/' ∈ slashed a (d :: ds) := by
  simp [slashed_cons]

/-- No constant and no numeral has a slash. -/
theorem operand_of_slash (slash : '/' ∈ (Text.strip s).toList) :
    (operand s).toOption = (finiteValue (Text.strip s)).toOption := by
  have noConstant : constantNamed? (Text.lower (Text.strip s)) = none := by
    refine Option.eq_none_iff_forall_ne_some.mpr fun x named => ?_
    obtain pi | capital | letter := constant_chars (mem_constantNames named) '/' slash
    · exact absurd pi (by decide)
    · exact absurd capital (by decide)
    · exact absurd letter (by decide)
  rw [operand_toOption, noConstant, numeral?_of_slash slash, Option.none_or, Option.none_or]

theorem operand_slashed (text : Text.strip s = String.ofList (slashed a ds)) :
    (operand s).toOption = (divisors ds).foldlM finiteQuotient? a.value := by
  cases ds with
  | nil =>
      rw [operand_eq_ok (evaluate_slashed text) a.isFinite_value]
      rfl
  | cons d rest =>
      have slash : '/' ∈ (Text.strip s).toList := by
        rw [text, String.toList_ofList]
        exact slash_mem_slashed a d rest
      rw [operand_of_slash slash, finiteValue_slashed ((Text.strip_strip s).trans text)]

theorem splitAtLastSlash?_append {before after : List Char} (noSlash : '/' ∉ after) :
    splitAtLastSlash? (before ++ '/' :: after) = some (before, after) := by
  have behind : ∀ c ∈ after.reverse, (c != '/') = true := fun c mem =>
    bne_iff_ne.mpr fun same => noSlash (same ▸ List.mem_reverse.mp mem)
  have reversed : (before ++ '/' :: after).reverse = after.reverse ++ '/' :: before.reverse := by
    simp
  rw [splitAtLastSlash?, reversed, List.span_eq_takeWhile_dropWhile,
    List.takeWhile_append_of_pos behind, List.dropWhile_append_of_pos behind]
  simp

/-- A text is divided at its last slash, unless it is blank on one side of it. -/
theorem quotient_append {before after : List Char} (noSlash : '/' ∉ after)
    (visible : before.all Text.isBlank = false) (visible' : after.all Text.isBlank = false) :
    (quotient (String.ofList (before ++ '/' :: after))).toOption =
      (operand (String.ofList before)).toOption.bind fun x =>
        (operand (String.ofList after)).toOption.bind fun y => finiteQuotient? x y := by
  rw [quotient_toOption, String.toList_ofList, splitAtLastSlash?_append noSlash, Option.bind_some]
  simp only [visible, visible', Bool.or_self, Bool.false_eq_true, if_false, finiteQuotient?]

/-- A text with an atom in it is not blank. -/
theorem all_isBlank_atom (a : Atom) (before after : List Char) :
    (before ++ (a.chars ++ after)).all Text.isBlank = false := by
  obtain ⟨c, rest, chars⟩ := List.exists_cons_of_ne_nil a.chars_ne_nil
  have visible := (isBlank_of_isInk (a.ink c (chars ▸ List.mem_cons_self ..))).1
  simp [chars, visible]

/-- The split at the last slash divides what the part before it gives by the last atom. -/
theorem quotient_slashed (a : Atom) (ds : List Divisor) (d : Divisor) :
    (quotient (String.ofList (slashed a (ds ++ [d])))).toOption =
      (divisors (ds ++ [d])).foldlM finiteQuotient? a.value := by
  have left : (operand (String.ofList (slashed a ds ++ spaces d.before))).toOption =
      (divisors ds).foldlM finiteQuotient? a.value :=
    operand_slashed (strip_slashed 0 d.before a ds)
  have right : (operand (String.ofList (spaces d.after ++ d.atom.chars))).toOption =
      some d.atom.value := by
    have alone := strip_slashed d.after 0 d.atom []
    have chars : slashed d.atom [] ++ spaces 0 = d.atom.chars := by simp [slashed, spaces]
    rw [chars] at alone
    exact operand_slashed alone
  have visible : (slashed a ds ++ spaces d.before).all Text.isBlank = false := by
    rw [slashed, List.append_assoc]
    exact all_isBlank_atom a [] _
  have visible' : (spaces d.after ++ d.atom.chars).all Text.isBlank = false := by
    rw [← List.append_nil d.atom.chars]
    exact all_isBlank_atom d.atom (spaces d.after) []
  have noSlash : '/' ∉ spaces d.after ++ d.atom.chars := by simp [spaces, d.atom.slash_not_mem]
  rw [slashed_concat, quotient_append noSlash visible visible', left, right, divisors, divisors,
    List.map_append, List.foldlM_append]
  refine congrArg _ (funext fun x => ?_)
  simp

/-- A text with slashes is tried as a quotient and in the general notation, with the same result. -/
theorem number_slashed (whole : String) (a : Atom) (d : Divisor) (ds : List Divisor) :
    (number (String.ofList (slashed a (d :: ds))) whole).toOption =
      (divisors (d :: ds)).foldlM finiteQuotient? a.value := by
  obtain ⟨front, last, same⟩ := List.eq_nil_or_concat (d :: ds) |>.resolve_left nofun
  rw [List.concat_eq_append] at same
  have slash : '/' ∈ (String.ofList (slashed a (d :: ds))).toList := by
    rw [String.toList_ofList]
    exact slash_mem_slashed a d ds
  rw [number_toOption, numeral?_of_slash slash,
    finiteValue_slashed (strip_slashed_self a (d :: ds)), Option.none_or, same,
    quotient_slashed a front last]
  split <;> simp

/-! Whole entries. -/

/-- No degree mark ends with a character of an atom. -/
theorem dropDegreeMark?_slashed (a : Atom) (ds : List Divisor) :
    dropDegreeMark? (slashed a ds) = none := by
  rw [dropDegreeMark?_eq_none]
  obtain ⟨c, last, b, mem⟩ := last_slashed a ds
  obtain ⟨before, same⟩ := List.getLast?_eq_some_iff.mp last
  have visible := (isBlank_of_isInk (b.ink c mem)).1
  have ends : ∀ mark ∈ degreeMarks, mark.head?.any (· ∈ ['s', 'g', '°']) = true := by decide
  have apart : foldLetter c ∉ ['s', 'g', '°'] :=
    Atom.forall_chars (P := (foldLetter · ∉ ['s', 'g', '°'])) (by decide) (by decide) mem
  intro mark isMark begins
  have ending := ends mark isMark
  rw [same, List.reverse_append, List.reverse_singleton, List.singleton_append,
    List.dropWhile_cons_of_neg (ne_true_of_eq_false visible), List.map_cons] at begins
  cases mark with
  | nil => cases ending
  | cons m rest => exact apart ((List.cons_prefix_cons.mp begins).1 ▸ of_decide_eq_true ending)

theorem textValue_slashed (text : Text.strip s = String.ofList (slashed a (d :: ds))) :
    (textValue s).toOption = (divisors (d :: ds)).foldlM finiteQuotient? a.value := by
  unfold textValue
  dsimp only
  rw [text, String.toList_ofList, dropDegreeMark?_slashed]
  exact number_slashed _ a d ds

theorem isBlankText_slashed (text : Text.strip s = String.ofList (slashed a (d :: ds))) :
    isBlankText s = false := by
  have slash := slash_mem_slashed a d ds
  rw [Bool.eq_false_iff, Ne, isBlankText_iff, text, String.toList_ofList]
  rintro (empty | null)
  · rw [← String.toList_inj, String.toList_ofList] at empty
    rw [empty] at slash
    cases slash
  · have mem : '/' ∈ "null".toList := null ▸ List.mem_map_of_mem (f := Char.toLower) slash
    exact absurd mem (by decide)

end Entry

open Expression Entry in
/-- Numbers between slashes are divided from the left. An entry of two or more constants and
unsigned numerals with finite values, with slashes between them and any spaces around them, stands
for the first of them divided by the others in turn where no divisor is zero and all partial
quotients are finite, and is refused as a whole otherwise. -/
theorem Selection.read_slashed (unit : String) (m n : ℕ) (a : Atom) (d : Divisor)
    (ds : List Divisor) :
    (DividesInTurn a.value (divisors (d :: ds)) →
      Selection.read ⟨unit, .text (String.ofList (spaces m ++ (slashed a (d :: ds) ++ spaces n)))⟩ =
        .ok (some ((divisors (d :: ds)).foldl (· / ·) a.value))) ∧
    (¬DividesInTurn a.value (divisors (d :: ds)) →
      ∃ reason, Selection.read
          ⟨unit, .text (String.ofList (spaces m ++ (slashed a (d :: ds) ++ spaces n)))⟩ =
        .error (.refused ⟨String.ofList (slashed a (d :: ds)), reason⟩)) := by
  have text := strip_slashed m n a (d :: ds)
  generalize String.ofList (spaces m ++ (slashed a (d :: ds) ++ spaces n)) = s at text
  have value := textValue_slashed text
  have quotients (q : Float) : (divisors (d :: ds)).foldlM finiteQuotient? a.value = some q ↔ _ :=
    finiteQuotients_eq_some_iff a.isFinite_value
  rw [Selection.read, Entry.read_eq, isBlankText_slashed text, if_neg Bool.false_ne_true]
  constructor
  · intro divides
    rw [(quotients _).mpr ⟨divides, rfl⟩, Except.toOption_eq_some_iff] at value
    rw [value]
    rfl
  · intro stuck
    obtain ⟨q, -, ok⟩ | ⟨reason, refused⟩ := textValue_outcome s
    · rw [ok] at value
      exact absurd ((quotients q).mp value.symm).1 stuck
    · exact ⟨reason, by rw [refused, text]; rfl⟩

/-- Zeros are a divisor like any other one. -/
theorem Selection.read_zeros_slashed :
    Selection.read ⟨"meters", .text " 1 / 2/4"⟩ = .ok (some 0.125) ∧
      ∃ reason, Selection.read ⟨"meters", .text "1/ 00"⟩ = .error (.refused ⟨"1/ 00", reason⟩) := by
  let number (c : Char) (digit : c.isDigit = true) finite : Expression.Atom :=
    .numeral (.single c digit) finite
  let one := number '1' rfl (by decide +kernel)
  let two := number '2' rfl (by decide +kernel)
  let four := number '4' rfl (by decide +kernel)
  let zeros : Expression.Atom :=
    .zeros ⟨'0', [(false, '0')], rfl, by simp⟩ (by simp [Expression.DigitRow.digits])
  have eighth := (Selection.read_slashed "meters" 1 0 one ⟨1, 1, two⟩ [⟨0, 0, four⟩]).1
    ⟨by decide +kernel, by decide +kernel⟩
  have noQuotient := (Selection.read_slashed "meters" 0 0 one ⟨0, 1, zeros⟩ []).2
    fun divides => absurd (divides.1 _ (List.mem_cons_self ..)) (by decide +kernel)
  have value : (Entry.divisors [⟨1, 1, two⟩, ⟨0, 0, four⟩]).foldl (· / ·) one.value = 0.125 := by
    decide +kernel
  rw [value] at eighth
  exact ⟨eighth, noQuotient⟩

end Astrolabe
