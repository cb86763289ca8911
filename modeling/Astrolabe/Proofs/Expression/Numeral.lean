import Astrolabe.Expression.Lexer
import Astrolabe.Proofs.Number.Numeral

/-!
The lexer on numerals. A numeral in digits of any script is cut off as one token that stands for the
same number, or the lexer stops: at a digit outside ASCII, at a zero in front or at too many digits.
-/

namespace Astrolabe.Expression

open Number Text

/-! Where a numeral cannot end. -/

theorem isWordPart_of_outside {c : Char} (h : 128 ≤ c.toNat) : isWordPart c = true := by
  simp [isWordPart, h]

/-- A numeral cannot end before this text. -/
def Blocked (s : List Char) : Prop :=
  endsNumeral s = false ∧ ∀ d, finishDecimal d s = none

theorem blocked_iff {c : Char} {rest : List Char} (plain : c ≠ 'j' ∧ c ≠ 'J') :
    Blocked (c :: rest) ↔ endsNumeral (c :: rest) = false := by
  refine ⟨And.left, fun h => ⟨h, fun d => ?_⟩⟩
  unfold finishDecimal
  split
  next same => exact absurd (List.cons.inj same).1 plain.1
  next same => exact absurd (List.cons.inj same).1 plain.2
  next => rw [h, if_neg Bool.false_ne_true]

theorem blocked_of_foreign {s : List Char} (h : Foreign s) : Blocked s := by
  obtain ⟨c, rest, rfl, outside⟩ := h
  have other {d : Char} (ascii : d.toNat < 128) : c ≠ d := by
    rintro rfl
    omega
  have ascii : ∀ word ∈ closeWords, word.head?.any (fun d => d.toNat < 128) = true := by decide
  have noWord : closeWords.any (fun word => word.isPrefixOf (c :: rest)) = false := by
    refine List.any_eq_false.mpr fun word mem => ?_
    have small := ascii word mem
    cases word with
    | nil => cases small
    | cons d tail =>
        have : c ≠ d := other (of_decide_eq_true small)
        simp [List.isPrefixOf, this.symm]
  rw [blocked_iff ⟨other (by decide), other (by decide)⟩, endsNumeral, noWord,
    isWordPart_of_outside outside]
  rfl

theorem blocked_of_mark {mark : Char} {rest : List Char} (h : mark = 'e' ∨ mark = 'E')
    (next : rest.head? ≠ some 'l') : Blocked (mark :: rest) := by
  have noWord : ['l', 's', 'e'].isPrefixOf rest = false := by
    cases rest with
    | nil => rfl
    | cons c rest =>
        have : 'l' ≠ c := fun same => next (congrArg some same.symm)
        simp [List.isPrefixOf, this]
  obtain rfl | rfl := h <;> rw [blocked_iff (by decide)] <;>
    simp [endsNumeral, isWordPart, closeWords, List.isPrefixOf, noWord]

/-! Runs of digits. -/

theorem digitRun_cons_of_isDigit {c : Char} {rest : List Char} (digit : c.isDigit = true) :
    digitRun Char.isDigit (c :: rest) =
      (digitRun Char.isDigit rest).map fun (ds, after) => (c :: ds, after) := by
  have plain : c ≠ '_' := by rintro rfl; exact absurd digit (by decide)
  rw [digitRun, if_pos digit] <;> simp [plain]

theorem digitRun_cons_of_not_isDigit {c : Char} {rest : List Char} (digit : c.isDigit = false)
    (plain : c ≠ '_') : digitRun Char.isDigit (c :: rest) = some ([], c :: rest) := by
  rw [digitRun, if_neg (by simp [digit])] <;> simp [plain]

theorem digitRun_eq {s : List Char} (h : (s.dropWhile Char.isDigit).head? ≠ some '_') :
    digitRun Char.isDigit s = some (s.takeWhile Char.isDigit, s.dropWhile Char.isDigit) := by
  induction s with
  | nil => rfl
  | cons c rest ih =>
      cases digit : c.isDigit with
      | true =>
          rw [List.dropWhile_cons_of_pos digit] at h ⊢
          rw [digitRun_cons_of_isDigit digit, ih h, List.takeWhile_cons_of_pos digit]
          rfl
      | false =>
          have notDigit : ¬c.isDigit = true := ne_true_of_eq_false digit
          rw [List.dropWhile_cons_of_neg notDigit] at h ⊢
          rw [digitRun_cons_of_not_isDigit digit (fun same => h (congrArg some same)),
            List.takeWhile_cons_of_neg notDigit]

theorem digits_eq {s : List Char} (h : (s.dropWhile Char.isDigit).head? ≠ some '_') :
    digits Char.isDigit s = some (s.takeWhile Char.isDigit, s.dropWhile Char.isDigit) := by
  cases s with
  | nil => rfl
  | cons c rest =>
      rw [digits]
      split
      next => exact digitRun_eq h
      next digit => rw [List.takeWhile_cons_of_neg digit, List.dropWhile_cons_of_neg digit]

/-- Digits of any script are read to their end if all are in ASCII, else up to one that is not. -/
theorem digitRun_asciiDigits {s : List Char} (all : (asciiDigits s).all Char.isDigit = true) :
    (asciiDigits s = s ∧ digitRun Char.isDigit s = some (s, [])) ∨
      ∃ run after, digitRun Char.isDigit s = some (run, after) ∧ Foreign after := by
  induction s with
  | nil => exact .inl ⟨rfl, rfl⟩
  | cons c rest ih =>
      rw [asciiDigits_cons, List.all_cons, Bool.and_eq_true] at all
      obtain same | ⟨outside, -, -⟩ := asciiDigit_cases c
      · rw [asciiDigits_cons, same, digitRun_cons_of_isDigit (same ▸ all.1)]
        obtain ⟨native, run⟩ | ⟨run, after, cut, foreign⟩ := ih all.2
        · exact .inl ⟨by rw [native], by rw [run]; rfl⟩
        · exact .inr ⟨c :: run, after, by rw [cut]; rfl, foreign⟩
      · refine .inr ⟨[], c :: rest, digitRun_cons_of_not_isDigit ?_ ?_, c, rest, rfl, outside⟩
        · exact ascii_isDigit_of_outside outside
        · rintro rfl
          exact absurd outside (by decide)

/-! Exponents. -/

theorem exponentCut_mark {mark : Char} {rest : List Char} (h : mark = 'e' ∨ mark = 'E') :
    exponentCut (mark :: rest) =
      if (exponentSign rest).2.2.head?.any Char.isDigit then
        (digitRun Char.isDigit (exponentSign rest).2.2).map fun (run, after) =>
          (some (if (exponentSign rest).1 then -(digitsValue run : ℤ) else digitsValue run), after)
      else if (exponentSign rest).2.1 then none
      else some (none, mark :: rest) :=
  if_pos (by simpa using h)

/-- The exponent of a numeral in digits of any script is read to the end of the text, or no numeral
can end where the reading of it stops. -/
theorem exponentCut_asciiDigits {s : List Char} {e : ℤ} (h : exponent? (asciiDigits s) = some e) :
    (s = [] ∧ e = 0) ∨ exponentCut s = some (some e, []) ∨
      ∀ o after, exponentCut s = some (o, after) → Blocked after := by
  cases s with
  | nil => exact .inl ⟨rfl, (Option.some.inj h).symm⟩
  | cons mark rest =>
      right
      rw [asciiDigits_cons] at h
      obtain ⟨isMark, nonempty, all, value⟩ := exponent?_cons h
      rw [exponentSign_asciiDigits] at nonempty all value
      dsimp only at nonempty all value
      have isMark : mark = 'e' ∨ mark = 'E' :=
        isMark.imp (eq_of_asciiDigit · rfl) (eq_of_asciiDigit · rfl)
      obtain ⟨c, more, digits⟩ : ∃ c more, (exponentSign rest).2.2 = c :: more :=
        List.ne_nil_iff_exists_cons.mp fun empty => nonempty (congrArg asciiDigits empty)
      rw [exponentCut_mark isMark]
      rw [digits] at all value ⊢
      obtain ⟨native, run⟩ | ⟨run, after, cut, foreign⟩ := digitRun_asciiDigits all
      · left
        rw [native] at all value
        have first : (c :: more).head?.any Char.isDigit = true := by
          rw [List.all_cons, Bool.and_eq_true] at all
          exact all.1
        rw [if_pos first, run, value]
        rfl
      · right
        intro o rest' same
        split at same
        next =>
          rw [cut] at same
          cases same
          exact blocked_of_foreign foreign
        next =>
          split at same
          next => cases same
          next unsigned =>
            cases same
            refine blocked_of_mark isMark ?_
            rw [← exponentSign_of_unsigned (Bool.eq_false_iff.mpr unsigned), digits]
            rintro ⟨⟩
            exact absurd all nofun

theorem exponentCut_of_foreign {s : List Char} (h : Foreign s) (o : Option ℤ) (after : List Char)
    (cut : exponentCut s = some (o, after)) : Blocked after := by
  obtain ⟨c, rest, rfl, outside⟩ := id h
  have notMark : ¬(c == 'e' || c == 'E') = true := by
    intro mark
    simp only [Bool.or_eq_true, beq_iff_eq] at mark
    obtain rfl | rfl := mark <;> exact absurd outside (by decide)
  simp only [exponentCut, notMark] at cut
  cases cut
  exact blocked_of_foreign h

/-! Numerals. -/

/-- A token stands for a decimal number. -/
def Token.Spells (d : Decimal) : Token → Prop
  | .decimal d' => d' = d
  | .whole n => d = ⟨n, 0⟩
  | _ => False

theorem decimalTail_blocked {whole fraction rest : List Char} {pointed : Bool}
    (blocked : ∀ o after, exponentCut rest = some (o, after) → Blocked after) :
    decimalTail whole fraction pointed rest = none := by
  unfold decimalTail
  cases cut : exponentCut rest with
  | none => rfl
  | some parts =>
      obtain ⟨o, after⟩ := parts
      obtain ⟨noEnd, noFinish⟩ := blocked o after cut
      simp only [bind, Option.bind, noEnd, noFinish, Bool.false_eq_true, if_false, ite_self]
      split
      next => rfl
      next => split <;> rfl

theorem decimalTail_asciiDigits {whole fraction rest after : List Char} {pointed : Bool} {e : ℤ}
    {token : Token} (h : exponent? (asciiDigits rest) = some e)
    (unpointed : pointed = false → fraction = [])
    (cut : decimalTail whole fraction pointed rest = some (token, after)) :
    after = [] ∧ token.Spells ⟨digitsValue (whole ++ fraction), e - fraction.length⟩ := by
  obtain ⟨rfl, rfl⟩ | ended | blocked := exponentCut_asciiDigits h
  · unfold decimalTail at cut
    cases pointed with
    | true =>
        cases cut
        exact ⟨rfl, rfl⟩
    | false =>
        obtain rfl := unpointed rfl
        simp only [exponentCut, bind, Option.bind, Option.isSome_none, Bool.or_self,
          Bool.false_eq_true, if_false, Option.ite_none_left_eq_some,
          Option.ite_none_right_eq_some] at cut
        cases cut.2.2.2
        exact ⟨rfl, by rw [Token.Spells, List.append_nil]; rfl⟩
  · unfold decimalTail at cut
    simp only [ended, bind, Option.bind, Option.isSome_some, Bool.or_true, if_true] at cut
    cases cut
    exact ⟨rfl, rfl⟩
  · rw [decimalTail_blocked blocked] at cut
    cases cut

theorem decimalCut_pointed {s whole more fraction rest : List Char}
    (h : digits Char.isDigit s = some (whole, '.' :: more))
    (behind : digits Char.isDigit more = some (fraction, rest)) :
    decimalCut s = decimalTail whole fraction true rest := by
  rw [decimalCut, h]
  change (digits Char.isDigit more).bind _ = _
  rw [behind]
  rfl

theorem decimalCut_plain {s whole rest : List Char}
    (h : digits Char.isDigit s = some (whole, rest)) (plain : rest.head? ≠ some '.') :
    decimalCut s = decimalTail whole [] false rest := by
  rw [decimalCut, h, Option.bind_eq_bind, Option.bind_some]
  dsimp only
  split
  next => exact absurd rfl plain
  next => rfl

/-- A numeral in digits of any script is cut off whole, if it can be. -/
theorem decimalCut_asciiDigits {s rest : List Char} {d : Decimal} {token : Token}
    (h : decimal? (asciiDigits s) = some d) (cut : decimalCut s = some (token, rest)) :
    rest = [] ∧ token.Spells d := by
  by_cases foreign : Foreign (s.dropWhile Char.isDigit)
  · rw [decimalCut_plain (digits_eq (foreign.head? (by decide))) (foreign.head? (by decide)),
      decimalTail_blocked (exponentCut_of_foreign foreign)] at cut
    cases cut
  obtain ⟨take, drop⟩ := asciiDigits_span foreign
  by_cases pointed : (s.dropWhile Char.isDigit).head? = some '.'
  · obtain ⟨more, point⟩ := List.head?_eq_some_iff.mp pointed
    rw [point, asciiDigits_cons, asciiDigit_of_ascii (by decide)] at drop
    have whole : digits Char.isDigit s = some (s.takeWhile Char.isDigit, '.' :: more) := by
      rw [digits_eq (by rw [pointed]; decide), point]
    obtain ⟨e, exponent, rfl⟩ := decimal?_pointed drop h
    by_cases foreign : Foreign (more.dropWhile Char.isDigit)
    · rw [decimalCut_pointed whole (digits_eq (foreign.head? (by decide))),
        decimalTail_blocked (exponentCut_of_foreign foreign)] at cut
      cases cut
    obtain ⟨take', drop'⟩ := asciiDigits_span foreign
    rw [drop'] at exponent
    rw [decimalCut_pointed whole (digits_eq (head?_of_exponent? exponent))] at cut
    rw [take, take']
    refine decimalTail_asciiDigits exponent ?_ cut
    exact nofun
  · obtain ⟨e, exponent, rfl⟩ := decimal?_plain (by
      rw [drop]
      exact fun point => pointed (head?_of_asciiDigits point rfl)) h
    rw [drop] at exponent
    rw [decimalCut_plain (digits_eq (head?_of_exponent? exponent)) pointed] at cut
    rw [take]
    exact decimalTail_asciiDigits exponent (fun _ => rfl) cut

/-- The marks of other bases stand nowhere in a decimal numeral. -/
theorem baseMark_apart {c : Char} (h : c.toLower ∈ ['x', 'o', 'b']) :
    c.toNat < 128 ∧ isNumeralChar c = false := by
  have small : (['x', 'o', 'b'].all fun d => d.toNat < 128) = true := by decide
  have ascii := ascii_of_toLower (of_decide_eq_true (List.all_eq_true.mp small _ h))
  exact ⟨ascii, forall_ascii (P := fun c => c.toLower ∈ ['x', 'o', 'b'] → isNumeralChar c = false)
    (by decide) ascii h⟩

/-- A numeral is decimal unless the mark of another base stands behind a zero. -/
theorem numeralCut_of_decimal {s : List Char}
    (decimal : ∀ c rest, s = '0' :: c :: rest → c.toLower ∉ ['x', 'o', 'b']) :
    numeralCut s = decimalCut s := by
  unfold numeralCut
  split
  next mark rest =>
    have other := decimal mark rest rfl
    split
    next same => exact absurd (by rw [same]; decide) other
    next same => exact absurd (by rw [same]; decide) other
    next same => exact absurd (by rw [same]; decide) other
    next => rfl
  next => rfl

/-- A decimal numeral is not cut off as one in another base. -/
theorem numeralCut_asciiDigits {s : List Char} {d : Decimal}
    (h : decimal? (asciiDigits s) = some d) : numeralCut s = decimalCut s := by
  refine numeralCut_of_decimal ?_
  rintro c rest rfl base
  exact not_mem_of_asciiDigits h (baseMark_apart base).1 (baseMark_apart base).2
    (List.mem_cons_of_mem _ (List.mem_cons_self ..))

/-! Steps of the lexer. -/

theorem lexSteps_nil (steps depth : ℕ) (done : List Token) :
    lexSteps steps depth done [] = some (if depth == 0 then endLine done else done) := by
  cases steps <;> rfl

theorem wordToken?_of_isDigit {c : Char} {rest : List Char} (outside : 128 ≤ c.toNat)
    (digit : Text.isDigit c = true) : wordToken? (c :: rest) = none := by
  have notKeyword : keywords.contains (String.ofList (c :: rest)) = false := by
    have ascii : ∀ word ∈ keywords, word.toList.head?.any (fun d => d.toNat < 128) = true := by
      decide
    refine Bool.eq_false_iff.mpr fun mem => ?_
    have small := ascii _ (List.contains_iff_mem.mp mem)
    rw [String.toList_ofList] at small
    have : c.toNat < 128 := of_decide_eq_true small
    omega
  have notName : Text.isName (c :: rest) = false := by
    rw [Text.isName, isNameStart_of_isDigit outside digit, Bool.false_and]
  unfold wordToken?
  simp only [notKeyword, notName, Bool.false_eq_true, if_false]

theorem literalMode?_of_outside {c : Char} {rest : List Char} (outside : 128 ≤ c.toNat) :
    literalMode? (c :: rest) = none := by
  have apart {s : String} (same : String.ofList ((c :: rest).map Char.toLower) = s) :
      ¬s.toList.head?.all (fun d => d.toNat < 128) = true := by
    subst same
    rw [String.toList_ofList, List.map_cons, Text.toLower_of_not_ascii outside]
    simpa using outside
  unfold literalMode?
  split <;> first | rfl | exact (apart ‹_› (by decide)).elim

/-- A word with no quote behind it is one token. -/
theorem lexSteps_word {steps depth : ℕ} {done : List Token} {c : Char} {rest : List Char}
    (part : isWordPart c = true) (notDigit : c.isDigit = false)
    (bare : literalMode? ((c :: rest).takeWhile isWordPart) = none ∨
      ∀ q ∈ ((c :: rest).dropWhile isWordPart).head?, q.toNat ≠ 34 ∧ q.toNat ≠ 39) :
    lexSteps (steps + 1) depth done (c :: rest) =
      (wordToken? ((c :: rest).takeWhile isWordPart)).bind fun token =>
        lexSteps steps depth (token :: done) ((c :: rest).dropWhile isWordPart) := by
  have other {d : Char} (blank : isWordPart d = false) : (c == d) = false := by
    refine beq_false_of_ne ?_
    rintro rfl
    exact absurd part (ne_true_of_eq_false blank)
  have noPage : (c.toNat == 12) = false := by
    refine beq_false_of_ne fun page => ?_
    have : c = Char.ofNat 12 := by rw [← page, Char.ofNat_toNat]
    exact absurd (this ▸ part) (by decide)
  rw [lexSteps.eq_def]
  simp only [other (d := ' ') (by decide), other (d := '\t') (by decide), noPage,
    other (d := '\n') (by decide), other (d := '#') (by decide),
    other (d := '\\') (by decide), other (d := '.') (by decide), notDigit, part,
    Bool.or_false, Bool.false_and, Bool.false_eq_true, if_false, Bool.true_or, if_true]
  split
  next quote body mode after literal =>
    obtain bare | bare := bare
    · rw [bare] at literal
      cases literal
    · rw [if_neg (by simpa using bare quote (after ▸ rfl))]
      rfl
  next => rfl

/-- No word begins with a digit of another script. -/
theorem lexSteps_of_outside {steps depth : ℕ} {done : List Token} {c : Char} {rest : List Char}
    (outside : 128 ≤ c.toNat) (digit : Text.isDigit c = true) :
    lexSteps steps depth done (c :: rest) = none := by
  cases steps with
  | zero => rfl
  | succ steps =>
      have part := isWordPart_of_outside outside
      have word : (c :: rest).takeWhile isWordPart = c :: rest.takeWhile isWordPart :=
        List.takeWhile_cons_of_pos part
      have bare : literalMode? (c :: rest.takeWhile isWordPart) = none :=
        literalMode?_of_outside outside
      rw [lexSteps_word part (ascii_isDigit_of_outside outside) (.inl (by rw [word, bare])), word,
        wordToken?_of_isDigit outside digit, Option.bind_none]

theorem lexSteps_numeral {steps depth : ℕ} {done : List Token} {c : Char} {rest : List Char}
    (first : (c.isDigit || (c == '.' && rest.head?.any Char.isDigit)) = true) :
    lexSteps (steps + 1) depth done (c :: rest) =
      (numeralCut (c :: rest)).bind fun (token, after) =>
        lexSteps steps depth (token :: done) after := by
  have other {d : Char} (apart : (d.isDigit || d == '.') = false) : (c == d) = false := by
    refine beq_false_of_ne ?_
    rintro rfl
    simp only [Bool.or_eq_false_iff] at apart
    simp [apart.1, apart.2] at first
  have noPage : (c.toNat == 12) = false := by
    refine beq_false_of_ne fun page => ?_
    have : c = Char.ofNat 12 := by rw [← page, Char.ofNat_toNat]
    exact absurd this (ne_of_beq_false (other (by decide)))
  rw [lexSteps.eq_def]
  simp only [other (d := ' ') (by decide), other (d := '\t') (by decide), noPage,
    other (d := '\n') (by decide), other (d := '#') (by decide),
    other (d := '\\') (by decide), first, Bool.or_false, Bool.false_eq_true, if_false, if_true]
  rfl

/-- A point or a sign is a token of its own unless the next character makes a longer one of it. -/
theorem lexSteps_mark {steps depth : ℕ} {done : List Token} {c d : Char} {rest : List Char}
    (mark : c ∈ ['.', '-', '+']) (apart : d ≠ '=' ∧ d ≠ '>')
    (point : c = '.' → d ≠ '.' ∧ d.isDigit = false) :
    lexSteps (steps + 1) depth done (c :: d :: rest) =
      lexSteps steps depth (.symbol (String.singleton c) :: done) (d :: rest) := by
  have equals := beq_false_of_ne (Ne.symm apart.1)
  have arrow := beq_false_of_ne (Ne.symm apart.2)
  simp only [List.mem_cons, List.not_mem_nil, or_false] at mark
  have found : symbols.find? (fun mark => mark.toList.isPrefixOf (c :: d :: rest)) =
      some (String.singleton c) := by
    obtain rfl | rfl | rfl := mark
    case inl =>
      have dots := beq_false_of_ne (Ne.symm (point rfl).1)
      simp [symbols, List.isPrefixOf, dots]
    all_goals simp [symbols, List.isPrefixOf, equals, arrow]
  rw [lexSteps.eq_def]
  obtain rfl | rfl | rfl := mark
  all_goals
    simp only [found]
    simp [point, isWordPart, openers, closers]
    rfl

/-- The lexer reads a numeral in digits of any script as one token, if it reads it at all. -/
theorem lexSteps_asciiDigits {steps : ℕ} {done tokens : List Token} {s : List Char}
    {d : Decimal} (h : decimal? (asciiDigits s) = some d)
    (lexed : lexSteps steps 0 done s = some tokens) :
    ∃ token, token.Spells d ∧ tokens = endLine (token :: done) := by
  cases s with
  | nil => cases h
  | cons c rest =>
      cases steps with
      | zero => cases lexed
      | succ steps =>
          by_cases first : (c.isDigit || (c == '.' && rest.head?.any Char.isDigit)) = true
          · rw [lexSteps_numeral first, numeralCut_asciiDigits h] at lexed
            obtain ⟨⟨token, after⟩, cut, lexed⟩ := Option.bind_eq_some_iff.mp lexed
            obtain ⟨rfl, spells⟩ := decimalCut_asciiDigits h cut
            have ended := (lexSteps_nil steps 0 (token :: done)).symm.trans lexed
            exact ⟨token, spells, (Option.some.inj ended).symm⟩
          -- a digit of another script begins the text, or follows the point
          have begins := decimal?_cons (asciiDigits_cons c rest ▸ h)
          obtain same | ⟨outside, digit, -⟩ := asciiDigit_cases c
          · rw [same] at begins
            obtain ascii | ⟨rfl, behind⟩ := begins
            · exact absurd (by rw [ascii]; rfl) first
            cases rest with
            | nil => cases behind
            | cons u more =>
                obtain native | ⟨outside, digit, -⟩ := asciiDigit_cases u
                · rw [asciiDigits_cons, native] at behind
                  exact absurd behind first
                · have other {m : Char} (ascii : m.toNat < 128) : u ≠ m := by
                    rintro rfl
                    omega
                  rw [lexSteps_mark (by decide) ⟨other (by decide), other (by decide)⟩
                    fun _ => ⟨other (by decide), ascii_isDigit_of_outside outside⟩,
                    lexSteps_of_outside outside digit] at lexed
                  cases lexed
          · rw [lexSteps_of_outside outside digit] at lexed
            cases lexed

end Astrolabe.Expression
