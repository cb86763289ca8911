import Astrolabe.Proofs.Expression.Numeral
import Astrolabe.Proofs.Number.LetterCase

/-!
Numerals and letter case. The mark of a base, the digits of base sixteen and the marks of an
exponent and of an imaginary number are letters, and either case is read alike: a numeral is cut off
at the same place and stands for the same number. Only the words that may follow a numeral depend on
letter case, so that a numeral may end there is a hypothesis.
-/

namespace Astrolabe.Expression

open Number Text

/-! Digits. -/

section Numerals

variable {s t after : List Char}

theorem isWordPart_eq {c d : Char} (h : SameLetter c d) : isWordPart c = isWordPart d :=
  h.congr (by decide)

theorem digitRun_cons {isDigit : Char → Bool} {c : Char} {rest : List Char} (plain : c ≠ '_') :
    digitRun isDigit (c :: rest) =
      if isDigit c then (digitRun isDigit rest).map fun (ds, after) => (c :: ds, after)
      else some ([], c :: rest) := by
  rw [digitRun] <;> simp [plain]

theorem not_separator {c d : Char} {rest : List Char} (h : SameLetter c d)
    (other : ∀ e more, c = '_' → rest = e :: more → False) (other' : c = '_' → rest = [] → False) :
    d ≠ '_' := by
  intro same
  have same := (h.eq_iff rfl).mpr same
  cases rest with
  | nil => exact other' same rfl
  | cons e more => exact other e more same rfl

/-- Digits are read up to the same place. What they stand for may not depend on letter case. -/
theorem digitRun_sameLetters {α : Type} {f : Char → α} {isDigit : Char → Bool}
    (blind : ∀ c d, SameLetter c d → isDigit c = isDigit d)
    (value : ∀ c d, SameLetter c d → isDigit c = true → f c = f d) {ds : List Char}
    (h : SameLetters s t) (run : digitRun isDigit s = some (ds, after)) :
    ∃ ds' after', digitRun isDigit t = some (ds', after') ∧ ds.map f = ds'.map f ∧
      SameLetters after after' := by
  fun_induction digitRun isDigit s generalizing t ds after with
  | case1 =>
      cases h
      cases run
      exact ⟨[], [], rfl, rfl, .nil⟩
  | case2 c rest digit ih =>
      obtain _ | ⟨mark, _ | @⟨_, d, _, t, first, behind⟩⟩ := h
      obtain ⟨⟨ds, after⟩, run, same⟩ := Option.map_eq_some_iff.mp run
      cases same
      obtain ⟨ds', after', run', values, rest⟩ := ih behind run
      refine ⟨d :: ds', after', ?_, ?_, rest⟩
      · rw [mark.eq rfl, digitRun, if_pos ((blind c d first).symm.trans digit), run']
        rfl
      · rw [List.map_cons, List.map_cons, value c d first digit, values]
  | case3 => cases run
  | case4 => cases run
  | case5 c rest other other' digit ih =>
      obtain _ | @⟨_, d, _, t, first, behind⟩ := h
      obtain ⟨⟨ds, after⟩, run, same⟩ := Option.map_eq_some_iff.mp run
      cases same
      obtain ⟨ds', after', run', values, rest⟩ := ih behind run
      refine ⟨d :: ds', after', ?_, ?_, rest⟩
      · rw [digitRun_cons (not_separator first other other'),
          if_pos ((blind c d first).symm.trans digit), run']
        rfl
      · rw [List.map_cons, List.map_cons, value c d first digit, values]
  | case6 c rest other other' digit =>
      obtain _ | @⟨_, d, _, t, first, behind⟩ := h
      cases run
      refine ⟨[], d :: t, ?_, rfl, .cons first behind⟩
      rw [digitRun_cons (not_separator first other other'),
        if_neg fun digit' => digit ((blind c d first).trans digit')]

theorem digits_sameLetters {α : Type} {f : Char → α} {isDigit : Char → Bool}
    (blind : ∀ c d, SameLetter c d → isDigit c = isDigit d)
    (value : ∀ c d, SameLetter c d → isDigit c = true → f c = f d) {ds : List Char}
    (h : SameLetters s t) (run : digits isDigit s = some (ds, after)) :
    ∃ ds' after', digits isDigit t = some (ds', after') ∧ ds.map f = ds'.map f ∧
      SameLetters after after' := by
  cases h with
  | nil =>
      cases run
      exact ⟨[], [], rfl, rfl, .nil⟩
  | @cons c d s t first behind =>
      rw [digits] at run ⊢
      rw [← blind c d first]
      split at run
      next digit =>
        rw [if_pos digit]
        exact digitRun_sameLetters blind value (.cons first behind) run
      next digit =>
        cases run
        rw [if_neg digit]
        exact ⟨[], d :: t, rfl, rfl, .cons first behind⟩

theorem decimalRun_sameLetters {ds : List Char} (h : SameLetters s t)
    (run : digitRun Char.isDigit s = some (ds, after)) :
    ∃ after', digitRun Char.isDigit t = some (ds, after') ∧ SameLetters after after' := by
  obtain ⟨ds', after', run', values, rest⟩ := digitRun_sameLetters (f := id)
    (fun _ _ => SameLetter.isDigit_eq) (fun _ _ h digit => (h.eq_of_isDigit digit).symm) h run
  rw [List.map_id, List.map_id] at values
  exact ⟨after', values ▸ run', rest⟩

theorem decimalDigits_sameLetters {ds : List Char} (h : SameLetters s t)
    (run : digits Char.isDigit s = some (ds, after)) :
    ∃ after', digits Char.isDigit t = some (ds, after') ∧ SameLetters after after' := by
  obtain ⟨ds', after', run', values, rest⟩ := digits_sameLetters (f := id)
    (fun _ _ => SameLetter.isDigit_eq) (fun _ _ h digit => (h.eq_of_isDigit digit).symm) h run
  rw [List.map_id, List.map_id] at values
  exact ⟨after', values ▸ run', rest⟩

theorem exponentCut_sameLetters {o : Option ℤ} (h : SameLetters s t)
    (cut : exponentCut s = some (o, after)) :
    ∃ after', exponentCut t = some (o, after') ∧ SameLetters after after' := by
  cases h with
  | nil =>
      cases cut
      exact ⟨[], rfl, .nil⟩
  | @cons c d s t first behind =>
      have marks := exponentMark_eq first
      by_cases mark : (c == 'e' || c == 'E') = true
      · obtain ⟨negative, signed, digits⟩ := exponentSign_sameLetters behind
        rw [exponentCut_mark (by simpa using mark)] at cut
        rw [exponentCut_mark (by simpa using marks.symm.trans mark), ← negative, ← signed,
          ← digits.head?_any_eq fun _ _ => SameLetter.isDigit_eq]
        split at cut
        next begun =>
          obtain ⟨⟨run, rest⟩, read, same⟩ := Option.map_eq_some_iff.mp cut
          cases same
          obtain ⟨after', read', rest⟩ := decimalRun_sameLetters digits read
          rw [if_pos begun, read']
          exact ⟨after', rfl, rest⟩
        next empty =>
          obtain ⟨unsigned, same⟩ := Option.ite_none_left_eq_some.mp cut
          cases same
          rw [if_neg empty, if_neg unsigned]
          exact ⟨d :: t, rfl, .cons first behind⟩
      · have other : exponentCut (c :: s) = some (none, c :: s) := if_neg mark
        have other' : exponentCut (d :: t) = some (none, d :: t) := if_neg (marks ▸ mark)
        cases other.symm.trans cut
        exact ⟨d :: t, other', .cons first behind⟩

/-- A numeral may end before a text, in letters of either case. -/
def EndsInAnyCase (s : List Char) : Prop :=
  ∀ t, SameLetters s t → endsNumeral t = true

/-- The mark of an imaginary number. -/
def isImaginaryMark (c : Char) : Bool :=
  c == 'j' || c == 'J'

theorem isImaginaryMark_eq {c d : Char} (h : SameLetter c d) :
    isImaginaryMark c = isImaginaryMark d :=
  h.congr (by decide)

theorem finishDecimal_cons (d : Decimal) (c : Char) (rest : List Char) :
    finishDecimal d (c :: rest) =
      if isImaginaryMark c then
        if endsNumeral rest then some (.imaginary d, rest) else none
      else if endsNumeral (c :: rest) then some (.decimal d, c :: rest) else none := by
  unfold finishDecimal isImaginaryMark
  split
  next same => cases same; rfl
  next same => cases same; rfl
  next small capital =>
    rw [if_neg (c := (c == 'j' || c == 'J') = true)]
    simp only [Bool.or_eq_true, beq_iff_eq]
    rintro (rfl | rfl)
    · exact small rest rfl
    · exact capital rest rfl

theorem decimalTail_eq (whole fraction : List Char) (pointed : Bool) (s : List Char) :
    decimalTail whole fraction pointed s = (exponentCut s).bind fun (exponent, rest) =>
      let d : Decimal := ⟨digitsValue (whole ++ fraction), exponent.getD 0 - fraction.length⟩
      if pointed || exponent.isSome || rest.head?.any isImaginaryMark then finishDecimal d rest
      else if whole.head? == some '0' && !whole.all (· == '0') then none
      else if maxWholeDigits < whole.length && !whole.all (· == '0') then none
      else if endsNumeral rest then some (.whole (digitsValue whole), rest)
      else none := by
  unfold decimalTail
  cases exponentCut s with
  | none => rfl
  | some parts =>
      obtain ⟨exponent, rest⟩ := parts
      simp only [bind, Option.bind_some]
      cases pointed || exponent.isSome with
      | true => rfl
      | false =>
          simp only [Bool.false_eq_true, if_false, Bool.false_or]
          split
          next => rfl
          next => rfl
          next small capital =>
            rw [if_neg (c := rest.head?.any isImaginaryMark = true)]
            cases rest with
            | nil => exact Bool.false_ne_true
            | cons c rest =>
                simp only [List.head?_cons, Option.any_some, isImaginaryMark, Bool.or_eq_true,
                  beq_iff_eq]
                rintro (rfl | rfl)
                · exact small rest rfl
                · exact capital rest rfl

theorem finishDecimal_sameLetters {d : Decimal} {token : Token} (h : SameLetters s t)
    (cut : finishDecimal d s = some (token, after)) (ends : EndsInAnyCase after) :
    ∃ after', finishDecimal d t = some (token, after') ∧ SameLetters after after' := by
  cases h with
  | nil =>
      cases cut
      exact ⟨[], rfl, .nil⟩
  | @cons c e s t first behind =>
      rw [finishDecimal_cons] at cut
      rw [finishDecimal_cons, ← isImaginaryMark_eq first]
      split at cut
      next mark =>
        obtain ⟨-, same⟩ := Option.ite_none_right_eq_some.mp cut
        cases same
        rw [if_pos mark, if_pos (ends _ behind)]
        exact ⟨t, rfl, behind⟩
      next plain =>
        obtain ⟨-, same⟩ := Option.ite_none_right_eq_some.mp cut
        cases same
        have whole : SameLetters (c :: s) (e :: t) := .cons first behind
        rw [if_neg plain, if_pos (ends _ whole)]
        exact ⟨e :: t, rfl, whole⟩

theorem decimalTail_sameLetters {whole fraction : List Char} {pointed : Bool} {token : Token}
    (h : SameLetters s t) (cut : decimalTail whole fraction pointed s = some (token, after))
    (ends : EndsInAnyCase after) :
    ∃ after', decimalTail whole fraction pointed t = some (token, after') ∧
      SameLetters after after' := by
  rw [decimalTail_eq] at cut ⊢
  obtain ⟨⟨exponent, rest⟩, read, cut⟩ := Option.bind_eq_some_iff.mp cut
  obtain ⟨rest', read', behind⟩ := exponentCut_sameLetters h read
  rw [read', Option.bind_some]
  dsimp only at cut ⊢
  rw [← behind.head?_any_eq fun _ _ => isImaginaryMark_eq]
  split at cut
  next decimal =>
    rw [if_pos decimal]
    exact finishDecimal_sameLetters behind cut ends
  next plain =>
    obtain ⟨noZero, cut⟩ := Option.ite_none_left_eq_some.mp cut
    obtain ⟨few, cut⟩ := Option.ite_none_left_eq_some.mp cut
    obtain ⟨-, cut⟩ := Option.ite_none_right_eq_some.mp cut
    cases cut
    rw [if_neg plain, if_neg noZero, if_neg few, if_pos (ends _ behind)]
    exact ⟨rest', rfl, behind⟩

theorem decimalCut_sameLetters {token : Token} (h : SameLetters s t)
    (cut : decimalCut s = some (token, after)) (ends : EndsInAnyCase after) :
    ∃ after', decimalCut t = some (token, after') ∧ SameLetters after after' := by
  obtain ⟨⟨whole, rest⟩, read, tail⟩ := Option.bind_eq_some_iff.mp cut
  obtain ⟨rest', read', behind⟩ := decimalDigits_sameLetters h read
  by_cases pointed : rest.head? = some '.'
  · obtain ⟨more, rfl⟩ := List.head?_eq_some_iff.mp pointed
    obtain _ | @⟨_, d, _, more', first, later⟩ := behind
    cases first.eq rfl
    obtain ⟨⟨fraction, rest⟩, digits, tail⟩ := Option.bind_eq_some_iff.mp tail
    obtain ⟨rest', digits', behind⟩ := decimalDigits_sameLetters later digits
    rw [decimalCut_pointed read' digits']
    exact decimalTail_sameLetters behind tail ends
  · have plain : rest'.head? ≠ some '.' := by
      intro point
      cases behind with
      | nil => cases point
      | cons first _ =>
          have point := (first.eq_iff rfl).mpr (Option.some.inj point)
          exact pointed (congrArg some point)
    rw [decimalCut_plain read pointed] at cut
    rw [decimalCut_plain read' plain]
    exact decimalTail_sameLetters behind cut ends

/-- Drops an underscore before a digit. -/
def dropSeparator (isDigit : Char → Bool) (s : List Char) : List Char :=
  match s with
  | '_' :: c :: rest => if isDigit c then c :: rest else s
  | _ => s

theorem dropSeparator_mark (isDigit : Char → Bool) (c : Char) (rest : List Char) :
    dropSeparator isDigit ('_' :: c :: rest) =
      if isDigit c then c :: rest else '_' :: c :: rest :=
  rfl

theorem dropSeparator_other {isDigit : Char → Bool}
    (other : ∀ c rest, s = '_' :: c :: rest → False) : dropSeparator isDigit s = s := by
  unfold dropSeparator
  split
  next c rest => exact (other c rest rfl).elim
  next => rfl

theorem dropSeparator_sameLetters {isDigit : Char → Bool}
    (blind : ∀ c d, SameLetter c d → isDigit c = isDigit d) (h : SameLetters s t) :
    SameLetters (dropSeparator isDigit s) (dropSeparator isDigit t) := by
  by_cases mark : ∃ c rest, s = '_' :: c :: rest
  · obtain ⟨c, rest, rfl⟩ := mark
    obtain _ | ⟨mark, _ | @⟨_, d, _, t, first, behind⟩⟩ := h
    cases mark.eq rfl
    rw [dropSeparator_mark, dropSeparator_mark, ← blind c d first]
    split
    next => exact .cons first behind
    next => exact .cons mark (.cons first behind)
  · rw [dropSeparator_other fun c rest same => mark ⟨c, rest, same⟩, dropSeparator_other]
    · exact h
    · rintro d more rfl
      obtain _ | @⟨c, _, _, _, first, _ | @⟨e, _, rest, _, _, _⟩⟩ := h
      exact mark ⟨e, rest, congrArg (· :: e :: rest) ((first.eq_iff rfl).mpr rfl)⟩

/-- The digits of another base are read up to the same place and stand for the same number. -/
theorem basedCut_sameLetters {base : ℕ} {isDigit : Char → Bool} {token : Token}
    (blind : ∀ c d, SameLetter c d → isDigit c = isDigit d) (h : SameLetters s t)
    (cut : basedCut base isDigit s = some (token, after)) (ends : EndsInAnyCase after) :
    ∃ after', basedCut base isDigit t = some (token, after') ∧ SameLetters after after' := by
  have folded (ds : List Char) : ds.foldl (fun n c => base * n + Text.hexDigit c) 0 =
      (ds.map Text.hexDigit).foldl (fun n k => base * n + k) 0 := by
    rw [List.foldl_map]
  obtain ⟨⟨ds, rest⟩, read, cut⟩ := Option.bind_eq_some_iff.mp cut
  obtain ⟨ds', rest', read', values, behind⟩ := digits_sameLetters blind
    (fun _ _ h _ => h.congr (f := Text.hexDigit) (by decide)) (dropSeparator_sameLetters blind h)
    read
  obtain ⟨begun, cut⟩ := Option.ite_none_left_eq_some.mp cut
  obtain ⟨noDigit, cut⟩ := Option.ite_none_left_eq_some.mp cut
  obtain ⟨-, cut⟩ := Option.ite_none_right_eq_some.mp cut
  cases cut
  refine ⟨rest', ?_, behind⟩
  change (digits isDigit (dropSeparator isDigit t)).bind _ = _
  rw [read', Option.bind_some]
  have empty : ds'.isEmpty = ds.isEmpty := by
    rw [← List.isEmpty_map (f := Text.hexDigit) (l := ds'), ← values, List.isEmpty_map]
  dsimp only
  rw [empty, if_neg begun, ← behind.head?_any_eq fun _ _ => SameLetter.isDigit_eq, if_neg noDigit,
    if_pos (ends _ behind), folded, folded, values]

theorem numeralCut_zero (mark : Char) (rest : List Char) :
    numeralCut ('0' :: mark :: rest) =
      match mark.toLower with
      | 'x' => basedCut 16 isHexDigit rest
      | 'o' => basedCut 8 isOctalDigit rest
      | 'b' => basedCut 2 (fun c => c == '0' || c == '1') rest
      | _ => decimalCut ('0' :: mark :: rest) :=
  rfl

theorem numeralCut_other (other : ∀ mark rest, s = '0' :: mark :: rest → False) :
    numeralCut s = decimalCut s := by
  unfold numeralCut
  split
  next mark rest => exact (other mark rest rfl).elim
  next => rfl

theorem numeralCut_sameLetters {token : Token} (h : SameLetters s t)
    (cut : numeralCut s = some (token, after)) (ends : EndsInAnyCase after) :
    ∃ after', numeralCut t = some (token, after') ∧ SameLetters after after' := by
  by_cases zero : ∃ mark rest, s = '0' :: mark :: rest
  · obtain ⟨mark, rest, rfl⟩ := zero
    obtain _ | ⟨zero, _ | @⟨_, d, _, t, first, behind⟩⟩ := h
    cases zero.eq rfl
    rw [numeralCut_zero] at cut ⊢
    rw [← first.2]
    split at cut
    next => exact basedCut_sameLetters (fun _ _ h => h.congr (by decide)) behind cut ends
    next => exact basedCut_sameLetters (fun _ _ h => h.congr (by decide)) behind cut ends
    next =>
      have binary {c d : Char} (h : SameLetter c d) :
          (c == '0' || c == '1') = (d == '0' || d == '1') :=
        h.congr (f := fun c => c == '0' || c == '1') (by decide)
      exact basedCut_sameLetters (fun _ _ => binary) behind cut ends
    next => exact decimalCut_sameLetters (.cons zero (.cons first behind)) cut ends
  · rw [numeralCut_other fun mark rest same => zero ⟨mark, rest, same⟩] at cut
    rw [numeralCut_other]
    · exact decimalCut_sameLetters h cut ends
    · rintro mark more rfl
      obtain _ | @⟨c, _, _, _, first, _ | @⟨e, _, rest, _, _, _⟩⟩ := h
      exact zero ⟨e, rest, congrArg (· :: e :: rest) ((first.eq_iff rfl).mpr rfl)⟩

theorem endsNumeral_of_finishDecimal {d : Decimal} {token : Token}
    (cut : finishDecimal d s = some (token, after)) : endsNumeral after = true := by
  unfold finishDecimal at cut
  split at cut
  all_goals
    obtain ⟨ends, cut⟩ := Option.ite_none_right_eq_some.mp cut
    cases cut
    exact ends

theorem endsNumeral_of_decimalTail {whole fraction : List Char} {pointed : Bool} {token : Token}
    (cut : decimalTail whole fraction pointed s = some (token, after)) :
    endsNumeral after = true := by
  rw [decimalTail_eq] at cut
  obtain ⟨⟨exponent, rest⟩, -, cut⟩ := Option.bind_eq_some_iff.mp cut
  dsimp only at cut
  split at cut
  next => exact endsNumeral_of_finishDecimal cut
  next =>
    obtain ⟨-, cut⟩ := Option.ite_none_left_eq_some.mp cut
    obtain ⟨-, cut⟩ := Option.ite_none_left_eq_some.mp cut
    obtain ⟨ends, cut⟩ := Option.ite_none_right_eq_some.mp cut
    cases cut
    exact ends

theorem endsNumeral_of_decimalCut {token : Token} (cut : decimalCut s = some (token, after)) :
    endsNumeral after = true := by
  obtain ⟨⟨whole, rest⟩, -, cut⟩ := Option.bind_eq_some_iff.mp cut
  dsimp only at cut
  split at cut
  next =>
    obtain ⟨⟨fraction, rest⟩, -, cut⟩ := Option.bind_eq_some_iff.mp cut
    exact endsNumeral_of_decimalTail cut
  next => exact endsNumeral_of_decimalTail cut

theorem endsNumeral_of_basedCut {base : ℕ} {isDigit : Char → Bool} {token : Token}
    (cut : basedCut base isDigit s = some (token, after)) : endsNumeral after = true := by
  obtain ⟨⟨ds, rest⟩, -, cut⟩ := Option.bind_eq_some_iff.mp cut
  obtain ⟨-, cut⟩ := Option.ite_none_left_eq_some.mp cut
  obtain ⟨-, cut⟩ := Option.ite_none_left_eq_some.mp cut
  obtain ⟨ends, cut⟩ := Option.ite_none_right_eq_some.mp cut
  cases cut
  exact ends

/-- A numeral is cut off where a numeral may end. -/
theorem endsNumeral_of_numeralCut {token : Token} (cut : numeralCut s = some (token, after)) :
    endsNumeral after = true := by
  unfold numeralCut at cut
  split at cut
  next =>
    split at cut
    next => exact endsNumeral_of_basedCut cut
    next => exact endsNumeral_of_basedCut cut
    next => exact endsNumeral_of_basedCut cut
    next => exact endsNumeral_of_decimalCut cut
  next => exact endsNumeral_of_decimalCut cut

end Numerals

end Astrolabe.Expression
