import Astrolabe.Proofs.Expression.Operand
import Astrolabe.Proofs.Expression.Written
import Astrolabe.Proofs.Text.Blank
import Astrolabe.Proofs.Text.Lowercase

/-!
The lexer on written lexemes. It gives the tokens of the lexemes again, whatever the spaces between
them: no lexeme is cut before its end, and none runs into the next one.
-/

namespace Astrolabe.Expression

open Number

/-! Characters of lexemes. -/

theorem ascii_of_isNumeralChar {c : Char} (h : isNumeralChar c = true) : c.toNat < 128 := by
  refine Nat.lt_of_not_le fun outside => ?_
  simp only [isNumeralChar, Text.ascii_isDigit_of_outside outside, Bool.false_or, Bool.or_eq_true,
    beq_iff_eq] at h
  obtain (((rfl | rfl) | rfl) | rfl) | rfl := h <;> exact absurd outside (by decide)

theorem isInk_of_isNumeralChar {c : Char} (h : isNumeralChar c = true) : isInk c = true :=
  Text.forall_ascii (P := fun c => isNumeralChar c = true → isInk c = true) (by decide)
    (ascii_of_isNumeralChar h) h

theorem DigitRow.mem_chars {r : DigitRow} {c : Char} (mem : c ∈ r.chars) :
    isNumeralChar c = true ∨ c = '_' := by
  obtain rfl | mem := List.mem_cons.mp mem
  · exact .inl (isNumeralChar_of_isDigit r.first_digit)
  obtain ⟨d, inside, mem⟩ := List.mem_flatMap.mp mem
  have digit := isNumeralChar_of_isDigit (r.others_digit d inside)
  split at mem
  next =>
    obtain rfl | mem := List.mem_cons.mp mem
    · exact .inr rfl
    · exact .inl (List.mem_singleton.mp mem ▸ digit)
  next => exact .inl (List.mem_singleton.mp mem ▸ digit)

theorem Exponent.mem_chars {x : Exponent} {c : Char} (mem : c ∈ x.chars) :
    isNumeralChar c = true ∨ c = '_' := by
  obtain rfl | mem := List.mem_cons.mp mem
  · left
    obtain same | same := x.mark_eq <;> rw [same] <;> rfl
  obtain sign | digit := List.mem_append.mp mem
  · left
    obtain same | same | same := x.sign_eq <;> rw [same] at sign
    · cases sign
    · cases List.mem_singleton.mp sign
      rfl
    · cases List.mem_singleton.mp sign
      rfl
  · exact DigitRow.mem_chars digit

theorem mem_row_chars {row : Option DigitRow} {c : Char} (mem : c ∈ row.elim [] DigitRow.chars) :
    isNumeralChar c = true ∨ c = '_' := by
  cases row with
  | none => cases mem
  | some r => exact DigitRow.mem_chars mem

theorem Numeral.mem_chars {n : Numeral} {c : Char} (mem : c ∈ n.chars) :
    isNumeralChar c = true ∨ c = '_' := by
  rw [chars, exponentChars] at mem
  obtain whole | tail := List.mem_append.mp mem
  · exact mem_row_chars whole
  obtain point | exponent := List.mem_append.mp tail
  · cases part : n.fraction with
    | none =>
        rw [part] at point
        cases point
    | some row =>
        rw [part] at point
        obtain rfl | digit := List.mem_cons.mp point
        · exact .inl rfl
        · exact mem_row_chars digit
  · cases part : n.exponent with
    | none =>
        rw [part] at exponent
        cases exponent
    | some x =>
        rw [part] at exponent
        exact Exponent.mem_chars exponent

theorem isInk_of_numeral {n : Numeral} {c : Char} (mem : c ∈ n.chars) : isInk c = true := by
  obtain h | rfl := n.mem_chars mem
  · exact isInk_of_isNumeralChar h
  · rfl

/-- A numeral begins with a digit, or with a point and a digit. -/
theorem Numeral.first (n : Numeral) : ∃ c rest, n.chars = c :: rest ∧
    ∀ more, (c.isDigit || (c == '.' && (rest ++ more).head?.any Char.isDigit)) = true := by
  cases whole : n.whole with
  | some r =>
      refine ⟨r.first, _, by rw [chars, whole]; rfl, fun more => ?_⟩
      rw [r.first_digit, Bool.true_or]
  | none =>
      obtain ⟨r, pointed⟩ := n.some_digits.resolve_left fun h => h whole
      refine ⟨'.', _, by rw [chars, whole, pointed]; rfl, fun more => ?_⟩
      exact r.first_digit

theorem Numeral.chars_ne_nil (n : Numeral) : n.chars ≠ [] := by
  obtain ⟨c, rest, chars, -⟩ := n.first
  exact chars ▸ List.cons_ne_nil c rest

theorem Word.isWord (w : Word) : IsWord w.text.toList :=
  isWord_of_known w.known

/-! Where a numeral or a name ends. -/

/-- A text that continues neither a numeral nor a name. -/
def Apart (s : List Char) : Prop :=
  ∀ c ∈ s.head?, isWordPart c = false ∧ c ≠ '.'

theorem Apart.ne {s : List Char} (h : Apart s) {c : Char} (part : isWordPart c = true) :
    s.head? ≠ some c := fun first =>
  absurd part (ne_true_of_eq_false (h c first).1)

/-- A word is cut off up to where it ends. -/
theorem Apart.span {word s : List Char} (h : Apart s) (parts : ∀ c ∈ word, isWordPart c = true) :
    (word ++ s).takeWhile isWordPart = word ∧ (word ++ s).dropWhile isWordPart = s := by
  rw [List.takeWhile_append_of_pos parts, List.dropWhile_append_of_pos parts]
  cases s with
  | nil => exact ⟨List.append_nil word, rfl⟩
  | cons c rest =>
      have other := ne_true_of_eq_false (h c rfl).1
      rw [List.takeWhile_cons_of_neg other, List.dropWhile_cons_of_neg other]
      exact ⟨List.append_nil word, rfl⟩

theorem Apart.endsNumeral {s : List Char} (h : Apart s) : endsNumeral s = true := by
  cases s with
  | nil => rfl
  | cons c rest => simp [Expression.endsNumeral, (h c rfl).1]

theorem Apart.finishDecimal {s : List Char} (h : Apart s) (d : Decimal) :
    finishDecimal d s = some (.decimal d, s) := by
  unfold Expression.finishDecimal
  split
  next => exact absurd rfl (h.ne (c := 'j') (by decide))
  next => exact absurd rfl (h.ne (c := 'J') (by decide))
  next => rw [if_pos h.endsNumeral]

theorem Apart.exponentCut {s : List Char} (h : Apart s) : exponentCut s = some (none, s) := by
  cases s with
  | nil => rfl
  | cons c rest =>
      have notMark : (c == 'e' || c == 'E') = false := by
        rw [Bool.or_eq_false_iff]
        constructor <;> refine beq_false_of_ne fun same => ?_
        · exact h.ne (c := 'e') (by decide) (congrArg some same)
        · exact h.ne (c := 'E') (by decide) (congrArg some same)
      simp only [Expression.exponentCut, notMark, Bool.false_eq_true, if_false]

/-- A text that does not continue a run of digits. -/
def EndsDigits (s : List Char) : Prop :=
  ∀ c ∈ s.head?, c.isDigit = false ∧ c ≠ '_'

theorem Apart.endsDigits {s : List Char} (h : Apart s) : EndsDigits s := by
  intro c first
  have outside := (h c first).1
  constructor
  · refine Bool.eq_false_iff.mpr fun digit => ?_
    simp [isWordPart, Char.isAlphanum, digit] at outside
  · rintro rfl
    exact absurd outside (by decide)

theorem digitRun_of_ended {rest : List Char} (ended : EndsDigits rest) :
    digitRun Char.isDigit rest = some ([], rest) := by
  cases rest with
  | nil => rfl
  | cons c more => exact digitRun_cons_of_not_isDigit (ended c rfl).1 (ended c rfl).2

theorem digitRun_others {others : List (Bool × Char)} {rest : List Char}
    (all : ∀ d ∈ others, d.2.isDigit = true) (ended : EndsDigits rest) :
    digitRun Char.isDigit
        (others.flatMap (fun d => if d.1 then ['_', d.2] else [d.2]) ++ rest) =
      some (others.map Prod.snd, rest) := by
  induction others with
  | nil => exact digitRun_of_ended ended
  | cons d more ih =>
      obtain ⟨digit, digits⟩ := List.forall_mem_cons.mp all
      rw [List.flatMap_cons, List.append_assoc]
      split
      next =>
        simp only [List.cons_append, List.nil_append]
        rw [digitRun, if_pos digit, ih digits]
        rfl
      next =>
        simp only [List.cons_append, List.nil_append]
        rw [digitRun_cons_of_isDigit digit, ih digits]
        rfl

/-- Digits in a row are read up to their end. -/
theorem DigitRow.run (r : DigitRow) {rest : List Char} (ended : EndsDigits rest) :
    digitRun Char.isDigit (r.chars ++ rest) = some (r.digits, rest) := by
  rw [chars, List.cons_append, digitRun_cons_of_isDigit r.first_digit,
    digitRun_others r.others_digit ended]
  rfl

theorem digits_row (row : Option DigitRow) {rest : List Char} (ended : EndsDigits rest) :
    digits Char.isDigit (row.elim [] DigitRow.chars ++ rest) =
      some (row.elim [] DigitRow.digits, rest) := by
  cases row with
  | some r =>
      change digits Char.isDigit (r.chars ++ rest) = some (r.digits, rest)
      rw [← r.run ended]
      exact if_pos r.first_digit
  | none =>
      cases rest with
      | nil => rfl
      | cons c more => exact if_neg (ne_true_of_eq_false (ended c rfl).1)

/-! Numerals. -/

theorem Exponent.endsDigits (x : Exponent) (rest : List Char) : EndsDigits (x.chars ++ rest) := by
  rintro c ⟨⟩
  obtain same | same := x.mark_eq <;> rw [same] <;> decide

theorem Exponent.head?_ne (x : Exponent) (rest : List Char) :
    (x.chars ++ rest).head? ≠ some '.' := by
  intro first
  have mark := Option.some.inj first
  obtain same | same := x.mark_eq <;> rw [same] at mark <;> exact absurd mark (by decide)

theorem Exponent.exponentSign (x : Exponent) (rest : List Char) :
    exponentSign (x.sign.toList ++ x.row.chars ++ rest) =
      (decide (x.sign = some '-'), x.sign.isSome, x.row.chars ++ rest) := by
  obtain same | same | same := x.sign_eq <;> rw [same]
  · change Number.exponentSign (x.row.first :: (_ ++ rest)) = _
    have digit := x.row.first_digit
    unfold Number.exponentSign
    split
    next same =>
      rw [(List.cons.inj same).1] at digit
      cases digit
    next same =>
      rw [(List.cons.inj same).1] at digit
      cases digit
    next => rfl
  · rfl
  · rfl

theorem Exponent.cut (x : Exponent) {rest : List Char} (apart : Apart rest) :
    exponentCut (x.chars ++ rest) = some (some x.value, rest) := by
  have first : (x.row.chars ++ rest).head?.any Char.isDigit = true := x.row.first_digit
  rw [Exponent.chars, List.cons_append, exponentCut_mark x.mark_eq, x.exponentSign, if_pos first,
    x.row.run apart.endsDigits, Exponent.value]
  simp

/-- A whole number has no zero in front of other digits, and few digits. -/
theorem Numeral.whole_plain {n : Numeral} (noPoint : n.fraction = none)
    (noExponent : n.exponent = none) :
    (n.wholeDigits.head? == some '0' && !n.wholeDigits.all (· == '0')) = false ∧
      n.wholeDigits.length ≤ maxWholeDigits := by
  rw [wholeDigits]
  cases whole : n.whole with
  | none => exact ⟨rfl, Nat.zero_le _⟩
  | some r =>
      obtain ⟨zero, few⟩ := n.plain noPoint noExponent r whole
      refine ⟨Bool.eq_false_iff.mpr fun front => ?_, few⟩
      simp only [Bool.and_eq_true, beq_iff_eq] at front
      have first : r.first = '0' := Option.some.inj front.1
      have alone : r.digits = ['0'] := by rw [DigitRow.digits, first, zero first]; rfl
      have other := front.2
      rw [Option.elim_some, alone] at other
      cases other

theorem Numeral.exponent_ended (n : Numeral) {rest : List Char} (apart : Apart rest) :
    EndsDigits (n.exponentChars ++ rest) ∧ (n.exponentChars ++ rest).head? ≠ some '.' := by
  rw [exponentChars]
  cases n.exponent with
  | none => exact ⟨apart.endsDigits, fun first => (apart _ first).2 rfl⟩
  | some x => exact ⟨x.endsDigits rest, x.head?_ne rest⟩

theorem Numeral.decimalTail (n : Numeral) {rest : List Char} (apart : Apart rest) :
    decimalTail n.wholeDigits n.fractionDigits n.fraction.isSome (n.exponentChars ++ rest) =
      some (n.token, rest) := by
  unfold Expression.decimalTail
  cases exponent : n.exponent with
  | some x =>
      have decimal : n.token = .decimal n.decimal := by simp [token, isWhole, exponent]
      rw [decimal, Numeral.decimal, exponentChars, exponent]
      simp [x.cut apart, apart.finishDecimal]
  | none =>
      cases fraction : n.fraction with
      | some row =>
          have decimal : n.token = .decimal n.decimal := by simp [token, isWhole, fraction]
          rw [decimal, Numeral.decimal, exponentChars, exponent]
          simp [apart.exponentCut, apart.finishDecimal]
      | none =>
          have whole : n.token = .whole (digitsValue n.wholeDigits) := by
            simp [token, isWhole, exponent, fraction]
          have noFraction : n.fractionDigits = [] := by rw [fractionDigits, fraction]; rfl
          obtain ⟨noZero, few⟩ := n.whole_plain fraction exponent
          rw [exponentChars, exponent, noFraction]
          simp [whole, apart.exponentCut, apart.endsNumeral, noZero, Nat.not_lt.mpr few]
          split
          next => exact absurd rfl (apart.ne (c := 'j') (by decide))
          next => exact absurd rfl (apart.ne (c := 'J') (by decide))
          next => rfl

theorem second_mem {s rest more : List Char} {c d : Char} (nonempty : s ≠ [])
    (h : s ++ rest = d :: c :: more) : c ∈ s ∨ rest.head? = some c := by
  obtain ⟨a, s, rfl⟩ := List.exists_cons_of_ne_nil nonempty
  have behind := (List.cons.inj h).2
  cases s with
  | nil =>
      right
      rw [show rest = c :: more from behind]
      rfl
  | cons b s =>
      left
      rw [(List.cons.inj behind).1]
      exact List.mem_cons_of_mem _ (List.mem_cons_self ..)

theorem isWordPart_of_base {c : Char} (h : c.toLower ∈ ['x', 'o', 'b']) : isWordPart c = true :=
  Text.forall_ascii (P := fun c => c.toLower ∈ ['x', 'o', 'b'] → isWordPart c = true) (by decide)
    (baseMark_apart h).1 h

/-- No numeral in decimal digits is taken for one in another base. -/
theorem numeralCut_eq_decimalCut {s rest : List Char} (nonempty : s ≠ [])
    (decimal : ∀ c ∈ s, isNumeralChar c = true ∨ c = '_') (apart : Apart rest) :
    numeralCut (s ++ rest) = decimalCut (s ++ rest) := by
  refine numeralCut_of_decimal fun c more same base => ?_
  obtain ⟨-, foreign⟩ := baseMark_apart base
  obtain inside | first := second_mem nonempty same
  · obtain numeral | rfl := decimal c inside
    · exact absurd numeral (ne_true_of_eq_false foreign)
    · exact absurd base (by decide)
  · exact apart.ne (isWordPart_of_base base) first

/-- A numeral is cut off whole. -/
theorem Numeral.cut (n : Numeral) {rest : List Char} (apart : Apart rest) :
    numeralCut (n.chars ++ rest) = some (n.token, rest) := by
  rw [numeralCut_eq_decimalCut n.chars_ne_nil (fun _ => n.mem_chars) apart]
  have behind := n.decimalTail apart
  obtain ⟨ended, noPoint⟩ := n.exponent_ended apart
  rw [Numeral.chars, List.append_assoc, List.append_assoc]
  rw [wholeDigits, fractionDigits] at behind
  cases fraction : n.fraction with
  | none =>
      rw [fraction] at behind
      exact (decimalCut_plain (digits_row _ ended) noPoint).trans behind
  | some row =>
      rw [fraction] at behind
      have point :
          EndsDigits ('.' :: (row.elim [] DigitRow.chars ++ (n.exponentChars ++ rest))) := by
        intro c first
        obtain rfl := Option.some.inj first
        decide
      exact (decimalCut_pointed (digits_row _ point) (digits_row _ ended)).trans behind

/-! Steps of the lexer. -/

/-- The characters that make a longer symbol of a mark. -/
def Mark.joining : Mark → List Char
  | plus | caret => ['=']
  | minus => ['=', '>']
  | times => ['*', '=']
  | slash => ['/', '=']
  | opening | closing | comma => []

/-- A text behind a lexeme that does not continue it. -/
def Lexeme.Meets : Lexeme → List Char → Prop
  | .numeral _, s | .word _, s => Apart s
  | .mark m, s => ∀ c ∈ s.head?, c ∉ m.joining

theorem find?_symbol {m : Mark} {rest : List Char} (apart : ∀ c ∈ rest.head?, c ∉ m.joining) :
    symbols.find? (fun mark => mark.toList.isPrefixOf (m.expanded ++ rest)) =
      some m.symbol := by
  cases rest with
  | nil => cases m <;> rfl
  | cons d more =>
      have other := apart d rfl
      cases m <;> simp [Mark.joining] at other <;>
        simp [symbols, Mark.symbol, Mark.expanded, Mark.char, List.isPrefixOf, Ne.symm, other]

theorem lexSteps_symbol {m : Mark} {rest : List Char} (depth : ℕ)
    (apart : ∀ c ∈ rest.head?, c ∉ m.joining) :
    ∃ depth', ∀ steps done, lexSteps (steps + 1) depth done (m.expanded ++ rest) =
      lexSteps steps depth' (.symbol m.symbol :: done) rest := by
  have found := find?_symbol apart
  refine ⟨if openers.contains m.symbol then depth + 1 else
    if closers.contains m.symbol then depth - 1 else depth, fun steps done => ?_⟩
  cases m
  all_goals
    simp only [Mark.expanded, Mark.char, List.cons_append, List.nil_append] at found ⊢
    rw [lexSteps.eq_def]
    simp only [found]
    simp [isWordPart]
    rfl

theorem lexSteps_spaces (n steps depth : ℕ) (done : List Token) (rest : List Char) :
    lexSteps (n + steps) depth done (spaces n ++ rest) = lexSteps steps depth done rest := by
  induction n with
  | zero => rw [Nat.zero_add]; rfl
  | succ n ih =>
      rw [Nat.add_right_comm]
      exact ih

/-- A lexeme is one step for the lexer. -/
theorem Lexeme.lexSteps {l : Lexeme} {rest : List Char} (depth : ℕ) (meets : l.Meets rest) :
    ∃ depth', ∀ steps done, lexSteps (steps + 1) depth done (l.expanded ++ rest) =
      lexSteps steps depth' (l.token :: done) rest := by
  cases l with
  | mark m => exact lexSteps_symbol depth meets
  | numeral n =>
      obtain ⟨c, more, chars, first⟩ := n.first
      have cut := n.cut meets
      rw [chars] at cut
      refine ⟨depth, fun steps done => ?_⟩
      rw [Lexeme.expanded, chars, List.cons_append, lexSteps_numeral (first rest)]
      rw [List.cons_append] at cut
      rw [cut, Option.bind_some]
      rfl
  | word w =>
      have word := w.isWord
      obtain ⟨c, more, chars, notDigit⟩ := word.first
      obtain ⟨taken, dropped⟩ := Apart.span meets word.parts
      have token := word.token
      have bare := word.bare
      have part := word.parts c (chars ▸ List.mem_cons_self ..)
      rw [String.ofList_toList] at token
      refine ⟨depth, fun steps done => ?_⟩
      rw [Lexeme.expanded]
      rw [chars, List.cons_append] at taken dropped ⊢
      rw [chars] at token bare
      rw [lexSteps_word part notDigit (.inl (by rw [taken, bare])), taken, dropped, token,
        Option.bind_some]
      rfl

/-! Lexemes side by side. -/

theorem Lexeme.expanded_ne_nil (l : Lexeme) : l.expanded ≠ [] := by
  cases l with
  | numeral n => exact n.chars_ne_nil
  | word w =>
      obtain ⟨c, rest, chars, -⟩ := w.isWord.first
      rw [expanded, chars]
      exact List.cons_ne_nil c rest
  | mark m => cases m <;> exact nofun

theorem Lexeme.head_apart {b : Lexeme} (mark : b.isMark = true) (rest : List Char) :
    Apart (b.expanded ++ rest) := by
  cases b with
  | numeral n => cases mark
  | word w => cases mark
  | mark m => cases m <;> rintro c ⟨⟩ <;> decide

theorem Lexeme.head_not_joining {m : Mark} {b : Lexeme} (joins : (Lexeme.mark m).Joins b) :
    ∀ c ∈ b.expanded.head?, c ∉ m.joining := by
  have foreign : (m.joining.all fun c => !isNumeralChar c && !isWordPart c) = true := by
    cases m <;> rfl
  intro c first mem
  have outside := List.all_eq_true.mp foreign c mem
  rw [Bool.and_eq_true, Bool.not_eq_true', Bool.not_eq_true'] at outside
  cases b with
  | numeral n =>
      obtain inside | rfl := n.mem_chars (List.mem_of_head? first)
      · exact absurd inside (ne_true_of_eq_false outside.1)
      · exact absurd outside.2 (by decide)
  | word w =>
      have inside := w.isWord.parts c (List.mem_of_head? first)
      exact absurd inside (ne_true_of_eq_false outside.2)
  | mark k =>
      -- of the marks only stars and slashes join one before them
      cases m <;> cases k <;> obtain rfl := Option.some.inj first <;>
        first
        | exact absurd mem (by decide)
        | exact absurd (joins.2 (.inl rfl)) (by decide)
        | exact absurd (joins.2 (.inr rfl)) (by decide)

theorem Lexeme.meets {l b : Lexeme} (joins : l.Joins b) (gap : ℕ → ℕ) (rest : List Lexeme) :
    l.Meets (spread Lexeme.expanded gap (b :: rest)) := by
  rw [spread]
  cases gap 0 with
  | succ n =>
      -- a space continues no lexeme
      cases l with
      | numeral k => rintro c ⟨⟩; decide
      | word w => rintro c ⟨⟩; decide
      | mark m => rintro c ⟨⟩; cases m <;> decide
  | zero =>
      cases l with
      | numeral n => exact Lexeme.head_apart (joins.1 rfl) _
      | word w => exact Lexeme.head_apart (joins.1 rfl) _
      | mark m =>
          intro c first
          refine Lexeme.head_not_joining joins c ?_
          obtain ⟨d, more, chars⟩ := List.exists_cons_of_ne_nil b.expanded_ne_nil
          rw [chars] at first ⊢
          exact first

theorem Lexeme.token_ne_lineEnd (l : Lexeme) : l.token ≠ .lineEnd := by
  cases l with
  | numeral n =>
      rw [token, Numeral.token]
      split <;> exact nofun
  | word w => exact nofun
  | mark m => exact nofun

/-- The lexer goes through lexemes that are told apart and puts their tokens on the pile. -/
theorem lexSteps_spread {ls : List Lexeme} (chain : ls.IsChain Lexeme.Joins) {gap : ℕ → ℕ}
    {steps : ℕ} (depth : ℕ) (done : List Token)
    (le : (spread Lexeme.expanded gap ls).length ≤ steps) :
    ∃ depth', lexSteps steps depth done (spread Lexeme.expanded gap ls) =
      lexSteps 0 depth' ((ls.map Lexeme.token).reverse ++ done) [] := by
  induction ls generalizing gap steps depth done with
  | nil => exact ⟨depth, by rw [spread, lexSteps_nil, lexSteps_nil]; rfl⟩
  | cons l rest ih =>
      have meets : l.Meets (spread Lexeme.expanded (fun i => gap (i + 1)) rest) := by
        cases rest with
        | nil => cases l <;> exact nofun
        | cons b more => exact Lexeme.meets (List.isChain_cons_cons.mp chain).1 _ _
      obtain ⟨inside, step⟩ := Lexeme.lexSteps depth meets
      have nonempty := List.length_pos_iff.mpr l.expanded_ne_nil
      rw [spread, List.length_append, List.length_append, spaces, List.length_replicate] at le
      obtain ⟨k, rfl⟩ : ∃ k, steps = gap 0 + (k + 1) := ⟨steps - gap 0 - 1, by omega⟩
      have enough : (spread Lexeme.expanded (fun i => gap (i + 1)) rest).length ≤ k := by omega
      obtain ⟨depth', run⟩ := ih chain.tail inside (l.token :: done) enough
      refine ⟨depth', ?_⟩
      rw [spread, lexSteps_spaces, step, run, List.map_cons, List.reverse_cons, List.append_assoc]
      rfl

theorem mem_spread {chars : Lexeme → List Char} {gap : ℕ → ℕ} {ls : List Lexeme} {c : Char}
    (mem : c ∈ spread chars gap ls) : c = ' ' ∨ ∃ l ∈ ls, c ∈ chars l := by
  induction ls generalizing gap with
  | nil => cases mem
  | cons l rest ih =>
      obtain space | behind := List.mem_append.mp mem
      · exact .inl (List.eq_of_mem_replicate space)
      obtain here | later := List.mem_append.mp behind
      · exact .inr ⟨l, List.mem_cons_self .., here⟩
      · refine (ih later).imp_right ?_
        rintro ⟨b, inside, found⟩
        exact ⟨b, List.mem_cons_of_mem _ inside, found⟩

theorem Lexeme.ink (l : Lexeme) : ∀ c ∈ l.expanded, isInk c = true := by
  intro c mem
  cases l with
  | numeral n => exact isInk_of_numeral mem
  | word w => exact w.isWord.ink c mem
  | mark m =>
      have all : (m.expanded.all isInk) = true := by cases m <;> rfl
      exact List.all_eq_true.mp all c mem

theorem not_mem_spread_expanded {gap : ℕ → ℕ} {ls : List Lexeme} :
    '\r' ∉ spread Lexeme.expanded gap ls := by
  intro mem
  obtain space | ⟨l, -, inside⟩ := mem_spread mem
  · exact absurd space (by decide)
  · exact absurd (l.ink _ inside) (by decide)

theorem endLine_of_bare {done : List Token} (nonempty : done ≠ [])
    (bare : .lineEnd ∉ done) : endLine done = .lineEnd :: done := by
  unfold endLine
  split
  next => exact absurd rfl nonempty
  next => exact absurd (List.mem_cons_self ..) bare
  next => rfl

/-- A text that the lexer goes through without a stop has the tokens that are on the pile then. -/
theorem lex_of_run {s : List Char} {ls : List Lexeme} {depth : ℕ} (nonempty : ls ≠ [])
    (noReturn : '\r' ∉ s)
    (run : lexSteps s.length 0 [] s = lexSteps 0 depth ((ls.map Lexeme.token).reverse ++ []) []) :
    lex s = some (ls.map Lexeme.token) := by
  have bare : .lineEnd ∉ (ls.map Lexeme.token).reverse := by
    intro mem
    obtain ⟨l, -, same⟩ := List.mem_map.mp (List.mem_reverse.mp mem)
    exact l.token_ne_lineEnd same
  rw [List.append_nil, lexSteps_nil] at run
  simp only [lex, unifyLineEnds_eq noReturn, run, Option.map_some]
  congr 1
  have begun : (ls.map Lexeme.token).reverse ≠ [] := by simpa using nonempty
  cases depth == 0 with
  | true =>
      rw [if_pos rfl, endLine_of_bare begun bare]
      exact List.reverse_reverse _
  | false =>
      rw [if_neg Bool.false_ne_true]
      split
      next before same => exact absurd (same ▸ List.mem_cons_self ..) bare
      next => exact List.reverse_reverse _

/-- The tokens of lexemes are those of the text in which they are spread. -/
theorem lex_spread {ls : List Lexeme} (nonempty : ls ≠ []) (chain : ls.IsChain Lexeme.Joins)
    (gap : ℕ → ℕ) : lex (spread Lexeme.expanded gap ls) = some (ls.map Lexeme.token) := by
  obtain ⟨depth, run⟩ := lexSteps_spread chain 0 [] (Nat.le_refl (spread _ gap ls).length)
  exact lex_of_run nonempty not_mem_spread_expanded run

/-! Whole texts. -/

theorem Lexeme.visible (l : Lexeme) : ∀ c ∈ l.chars, Text.isBlank c = false := by
  intro c mem
  cases l with
  | mark m =>
      obtain rfl := List.mem_singleton.mp mem
      cases m <;> rfl
  | numeral n => exact (isBlank_of_isInk ((numeral n).ink c mem)).1
  | word w => exact (isBlank_of_isInk ((word w).ink c mem)).1

theorem Lexeme.chars_ne_nil (l : Lexeme) : l.chars ≠ [] := by
  cases l with
  | mark m => exact List.cons_ne_nil _ _
  | numeral n => exact (numeral n).expanded_ne_nil
  | word w => exact (word w).expanded_ne_nil

theorem Lexeme.expandCarets_chars (l : Lexeme) : expandCarets l.chars = l.expanded := by
  cases l with
  | mark m => cases m <;> rfl
  | numeral n => exact expandCarets_eq fun mem => (isBlank_of_isInk ((numeral n).ink _ mem)).2 rfl
  | word w => exact expandCarets_eq fun mem => (isBlank_of_isInk ((word w).ink _ mem)).2 rfl

theorem expandCarets_spread (gap : ℕ → ℕ) (ls : List Lexeme) :
    expandCarets (spread Lexeme.chars gap ls) = spread Lexeme.expanded gap ls := by
  induction ls generalizing gap with
  | nil => rfl
  | cons l rest ih =>
      have blank : expandCarets (spaces (gap 0)) = spaces (gap 0) :=
        expandCarets_eq fun mem => absurd (List.eq_of_mem_replicate mem) (by decide)
      have append (s t : List Char) : expandCarets (s ++ t) = expandCarets s ++ expandCarets t :=
        List.flatMap_append
      rw [spread, append, append, blank, l.expandCarets_chars, ih, spread]

theorem last_visible (l : Lexeme) (gap : ℕ → ℕ) (rest : List Lexeme) :
    ∀ c ∈ (l.chars ++ spread Lexeme.chars gap rest).getLast?, Text.isBlank c = false := by
  induction rest generalizing l gap with
  | nil =>
      rw [spread, List.append_nil]
      exact fun c last => l.visible c (List.mem_of_getLast? last)
  | cons b more ih =>
      have behind : b.chars ++ spread Lexeme.chars (fun i => gap (i + 1)) more ≠ [] :=
        List.append_ne_nil_of_left_ne_nil b.chars_ne_nil _
      rw [spread, List.getLast?_append_of_ne_nil _ (List.append_ne_nil_of_right_ne_nil _ behind),
        List.getLast?_append_of_ne_nil _ behind]
      exact ih b _

/-- The blanks around a text are the spaces before its first lexeme and behind its last one. -/
theorem strip_layout {ls : List Lexeme} (nonempty : ls ≠ []) (gap : ℕ → ℕ) :
    ∃ gap', (Text.strip (layout gap ls)).toList = spread Lexeme.chars gap' ls := by
  obtain ⟨l, rest, rfl⟩ := List.exists_cons_of_ne_nil nonempty
  have blank (n : ℕ) : ∀ c ∈ spaces n, Text.isBlank c = true := fun c mem =>
    List.eq_of_mem_replicate mem ▸ rfl
  have first : ∀ c ∈ (l.chars ++ spread Lexeme.chars (fun i => gap (i + 1)) rest).head?,
      Text.isBlank c = false := by
    obtain ⟨d, more, chars⟩ := List.exists_cons_of_ne_nil l.chars_ne_nil
    intro c same
    rw [chars] at same
    exact l.visible c (by rw [chars, ← Option.some.inj same]; exact List.mem_cons_self ..)
  refine ⟨fun i => if i = 0 then 0 else gap i, ?_⟩
  rw [layout, spread, List.append_assoc, Text.strip_between (blank _) (blank _) first
    (last_visible l _ rest), String.toList_ofList, spread]
  rfl

theorem length_le_spread (gap : ℕ → ℕ) (ls : List Lexeme) :
    ls.length ≤ (spread Lexeme.expanded gap ls).length := by
  induction ls generalizing gap with
  | nil => exact Nat.le_refl 0
  | cons l rest ih =>
      have behind := ih fun i => gap (i + 1)
      have positive := List.length_pos_iff.mpr l.expanded_ne_nil
      rw [spread, List.length_append, List.length_append, List.length_cons]
      omega

/-- The text of lexemes has their tokens, and at least as many characters. -/
theorem lex_layout {ls : List Lexeme} (nonempty : ls ≠ []) (chain : ls.IsChain Lexeme.Joins)
    (gap : ℕ → ℕ) :
    lex (expandCarets (Text.strip (layout gap ls)).toList) = some (ls.map Lexeme.token) ∧
      ls.length ≤ (expandCarets (Text.strip (layout gap ls)).toList).length := by
  obtain ⟨gap', text⟩ := strip_layout nonempty gap
  rw [text, expandCarets_spread]
  exact ⟨lex_spread nonempty chain gap', length_le_spread gap' ls⟩

end Astrolabe.Expression
