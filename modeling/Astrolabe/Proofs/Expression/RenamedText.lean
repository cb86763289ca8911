import Astrolabe.Proofs.Expression.Renamed

/-!
The lexer on texts that differ in names. A name that is read as it stands may be longer or shorter
than another one, but it is one token as that one is; marks and whole numbers around it are cut off
as before.
-/

namespace Astrolabe.Expression

open Number

/-- The marks between numbers and names. -/
def plainMarks : List Char :=
  ['+', '-', '*', '/', '^', '(', ')', ',', '=', ' ']

/-- Names that are read as they stand: they are no reserved words and in their compatibility
form. -/
def ReadsAsItself (id : String) : Prop :=
  wordToken? id.toList = some (.name id)

/-- Texts of marks, whole numbers and names that differ in the names alone, which are related. No
number or name runs into the next one. -/
inductive TextRenamed (R : Renaming) : List Char → List Char → Prop
  | nil : TextRenamed R [] []
  | mark {c : Char} {s s' : List Char} (plain : c ∈ plainMarks) (behind : TextRenamed R s s') :
      TextRenamed R (c :: s) (c :: s')
  | number {ds s s' : List Char} (numbers : R.numbers) (nonempty : ds ≠ [])
      (digits : ∀ d ∈ ds, d.isDigit = true) (apart : Apart s) (behind : TextRenamed R s s') :
      TextRenamed R (ds ++ s) (ds ++ s')
  | name {id id' : String} {s s' : List Char} (related : R.stands id id') (reads : ReadsAsItself id)
      (reads' : ReadsAsItself id') (apart : Apart s) (behind : TextRenamed R s s') :
      TextRenamed R (id.toList ++ s) (id'.toList ++ s')

/-! Words. -/

theorem isWordPart_of_isDigit {c : Char} (digit : c.isDigit = true) : isWordPart c = true := by
  simp [isWordPart, Char.isAlphanum, digit]

theorem isWordPart_of_isNamePart {c : Char} (part : Text.isNamePart c = true) :
    isWordPart c = true := by
  unfold Text.isNamePart at part
  unfold isWordPart
  split at part
  next => rw [part, Bool.true_or]
  next outside => simp [Nat.not_lt.mp outside]

theorem isNameStart_iff {c : Char} (start : Text.isNameStart c = true) :
    isWordPart c = true ∧ c.isDigit = false := by
  by_cases ascii : c.toNat < 128
  · exact Text.forall_ascii (P := fun c => Text.isNameStart c = true →
      isWordPart c = true ∧ c.isDigit = false) (by decide) ascii start
  · have outside := Nat.not_lt.mp ascii
    exact ⟨isWordPart_of_outside outside, Text.ascii_isDigit_of_outside outside⟩

/-- The characters of a name that is read as it stands. -/
theorem ReadsAsItself.chars {id : String} (h : ReadsAsItself id) :
    (∃ c rest, id.toList = c :: rest ∧ c.isDigit = false) ∧
      ∀ c ∈ id.toList, isWordPart c = true := by
  unfold ReadsAsItself wordToken? at h
  dsimp only at h
  split at h
  next => cases h
  next =>
    split at h
    next name =>
      cases chars : id.toList with
      | nil =>
          rw [chars] at name
          cases name
      | cons c rest =>
          rw [chars, Text.isName, Bool.and_eq_true] at name
          obtain ⟨part, notDigit⟩ := isNameStart_iff name.1
          refine ⟨⟨c, rest, rfl, notDigit⟩, List.forall_mem_cons.mpr ⟨part, fun d mem => ?_⟩⟩
          exact isWordPart_of_isNamePart (List.all_eq_true.mp name.2 d mem)
    next => cases h

theorem not_part_of_mem_plainMarks {c : Char} (plain : c ∈ plainMarks) :
    isWordPart c = false ∧ c ≠ '.' := by
  have all : (plainMarks.all fun c => isWordPart c = false ∧ c ≠ '.') = true := by decide
  exact of_decide_eq_true (List.all_eq_true.mp all c plain)

theorem symbols_nonempty : ∀ mark ∈ symbols, 0 < mark.length := by
  decide

/-- There is no letter or digit in a symbol. -/
theorem symbols_plain : ∀ mark ∈ symbols, ∀ c ∈ mark.toList, isWordPart c = false := by
  have plain : (symbols.all fun mark => mark.toList.all fun c => !isWordPart c) = true := by decide
  simpa only [List.all_eq_true, Bool.not_eq_true'] using plain

theorem expandCarets_append {word s : List Char} (plain : '^' ∉ word) :
    expandCarets (word ++ s) = word ++ expandCarets s := by
  conv_rhs => rw [← expandCarets_eq plain]
  exact List.flatMap_append

theorem apart_expandCarets {s : List Char} (apart : Apart s) : Apart (expandCarets s) := by
  cases s with
  | nil => exact apart
  | cons c rest =>
      intro d first
      change d ∈ ((if c == '^' then ['*', '*'] else [c]) ++ expandCarets rest).head? at first
      split at first
      next =>
        cases first
        decide
      next =>
        cases first
        exact apart c rfl

variable {R : Renaming} {s s' : List Char}

namespace TextRenamed

/-- Behind a number or a name stands a mark, the same in both texts, or nothing. -/
theorem head_of_apart (h : TextRenamed R s s') (apart : Apart s) :
    s'.head? = s.head? ∧ ∀ c ∈ s.head?, c ∈ plainMarks := by
  cases h with
  | nil => exact ⟨rfl, nofun⟩
  | mark plain _ =>
      refine ⟨rfl, ?_⟩
      rintro c ⟨⟩
      exact plain
  | number _ nonempty digits _ _ =>
      obtain ⟨d, more, rfl⟩ := List.exists_cons_of_ne_nil nonempty
      have part := isWordPart_of_isDigit (digits d (List.mem_cons_self ..))
      exact absurd rfl (apart.ne part)
  | name _ reads _ _ _ =>
      obtain ⟨⟨c, rest, chars, -⟩, parts⟩ := reads.chars
      rw [chars] at apart parts
      exact absurd rfl (apart.ne (parts c (List.mem_cons_self ..)))

theorem apart (h : TextRenamed R s s') (apart : Apart s) : Apart s' := by
  obtain ⟨same, plain⟩ := h.head_of_apart apart
  intro c first
  exact not_part_of_mem_plainMarks (plain c (same ▸ first))

theorem flip (h : TextRenamed R s s') : TextRenamed ⟨flip R.stands, R.numbers⟩ s' s := by
  induction h with
  | nil => exact .nil
  | mark plain _ ih => exact .mark plain ih
  | number numbers nonempty digits apart behind ih =>
      exact .number numbers nonempty digits (behind.apart apart) ih
  | name related reads reads' apart behind ih =>
      exact .name related reads' reads (behind.apart apart) ih

theorem imp (h : TextRenamed R s s') {R' : Renaming}
    (stands : ∀ id id', R.stands id id' → R'.stands id id') (numbers : R.numbers → R'.numbers) :
    TextRenamed R' s s' := by
  induction h with
  | nil => exact .nil
  | mark plain _ ih => exact .mark plain ih
  | number written nonempty digits apart _ ih =>
      exact .number (numbers written) nonempty digits apart ih
  | name related reads reads' apart _ ih => exact .name (stands _ _ related) reads reads' apart ih

/-- Texts are both empty or both not. -/
theorem eq_nil_iff (h : TextRenamed R s s') : s' = [] ↔ s = [] := by
  cases h with
  | nil => exact Iff.rfl
  | mark => simp
  | number _ nonempty => simp [nonempty]
  | name _ reads reads' =>
      obtain ⟨⟨c, rest, chars, -⟩, -⟩ := reads.chars
      obtain ⟨⟨c', rest', chars', -⟩, -⟩ := reads'.chars
      simp [chars, chars']

/-- A mark cuts both texts into texts that differ in names, or it stands in neither. -/
theorem cut (h : TextRenamed R s s') {mark : Char} (outside : isWordPart mark = false) :
    TextRenamed R (s.takeWhile (· != mark)) (s'.takeWhile (· != mark)) ∧
      (s.dropWhile (· != mark) = [] ∧ s'.dropWhile (· != mark) = [] ∨
        ∃ t t', s.dropWhile (· != mark) = mark :: t ∧ s'.dropWhile (· != mark) = mark :: t' ∧
          TextRenamed R t t') := by
  have inside {word : List Char} (parts : ∀ c ∈ word, isWordPart c = true) :
      ∀ c ∈ word, (c != mark) = true := fun c mem => by
    rw [bne_iff_ne]
    rintro rfl
    rw [parts c mem] at outside
    cases outside
  have front {s : List Char} (apart : Apart s) : Apart (s.takeWhile (· != mark)) := by
    cases s with
    | nil => exact apart
    | cons c rest =>
        rw [List.takeWhile_cons]
        split
        next => exact fun d first => apart d first
        next => exact nofun
  induction h with
  | nil => exact ⟨.nil, .inl ⟨rfl, rfl⟩⟩
  | @mark c s s' plain behind ih =>
      by_cases same : c = mark
      · subst same
        simp only [List.takeWhile_cons, List.dropWhile_cons, bne_self_eq_false, Bool.false_eq_true,
          if_false]
        exact ⟨.nil, .inr ⟨s, s', rfl, rfl, behind⟩⟩
      · simp only [List.takeWhile_cons, List.dropWhile_cons, bne_iff_ne.mpr same, if_true]
        exact ⟨.mark plain ih.1, ih.2⟩
  | number numbers nonempty digits apart _ ih =>
      have digits' := inside fun d mem => isWordPart_of_isDigit (digits d mem)
      simp only [List.takeWhile_append_of_pos digits', List.dropWhile_append_of_pos digits']
      exact ⟨.number numbers nonempty digits (front apart) ih.1, ih.2⟩
  | name related reads reads' apart _ ih =>
      simp only [List.takeWhile_append_of_pos (inside reads.chars.2),
        List.dropWhile_append_of_pos (inside reads.chars.2),
        List.takeWhile_append_of_pos (inside reads'.chars.2),
        List.dropWhile_append_of_pos (inside reads'.chars.2)]
      exact ⟨.name related reads reads' (front apart) ih.1, ih.2⟩

/-- A symbol, in which there is no letter or digit, stands at the front of both texts or of none. -/
theorem isPrefixOf (h : TextRenamed R s s') {symbol : List Char}
    (plain : ∀ c ∈ symbol, isWordPart c = false) :
    symbol.isPrefixOf s' = symbol.isPrefixOf s ∧
      (symbol.isPrefixOf s = true →
        TextRenamed R (s.drop symbol.length) (s'.drop symbol.length)) := by
  induction symbol generalizing s s' with
  | nil => exact ⟨rfl, fun _ => h⟩
  | cons d symbol ih =>
      obtain ⟨outside, plain⟩ := List.forall_mem_cons.mp plain
      have other {c : Char} {rest : List Char} (part : isWordPart c = true) :
          (d :: symbol).isPrefixOf (c :: rest) = false := by
        have apart : (d == c) = false := beq_false_of_ne fun same => by
          rw [same, part] at outside
          cases outside
        rw [List.isPrefixOf_cons_cons, apart, Bool.false_and]
      cases h with
      | nil => exact ⟨rfl, nofun⟩
      | @mark c s s' _ behind =>
          obtain ⟨same, dropped⟩ := ih behind plain
          rw [List.isPrefixOf_cons_cons, List.isPrefixOf_cons_cons, same]
          exact ⟨rfl, fun both => dropped (Bool.and_eq_true_iff.mp both).2⟩
      | @number ds s s' _ nonempty digits _ _ =>
          obtain ⟨c, more, rfl⟩ := List.exists_cons_of_ne_nil nonempty
          have part := isWordPart_of_isDigit (digits c (List.mem_cons_self ..))
          rw [List.cons_append, List.cons_append, other part, other part]
          exact ⟨rfl, nofun⟩
      | name _ reads reads' _ _ =>
          obtain ⟨⟨c, rest, chars, -⟩, parts⟩ := reads.chars
          obtain ⟨⟨c', rest', chars', -⟩, parts'⟩ := reads'.chars
          rw [chars] at parts
          rw [chars'] at parts'
          rw [chars, chars', List.cons_append, List.cons_append,
            other (parts c (List.mem_cons_self ..)), other (parts' c' (List.mem_cons_self ..))]
          exact ⟨rfl, nofun⟩

theorem find?_symbol (h : TextRenamed R s s') :
    symbols.find? (fun mark => mark.toList.isPrefixOf s') =
      symbols.find? (fun mark => mark.toList.isPrefixOf s) := by
  have same : ∀ mark ∈ symbols, mark.toList.isPrefixOf s' = mark.toList.isPrefixOf s :=
    fun mark mem => (h.isPrefixOf (symbols_plain mark mem)).1
  generalize symbols = all at same
  induction all with
  | nil => rfl
  | cons mark more ih =>
      obtain ⟨first, others⟩ := List.forall_mem_cons.mp same
      rw [List.find?_cons, List.find?_cons, first, ih others]

theorem not_mem (h : TextRenamed R s s') {c : Char} (other : c ∉ plainMarks)
    (outside : isWordPart c = false) : c ∉ s := by
  induction h with
  | nil => exact List.not_mem_nil
  | mark plain _ ih =>
      rintro (_ | ⟨_, mem⟩)
      · exact other plain
      · exact ih mem
  | number _ _ digits _ _ ih =>
      intro mem
      obtain mem | mem := List.mem_append.mp mem
      · rw [isWordPart_of_isDigit (digits c mem)] at outside
        cases outside
      · exact ih mem
  | name _ reads _ _ _ ih =>
      intro mem
      obtain mem | mem := List.mem_append.mp mem
      · rw [reads.chars.2 c mem] at outside
        cases outside
      · exact ih mem

/-- Carets are written out in both texts. -/
theorem expandCarets (h : TextRenamed R s s') :
    TextRenamed R (expandCarets s) (expandCarets s') := by
  induction h with
  | nil => exact .nil
  | @mark c _ _ plain _ ih =>
      change TextRenamed R ((if c == '^' then ['*', '*'] else [c]) ++ _)
        ((if c == '^' then ['*', '*'] else [c]) ++ _)
      split
      next => exact .mark (by decide) (.mark (by decide) ih)
      next => exact .mark plain ih
  | @number ds s _ numbers nonempty digits apart _ ih =>
      have plain : '^' ∉ ds := fun mem => absurd (digits _ mem) (by decide)
      rw [expandCarets_append plain, expandCarets_append plain]
      exact .number numbers nonempty digits (apart_expandCarets apart) ih
  | name related reads reads' apart _ ih =>
      have plain {id : String} (reads : ReadsAsItself id) : '^' ∉ id.toList :=
        fun mem => absurd (reads.chars.2 _ mem) (by decide)
      rw [expandCarets_append (plain reads), expandCarets_append (plain reads')]
      exact .name related reads reads' (apart_expandCarets apart) ih

end TextRenamed

/-! Steps of the lexer. -/

theorem numeralCut_of_digits {ds rest : List Char} (nonempty : ds ≠ [])
    (digits : ∀ d ∈ ds, d.isDigit = true) (apart : Apart rest) :
    numeralCut (ds ++ rest) = decimalTail ds [] false rest := by
  have behind : rest.takeWhile Char.isDigit = [] ∧ rest.dropWhile Char.isDigit = rest := by
    cases rest with
    | nil => exact ⟨rfl, rfl⟩
    | cons c more =>
        have other := ne_true_of_eq_false (apart.endsDigits c rfl).1
        exact ⟨List.takeWhile_cons_of_neg other, List.dropWhile_cons_of_neg other⟩
  have taken : (ds ++ rest).takeWhile Char.isDigit = ds := by
    rw [List.takeWhile_append_of_pos digits, behind.1, List.append_nil]
  have dropped : (ds ++ rest).dropWhile Char.isDigit = rest := by
    rw [List.dropWhile_append_of_pos digits, behind.2]
  have run := digits_eq (s := ds ++ rest) (by
    rw [dropped]
    exact apart.ne (by decide))
  rw [taken, dropped] at run
  have decimal := decimalCut_plain run fun point => (apart _ point).2 rfl
  refine (numeralCut_of_decimal fun c more same base => ?_).trans decimal
  obtain inside | first := second_mem nonempty same
  · have numeral := isNumeralChar_of_isDigit (digits c inside)
    exact absurd numeral (ne_true_of_eq_false (baseMark_apart base).2)
  · exact apart.ne (isWordPart_of_base base) first

theorem decimalTail_of_apart {ds rest : List Char} (apart : Apart rest) :
    decimalTail ds [] false rest =
      if ds.head? == some '0' && !ds.all (· == '0') then none
      else if maxWholeDigits < ds.length && !ds.all (· == '0') then none
      else some (.whole (digitsValue ds), rest) := by
  unfold decimalTail
  simp only [apart.exponentCut, bind, Option.bind_some, Option.isSome_none, Bool.or_self,
    Bool.false_eq_true, if_false, apart.endsNumeral, if_true]
  split
  next => exact absurd rfl (apart.ne (c := 'j') (by decide))
  next => exact absurd rfl (apart.ne (c := 'J') (by decide))
  next => rfl

/-- Digits are cut off as a whole number, if they are one, whatever is behind them. -/
theorem numeralCut_digits {ds rest rest' after : List Char} {token : Token} (nonempty : ds ≠ [])
    (digits : ∀ d ∈ ds, d.isDigit = true) (apart : Apart rest) (apart' : Apart rest')
    (cut : numeralCut (ds ++ rest) = some (token, after)) :
    after = rest ∧ (∃ n, token = .whole n) ∧ numeralCut (ds ++ rest') = some (token, rest') := by
  rw [numeralCut_of_digits nonempty digits apart, decimalTail_of_apart apart] at cut
  rw [numeralCut_of_digits nonempty digits apart', decimalTail_of_apart apart']
  split at cut
  next => cases cut
  next noZero =>
    split at cut
    next => cases cut
    next few =>
      cases cut
      rw [if_neg noZero, if_neg few]
      exact ⟨rfl, ⟨_, rfl⟩, rfl⟩

theorem endLine_renamed {done done' : Tokens} (h : Renamed R done done') :
    Renamed R (endLine done) (endLine done') := by
  cases h with
  | nil => exact .nil
  | @cons t _ done done' first behind =>
      cases first with
      | name related => exact .cons .lineEnd (.cons (.name related) behind)
      | same noName noDecimal noWhole =>
          cases t with
          | lineEnd => exact .cons .lineEnd behind
          | _ => exact .cons .lineEnd (.cons (.same noName noDecimal noWhole) behind)

/-- A step of the lexer at a text, and the step at a text with other names: they lead to texts that
differ in names alone, with piles that do. -/
inductive StepRenamed (R : Renaming) (steps depth : ℕ) (done done' : Tokens) (s s' : List Char)
    (out : List Token) : Prop
  | intro {depth₁ : ℕ} {pile pile' : Tokens} {t t' : List Char} (behind : TextRenamed R t t')
      (shorter : t'.length < s'.length) (renamed : Renamed R pile pile')
      (next : lexSteps steps depth₁ pile t = some out)
      (next' : ∀ steps', lexSteps (steps' + 1) depth done' s' = lexSteps steps' depth₁ pile' t')

section Step

variable {steps depth : ℕ} {done done' out : Tokens}

theorem not_beginsNumeral_of_mem_plainMarks {c : Char} (plain : c ∈ plainMarks)
    (rest : List Char) : beginsNumeral c rest = false := by
  obtain ⟨outside, point⟩ := not_part_of_mem_plainMarks plain
  have digit : c.isDigit = false := Bool.eq_false_iff.mpr fun digit => by
    rw [isWordPart_of_isDigit digit] at outside
    cases outside
  rw [beginsNumeral, digit, beq_false_of_ne point, Bool.false_and, Bool.or_false]

theorem step_mark {c : Char} (plain : c ∈ plainMarks) (behind : TextRenamed R s s')
    (pile : Renamed R done done') (run : lexSteps (steps + 1) depth done (c :: s) = some out) :
    StepRenamed R steps depth done done' (c :: s) (c :: s') out := by
  have kinds : (plainMarks.all fun c => isGap c || isSymbolic c) = true := by decide
  obtain gap | symbolic := Bool.or_eq_true_iff.mp (List.all_eq_true.mp kinds c plain)
  · rw [lexSteps_gap gap] at run
    exact ⟨behind, Nat.lt_succ_self _, pile, run, fun _ => lexSteps_gap gap⟩
  · have whole : TextRenamed R (c :: s) (c :: s') := .mark plain behind
    have numeral := not_beginsNumeral_of_mem_plainMarks plain
    rw [lexSteps_of_isSymbolic symbolic (numeral s)] at run
    obtain ⟨mark, found, run⟩ := Option.bind_eq_some_iff.mp run
    have mem := List.mem_of_find?_eq_some found
    have long := symbols_nonempty mark mem
    have front : mark.toList.isPrefixOf (c :: s) = true :=
      List.find?_some (p := fun mark : String => mark.toList.isPrefixOf (c :: s)) found
    have dropped := (whole.isPrefixOf (symbols_plain mark mem)).2 front
    rw [String.length_toList] at dropped
    refine ⟨dropped, ?_, .cons (.symbol mark) pile, run, fun steps' => ?_⟩
    · rw [List.length_drop, List.length_cons]
      omega
    · rw [lexSteps_of_isSymbolic symbolic (numeral s'), whole.find?_symbol, found,
        Option.bind_some]

theorem step_number {ds : List Char} (numbers : R.numbers) (nonempty : ds ≠ [])
    (digits : ∀ d ∈ ds, d.isDigit = true) (apart : Apart s) (behind : TextRenamed R s s')
    (pile : Renamed R done done')
    (run : lexSteps (steps + 1) depth done (ds ++ s) = some out) :
    StepRenamed R steps depth done done' (ds ++ s) (ds ++ s') out := by
  obtain ⟨d, more, rfl⟩ := List.exists_cons_of_ne_nil nonempty
  have first (rest : List Char) : beginsNumeral d rest = true := by
    rw [beginsNumeral, digits d (List.mem_cons_self ..), Bool.true_or]
  rw [List.cons_append, lexSteps_numeral (first _)] at run
  obtain ⟨⟨token, after⟩, cut, next⟩ := Option.bind_eq_some_iff.mp run
  obtain ⟨rfl, ⟨k, rfl⟩, cut'⟩ :=
    numeralCut_digits nonempty digits apart (behind.apart apart) cut
  rw [List.cons_append] at cut'
  refine ⟨behind, ?_, .cons (.whole numbers k) pile, next, fun steps' => ?_⟩
  · rw [List.length_append, List.length_cons]
    omega
  · rw [List.cons_append, lexSteps_numeral (first _), cut', Option.bind_some]

/-- A name is put on the pile, if no literal begins behind it. -/
theorem lexSteps_name {id : String} (reads : ReadsAsItself id) (apart : Apart s)
    (behind : ∀ q ∈ s.head?, q ∈ plainMarks) :
    lexSteps (steps + 1) depth done (id.toList ++ s) = lexSteps steps depth (.name id :: done) s := by
  have noQuote : (plainMarks.all fun q => q.toNat ≠ 34 ∧ q.toNat ≠ 39) = true := by decide
  obtain ⟨⟨c, rest, chars, notDigit⟩, parts⟩ := reads.chars
  obtain ⟨taken, dropped⟩ := apart.span parts
  have token : wordToken? id.toList = some (.name id) := reads
  rw [chars] at parts taken dropped token ⊢
  rw [List.cons_append] at taken dropped ⊢
  rw [lexSteps_word (parts c (List.mem_cons_self ..)) notDigit, taken, dropped, token,
    Option.bind_some]
  right
  rw [dropped]
  exact fun q first => of_decide_eq_true (List.all_eq_true.mp noQuote q (behind q first))

theorem step_name {id id' : String} (related : R.stands id id') (reads : ReadsAsItself id)
    (reads' : ReadsAsItself id') (apart : Apart s) (behind : TextRenamed R s s')
    (pile : Renamed R done done')
    (run : lexSteps (steps + 1) depth done (id.toList ++ s) = some out) :
    StepRenamed R steps depth done done' (id.toList ++ s) (id'.toList ++ s') out := by
  obtain ⟨same, plain⟩ := behind.head_of_apart apart
  rw [lexSteps_name reads apart plain] at run
  refine ⟨behind, ?_, .cons (.name related) pile, run, fun steps' => ?_⟩
  · obtain ⟨⟨c, rest, chars, -⟩, -⟩ := reads'.chars
    rw [List.length_append, chars, List.length_cons]
    omega
  · exact lexSteps_name reads' (behind.apart apart) (same ▸ plain)

theorem TextRenamed.step (h : TextRenamed R s s') (unread : s ≠ [])
    (pile : Renamed R done done') (run : lexSteps (steps + 1) depth done s = some out) :
    StepRenamed R steps depth done done' s s' out := by
  cases h with
  | nil => exact absurd rfl unread
  | mark plain behind => exact step_mark plain behind pile run
  | number numbers nonempty digits apart behind =>
      exact step_number numbers nonempty digits apart behind pile run
  | name related reads reads' apart behind =>
      exact step_name related reads reads' apart behind pile run

end Step

theorem lexSteps_nil_renamed {steps steps' depth : ℕ} {done done' out : Tokens}
    (pile : Renamed R done done') (run : lexSteps steps depth done [] = some out) :
    ∃ out', lexSteps steps' depth done' [] = some out' ∧ Renamed R out out' := by
  rw [lexSteps_nil] at run ⊢
  cases run
  refine ⟨_, rfl, ?_⟩
  split
  next => exact endLine_renamed pile
  next => exact pile

/-- The lexer does on a text with other names what it does on the text. -/
theorem lexSteps_renamed {steps steps' depth : ℕ} {done done' out : Tokens}
    (h : TextRenamed R s s') (pile : Renamed R done done') (enough : s'.length ≤ steps')
    (run : lexSteps steps depth done s = some out) :
    ∃ out', lexSteps steps' depth done' s' = some out' ∧ Renamed R out out' := by
  induction steps generalizing s s' steps' depth done done' with
  | zero =>
      cases s with
      | nil =>
          obtain rfl := h.eq_nil_iff.mpr rfl
          exact lexSteps_nil_renamed pile run
      | cons => cases run
  | succ steps ih =>
      obtain rfl | unread := eq_or_ne s []
      · obtain rfl := h.eq_nil_iff.mpr rfl
        exact lexSteps_nil_renamed pile run
      · obtain ⟨behind, shorter, renamed, next, next'⟩ := h.step unread pile run
        obtain ⟨n, rfl⟩ := Nat.exists_eq_add_of_le' (show 1 ≤ steps' by omega)
        rw [next']
        exact ih behind renamed (by omega) next

theorem withoutLineEnd_renamed {done done' : Tokens} (h : Renamed R done done') :
    Renamed R (withoutLineEnd done) (withoutLineEnd done') := by
  cases h with
  | nil => exact .nil
  | @cons t _ done done' first behind =>
      cases first with
      | name related => exact List.rel_reverse (.cons (.name related) behind)
      | same noName noDecimal noWhole =>
          cases t with
          | lineEnd => exact List.rel_reverse behind
          | name id => exact absurd rfl (noName id)
          | _ => exact List.rel_reverse (.cons (.same noName noDecimal noWhole) behind)

/-- The tokens of a text with other names are those of the text but for the names. -/
theorem lex_renamed {ts : Tokens} (h : TextRenamed R s s') (lexed : lex s = some ts) :
    ∃ ts', lex s' = some ts' ∧ Renamed R ts ts' := by
  have plain {R : Renaming} {s s' : List Char} (h : TextRenamed R s s') :
      unifyLineEnds s = s := unifyLineEnds_eq (h.not_mem (by decide) (by decide))
  rw [lex_eq, plain h] at lexed
  obtain ⟨out, run, rfl⟩ := Option.map_eq_some_iff.mp lexed
  obtain ⟨out', run', renamed⟩ := lexSteps_renamed h .nil (Nat.le_refl _) run
  rw [lex_eq, plain h.flip, run']
  exact ⟨_, rfl, withoutLineEnd_renamed renamed⟩

end Astrolabe.Expression
