import Astrolabe.Proofs.Expression.NumeralCase
import Astrolabe.Proofs.Expression.Recognized
import Astrolabe.Proofs.Expression.Steps

/-!
Expressions and letter case. Two texts in ASCII that are the same but for letter case have the same
tokens but for the case of names, if the tokens of one of them are those of arithmetic: a reserved
word, which would be a name in another case, is no such token. So they have the same value.
-/

namespace Astrolabe.Expression

open Number Text

/-! Tokens. -/

/-- Two tokens that are the same but for the case of letters in a name. -/
inductive Token.SameName : Token → Token → Prop
  | refl (token : Token) : SameName token token
  | name {id id' : String} (same : Text.lower id = Text.lower id') : SameName (.name id) (.name id')

theorem Lexeme.sameName_of_token {l : Lexeme} {t : Token} (h : Token.SameName l.token t) :
    ∃ l' : Lexeme, t = l'.token ∧ l.SameName l' := by
  generalize token : l.token = u at h
  cases h with
  | refl =>
      refine ⟨l, token.symm, ?_⟩
      cases l with
      | numeral n => exact .numeral n
      | word w => exact .word rfl
      | mark m => exact .mark m
  | name same =>
      cases l with
      | numeral n =>
          rw [Lexeme.token, Numeral.token] at token
          split at token <;> cases token
      | word w =>
          cases token
          exact ⟨.word ⟨_, same ▸ w.known⟩, rfl, .word same⟩
      | mark m => cases token

/-- Tokens that are those of lexemes but for the case of names are those of such lexemes. -/
theorem lexemes_of_sameName {ls : List Lexeme} {ts : List Token}
    (h : List.Forall₂ Token.SameName (tokens ls) ts) :
    ∃ ls', ts = tokens ls' ∧ List.Forall₂ Lexeme.SameName ls ls' := by
  induction ls generalizing ts with
  | nil =>
      cases h
      exact ⟨[], rfl, .nil⟩
  | cons l ls ih =>
      obtain _ | ⟨first, behind⟩ := h
      obtain ⟨l', rfl, same⟩ := Lexeme.sameName_of_token first
      obtain ⟨ls', rfl, others⟩ := ih behind
      exact ⟨l' :: ls', rfl, .cons same others⟩

/-- Two moves that are the same but for the case of letters in a name. -/
inductive Move.SameName : Move → Move → Prop
  | refl (move : Move) : SameName move move
  | push {token token' : Token} (same : Token.SameName token token') :
      SameName (.push token) (.push token')

theorem endLine_sameName {done done' : List Token} (h : List.Forall₂ Token.SameName done done') :
    List.Forall₂ Token.SameName (endLine done) (endLine done') := by
  cases h with
  | nil => exact .nil
  | @cons t t' done done' first behind =>
      cases first with
      | name same => exact .cons (.refl _) (.cons (.name same) behind)
      | refl =>
          cases t with
          | lineEnd => exact .cons (.refl _) behind
          | _ => exact .cons (.refl _) (.cons (.refl _) behind)

theorem Move.SameName.apply {move move' : Move} {done done' : List Token}
    (h : Move.SameName move move') (same : List.Forall₂ Token.SameName done done') :
    List.Forall₂ Token.SameName (move.apply done) (move'.apply done') := by
  cases h with
  | refl =>
      cases move with
      | keep => exact same
      | line => exact endLine_sameName same
      | push token => exact .cons (.refl token) same
  | push name => exact .cons name same

/-! Words. -/

/-- In ASCII the token of a word that arithmetic may have is the word itself, a known name. -/
theorem known_of_wordToken? {word : List Char} {token : Token} (ascii : ∀ c ∈ word, c.toNat < 128)
    (named : wordToken? word = some token) (plain : token.Plain) :
    token = .name (String.ofList word) ∧
      Text.lower (String.ofList word) ∈ constantNames ++ functionNames := by
  have same : compatibilityForm (String.ofList word) = String.ofList word :=
    compatibilityForm_of_ascii fun c mem => ascii c (by simpa using mem)
  rw [wordToken?] at named
  split at named
  next =>
    cases named
    exact plain.elim
  next =>
    obtain ⟨-, named⟩ := Option.ite_none_right_eq_some.mp named
    cases named
    rw [same] at plain ⊢
    exact ⟨rfl, plain⟩

theorem letters_of_closeWord {w : List Char} (close : w ∈ closeWords) :
    w ≠ [] ∧ ∀ c ∈ w, c.isAlpha = true := by
  have letters : (closeWords.all fun w => !w.isEmpty && w.all Char.isAlpha) = true := by decide
  have word := List.all_eq_true.mp letters w close
  rw [Bool.and_eq_true, Bool.not_eq_true'] at word
  exact ⟨List.isEmpty_eq_false_iff.mp word.1, List.all_eq_true.mp word.2⟩

/-- No known name begins with a word that may stand right behind a numeral. -/
theorem not_closeWord_of_known {word w : List Char} (close : w ∈ closeWords)
    (known : Text.lower (String.ofList word) ∈ constantNames ++ functionNames) : ¬w <+: word := by
  intro begins
  have apart : (closeWords.all fun w => asciiNames.all fun name =>
      !(w.map Char.toLower).isPrefixOf name.toList) = true := by decide
  obtain ⟨nonempty, letters⟩ := letters_of_closeWord close
  obtain pi | ⟨name, mem, lower⟩ := spelled_of_known known
  · rw [String.toList_ofList] at pi
    obtain ⟨c, rest, rfl⟩ := List.exists_cons_of_ne_nil nonempty
    obtain ⟨more, same⟩ := begins
    have letter := letters c (List.mem_cons_self ..)
    obtain rfl | rfl := pi <;> rw [(List.cons.inj same).1] at letter <;> cases letter
  · have foreign := List.all_eq_true.mp (List.all_eq_true.mp apart w close) name mem
    rw [← lower, String.toList_ofList, List.isPrefixOf_iff_prefix.mpr (begins.map _)] at foreign
    cases foreign

/-- At a letter a word begins, unless the token is none of arithmetic. -/
theorem Step.word_of_letter {depth depth' : ℕ} {c : Char} {rest after : List Char} {move : Move}
    (h : Step depth (c :: rest) depth' move after) (ascii : c.toNat < 128)
    (letter : c.isAlpha = true) :
    ∃ token, move = .push token ∧
      (token.Plain → wordToken? ((c :: rest).takeWhile isWordPart) = some token) := by
  have kinds : isGap c = false ∧ c.isDigit = false ∧ (c == '.') = false :=
    forall_ascii (P := fun c => c.isAlpha = true →
      isGap c = false ∧ c.isDigit = false ∧ (c == '.') = false) (by decide) ascii letter
  cases h with
  | word _ _ named => exact ⟨_, rfl, fun _ => named⟩
  | odd odd => exact ⟨_, rfl, fun plain => absurd plain odd⟩
  | gap gap => exact absurd gap (ne_true_of_eq_false kinds.1)
  | symbol symbolic => simp [isSymbolic, isWordPart, Char.isAlphanum, letter] at symbolic
  | numeral first _ => simp [beginsNumeral, kinds] at first
  | inside | line | comment | continued => exact absurd letter (by decide)

theorem prefix_takeWhile {p : Char → Bool} {w s : List Char} (h : w <+: s)
    (all : ∀ c ∈ w, p c = true) : w <+: s.takeWhile p := by
  obtain ⟨rest, rfl⟩ := h
  rw [List.takeWhile_append_of_pos all]
  exact List.prefix_append w _

/-- No word follows. -/
def Ended (s : List Char) : Prop :=
  ∀ c ∈ s.head?, isWordPart c = false

theorem Ended.endsNumeral {s : List Char} (h : Ended s) : endsNumeral s = true := by
  cases s with
  | nil => rfl
  | cons c rest => simp [Expression.endsNumeral, h c rfl]

theorem Ended.sameLetters {s t : List Char} (ended : Ended s) (h : SameLetters s t) : Ended t := by
  cases h with
  | nil => exact ended
  | cons first _ =>
      rintro _ ⟨⟩
      exact (isWordPart_eq first).symm.trans (ended _ rfl)

/-- Behind the numerals of arithmetic no word stands. -/
theorem ended_of_lexSteps {steps depth : ℕ} {done out : List Token} {s : List Char}
    (ascii : ∀ c ∈ s, c.toNat < 128) (plain : ∀ t ∈ out, t.Plain)
    (run : lexSteps steps depth done s = some out) (ends : endsNumeral s = true) : Ended s := by
  intro c first
  obtain ⟨rest, rfl⟩ := List.head?_eq_some_iff.mp first
  refine Bool.of_not_eq_true fun part => ?_
  rw [endsNumeral, part, Bool.not_true, Bool.false_or, List.any_eq_true] at ends
  obtain ⟨w, close, begins⟩ := ends
  have begins := List.isPrefixOf_iff_prefix.mp begins
  obtain ⟨nonempty, letters⟩ := letters_of_closeWord close
  have letter : c.isAlpha = true := by
    obtain ⟨d, more, rfl⟩ := List.exists_cons_of_ne_nil nonempty
    exact (List.cons_prefix_cons.mp begins).1 ▸ letters d (List.mem_cons_self ..)
  cases steps with
  | zero => cases run
  | succ steps =>
      obtain ⟨depth', move, after, step, run⟩ := step_of_lexSteps run
      obtain ⟨token, rfl, named⟩ := step.word_of_letter (ascii c (List.mem_cons_self ..)) letter
      have plain := plain token ((suffix_of_lexSteps run).1.subset (List.mem_cons_self ..))
      obtain ⟨-, known⟩ := known_of_wordToken?
        (fun c mem => ascii c ((List.takeWhile_sublist _).subset mem)) (named plain) plain
      refine not_closeWord_of_known close known (prefix_takeWhile begins fun d mem => ?_)
      rw [isWordPart, Char.isAlphanum, letters d mem]
      rfl

/-! Steps. -/

section Steps

variable {s t : List Char}

theorem isIndented_eq (h : SameLetters s t) : isIndented s = isIndented t := by
  have blank {c d : Char} (h : SameLetter c d) :
      (c == ' ' || c == '\t') = (d == ' ' || d == '\t') :=
    h.congr (f := fun c => c == ' ' || c == '\t') (by decide)
  have shown {c d : Char} (h : SameLetter c d) : (c != '\n' && c != '#' && c.toNat != 12) =
      (d != '\n' && d != '#' && d.toNat != 12) :=
    h.congr (f := fun c => c != '\n' && c != '#' && c.toNat != 12) (by decide)
  unfold isIndented
  dsimp only
  rw [h.head?_any_eq fun _ _ => blank,
    (h.span fun _ _ => blank).2.head?_any_eq fun _ _ => shown]

theorem isPrefixOf_eq {w : List Char} (plain : ∀ c ∈ w, c.isAlpha = false) (h : SameLetters s t) :
    w.isPrefixOf s = w.isPrefixOf t := by
  induction w generalizing s t with
  | nil => rw [List.isPrefixOf, List.isPrefixOf]
  | cons m w ih =>
      obtain ⟨here, later⟩ := List.forall_mem_cons.mp plain
      cases h with
      | nil => rfl
      | @cons c d s t first behind =>
          have same : (m == c) = (m == d) := by
            rw [Bool.eq_iff_iff, beq_iff_eq, beq_iff_eq, eq_comm, first.eq_iff here, eq_comm]
          rw [List.isPrefixOf, List.isPrefixOf, same, ih later behind]

theorem beginsNumeral_eq {c d : Char} (first : SameLetter c d) (h : SameLetters s t) :
    beginsNumeral c s = beginsNumeral d t := by
  have point : (c == '.') = (d == '.') := first.congr (f := (· == '.')) (by decide)
  rw [beginsNumeral, beginsNumeral, first.isDigit_eq, point,
    h.head?_any_eq fun _ _ => SameLetter.isDigit_eq]

theorem find?_symbol_eq (h : SameLetters s t) :
    (symbols.find? fun mark => mark.toList.isPrefixOf s) =
      symbols.find? fun mark => mark.toList.isPrefixOf t := by
  have plain : (symbols.all fun mark => mark.toList.all fun c => !c.isAlpha) = true := by decide
  refine List.find?_congr fun mark mem => isPrefixOf_eq (fun c inside => ?_) h
  have letter := List.all_eq_true.mp (List.all_eq_true.mp plain mark mem) c inside
  simpa using letter

/-- A step at one of two texts is a step at the other one. -/
theorem Step.sameLetters {depth depth' : ℕ} {after : List Char} {move : Move}
    (h : Step depth s depth' move after) (same : SameLetters s t)
    (plain : ∀ token, move = .push token → token.Plain)
    (ended : (∀ c ∈ after, c.toNat < 128) → endsNumeral after = true → Ended after) :
    ∃ move' after', (∀ steps done, lexSteps (steps + 1) depth done t =
        lexSteps steps depth' (move'.apply done) after') ∧
      Move.SameName move move' ∧ SameLetters after after' := by
  cases h with
  | gap gap =>
      obtain _ | ⟨first, behind⟩ := same
      have gap' := (first.congr (f := isGap) (by decide)).symm.trans gap
      exact ⟨.keep, _, fun _ _ => lexSteps_gap gap', .refl _, behind⟩
  | inside nested =>
      obtain _ | ⟨first, behind⟩ := same
      cases first.eq rfl
      refine ⟨.keep, _, fun _ _ => ?_, .refl _, behind⟩
      rw [lexSteps_newline, if_pos (bne_iff_ne.mpr nested)]
      rfl
  | line outside flush =>
      obtain _ | ⟨first, behind⟩ := same
      cases first.eq rfl
      cases outside
      refine ⟨.line, _, fun _ _ => ?_, .refl _, behind⟩
      rw [lexSteps_newline, ← isIndented_eq behind, flush]
      rfl
  | comment =>
      obtain _ | ⟨first, behind⟩ := same
      cases first.eq rfl
      have newline {c d : Char} (h : SameLetter c d) : (c != '\n') = (d != '\n') :=
        h.congr (f := (· != '\n')) (by decide)
      exact ⟨.keep, _, fun _ _ => rfl, .refl _, (SameLetters.span behind fun _ _ => newline).2⟩
  | continued =>
      obtain _ | ⟨first, _ | ⟨second, _ | ⟨third, behind⟩⟩⟩ := same
      cases first.eq rfl
      cases second.eq rfl
      exact ⟨.keep, _, fun _ _ => rfl, .refl _, .cons third behind⟩
  | numeral first cut =>
      -- a word right behind the numeral could be reserved in one case alone, but there is none
      obtain ⟨after', cut', behind⟩ := numeralCut_sameLetters same cut fun u rest =>
        ((ended rest.ascii (endsNumeral_of_numeralCut cut)).sameLetters rest).endsNumeral
      obtain _ | ⟨head, rest⟩ := same
      refine ⟨.push _, after', fun _ _ => ?_, .refl _, behind⟩
      rw [lexSteps_numeral ((beginsNumeral_eq head rest).symm.trans first), cut', Option.bind_some]
      rfl
  | @word c rest token part notDigit named =>
      -- the word is a known name, so it is one in letters of the other case
      obtain ⟨word, behind⟩ := same.span fun _ _ => isWordPart_eq
      obtain ⟨rfl, known⟩ := known_of_wordToken? word.ascii named (plain _ rfl)
      have lower : Text.lower (String.ofList ((c :: rest).takeWhile isWordPart)) =
          Text.lower (String.ofList (t.takeWhile isWordPart)) :=
        lower_congr (by rw [String.toList_ofList, String.toList_ofList]; exact word)
      have isWord := isWord_of_known (lower ▸ known)
      rw [String.toList_ofList] at isWord
      obtain _ | ⟨head, more⟩ := same
      refine ⟨.push _, _, fun _ _ => ?_, .push (.name lower), behind⟩
      rw [lexSteps_word ((isWordPart_eq head).symm.trans part)
        (head.isDigit_eq.symm.trans notDigit) (.inl isWord.bare), isWord.token, Option.bind_some]
      rfl
  | @symbol _ _ mark symbolic other found =>
      have found' := (find?_symbol_eq same).symm.trans found
      have behind := List.forall₂_drop mark.length same
      obtain _ | ⟨head, rest⟩ := same
      have symbolic' := (head.congr (f := isSymbolic) (by decide)).symm.trans symbolic
      have other' := (beginsNumeral_eq head rest).symm.trans other
      exact ⟨.push _, _, fun _ _ => lexSteps_symbolic symbolic' other' found', .refl _, behind⟩
  | odd odd => exact absurd (plain _ rfl) odd

theorem lexSteps_nil_sameName {steps depth : ℕ} {done done' out : List Token}
    (pile : List.Forall₂ Token.SameName done done')
    (run : lexSteps steps depth done [] = some out) :
    ∃ out', lexSteps steps depth done' [] = some out' ∧ List.Forall₂ Token.SameName out out' := by
  rw [lexSteps_nil] at run ⊢
  cases run
  refine ⟨_, rfl, ?_⟩
  split
  next => exact endLine_sameName pile
  next => exact pile

/-- The tokens of two texts are the same but for the case of names. -/
theorem lexSteps_sameLetters {steps depth : ℕ} {done done' out : List Token}
    (plain : ∀ token ∈ out, token.Plain) (same : SameLetters s t)
    (pile : List.Forall₂ Token.SameName done done') (run : lexSteps steps depth done s = some out) :
    ∃ out', lexSteps steps depth done' t = some out' ∧ List.Forall₂ Token.SameName out out' := by
  induction steps generalizing depth done done' s t with
  | zero =>
      cases same with
      | nil => exact lexSteps_nil_sameName pile run
      | cons _ _ => cases run
  | succ steps ih =>
      cases same with
      | nil => exact lexSteps_nil_sameName pile run
      | cons first behind =>
          obtain ⟨depth', move, after, step, run⟩ := step_of_lexSteps run
          have pushed : ∀ token, move = .push token → token.Plain := by
            rintro token rfl
            exact plain token ((suffix_of_lexSteps run).1.subset (List.mem_cons_self ..))
          obtain ⟨move', after', run', moves, rest⟩ := step.sameLetters (.cons first behind) pushed
            fun ascii ends => ended_of_lexSteps ascii plain run ends
          rw [run']
          exact ih rest (moves.apply pile) run

end Steps

/-! Texts. -/

section Texts

variable {s t : List Char}

theorem unifyLineEnds_sameLetters (h : SameLetters s t) :
    SameLetters (unifyLineEnds s) (unifyLineEnds t) := by
  fun_induction unifyLineEnds s generalizing t with
  | case1 rest ih =>
      obtain _ | ⟨first, _ | ⟨second, behind⟩⟩ := h
      cases first.eq rfl
      cases second.eq rfl
      exact .cons second (ih behind)
  | case2 rest alone ih =>
      obtain _ | @⟨_, _, _, t, first, behind⟩ := h
      cases first.eq rfl
      rw [unifyLineEnds]
      · exact .cons ⟨by decide, rfl⟩ (ih behind)
      · rintro more rfl
        obtain _ | @⟨e, _, rest, _, second, _⟩ := behind
        exact alone rest (congrArg (· :: rest) ((second.eq_iff rfl).mpr rfl))
  | case3 c rest double alone ih =>
      obtain _ | @⟨_, d, _, t, first, behind⟩ := h
      rw [unifyLineEnds]
      · exact .cons first (ih behind)
      · rintro more rfl rfl
        obtain _ | @⟨e, _, rest, _, second, _⟩ := behind
        exact double rest ((first.eq_iff rfl).mpr rfl)
          (congrArg (· :: rest) ((second.eq_iff rfl).mpr rfl))
      · rintro rfl
        exact alone ((first.eq_iff rfl).mpr rfl)
  | case4 =>
      cases h
      exact .nil

theorem expandCarets_sameLetters (h : SameLetters s t) :
    SameLetters (expandCarets s) (expandCarets t) := by
  refine List.rel_flatMap h fun c d first => ?_
  by_cases caret : c = '^'
  · subst caret
    cases first.eq rfl
    have star : SameLetter '*' '*' := ⟨by decide, rfl⟩
    exact .cons star (.cons star .nil)
  · have caret' : d ≠ '^' := fun same => caret ((first.eq_iff rfl).mpr same)
    rw [beq_false_of_ne caret, beq_false_of_ne caret']
    exact .cons first .nil

/-- The tokens on the pile in their order, without the line end behind the last one. -/
def withoutLineEnd (done : List Token) : List Token :=
  match done with
  | .lineEnd :: before => before.reverse
  | _ => done.reverse

theorem lex_eq (s : List Char) :
    lex s = (lexSteps (unifyLineEnds s).length 0 [] (unifyLineEnds s)).map withoutLineEnd :=
  rfl

theorem plain_of_withoutLineEnd {done : List Token}
    (plain : ∀ token ∈ withoutLineEnd done, token.Plain) : ∀ token ∈ done, token.Plain := by
  unfold withoutLineEnd at plain
  split at plain
  next before =>
    refine List.forall_mem_cons.mpr ⟨trivial, fun token mem => ?_⟩
    exact plain token (List.mem_reverse.mpr mem)
  next => exact fun token mem => plain token (List.mem_reverse.mpr mem)

theorem withoutLineEnd_sameName {done done' : List Token}
    (h : List.Forall₂ Token.SameName done done') :
    List.Forall₂ Token.SameName (withoutLineEnd done) (withoutLineEnd done') := by
  cases h with
  | nil => exact .nil
  | @cons t t' done done' first behind =>
      cases first with
      | name same => exact List.rel_reverse (.cons (.name same) behind)
      | refl =>
          cases t with
          | lineEnd => exact List.rel_reverse behind
          | _ => exact List.rel_reverse (.cons (.refl _) behind)

theorem lex_sameLetters {ts : List Token} (plain : ∀ token ∈ ts, token.Plain)
    (same : SameLetters s t) (lexed : lex s = some ts) :
    ∃ ts', lex t = some ts' ∧ List.Forall₂ Token.SameName ts ts' := by
  rw [lex_eq] at lexed
  obtain ⟨out, run, rfl⟩ := Option.map_eq_some_iff.mp lexed
  have same := unifyLineEnds_sameLetters same
  obtain ⟨out', run', tokens⟩ := lexSteps_sameLetters (plain_of_withoutLineEnd plain) same .nil run
  rw [same.length_eq] at run'
  rw [lex_eq, run']
  exact ⟨_, rfl, withoutLineEnd_sameName tokens⟩

theorem length_unifyLineEnds_le (s : List Char) : (unifyLineEnds s).length ≤ s.length := by
  fun_induction unifyLineEnds s with
  | case1 rest ih => exact Nat.le_succ_of_le (Nat.succ_le_succ ih)
  | case2 rest _ ih => exact Nat.succ_le_succ ih
  | case3 c rest _ _ ih => exact Nat.succ_le_succ ih
  | case4 => exact Nat.le_refl 0

theorem length_of_lex {ts : List Token} (lexed : lex s = some ts) : ts.length ≤ s.length + 1 := by
  rw [lex_eq] at lexed
  obtain ⟨out, run, rfl⟩ := Option.map_eq_some_iff.mp lexed
  have few := (suffix_of_lexSteps run).2
  have short := length_unifyLineEnds_le s
  have kept : (withoutLineEnd out).length ≤ out.length := by
    unfold withoutLineEnd
    split
    next => rw [List.length_reverse]; exact Nat.le_succ _
    next => exact (List.length_reverse).le
  rw [List.length_nil] at few
  omega

/-- A text is an expression with a value if another one is that differs in letter case alone. -/
theorem ofText?_sameLetters {text text' : String} {e : Expr} {x : Float}
    (same : SameLetters text.toList text'.toList) (tree : Expr.ofText? text = some e)
    (value : e.HasValue x) : ∃ e', Expr.ofText? text' = some e' ∧ e'.HasValue x := by
  obtain ⟨ls, lexed, spelled⟩ := spelled_of_tree tree value
  have plain : ∀ token ∈ tokens ls, token.Plain := by
    intro token mem
    obtain ⟨l, -, rfl⟩ := List.mem_map.mp mem
    exact l.plain
  obtain ⟨ts', lexed', tokens⟩ := lex_sameLetters plain same lexed
  obtain ⟨ls', rfl, lexemes⟩ := lexemes_of_sameName tokens
  obtain ⟨e', spelled', agrees⟩ := spelled.sameName lexemes
  have readable := spelled'.readable
  refine ⟨e', ofText?_of_reads (readable.reads (by decide)) readable.formed lexed' ?_,
    agrees.value x value⟩
  have few := length_of_lex lexed'
  rwa [Expression.tokens, List.length_map] at few

theorem tree?_sameLetters {text text' : String} {e : Expr} {x : Float}
    (same : SameLetters text.toList text'.toList) (tree : tree? text = some e)
    (value : e.HasValue x) : ∃ e', tree? text' = some e' ∧ e'.HasValue x := by
  refine ofText?_sameLetters ?_ tree value
  rw [String.toList_ofList, String.toList_ofList]
  exact expandCarets_sameLetters (sameLetters_strip same)

end Texts

end Astrolabe.Expression
