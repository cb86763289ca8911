import Astrolabe.Proofs.Expression.Lexed

/-!
What one step of the lexer does: it drops something between tokens, ends a line or puts one token on
the pile. The tokens on the pile stay there.
-/

namespace Astrolabe.Expression

open Number

/-- A token that arithmetic may have. A name is that of a constant or a function. -/
def Token.Plain : Token → Prop
  | .name id => Text.lower id ∈ constantNames ++ functionNames
  | .keyword _ | .text _ | .bytes _ | .template _ => False
  | .whole _ | .decimal _ | .imaginary _ | .symbol _ | .lineEnd => True

theorem Lexeme.plain (l : Lexeme) : l.token.Plain := by
  cases l with
  | numeral n =>
      rw [token, Numeral.token]
      split <;> trivial
  | word w => exact w.known
  | mark m => trivial

/-- Whether a character stands between tokens. -/
def isGap (c : Char) : Bool :=
  c == ' ' || c == '\t' || c.toNat == 12

/-- Whether a numeral begins with a character before a text. -/
def beginsNumeral (c : Char) (rest : List Char) : Bool :=
  c.isDigit || (c == '.' && rest.head?.any Char.isDigit)

/-- Whether a character is neither in a gap nor in a word nor in a literal. -/
def isSymbolic (c : Char) : Bool :=
  !(isGap c || c == '\n' || c == '#' || c == '\\' ||
    (isWordPart c || c.toNat == 34 || c.toNat == 39))

/-- The number of open brackets behind a symbol. -/
def depthBehind (mark : String) (depth : ℕ) : ℕ :=
  if openers.contains mark then depth + 1 else if closers.contains mark then depth - 1 else depth

/-- What a step does to the pile of tokens. -/
inductive Move where
  | keep
  | line
  | push (token : Token)

def Move.apply : Move → List Token → List Token
  | keep, done => done
  | line, done => endLine done
  | push token, done => token :: done

/-- The steps of the lexer: the move that it makes at a text, the brackets that are open then, and
the text that is left. About tokens that arithmetic does not have nothing is said. -/
inductive Step (depth : ℕ) : List Char → ℕ → Move → List Char → Prop
  | gap {c : Char} {rest : List Char} (gap : isGap c = true) :
      Step depth (c :: rest) depth .keep rest
  | inside {rest : List Char} (nested : depth ≠ 0) : Step depth ('\n' :: rest) depth .keep rest
  | line {rest : List Char} (outside : depth = 0) (flush : isIndented rest = false) :
      Step depth ('\n' :: rest) depth .line rest
  | comment {rest : List Char} : Step depth ('#' :: rest) depth .keep (rest.dropWhile (· != '\n'))
  | continued {d : Char} {more : List Char} :
      Step depth ('\\' :: '\n' :: d :: more) depth .keep (d :: more)
  | numeral {c : Char} {rest after : List Char} {token : Token}
      (first : beginsNumeral c rest = true)
      (cut : numeralCut (c :: rest) = some (token, after)) :
      Step depth (c :: rest) depth (.push token) after
  | word {c : Char} {rest : List Char} {token : Token} (part : isWordPart c = true)
      (notDigit : c.isDigit = false)
      (named : wordToken? ((c :: rest).takeWhile isWordPart) = some token) :
      Step depth (c :: rest) depth (.push token) ((c :: rest).dropWhile isWordPart)
  | symbol {c : Char} {rest : List Char} {mark : String} (symbolic : isSymbolic c = true)
      (other : beginsNumeral c rest = false)
      (found : (symbols.find? fun mark => mark.toList.isPrefixOf (c :: rest)) = some mark) :
      Step depth (c :: rest) (depthBehind mark depth) (.push (.symbol mark))
        ((c :: rest).drop mark.length)
  | odd {s after : List Char} {token : Token} (odd : ¬token.Plain) :
      Step depth s depth (.push token) after

theorem wordToken?_nil : wordToken? [] = none := by
  decide

/-- The end of the step at a literal, with the characters that it stands for. -/
def literalStep (steps depth : ℕ) (done : List Token) (mode : LiteralMode)
    (inside after cs : List Char) : Option (List Token) :=
  if mode.template then do
    let (fields, _) ← templateFields false inside.length inside
    let fields ← fields.mapM fun field =>
      if hasSubstance field then lexSteps steps 1 [] field else none
    lexSteps steps depth (.template (fields.map List.reverse) :: done) after
  else do
    guard (!(mode.bytes && inside.any fun c => 128 ≤ c.toNat))
    let token := if mode.bytes then .bytes (cs.map Char.toNat) else Token.text (String.ofList cs)
    lexSteps steps depth (token :: done) after

/-- The step at a word or a literal. -/
def wordStep (steps depth : ℕ) (done : List Token) (s : List Char) : Option (List Token) :=
  let word := s.takeWhile isWordPart
  let after := s.dropWhile isWordPart
  let asWord : Option (List Token) := do
    lexSteps steps depth ((← wordToken? word) :: done) after
  match after, literalMode? word with
  | quote :: body, some mode =>
    if quote.toNat == 34 || quote.toNat == 39 then do
      let triple := body.take 2 == [quote, quote]
      let (inside, after) ← splitBody quote triple (if triple then body.drop 2 else body)
      let cs ← if mode.raw then some inside else unescape mode.bytes inside
      literalStep steps depth done mode inside after cs
    else asWord
  | _, _ => asWord

theorem lexSteps_cons (steps depth : ℕ) (done : List Token) (c : Char) (rest : List Char) :
    lexSteps (steps + 1) depth done (c :: rest) =
      if isGap c then lexSteps steps depth done rest
      else if c == '\n' then
        if depth != 0 then lexSteps steps depth done rest
        else if isIndented rest then none
        else lexSteps steps depth (endLine done) rest
      else if c == '#' then lexSteps steps depth done (rest.dropWhile (· != '\n'))
      else if c == '\\' then
        match rest with
        | '\n' :: d :: more => lexSteps steps depth done (d :: more)
        | _ => none
      else if beginsNumeral c rest then
        (numeralCut (c :: rest)).bind fun (token, after) =>
          lexSteps steps depth (token :: done) after
      else if isWordPart c || c.toNat == 34 || c.toNat == 39 then
        wordStep steps depth done (c :: rest)
      else
        match symbols.find? fun mark => mark.toList.isPrefixOf (c :: rest) with
        | some mark =>
          lexSteps steps (depthBehind mark depth) (.symbol mark :: done)
            ((c :: rest).drop mark.length)
        | none => none := by
  rw [lexSteps.eq_def]
  rfl

section Forward

variable {steps depth : ℕ} {done : List Token} {c : Char} {rest : List Char}

theorem lexSteps_gap (gap : isGap c = true) :
    lexSteps (steps + 1) depth done (c :: rest) = lexSteps steps depth done rest := by
  rw [lexSteps_cons, if_pos gap]

theorem lexSteps_newline :
    lexSteps (steps + 1) depth done ('\n' :: rest) =
      if depth != 0 then lexSteps steps depth done rest
      else if isIndented rest then none
      else lexSteps steps depth (endLine done) rest :=
  rfl

theorem lexSteps_of_isSymbolic (symbolic : isSymbolic c = true)
    (other : beginsNumeral c rest = false) :
    lexSteps (steps + 1) depth done (c :: rest) =
      (symbols.find? fun mark => mark.toList.isPrefixOf (c :: rest)).bind fun mark =>
        lexSteps steps (depthBehind mark depth) (.symbol mark :: done)
          ((c :: rest).drop mark.length) := by
  rw [isSymbolic, Bool.not_eq_true'] at symbolic
  obtain ⟨symbolic, noWord⟩ := Bool.or_eq_false_iff.mp symbolic
  obtain ⟨symbolic, noBack⟩ := Bool.or_eq_false_iff.mp symbolic
  obtain ⟨symbolic, noComment⟩ := Bool.or_eq_false_iff.mp symbolic
  obtain ⟨noGap, noLine⟩ := Bool.or_eq_false_iff.mp symbolic
  rw [lexSteps_cons, noGap, noLine, noComment, noBack, other, noWord]
  cases symbols.find? fun mark => mark.toList.isPrefixOf (c :: rest) <;> rfl

theorem lexSteps_symbolic {mark : String} (symbolic : isSymbolic c = true)
    (other : beginsNumeral c rest = false)
    (found : (symbols.find? fun mark => mark.toList.isPrefixOf (c :: rest)) = some mark) :
    lexSteps (steps + 1) depth done (c :: rest) =
      lexSteps steps (depthBehind mark depth) (.symbol mark :: done)
        ((c :: rest).drop mark.length) := by
  rw [lexSteps_of_isSymbolic symbolic other, found, Option.bind_some]

end Forward

theorem step_of_literalStep {steps depth : ℕ} {done out : List Token} {mode : LiteralMode}
    {s inside after cs : List Char}
    (run : literalStep steps depth done mode inside after cs = some out) :
    ∃ move after, Step depth s depth move after ∧
      lexSteps steps depth (move.apply done) after = some out := by
  unfold literalStep at run
  split at run
  next =>
    obtain ⟨⟨fields, _⟩, -, run⟩ := Option.bind_eq_some_iff.mp run
    obtain ⟨fields, -, run⟩ := Option.bind_eq_some_iff.mp run
    exact ⟨.push _, _, .odd id, run⟩
  next =>
    obtain ⟨-, -, run⟩ := Option.bind_eq_some_iff.mp run
    refine ⟨.push _, _, .odd ?_, run⟩
    split <;> exact id

theorem step_of_wordStep {steps depth : ℕ} {done out : List Token} {c : Char} {rest : List Char}
    (notDigit : c.isDigit = false) (run : wordStep steps depth done (c :: rest) = some out) :
    ∃ move after, Step depth (c :: rest) depth move after ∧
      lexSteps steps depth (move.apply done) after = some out := by
  have asWord (run : ((wordToken? ((c :: rest).takeWhile isWordPart)).bind fun token =>
      lexSteps steps depth (token :: done) ((c :: rest).dropWhile isWordPart)) = some out) :
      ∃ move after, Step depth (c :: rest) depth move after ∧
        lexSteps steps depth (move.apply done) after = some out := by
    obtain ⟨token, named, run⟩ := Option.bind_eq_some_iff.mp run
    refine ⟨.push token, _, .word (Bool.of_not_eq_false fun quote => ?_) notDigit named, run⟩
    rw [List.takeWhile_cons_of_neg (ne_true_of_eq_false quote), wordToken?_nil] at named
    cases named
  unfold wordStep at run
  dsimp only at run
  split at run
  next quote body mode after literal =>
    split at run
    next =>
      obtain ⟨⟨inside, after⟩, -, run⟩ := Option.bind_eq_some_iff.mp run
      split at run
      all_goals
        obtain ⟨cs, -, run⟩ := Option.bind_eq_some_iff.mp run
        exact step_of_literalStep run
    next => exact asWord run
  next => exact asWord run

/-- Every step of the lexer is one of these. -/
theorem step_of_lexSteps {steps depth : ℕ} {done out : List Token} {c : Char} {rest : List Char}
    (run : lexSteps (steps + 1) depth done (c :: rest) = some out) :
    ∃ depth' move after, Step depth (c :: rest) depth' move after ∧
      lexSteps steps depth' (move.apply done) after = some out := by
  rw [lexSteps_cons] at run
  split at run
  next gap => exact ⟨_, .keep, _, .gap gap, run⟩
  next noGap =>
  split at run
  next newline =>
    obtain rfl := beq_iff_eq.mp newline
    split at run
    next nested => exact ⟨_, .keep, _, .inside (bne_iff_ne.mp nested), run⟩
    next outside =>
      obtain ⟨flush, run⟩ := Option.ite_none_left_eq_some.mp run
      have outside : depth = 0 := by simpa using outside
      exact ⟨_, .line, _, .line outside (Bool.eq_false_iff.mpr flush), run⟩
  next noLine =>
  split at run
  next comment =>
    obtain rfl := beq_iff_eq.mp comment
    exact ⟨_, .keep, _, .comment, run⟩
  next noComment =>
  split at run
  next back =>
    obtain rfl := beq_iff_eq.mp back
    split at run
    next => exact ⟨_, .keep, _, .continued, run⟩
    next => cases run
  next noBack =>
  split at run
  next first =>
    obtain ⟨⟨token, after⟩, cut, run⟩ := Option.bind_eq_some_iff.mp run
    exact ⟨_, .push token, _, .numeral first cut, run⟩
  next other =>
  have other : beginsNumeral c rest = false := Bool.eq_false_iff.mpr other
  split at run
  next =>
    obtain ⟨move, after, step, run⟩ := step_of_wordStep (Bool.or_eq_false_iff.mp other).1 run
    exact ⟨depth, move, after, step, run⟩
  next noWord =>
    have symbolic : isSymbolic c = true := by
      rw [isSymbolic, Bool.eq_false_iff.mpr noGap, Bool.eq_false_iff.mpr noLine,
        Bool.eq_false_iff.mpr noComment, Bool.eq_false_iff.mpr noBack, Bool.eq_false_iff.mpr noWord]
      rfl
    split at run
    next mark found => exact ⟨_, .push (.symbol mark), _, .symbol symbolic other found, run⟩
    next => cases run

/-! The pile of tokens. -/

theorem Move.suffix (move : Move) (done : List Token) :
    done <:+ move.apply done ∧ (move.apply done).length ≤ done.length + 1 := by
  cases move with
  | keep => exact ⟨List.suffix_refl done, Nat.le_succ _⟩
  | line =>
      rw [apply]
      unfold endLine
      split
      next => exact ⟨List.suffix_refl _, Nat.le_succ _⟩
      next => exact ⟨List.suffix_refl _, Nat.le_succ _⟩
      next => exact ⟨List.suffix_cons _ _, Nat.le_refl _⟩
  | push token => exact ⟨List.suffix_cons _ _, Nat.le_refl _⟩

/-- Tokens stay on the pile, and each step puts at most one there. -/
theorem suffix_of_lexSteps {steps depth : ℕ} {done out : List Token} {s : List Char}
    (run : lexSteps steps depth done s = some out) :
    done <:+ out ∧ out.length ≤ done.length + steps + 1 := by
  induction steps generalizing depth done s with
  | zero =>
      cases s with
      | nil =>
          rw [lexSteps_nil] at run
          cases run
          split
          next => exact Move.line.suffix done
          next => exact ⟨List.suffix_refl done, Nat.le_succ _⟩
      | cons c rest => cases run
  | succ steps ih =>
      cases s with
      | nil =>
          rw [lexSteps_nil] at run
          have last := (ih ((lexSteps_nil steps depth done).trans run))
          exact ⟨last.1, by omega⟩
      | cons c rest =>
          obtain ⟨depth', move, after, -, run⟩ := step_of_lexSteps run
          obtain ⟨below, few⟩ := ih run
          obtain ⟨below', few'⟩ := move.suffix done
          exact ⟨below'.trans below, by omega⟩

end Astrolabe.Expression
