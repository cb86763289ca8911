import Mathlib.Data.List.TakeWhile
import Astrolabe.Expression.Value
import Astrolabe.Proofs.Number.Magnitude
import Astrolabe.Proofs.Expression.Names

/-!
Texts that are one operand: a numeral, perhaps with a sign, or the name of a constant. The general
notation gives them the value they have by themselves.
-/

namespace Astrolabe.Expression

open Number

/-! Trees of single operands. -/

/-- The tree of a token that is an operand by itself. -/
def Token.leaf? : Token → Option Expr
  | .whole n => some (.whole n)
  | .decimal d => some (.decimal d)
  | .name id => some (.name id)
  | _ => none

theorem atom_leaf {token : Token} {e : Expr} (h : token.leaf? = some e) (fuel : ℕ)
    (rest : Tokens) : atom (fuel + 1) (token :: rest) = some (e, rest) := by
  unfold Token.leaf? at h
  split at h <;> cases h <;> rw [atom]

theorem factor_leaf {token : Token} {e : Expr} (h : token.leaf? = some e) (fuel : ℕ) :
    factor (fuel + 5) [token] = some (e, []) := by
  have atomic := atom_leaf h fuel []
  unfold Token.leaf? at h
  split at h <;> cases h <;>
    simp only [factor, power, awaited, primary, atomic, trailers, bind, Option.bind_some]

theorem factor_signed {mark : String} {op : UnaryOp} {e : Expr} {fuel : ℕ} {ts rest : Tokens}
    (sign : sign? mark = some op) (h : factor fuel ts = some (e, rest)) :
    factor (fuel + 1) (.symbol mark :: ts) = some (.unary op e, rest) := by
  simp only [factor, sign, h, bind, Option.bind_some]

theorem operand_of_factor {fuel level : ℕ} {ts : Tokens} {e : Expr}
    (h : factor fuel ts = some (e, [])) (le : level ≤ operatorLevels) :
    operand (fuel + 1 + (operatorLevels - level)) level ts = some (e, []) := by
  generalize gap : operatorLevels - level = k
  induction k generalizing level with
  | zero => rw [Nat.add_zero, operand, if_pos (by omega), h]
  | succ k ih =>
      have stronger := @ih (level + 1) (by omega) (by omega)
      rw [← Nat.add_assoc, operand, if_neg (by omega), stronger]
      change chain (fuel + 1 + k) level e [] = _
      rw [Nat.add_right_comm, chain]
      rintro mark ts ⟨⟩

/-- Tokens that do not continue an expression: none, or a symbol that compares nothing. -/
inductive Ends : Tokens → Prop
  | nil : Ends []
  | symbol {s : String} {rest : Tokens} (other : s ∉ ["==", "!=", "<", "<=", ">", ">="]) :
      Ends (.symbol s :: rest)

theorem Ends.comparisons {rest : Tokens} (h : Ends rest) (fuel : ℕ) :
    comparisons (fuel + 1) rest = some ([], rest) := by
  have none : comparison? rest = none := by
    cases h with
    | nil => rfl
    | symbol other =>
        rw [comparison?]
        exact if_neg fun found => other (List.contains_iff_mem.mp found)
  rw [Expression.comparisons, none]

theorem Ends.conjuncts {rest : Tokens} (h : Ends rest) (fuel : ℕ) :
    conjuncts (fuel + 1) rest = some ([], rest) := by
  cases h <;> rw [Expression.conjuncts] <;> exact nofun

theorem Ends.alternatives {rest : Tokens} (h : Ends rest) (fuel : ℕ) :
    alternatives (fuel + 1) rest = some ([], rest) := by
  cases h <;> rw [Expression.alternatives] <;> exact nofun

/-- An operand with nothing before it and behind it is a whole expression. -/
theorem expression_of_operand {fuel : ℕ} {ts rest : Tokens} {e : Expr}
    (h : operand (fuel + 1) 0 ts = some (e, rest)) (plain : ∀ word more, ts ≠ .keyword word :: more)
    (ends : Ends rest) : expression (fuel + 5) ts = some (e, rest) := by
  have negated : negation (fuel + 2) ts = some (e, rest) := by
    rw [negation]
    · simp only [h, ends.comparisons, bind, Option.bind_some]
      rfl
    · exact plain _
  have joined : disjunction (fuel + 4) ts = some (e, rest) := by
    simp only [disjunction, conjunction, negated, ends.conjuncts, ends.alternatives, bind,
      Option.bind_some]
    rfl
  rw [expression]
  · simp only [joined, bind, Option.bind_some]
    cases ends <;> rfl
  · exact plain _

/-- A factor with nothing before it and behind it is the whole expression. -/
theorem expressions_of_factor {fuel : ℕ} {ts : Tokens} {e : Expr}
    (h : factor fuel ts = some (e, [])) (plain : ∀ word rest, ts ≠ .keyword word :: rest) :
    expressions (fuel + 11) ts = some ([e], false) := by
  have operands : operand (fuel + 5 + 1) 0 ts = some (e, []) :=
    operand_of_factor h (Nat.zero_le _)
  simp only [expressions, expression_of_operand operands plain .nil, bind, Option.bind_some]

theorem ofText?_of_factor {text : String} {ts : Tokens} {e : Expr}
    (lexed : lex text.toList = some ts) (h : ∀ fuel, factor (fuel + 6) ts = some (e, []))
    (plain : ∀ word rest, ts ≠ .keyword word :: rest) : Expr.ofText? text = some e := by
  have fuel : rulesPerToken * (text.length + 2) = 32 * text.length + 47 + 6 + 11 := by
    unfold rulesPerToken
    omega
  unfold Expr.ofText?
  rw [lexed, fuel]
  simp only [expressions_of_factor (h _) plain, bind, Option.bind_some]

/-! Texts. -/

theorem unifyLineEnds_eq {s : List Char} (plain : '\r' ∉ s) : unifyLineEnds s = s := by
  induction s with
  | nil => rfl
  | cons c rest ih =>
      rw [List.mem_cons, not_or] at plain
      rw [unifyLineEnds, ih plain.2]
      · rintro more rfl
        exact absurd rfl plain.1
      · rintro rfl
        exact absurd rfl plain.1

theorem expandCarets_eq {s : List Char} (plain : '^' ∉ s) : expandCarets s = s := by
  induction s with
  | nil => rfl
  | cons c rest ih =>
      rw [List.mem_cons, not_or] at plain
      have other : (c == '^') = false := beq_false_of_ne (Ne.symm plain.1)
      change (if c == '^' then ['*', '*'] else [c]) ++ expandCarets rest = _
      rw [ih plain.2, other]
      rfl

theorem exists_lex {text : String} {e : Expr} (tree : Expr.ofText? text = some e) :
    ∃ tokens, lex text.toList = some tokens := by
  unfold Expr.ofText? at tree
  obtain ⟨tokens, lexed, -⟩ := Option.bind_eq_some_iff.mp tree
  exact ⟨tokens, lexed⟩

theorem exists_steps {s : List Char} {tokens : List Token} (noReturn : '\r' ∉ s)
    (lexed : lex s = some tokens) :
    ∃ done, lexSteps s.length 0 [] s = some done ∧
      tokens = match done with
        | .lineEnd :: before => before.reverse
        | _ => done.reverse := by
  unfold lex at lexed
  rw [unifyLineEnds_eq noReturn] at lexed
  obtain ⟨done, steps, rfl⟩ := Option.map_eq_some_iff.mp lexed
  exact ⟨done, steps, rfl⟩

/-! Numerals. -/

theorem Token.Spells.leaf {d : Decimal} {token : Token} (h : token.Spells d) :
    ∃ e, token.leaf? = some e ∧ (d.toFloat.isFinite = true → e.value = .ok d.toFloat) := by
  unfold Token.Spells at h
  split at h
  next => exact h ▸ ⟨_, rfl, fun _ => by rw [Expr.value]⟩
  next n =>
    subst h
    exact ⟨_, rfl, fun finite => by rw [Expr.value, ofNat?_of_isFinite finite]⟩
  next => cases h

theorem Token.Spells.endLine {d : Decimal} {token : Token} (h : token.Spells d)
    (done : List Token) : endLine (token :: done) = .lineEnd :: token :: done := by
  unfold Token.Spells at h
  split at h <;> first | rfl | cases h

theorem lex_asciiDigits {s : List Char} {d : Decimal} {tokens : List Token}
    (h : decimal? (asciiDigits s) = some d) (lexed : lex s = some tokens) :
    ∃ token, token.Spells d ∧ tokens = [token] := by
  obtain ⟨done, steps, rfl⟩ := exists_steps (not_mem_of_asciiDigits h (by decide) rfl) lexed
  obtain ⟨token, spells, rfl⟩ := lexSteps_asciiDigits h steps
  exact ⟨token, spells, by rw [spells.endLine]; rfl⟩

theorem lex_signed {mark : Char} {s : List Char} {d : Decimal} {tokens : List Token}
    (sign : mark = '-' ∨ mark = '+') (h : decimal? (asciiDigits s) = some d)
    (lexed : lex (mark :: s) = some tokens) :
    ∃ token, token.Spells d ∧ tokens = [.symbol (String.singleton mark), token] := by
  have absent {c : Char} (ascii : c.toNat < 128) (other : isNumeralChar c = false) :
      s.head? ≠ some c := fun first =>
    not_mem_of_asciiDigits h ascii other (List.mem_of_head? first)
  have noReturn : '\r' ∉ mark :: s := by
    rw [List.mem_cons, not_or]
    exact ⟨by obtain rfl | rfl := sign <;> decide, not_mem_of_asciiDigits h (by decide) rfl⟩
  obtain ⟨done, steps, rfl⟩ := exists_steps noReturn lexed
  cases s with
  | nil => cases h
  | cons c rest =>
      rw [List.length_cons, lexSteps_mark (by obtain rfl | rfl := sign <;> decide)
        ⟨fun same => absent (by decide) rfl (congrArg some same),
          fun same => absent (by decide) rfl (congrArg some same)⟩
        (by obtain rfl | rfl := sign <;> exact nofun)] at steps
      obtain ⟨token, spells, rfl⟩ := lexSteps_asciiDigits h steps
      exact ⟨token, spells, by rw [spells.endLine]; rfl⟩

theorem value_of_sign {mark : Char} (op : UnaryOp) {s : List Char} {d : Decimal}
    (sign : mark = '-' ∨ mark = '+') (named : sign? (String.singleton mark) = some op)
    (read : decimal? (asciiDigits s) = some d) (finite : d.toFloat.isFinite = true) {e : Expr}
    (tree : Expr.ofText? (String.ofList (expandCarets (mark :: s))) = some e) :
    ∃ leaf, leaf.value = .ok d.toFloat ∧ e = .unary op leaf := by
  have noCaret : '^' ∉ mark :: s := by
    rw [List.mem_cons, not_or]
    exact ⟨by obtain rfl | rfl := sign <;> decide, not_mem_of_asciiDigits read (by decide) rfl⟩
  rw [expandCarets_eq noCaret] at tree
  obtain ⟨tokens, lexed⟩ := exists_lex tree
  obtain ⟨token, spells, rfl⟩ := lex_signed sign read (String.toList_ofList ▸ lexed)
  obtain ⟨leaf, single, value⟩ := spells.leaf
  rw [ofText?_of_factor lexed (fun fuel => factor_signed named (factor_leaf single fuel))
    (fun _ _ => nofun)] at tree
  exact ⟨leaf, value finite, (Option.some.inj tree).symm⟩

/-- A numeral has the same value in the general notation, where it has one there. -/
theorem value_of_signedNumeral? {s : List Char} {x : Float} (h : signedNumeral? s = some x)
    (finite : x.isFinite = true) {e : Expr}
    (tree : Expr.ofText? (String.ofList (expandCarets s)) = some e) : e.value = .ok x := by
  unfold signedNumeral? at h
  obtain ⟨body, rfl, split⟩ | ⟨body, rfl, split⟩ | split := splitSign_asciiDigits s <;>
    rw [split] at h <;> obtain ⟨d, read, rfl⟩ := Option.map_eq_some_iff.mp h
  case inl =>
    obtain ⟨leaf, value, rfl⟩ :=
      value_of_sign .minus (.inl rfl) (by decide) read (Binary64.isFinite_of_neg finite) tree
    rw [Expr.value, value]
    rfl
  case inr.inl =>
    obtain ⟨leaf, value, rfl⟩ := value_of_sign .plus (.inr rfl) (by decide) read finite tree
    rw [Expr.value, value]
    rfl
  case inr.inr =>
    rw [expandCarets_eq (not_mem_of_asciiDigits read (by decide) rfl)] at tree
    obtain ⟨tokens, lexed⟩ := exists_lex tree
    obtain ⟨token, spells, rfl⟩ := lex_asciiDigits read (String.toList_ofList ▸ lexed)
    obtain ⟨leaf, single, value⟩ := spells.leaf
    have plain : ∀ word rest, [token] ≠ .keyword word :: rest := by
      rintro word rest ⟨⟩
      exact spells
    rw [ofText?_of_factor lexed (fun fuel => factor_leaf single (fuel + 1)) plain] at tree
    exact Option.some.inj tree ▸ value finite

/-! Constants. -/

theorem lex_word {cs : List Char} {tokens : List Token} (h : IsWord cs)
    (lexed : lex cs = some tokens) : tokens = [.name (String.ofList cs)] := by
  have word : cs.takeWhile isWordPart = cs := List.takeWhile_eq_self_iff.mpr h.parts
  have ended : cs.dropWhile isWordPart = [] := List.dropWhile_eq_nil_iff.mpr h.parts
  have noReturn : '\r' ∉ cs := fun mem => absurd (h.parts _ mem) (by decide)
  obtain ⟨done, steps, rfl⟩ := exists_steps noReturn lexed
  have token := h.token
  obtain ⟨c, rest, rfl, notDigit⟩ := h.first
  rw [List.length_cons, lexSteps_word (h.parts c (List.mem_cons_self ..)) notDigit
    (.inr (by rw [ended]; exact nofun)), word, ended, token, Option.bind_some,
    lexSteps_nil] at steps
  exact Option.some.inj steps ▸ rfl

theorem tree_of_word {cs : List Char} {e : Expr} (h : IsWord cs)
    (tree : Expr.ofText? (String.ofList (expandCarets cs)) = some e) :
    e = .name (String.ofList cs) := by
  rw [expandCarets_eq fun mem => absurd (h.parts _ mem) (by decide)] at tree
  obtain ⟨tokens, lexed⟩ := exists_lex tree
  obtain rfl := lex_word h (String.toList_ofList ▸ lexed)
  rw [ofText?_of_factor lexed (fun fuel => factor_leaf rfl (fuel + 1)) (fun _ _ => nofun)] at tree
  exact (Option.some.inj tree).symm

/-- The name of a constant has the same value in the general notation. -/
theorem value_of_constantNamed? {t : String} {x : Float}
    (h : constantNamed? (Text.lower t) = some x) {e : Expr}
    (tree : Expr.ofText? (String.ofList (expandCarets t.toList)) = some e) : e.value = .ok x := by
  have known : Text.lower t ∈ constantNames :=
    constantNamed?_isSome_iff.mp (Option.isSome_of_eq_some h)
  obtain rfl := tree_of_word (isWord_of_known (List.mem_append_left _ known)) tree
  rw [Expr.value, String.ofList_toList, h]

end Astrolabe.Expression
