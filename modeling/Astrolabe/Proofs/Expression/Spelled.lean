import Astrolabe.Proofs.Expression.Parsed

/-!
The grammar of arithmetic. A number or a name stands alone; parentheses may stand around any
expression, and a call may have a comma behind its last argument. Lexemes that spell an expression
by these rules are read as this expression. The grammar does not look at the case of letters in
names.
-/

namespace Astrolabe.Expression

mutual

/-- Lexemes that spell an expression of a level. The levels are those of the parser, from sums over
products, signs and powers to calls; level 8 has what may be called. -/
inductive Spelled : ℕ → List Lexeme → Expr → Prop
  | number (n : Numeral) : Spelled 8 [.numeral n] n.expr
  | name (w : Word) : Spelled 8 [.word w] (.name w.text)
  | enclosed {ls : List Lexeme} {e : Expr} (h : Spelled 0 ls e) :
      Spelled 8 (.mark .opening :: (ls ++ [.mark .closing])) e
  | call {fs ls : List Lexeme} {id : String} {es : List Expr} (callee : Spelled 8 fs (.name id))
      (h : SpelledArguments ls es) :
      Spelled 7 (fs ++ .mark .opening :: (ls ++ [.mark .closing])) (.call (.name id) es [])
  | power {ls rs : List Lexeme} {l r : Expr} (base : Spelled 7 ls l) (exponent : Spelled 5 rs r) :
      Spelled 6 (ls ++ .mark .caret :: rs) (.binary .pow l r)
  | sign (s : Sign) {ls : List Lexeme} {e : Expr} (h : Spelled 5 ls e) :
      Spelled 5 (.mark s.mark :: ls) (.unary s.op e)
  | binary (op : Operation) {ls rs : List Lexeme} {l r : Expr} (left : Spelled op.level ls l)
      (right : Spelled (op.level + 1) rs r) :
      Spelled op.level (ls ++ .mark op.mark :: rs) (.binary op.op l r)
  | lower {level : ℕ} {ls : List Lexeme} {e : Expr} (h : Spelled (level + 1) ls e) :
      Spelled level ls e

/-- Lexemes that spell the arguments of a call. -/
inductive SpelledArguments : List Lexeme → List Expr → Prop
  | nil : SpelledArguments [] []
  | last {ls : List Lexeme} {e : Expr} (h : Spelled 0 ls e) : SpelledArguments ls [e]
  | comma {ls rs : List Lexeme} {e : Expr} {es : List Expr} (h : Spelled 0 ls e)
      (others : SpelledArguments rs es) : SpelledArguments (ls ++ .mark .comma :: rs) (e :: es)

end

theorem Spelled.mono {k level : ℕ} {ls : List Lexeme} {e : Expr} (h : Spelled level ls e)
    (le : k ≤ level) : Spelled k ls e := by
  induction le using Nat.decreasingInduction with
  | self => exact h
  | of_succ k _ ih => exact ih.lower

/-! Reading what is spelled. -/

/-- Lexemes that are read as an atom, whatever stands behind them. -/
def Stands (ls : List Lexeme) (e : Expr) : Prop :=
  ∀ fuel rest, 16 * ls.length ≤ fuel → atom fuel (tokens ls ++ rest) = some (e, rest)

theorem stands_leaf {a : Lexeme} {e : Expr} (leaf : a.token.leaf? = some e) : Stands [a] e := by
  intro fuel rest enough
  obtain ⟨n, rfl⟩ := Nat.exists_eq_add_of_le' (show 1 ≤ fuel from Nat.le_trans (by simp) enough)
  exact atom_leaf leaf n rest

theorem Numeral.leaf (n : Numeral) : (Lexeme.numeral n).token.leaf? = some n.expr := by
  rw [Lexeme.token, Numeral.token, Numeral.expr]
  split <;> rfl

theorem stands_enclosed {ls : List Lexeme} {e : Expr} (h : Reads 0 ls e) (formed : Formed 0 ls) :
    Stands (.mark .opening :: (ls ++ [.mark .closing])) e := by
  intro fuel rest enough
  rw [List.length_cons, List.length_append, List.length_singleton] at enough
  rw [tokens_cons, tokens_append, List.cons_append, List.append_assoc]
  exact h.atom_enclosed formed (by omega)

theorem Stands.reads {ls : List Lexeme} {e : Expr} (h : Stands ls e) (nonempty : ls ≠ []) :
    Reads 7 ls e := by
  intro fuel rest stops enough
  have positive := List.length_pos_iff.mpr nonempty
  obtain ⟨n, rfl⟩ := Nat.exists_eq_add_of_le' (show 2 ≤ fuel by omega)
  change primary (n + 2) _ = _
  rw [primary, h (n + 1) rest (by omega)]
  exact trailers_stop stops n e

/-- Lexemes that are read as the arguments of a call, up to the closing parenthesis. -/
def Lists (ls : List Lexeme) (es : List Expr) : Prop :=
  ∀ fuel rest alone, 16 * ls.length + 27 ≤ fuel →
    callArguments fuel .positional alone (tokens ls ++ .symbol ")" :: rest) = some ((es, []), rest)

theorem lists_nil : Lists [] [] := by
  intro fuel rest alone enough
  obtain ⟨n, rfl⟩ := Nat.exists_eq_add_of_le' (show 1 ≤ fuel by omega)
  rfl

theorem Reads.lists {ls : List Lexeme} {e : Expr} (h : Reads 0 ls e) (formed : Formed 0 ls) :
    Lists ls [e] := by
  intro fuel rest alone enough
  obtain ⟨n, rfl⟩ := Nat.exists_eq_add_of_le' (show 1 ≤ fuel by omega)
  exact callArguments_last h formed alone (by omega)

theorem Lists.comma {ls rs : List Lexeme} {e : Expr} {es : List Expr} (others : Lists rs es)
    (h : Reads 0 ls e) (formed : Formed 0 ls) : Lists (ls ++ .mark .comma :: rs) (e :: es) := by
  intro fuel rest alone enough
  rw [List.length_append, List.length_cons] at enough
  obtain ⟨n, rfl⟩ := Nat.exists_eq_add_of_le' (show 1 ≤ fuel by omega)
  rw [tokens_append, tokens_cons, List.append_assoc]
  exact callArguments_comma h formed alone (by omega) (others n rest false (by omega))

theorem Stands.call {fs ls : List Lexeme} {f : Expr} {es : List Expr} (callee : Stands fs f)
    (h : Lists ls es) :
    Reads 7 (fs ++ .mark .opening :: (ls ++ [.mark .closing])) (.call f es []) := by
  intro fuel rest stops enough
  simp only [List.length_append, List.length_cons, List.length_nil] at enough
  obtain ⟨n, rfl⟩ := Nat.exists_eq_add_of_le' (show 3 ≤ fuel by omega)
  change primary (n + 3) _ = _
  simp only [tokens_append, tokens_cons, List.append_assoc, List.cons_append]
  rw [primary, callee (n + 2) _ (by omega)]
  exact trailers_call f stops (h (n + 1) rest true (by omega))

/-- What is to be shown of lexemes that spell an expression. -/
structure Readable (level : ℕ) (ls : List Lexeme) (e : Expr) : Prop where
  formed : Formed level ls
  stands : 8 ≤ level → Stands ls e
  reads : level ≤ 7 → Reads level ls e
  left : level ≤ 4 → Extends level ls e

theorem Formed.called {level : ℕ} {fs ls : List Lexeme} (callee : Formed level fs)
    (h : Closed (.mark .opening :: ls)) : Formed level (fs ++ .mark .opening :: ls) := by
  obtain ⟨l, rest, rfl, begins⟩ := callee.first
  refine ⟨⟨List.isChain_append.mpr ⟨callee.chain, h.chain, ?_⟩, ?_⟩, l, _, rfl, begins⟩
  · rintro x last y ⟨⟩
    exact Lexeme.joins_mark (callee.last x last) _
  · rw [List.getLast?_append_cons]
    exact h.last

/-- Nothing need stand between a comma and what closes the arguments. -/
theorem Formed.listed {level : ℕ} {ls rs : List Lexeme} (first : Formed level ls)
    (h : Closed (.mark .opening :: rs)) :
    Closed (.mark .opening :: (ls ++ .mark .comma :: rs)) := by
  have apart {m : Mark} (other : m ≠ .times ∧ m ≠ .slash) {ls : List Lexeme}
      (chain : ls.IsChain Lexeme.Joins) : (Lexeme.mark m :: ls).IsChain Lexeme.Joins :=
    List.isChain_cons.mpr ⟨fun l _ => Lexeme.bracket_joins other l, chain⟩
  refine ⟨apart (by decide) (List.isChain_append.mpr
    ⟨first.chain, apart (by decide) h.chain.tail, ?_⟩), ?_⟩
  · rintro x last y ⟨⟩
    exact Lexeme.joins_mark (first.last x last) _
  · rw [← List.cons_append, List.getLast?_append_cons]
    cases rs with
    | nil => exact absurd (h.last _ rfl) Bool.false_ne_true
    | cons r more => simpa using h.last

theorem Readable.lower {level : ℕ} {ls : List Lexeme} {e : Expr} (h : Readable (level + 1) ls e) :
    Readable level ls e := by
  have formed := h.formed.mono (Nat.le_succ level)
  refine ⟨formed, fun le => h.stands (by omega), fun le => ?_, fun le => ?_⟩
  · obtain below | rfl := Nat.lt_or_eq_of_le le
    · exact (h.reads below).lower h.formed (by omega)
    · exact (h.stands (Nat.le_refl 8)).reads formed.ne_nil
  · exact (h.reads (by omega)).extends formed.ne_nil le

/-- Lexemes are read as the expression that they spell. -/
theorem Spelled.readable {level : ℕ} {ls : List Lexeme} {e : Expr} (h : Spelled level ls e) :
    Readable level ls e := by
  induction h using @Spelled.rec _ fun ls es _ =>
    Closed (.mark .opening :: (ls ++ [.mark .closing])) ∧ Lists ls es with
  | number n => exact ⟨.single rfl rfl, fun _ => stands_leaf n.leaf, nofun, nofun⟩
  | name w => exact ⟨.single rfl rfl, fun _ => stands_leaf rfl, nofun, nofun⟩
  | enclosed _ ih =>
      have whole := stands_enclosed (ih.reads (by decide)) ih.formed
      exact ⟨ih.formed.toClosed.formed_enclosed 8, fun _ => whole, nofun, nofun⟩
  | call _ _ callee arguments =>
      refine ⟨(callee.formed.called arguments.1).mono (by decide), nofun, fun _ => ?_, nofun⟩
      exact (callee.stands (Nat.le_refl 8)).call arguments.2
  | power _ _ base exponent =>
      have formed := base.formed.join .caret exponent.formed
      refine ⟨formed.mono (by decide), nofun, fun _ => ?_, nofun⟩
      exact (base.reads (by decide)).power base.formed (exponent.reads (by decide))
  | sign s _ ih =>
      exact ⟨ih.formed.signed s, nofun, fun _ => (ih.reads (by decide)).sign s, nofun⟩
  | binary op _ _ left right =>
      have le := op.level_le
      have whole := (left.left le).binary (right.reads (by omega))
      exact ⟨left.formed.join op.mark right.formed, fun above => by omega, fun _ => whole.reads le,
        fun _ => whole⟩
  | lower _ ih => exact ih.lower
  | nil =>
      have empty : Closed [] := ⟨.nil, fun _ last => absurd last (Option.not_mem_none _)⟩
      exact ⟨empty.enclosed, lists_nil⟩
  | last _ ih => exact ⟨ih.formed.toClosed.enclosed, (ih.reads (by decide)).lists ih.formed⟩
  | comma _ _ ih others =>
      refine ⟨?_, others.2.comma (ih.reads (by decide)) ih.formed⟩
      rw [List.append_assoc, List.cons_append]
      exact ih.formed.listed others.1

/-! Names in another case. -/

/-- Two lexemes that are the same but for the case of letters in a name. -/
inductive Lexeme.SameName : Lexeme → Lexeme → Prop
  | numeral (n : Numeral) : SameName (.numeral n) (.numeral n)
  | word {w w' : Word} (same : Text.lower w.text = Text.lower w'.text) :
      SameName (.word w) (.word w')
  | mark (m : Mark) : SameName (.mark m) (.mark m)

/-- An expression that has all values of another one, and is a name up to case where that is one. -/
structure Agrees (e e' : Expr) : Prop where
  name : ∀ id, e = .name id → ∃ id', e' = .name id' ∧ Text.lower id = Text.lower id'
  value : ∀ x, e.HasValue x → e'.HasValue x

namespace Agrees

open Astrolabe.Expr (HasValue)

variable {e e' l l' r r' : Expr} {es es' : List Expr}

theorem refl (e : Expr) : Agrees e e :=
  ⟨fun id same => ⟨id, same, rfl⟩, fun _ h => h⟩

theorem names {id id' : String} (same : Text.lower id = Text.lower id') :
    Agrees (.name id) (.name id') := by
  refine ⟨?_, ?_⟩
  · rintro _ ⟨⟩
    exact ⟨id', rfl, same⟩
  · rintro x (_ | _ | ⟨h⟩)
    exact .name (same ▸ h)

theorem unary (s : Sign) (h : Agrees e e') : Agrees (.unary s.op e) (.unary s.op e') := by
  refine ⟨nofun, fun x value => ?_⟩
  cases s with
  | plus =>
      obtain _ | _ | _ | _ | ⟨inside⟩ := value
      exact .plus (h.value _ inside)
  | minus =>
      obtain _ | _ | _ | _ | _ | ⟨inside⟩ := value
      exact .minus (h.value _ inside)

theorem binary {op : BinaryOp} (left : Agrees l l') (right : Agrees r r') :
    Agrees (.binary op l r) (.binary op l' r') := by
  refine ⟨nofun, ?_⟩
  rintro z (_ | _ | _ | ⟨hl, hr, h⟩)
  exact .binary (left.value _ hl) (right.value _ hr) h

theorem values (h : List.Forall₂ Agrees es es') {xs : List Float}
    (all : List.Forall₂ HasValue es xs) : List.Forall₂ HasValue es' xs := by
  induction h generalizing xs with
  | nil => exact all
  | cons first _ ih =>
      cases all with
      | cons value others => exact .cons (first.value _ value) (ih others)

theorem call {id id' : String} (same : Text.lower id = Text.lower id')
    (h : List.Forall₂ Agrees es es') :
    Agrees (.call (.name id) es []) (.call (.name id') es' []) := by
  refine ⟨nofun, ?_⟩
  rintro x (_ | _ | _ | _ | _ | _ | ⟨known, all, result⟩)
  exact .call (same ▸ known) (values h all) result

end Agrees

theorem forall₂_append_left {α β : Type} {R : α → β → Prop} {ls rs : List α} {us : List β}
    (h : List.Forall₂ R (ls ++ rs) us) :
    ∃ ls' rs', us = ls' ++ rs' ∧ List.Forall₂ R ls ls' ∧ List.Forall₂ R rs rs' := by
  have front := List.forall₂_take ls.length h
  have back := List.forall₂_drop ls.length h
  rw [List.take_left] at front
  rw [List.drop_left] at back
  exact ⟨_, _, (List.take_append_drop ls.length us).symm, front, back⟩

theorem sameName_mark {m : Mark} {rs us : List Lexeme}
    (h : List.Forall₂ Lexeme.SameName (.mark m :: rs) us) :
    ∃ rs', us = .mark m :: rs' ∧ List.Forall₂ Lexeme.SameName rs rs' := by
  obtain _ | ⟨⟨⟩, behind⟩ := h
  exact ⟨_, rfl, behind⟩

/-- Lexemes around a mark. -/
theorem sameName_join {m : Mark} {ls rs us : List Lexeme}
    (h : List.Forall₂ Lexeme.SameName (ls ++ .mark m :: rs) us) :
    ∃ ls' rs', us = ls' ++ .mark m :: rs' ∧ List.Forall₂ Lexeme.SameName ls ls' ∧
      List.Forall₂ Lexeme.SameName rs rs' := by
  obtain ⟨ls', us', rfl, front, behind⟩ := forall₂_append_left h
  obtain ⟨rs', rfl, back⟩ := sameName_mark behind
  exact ⟨ls', rs', rfl, front, back⟩

/-- With names in another case, lexemes spell an expression that has the same value. -/
theorem Spelled.sameName {level : ℕ} {ls ls' : List Lexeme} {e : Expr} (h : Spelled level ls e)
    (same : List.Forall₂ Lexeme.SameName ls ls') : ∃ e', Spelled level ls' e' ∧ Agrees e e' := by
  induction h using @Spelled.rec _ fun ls es _ => ∀ ls', List.Forall₂ Lexeme.SameName ls ls' →
    ∃ es', SpelledArguments ls' es' ∧ List.Forall₂ Agrees es es' generalizing ls' with
  | number n =>
      obtain _ | ⟨⟨⟩, ⟨⟩⟩ := same
      exact ⟨_, .number n, .refl _⟩
  | name w =>
      obtain _ | ⟨word, ⟨⟩⟩ := same
      cases word with
      | word lower => exact ⟨_, .name _, .names lower⟩
  | enclosed _ ih =>
      obtain ⟨us, rfl, behind⟩ := sameName_mark same
      obtain ⟨ls', _, rfl, inside, closing⟩ := sameName_join behind
      cases closing
      obtain ⟨e', spelled, agrees⟩ := ih inside
      exact ⟨e', .enclosed spelled, agrees⟩
  | call _ _ callee arguments =>
      obtain ⟨fs', us, rfl, front, behind⟩ := sameName_join same
      obtain ⟨ls', _, rfl, inside, closing⟩ := sameName_join behind
      cases closing
      obtain ⟨f', named, agrees⟩ := callee front
      obtain ⟨id', rfl, lower⟩ := agrees.name _ rfl
      obtain ⟨es', spelled, values⟩ := arguments _ inside
      exact ⟨_, .call named spelled, .call lower values⟩
  | power _ _ base exponent =>
      obtain ⟨ls', rs', rfl, front, back⟩ := sameName_join same
      obtain ⟨l', left, agrees⟩ := base front
      obtain ⟨r', right, agrees'⟩ := exponent back
      exact ⟨_, .power left right, agrees.binary agrees'⟩
  | sign s _ ih =>
      obtain ⟨us, rfl, behind⟩ := sameName_mark same
      obtain ⟨e', spelled, agrees⟩ := ih behind
      exact ⟨_, .sign s spelled, agrees.unary s⟩
  | binary op _ _ left right =>
      obtain ⟨ls', rs', rfl, front, back⟩ := sameName_join same
      obtain ⟨l', left, agrees⟩ := left front
      obtain ⟨r', right, agrees'⟩ := right back
      exact ⟨_, .binary op left right, agrees.binary agrees'⟩
  | lower _ ih =>
      obtain ⟨e', spelled, agrees⟩ := ih same
      exact ⟨e', spelled.lower, agrees⟩
  | nil =>
      rename_i same
      cases same
      exact ⟨[], .nil, .nil⟩
  | last _ ih =>
      rename_i same
      obtain ⟨e', spelled, agrees⟩ := ih same
      exact ⟨[e'], .last spelled, .cons agrees .nil⟩
  | comma _ _ ih others =>
      rename_i same
      obtain ⟨ls', rs', rfl, front, back⟩ := sameName_join same
      obtain ⟨e', spelled, agrees⟩ := ih front
      obtain ⟨es', spelled', values⟩ := others _ back
      exact ⟨e' :: es', .comma spelled spelled', .cons agrees values⟩

end Astrolabe.Expression
