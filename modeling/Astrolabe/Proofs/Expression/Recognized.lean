import Astrolabe.Proofs.Expression.Spellable
import Astrolabe.Proofs.Expression.Spelled

/-!
The parser on any tokens. A rule that gives an expression which the grammar of arithmetic can spell
has read lexemes that spell it. All other constructs of the notation leave a mark in the tree.
-/

namespace Astrolabe.Expression

/-! What rules read. -/

/-- A rule reads lexemes of a level, where it gives an expression that can be spelled. -/
def Recognizes (level : ℕ) (rule : Tokens → Option (Expr × Tokens)) : Prop :=
  ∀ ⦃ts e rest⦄, rule ts = some (e, rest) → Spellable e →
    ∃ ls, ts = tokens ls ++ rest ∧ Spelled level ls e

/-- A rule goes on behind an expression: the lexemes that it reads and those of this expression are
together of a level. -/
def Continues (below level : ℕ) (left : Expr) (rule : Tokens → Option (Expr × Tokens)) : Prop :=
  ∀ ⦃ts e rest⦄, rule ts = some (e, rest) → Spellable e →
    Spellable left ∧ ∀ ls, Spelled below ls left →
      ∃ ms, ts = tokens ms ++ rest ∧ Spelled level (ls ++ ms) e

/-- A rule reads lexemes up to a closing parenthesis, and the parenthesis. -/
def Closes (rule : Tokens → Option (Expr × Tokens)) : Prop :=
  ∀ ⦃ts e rest⦄, rule ts = some (e, rest) → Spellable e →
    ∃ ls, ts = tokens ls ++ .symbol ")" :: rest ∧ Spelled 0 ls e

/-- The rule for arguments reads positional ones up to a closing parenthesis, and this one. -/
def ClosesArguments (fuel : ℕ) : Prop :=
  ∀ ⦃phase alone ts es rest⦄, callArguments fuel phase alone ts = some ((es, []), rest) →
    (∀ e ∈ es, Spellable e) →
      ∃ ls, ts = tokens ls ++ .symbol ")" :: rest ∧ SpelledArguments ls es

/-- What is to be shown of the rules that arithmetic is read by. -/
structure Sound (fuel : ℕ) : Prop where
  expression : Recognizes 0 (expression fuel)
  disjunction : Recognizes 0 (disjunction fuel)
  conjunction : Recognizes 0 (conjunction fuel)
  negation : Recognizes 0 (negation fuel)
  operand : ∀ level ≤ 5, Recognizes level (operand fuel level)
  chain : ∀ level ≤ 4, ∀ left, Continues level level left (chain fuel level left)
  factor : Recognizes 5 (factor fuel)
  power : Recognizes 6 (power fuel)
  awaited : Recognizes 7 (awaited fuel)
  primary : Recognizes 7 (primary fuel)
  trailers : ∀ e, Continues 8 7 e (trailers fuel e)
  atom : Recognizes 8 (atom fuel)
  group : Closes (group fuel)
  element : Recognizes 0 (element fuel)
  namedExpression : Recognizes 0 (namedExpression fuel)
  callArguments : ClosesArguments fuel

theorem Recognizes.mono {k level : ℕ} {rule : Tokens → Option (Expr × Tokens)}
    (h : Recognizes level rule) (le : k ≤ level) : Recognizes k rule := by
  intro ts e rest run spellable
  obtain ⟨ls, read, spelled⟩ := h run spellable
  exact ⟨ls, read, spelled.mono le⟩

/-- A first part and what follows it. -/
theorem Continues.behind {k below level : ℕ} {left e : Expr} {ts ts' rest : Tokens}
    {first rule : Tokens → Option (Expr × Tokens)} (next : Continues below level left rule)
    (h : Recognizes k first) (le : below ≤ k) (begun : first ts = some (left, ts'))
    (run : rule ts' = some (e, rest)) (spellable : Spellable e) :
    ∃ ls, ts = tokens ls ++ rest ∧ Spelled level ls e := by
  obtain ⟨inside, go⟩ := next run spellable
  obtain ⟨ls, rfl, spelled⟩ := h begun inside
  obtain ⟨ms, rfl, whole⟩ := go ls (spelled.mono le)
  exact ⟨ls ++ ms, by rw [tokens_append, List.append_assoc], whole⟩

/-! Rules that read nothing where they give nothing. -/

section Nothing

variable {fuel : ℕ} {ts rest : Tokens}

theorem bind_cons_ne_nil {α : Type} {x : Option (α × Tokens)}
    {f : Tokens → Option (List α × Tokens)} :
    (do
      let (a, ts) ← x
      let (as, ts) ← f ts
      some (a :: as, ts)) ≠ some ([], rest) := by
  intro h
  obtain ⟨⟨a, ts⟩, -, h⟩ := Option.bind_eq_some_iff.mp h
  obtain ⟨⟨as, ts⟩, -, h⟩ := Option.bind_eq_some_iff.mp h
  cases h

theorem alternatives_nil (h : alternatives fuel ts = some ([], rest)) : rest = ts := by
  rw [alternatives.eq_def] at h
  split at h
  next => cases h
  next => exact absurd h bind_cons_ne_nil
  next => exact (Prod.mk.inj (Option.some.inj h)).2.symm

theorem conjuncts_nil (h : conjuncts fuel ts = some ([], rest)) : rest = ts := by
  rw [conjuncts.eq_def] at h
  split at h
  next => cases h
  next => exact absurd h bind_cons_ne_nil
  next => exact (Prod.mk.inj (Option.some.inj h)).2.symm

theorem comparisons_nil (h : comparisons fuel ts = some ([], rest)) : rest = ts := by
  rw [comparisons.eq_def] at h
  split at h
  next => cases h
  next =>
    split at h
    next => exact absurd h bind_cons_ne_nil
    next => exact (Prod.mk.inj (Option.some.inj h)).2.symm

theorem clauses_nil (h : clauses fuel ts = some ([], rest)) : rest = ts := by
  rw [clauses.eq_def] at h
  split at h
  next => cases h
  next =>
    dsimp only at h
    split at h
    next => exact (Prod.mk.inj (Option.some.inj h)).2.symm
    next =>
      obtain ⟨⟨target, ts⟩, -, h⟩ := Option.bind_eq_some_iff.mp h
      obtain ⟨⟨source, ts⟩, -, h⟩ := Option.bind_eq_some_iff.mp h
      obtain ⟨⟨tests, ts⟩, -, h⟩ := Option.bind_eq_some_iff.mp h
      obtain ⟨⟨others, ts⟩, -, h⟩ := Option.bind_eq_some_iff.mp h
      simp at h

end Nothing

/-! Rules for constructs that are no arithmetic. -/

section Forms

variable {fuel : ℕ} {ts rest : Tokens} {e : Expr}

/-- Whether a tree is that of a construct which is no arithmetic. -/
def IsForm (e : Expr) : Prop :=
  ∃ kind parts, e = .form kind parts

theorem isForm (kind : Form) (parts : List Expr) : IsForm (.form kind parts) :=
  ⟨kind, parts, rfl⟩

theorem IsForm.not_spellable (h : IsForm e) : ¬Spellable e := by
  obtain ⟨kind, parts, rfl⟩ := h
  exact nofun

theorem isForm_of_yielded (h : yielded fuel ts = some (e, rest)) : IsForm e := by
  rw [yielded.eq_def] at h
  split at h
  next => cases h
  next =>
    obtain ⟨⟨e, ts⟩, -, h⟩ := Option.bind_eq_some_iff.mp h
    cases h
    exact isForm _ _
  next =>
    obtain ⟨⟨es, ts⟩, -, h⟩ := Option.bind_eq_some_iff.mp h
    cases h
    exact isForm _ _

theorem isForm_of_listDisplay (h : listDisplay fuel ts = some (e, rest)) :
    IsForm e := by
  rw [listDisplay.eq_def] at h
  split at h
  next => cases h
  next =>
    cases h
    exact isForm _ _
  next =>
    obtain ⟨⟨first, ts⟩, -, h⟩ := Option.bind_eq_some_iff.mp h
    dsimp only at h
    split at h
    next =>
      obtain ⟨⟨others, ts⟩, -, h⟩ := Option.bind_eq_some_iff.mp h
      cases h
      exact isForm _ _
    next =>
      obtain ⟨⟨parts, ts⟩, -, h⟩ := Option.bind_eq_some_iff.mp h
      obtain ⟨ts, -, h⟩ := Option.bind_eq_some_iff.mp h
      split at h
      next =>
        cases h
        exact isForm _ _
      next =>
        obtain ⟨-, h⟩ := Option.ite_none_left_eq_some.mp h
        cases h
        exact isForm _ _

theorem isForm_of_closed {es : List Expr}
    (h : ((expect "\x7d" ts).bind fun ts => some (Expr.form .dict es, ts)) = some (e, rest)) :
    IsForm e := by
  obtain ⟨ts, -, h⟩ := Option.bind_eq_some_iff.mp h
  cases h
  exact isForm _ _

theorem isForm_of_mapEntries {done : List Expr}
    (h : mapEntries fuel done ts = some (e, rest)) : IsForm e := by
  induction fuel generalizing done ts with
  | zero => cases h
  | succ fuel ih =>
      rw [mapEntries] at h
      split at h
      next =>
        cases h
        exact isForm _ _
      next =>
        dsimp only at h
        split at h
        next =>
          obtain ⟨⟨value, ts⟩, -, h⟩ := Option.bind_eq_some_iff.mp h
          obtain ⟨_, ⟨⟩, h⟩ := Option.bind_eq_some_iff.mp h
          split at h
          next => exact ih h
          next => exact isForm_of_closed h
        next =>
          obtain ⟨⟨key, ts⟩, -, h⟩ := Option.bind_eq_some_iff.mp h
          obtain ⟨ts, -, h⟩ := Option.bind_eq_some_iff.mp h
          obtain ⟨⟨value, ts⟩, -, h⟩ := Option.bind_eq_some_iff.mp h
          obtain ⟨_, ⟨⟩, h⟩ := Option.bind_eq_some_iff.mp h
          split at h
          next => exact ih h
          next => exact isForm_of_closed h

theorem isForm_of_braceDisplay (h : braceDisplay fuel ts = some (e, rest)) :
    IsForm e := by
  rw [braceDisplay.eq_def] at h
  split at h
  next => cases h
  next =>
    split at h
    next =>
      cases h
      exact isForm _ _
    next =>
      split at h
      next => exact isForm_of_mapEntries h
      next =>
        obtain ⟨⟨first, ts⟩, -, h⟩ := Option.bind_eq_some_iff.mp h
        dsimp only at h
        split at h
        next =>
          obtain ⟨-, h⟩ := Option.ite_none_left_eq_some.mp h
          obtain ⟨⟨value, ts⟩, -, h⟩ := Option.bind_eq_some_iff.mp h
          obtain ⟨⟨parts, after⟩, -, h⟩ := Option.bind_eq_some_iff.mp h
          dsimp only at h
          split at h
          next =>
            split at h
            next => exact isForm_of_mapEntries h
            next => exact isForm_of_closed h
          next =>
            obtain ⟨ts, -, h⟩ := Option.bind_eq_some_iff.mp h
            cases h
            exact isForm _ _
        next =>
          obtain ⟨⟨others, ts⟩, -, h⟩ := Option.bind_eq_some_iff.mp h
          cases h
          exact isForm _ _
        next =>
          obtain ⟨⟨parts, ts⟩, -, h⟩ := Option.bind_eq_some_iff.mp h
          obtain ⟨ts, -, h⟩ := Option.bind_eq_some_iff.mp h
          dsimp only at h
          split at h
          next =>
            cases h
            exact isForm _ _
          next =>
            obtain ⟨-, h⟩ := Option.ite_none_left_eq_some.mp h
            cases h
            exact isForm _ _

end Forms

/-! Tokens of arithmetic. -/

theorem expect_eq_some {mark : String} {ts rest : Tokens} (h : expect mark ts = some rest) :
    ts = .symbol mark :: rest := by
  unfold expect at h
  split at h
  next =>
    obtain ⟨same, h⟩ := Option.ite_none_right_eq_some.mp h
    rw [eq_of_beq same, Option.some.inj h]
  next => cases h

theorem exists_operation {level : ℕ} {mark : String} {op : BinaryOp}
    (h : operatorAt? level mark = some op) (arithmetic : op ∈ [.add, .sub, .mul, .div, .pow]) :
    ∃ o : Operation, o.op = op ∧ o.level = level ∧ o.mark.symbol = mark := by
  unfold operatorAt? at h
  split at h <;> cases h
  case h_5 => exact ⟨.add, rfl, rfl, rfl⟩
  case h_6 => exact ⟨.sub, rfl, rfl, rfl⟩
  case h_7 => exact ⟨.mul, rfl, rfl, rfl⟩
  case h_8 => exact ⟨.div, rfl, rfl, rfl⟩
  all_goals exact absurd arithmetic (by decide)

theorem exists_sign {mark : String} {op : UnaryOp} (h : sign? mark = some op)
    (arithmetic : op ∈ [.plus, .minus]) : ∃ s : Sign, s.op = op ∧ s.mark.symbol = mark := by
  unfold sign? at h
  split at h <;> cases h
  · exact ⟨.plus, rfl, rfl⟩
  · exact ⟨.minus, rfl, rfl⟩
  · exact absurd arithmetic (by decide)

theorem Numeral.token_of_whole {n : Numeral} {k : ℕ} (h : n.expr = .whole k) :
    n.token = .whole k := by
  rw [expr] at h
  rw [token]
  split at h
  next whole => rw [if_pos whole, Expr.whole.inj h]
  next => cases h

theorem Numeral.token_of_decimal {n : Numeral} {d : Number.Decimal} (h : n.expr = .decimal d) :
    n.token = .decimal d := by
  rw [expr] at h
  rw [token]
  split at h
  next => cases h
  next pointed => rw [if_neg pointed, Expr.decimal.inj h]

/-! The rules, one by one. -/

section Rules

variable {fuel : ℕ}

/-- Operands with words between them, of which there is only one where the tree is arithmetic. -/
theorem recognizes_joined {level : ℕ} {kind : Form} {first : Tokens → Option (Expr × Tokens)}
    {more : Tokens → Option (List Expr × Tokens)} (h : Recognizes level first)
    (idle : ∀ {ts rest}, more ts = some ([], rest) → rest = ts) :
    Recognizes level (fun ts => do
      let (e, ts) ← first ts
      let (others, ts) ← more ts
      some (if others.isEmpty then e else .form kind (e :: others), ts)) := by
  intro ts e rest run spellable
  obtain ⟨⟨value, ts'⟩, begun, run⟩ := Option.bind_eq_some_iff.mp run
  obtain ⟨⟨others, after⟩, behind, run⟩ := Option.bind_eq_some_iff.mp run
  cases others with
  | nil =>
      cases run
      cases idle behind
      exact h begun spellable
  | cons other others =>
      cases run
      exact absurd spellable (isForm _ _).not_spellable

theorem expression_recognizes (h : ∀ n < fuel, Sound n) : Recognizes 0 (expression fuel) := by
  intro ts e rest run spellable
  rw [expression.eq_def] at run
  split at run
  next => cases run
  next =>
    obtain ⟨⟨defaults, ts⟩, -, run⟩ := Option.bind_eq_some_iff.mp run
    obtain ⟨ts, -, run⟩ := Option.bind_eq_some_iff.mp run
    obtain ⟨⟨body, ts⟩, -, run⟩ := Option.bind_eq_some_iff.mp run
    cases run
    exact absurd spellable (isForm _ _).not_spellable
  next =>
    obtain ⟨⟨value, ts⟩, first, run⟩ := Option.bind_eq_some_iff.mp run
    dsimp only at run
    split at run
    next =>
      obtain ⟨⟨test, ts⟩, -, run⟩ := Option.bind_eq_some_iff.mp run
      obtain ⟨ts, -, run⟩ := Option.bind_eq_some_iff.mp run
      obtain ⟨⟨other, ts⟩, -, run⟩ := Option.bind_eq_some_iff.mp run
      cases run
      exact absurd spellable (isForm _ _).not_spellable
    next =>
      cases run
      exact (h _ (Nat.lt_add_one _)).disjunction first spellable

theorem disjunction_recognizes (h : ∀ n < fuel, Sound n) : Recognizes 0 (disjunction fuel) := by
  intro ts e rest run spellable
  rw [disjunction.eq_def] at run
  split at run
  next => cases run
  next =>
    exact recognizes_joined (h _ (Nat.lt_add_one _)).conjunction alternatives_nil run spellable

theorem conjunction_recognizes (h : ∀ n < fuel, Sound n) : Recognizes 0 (conjunction fuel) := by
  intro ts e rest run spellable
  rw [conjunction.eq_def] at run
  split at run
  next => cases run
  next => exact recognizes_joined (h _ (Nat.lt_add_one _)).negation conjuncts_nil run spellable

theorem negation_recognizes (h : ∀ n < fuel, Sound n) : Recognizes 0 (negation fuel) := by
  intro ts e rest run spellable
  rw [negation.eq_def] at run
  split at run
  next => cases run
  next =>
    obtain ⟨⟨operand, ts⟩, -, run⟩ := Option.bind_eq_some_iff.mp run
    cases run
    cases spellable with
    | unary sign => exact absurd sign (by decide)
  next =>
    have operand := (h _ (Nat.lt_add_one _)).operand 0 (by decide)
    exact recognizes_joined operand comparisons_nil run spellable

theorem operand_recognizes (h : ∀ n < fuel, Sound n) {level : ℕ} (le : level ≤ 5) :
    Recognizes level (operand fuel level) := by
  intro ts e rest run spellable
  rw [operand.eq_def] at run
  split at run
  next => cases run
  next =>
    have sound := h _ (Nat.lt_add_one _)
    split at run
    next => exact sound.factor.mono le run spellable
    next below =>
      unfold operatorLevels at below
      obtain ⟨⟨left, ts⟩, first, run⟩ := Option.bind_eq_some_iff.mp run
      exact (sound.chain level (by omega) left).behind (sound.operand (level + 1) (by omega))
        (Nat.le_succ level) first run spellable

theorem chain_continues (h : ∀ n < fuel, Sound n) {level : ℕ} (le : level ≤ 4) (left : Expr) :
    Continues level level left (chain fuel level left) := by
  intro ts e rest run spellable
  have stop {ts : Tokens} (run : some (left, ts) = some (e, rest)) : Spellable left ∧
      ∀ ls, Spelled level ls left →
        ∃ ms, ts = tokens ms ++ rest ∧ Spelled level (ls ++ ms) e := by
    cases run
    exact ⟨spellable, fun ls spelled => ⟨[], rfl, by rwa [List.append_nil]⟩⟩
  rw [chain.eq_def] at run
  split at run
  next => cases run
  next =>
    have sound := h _ (Nat.lt_add_one _)
    split at run
    next op found =>
      obtain ⟨⟨right, ts'⟩, second, run⟩ := Option.bind_eq_some_iff.mp run
      obtain ⟨whole, go⟩ := sound.chain level le _ run spellable
      cases whole with
      | binary arithmetic hl hr =>
          obtain ⟨rs, rfl, spelled⟩ := sound.operand (level + 1) (by omega) second hr
          obtain ⟨o, rfl, rfl, rfl⟩ := exists_operation found arithmetic
          refine ⟨hl, fun ls first => ?_⟩
          obtain ⟨ms, rfl, last⟩ := go _ (.binary o first spelled)
          refine ⟨.mark o.mark :: (rs ++ ms), ?_, ?_⟩
          · rw [tokens_cons, tokens_append, List.cons_append, List.append_assoc]
            rfl
          · rwa [List.append_assoc, List.cons_append] at last
    next => exact stop run
  next => exact stop run

theorem factor_recognizes (h : ∀ n < fuel, Sound n) : Recognizes 5 (factor fuel) := by
  intro ts e rest run spellable
  rw [factor.eq_def] at run
  split at run
  next => cases run
  next =>
    have sound := h _ (Nat.lt_add_one _)
    split at run
    next op found =>
      obtain ⟨⟨operand, ts'⟩, inside, run⟩ := Option.bind_eq_some_iff.mp run
      cases run
      cases spellable with
      | unary sign hs =>
          obtain ⟨ls, rfl, spelled⟩ := sound.factor inside hs
          obtain ⟨s, rfl, rfl⟩ := exists_sign found sign
          exact ⟨.mark s.mark :: ls, rfl, .sign s spelled⟩
    next => exact sound.power.mono (by decide) run spellable
  next => exact (h _ (Nat.lt_add_one _)).power.mono (by decide) run spellable

theorem power_recognizes (h : ∀ n < fuel, Sound n) : Recognizes 6 (power fuel) := by
  intro ts e rest run spellable
  rw [power.eq_def] at run
  split at run
  next => cases run
  next =>
    have sound := h _ (Nat.lt_add_one _)
    obtain ⟨⟨base, ts'⟩, first, run⟩ := Option.bind_eq_some_iff.mp run
    dsimp only at run
    split at run
    next =>
      obtain ⟨⟨exponent, ts''⟩, second, run⟩ := Option.bind_eq_some_iff.mp run
      cases run
      cases spellable with
      | binary _ hl hr =>
          obtain ⟨ls, rfl, left⟩ := sound.awaited first hl
          obtain ⟨rs, rfl, right⟩ := sound.factor second hr
          refine ⟨ls ++ .mark .caret :: rs, ?_, .power left right⟩
          rw [tokens_append, List.append_assoc]
          rfl
    next =>
      cases run
      exact sound.awaited.mono (by decide) first spellable

theorem awaited_recognizes (h : ∀ n < fuel, Sound n) : Recognizes 7 (awaited fuel) := by
  intro ts e rest run spellable
  rw [awaited.eq_def] at run
  split at run
  next => cases run
  next =>
    obtain ⟨⟨e, ts⟩, -, run⟩ := Option.bind_eq_some_iff.mp run
    cases run
    exact absurd spellable (isForm _ _).not_spellable
  next => exact (h _ (Nat.lt_add_one _)).primary run spellable

theorem primary_recognizes (h : ∀ n < fuel, Sound n) : Recognizes 7 (primary fuel) := by
  intro ts e rest run spellable
  rw [primary.eq_def] at run
  split at run
  next => cases run
  next =>
    have sound := h _ (Nat.lt_add_one _)
    obtain ⟨⟨first, ts'⟩, begun, run⟩ := Option.bind_eq_some_iff.mp run
    exact (sound.trailers first).behind sound.atom (Nat.le_refl 8) begun run spellable

/-- Nothing is taken from an expression other than a name. -/
theorem trailers_end {f e : Expr} {ts rest : Tokens} (run : trailers fuel f ts = some (e, rest))
    (spellable : Spellable e) (other : ∀ id, f ≠ .name id) : e = f ∧ rest = ts := by
  induction fuel generalizing f ts with
  | zero => cases run
  | succ fuel ih =>
      rw [trailers.eq_def] at run
      dsimp only at run
      split at run
      next same => cases same
      next same =>
        cases same
        obtain ⟨rfl, -⟩ := ih run nofun
        exact absurd spellable (isForm _ _).not_spellable
      next same =>
        cases same
        obtain ⟨⟨⟨arguments, named⟩, ts⟩, -, run⟩ := Option.bind_eq_some_iff.mp run
        obtain ⟨rfl, -⟩ := ih run nofun
        cases spellable
        exact absurd rfl (other _)
      next same =>
        cases same
        obtain ⟨⟨index, ts⟩, -, run⟩ := Option.bind_eq_some_iff.mp run
        obtain ⟨rfl, -⟩ := ih run nofun
        exact absurd spellable (isForm _ _).not_spellable
      next =>
        cases run
        exact ⟨rfl, rfl⟩

theorem trailers_continues (h : ∀ n < fuel, Sound n) (f : Expr) :
    Continues 8 7 f (trailers fuel f) := by
  intro ts e rest run spellable
  rw [trailers.eq_def] at run
  split at run
  next => cases run
  next =>
    obtain ⟨rfl, -⟩ := trailers_end run spellable nofun
    exact absurd spellable (isForm _ _).not_spellable
  next =>
    have sound := h _ (Nat.lt_add_one _)
    obtain ⟨⟨⟨arguments, named⟩, ts'⟩, inside, run⟩ := Option.bind_eq_some_iff.mp run
    obtain ⟨rfl, rfl⟩ := trailers_end run spellable nofun
    cases spellable with
    | call known all =>
        obtain ⟨ls, rfl, spelled⟩ := sound.callArguments inside all
        refine ⟨.name (List.mem_append_right _ known), fun fs callee => ?_⟩
        refine ⟨.mark .opening :: (ls ++ [.mark .closing]), ?_, .call callee spelled⟩
        rw [tokens_cons, tokens_append, List.cons_append, List.append_assoc]
        rfl
  next =>
    obtain ⟨⟨index, ts⟩, -, run⟩ := Option.bind_eq_some_iff.mp run
    obtain ⟨rfl, -⟩ := trailers_end run spellable nofun
    exact absurd spellable (isForm _ _).not_spellable
  next =>
    cases run
    refine ⟨spellable, fun ls spelled => ⟨[], rfl, ?_⟩⟩
    rw [List.append_nil]
    exact spelled.lower

theorem atom_recognizes (h : ∀ n < fuel, Sound n) : Recognizes 8 (atom fuel) := by
  intro ts e rest run spellable
  rw [atom.eq_def] at run
  split at run
  next => cases run
  next =>
    have sound := h _ (Nat.lt_add_one _)
    split at run
    case h_1 =>
      cases run
      cases spellable with
      | whole n same =>
          refine ⟨[.numeral n], ?_, same ▸ .number n⟩
          rw [tokens_cons, Lexeme.token, Numeral.token_of_whole same]
          rfl
    case h_2 =>
      cases run
      cases spellable with
      | decimal n same =>
          refine ⟨[.numeral n], ?_, same ▸ .number n⟩
          rw [tokens_cons, Lexeme.token, Numeral.token_of_decimal same]
          rfl
    case h_4 =>
      cases run
      cases spellable with
      | name known => exact ⟨[.word ⟨_, known⟩], rfl, .name ⟨_, known⟩⟩
    case h_9 =>
      obtain ⟨⟨values, after⟩, -, run⟩ := Option.bind_eq_some_iff.mp run
      cases run
      cases spellable
    case h_10 | h_11 =>
      obtain ⟨⟨joined, after⟩, -, run⟩ := Option.bind_eq_some_iff.mp run
      dsimp only at run
      split at run
      next =>
        cases run
        cases spellable
      next =>
        obtain ⟨parts, -, run⟩ := Option.bind_eq_some_iff.mp run
        cases run
        cases spellable
    case h_12 =>
      obtain ⟨ls, rfl, spelled⟩ := sound.group run spellable
      refine ⟨.mark .opening :: (ls ++ [.mark .closing]), ?_, .enclosed spelled⟩
      rw [tokens_cons, tokens_append, List.cons_append, List.append_assoc]
      rfl
    case h_13 => exact absurd spellable (isForm_of_listDisplay run).not_spellable
    case h_14 =>
      obtain ⟨-, run⟩ := Option.ite_none_right_eq_some.mp run
      exact absurd spellable (isForm_of_braceDisplay run).not_spellable
    case h_15 => cases run
    all_goals
      cases run
      cases spellable

theorem group_closes (h : ∀ n < fuel, Sound n) : Closes (group fuel) := by
  intro ts e rest run spellable
  rw [group.eq_def] at run
  split at run
  next => cases run
  next =>
    cases run
    exact absurd spellable (isForm _ _).not_spellable
  next =>
    obtain ⟨⟨value, ts⟩, inside, run⟩ := Option.bind_eq_some_iff.mp run
    obtain ⟨ts, -, run⟩ := Option.bind_eq_some_iff.mp run
    cases run
    exact absurd spellable (isForm_of_yielded inside).not_spellable
  next =>
    obtain ⟨⟨first, ts⟩, inside, run⟩ := Option.bind_eq_some_iff.mp run
    dsimp only at run
    split at run
    next =>
      obtain ⟨⟨others, ts⟩, -, run⟩ := Option.bind_eq_some_iff.mp run
      cases run
      exact absurd spellable (isForm _ _).not_spellable
    next =>
      obtain ⟨-, run⟩ := Option.ite_none_left_eq_some.mp run
      obtain ⟨⟨parts, ts⟩, behind, run⟩ := Option.bind_eq_some_iff.mp run
      obtain ⟨ts, closing, run⟩ := Option.bind_eq_some_iff.mp run
      cases parts with
      | nil =>
          cases run
          rw [clauses_nil behind] at closing
          rw [← expect_eq_some closing]
          exact (h _ (Nat.lt_add_one _)).element inside spellable
      | cons part parts =>
          cases run
          exact absurd spellable (isForm _ _).not_spellable

theorem element_recognizes (h : ∀ n < fuel, Sound n) : Recognizes 0 (element fuel) := by
  intro ts e rest run spellable
  rw [element.eq_def] at run
  split at run
  next => cases run
  next =>
    obtain ⟨⟨e, ts⟩, -, run⟩ := Option.bind_eq_some_iff.mp run
    cases run
    exact absurd spellable (isForm _ _).not_spellable
  next => exact (h _ (Nat.lt_add_one _)).namedExpression run spellable

theorem namedExpression_recognizes (h : ∀ n < fuel, Sound n) :
    Recognizes 0 (namedExpression fuel) := by
  intro ts e rest run spellable
  rw [namedExpression.eq_def] at run
  split at run
  next => cases run
  next =>
    obtain ⟨⟨e, ts⟩, -, run⟩ := Option.bind_eq_some_iff.mp run
    cases run
    exact absurd spellable (isForm _ _).not_spellable
  next => exact (h _ (Nat.lt_add_one _)).expression run spellable

/-- What the rule for arguments does with an argument, and what it reads behind it. -/
def behindArgument (fuel : ℕ) (argument : Expr) (name : Option (Option String))
    (phase : ArgumentPhase) (ts : Tokens) :
    Option ((List Expr × List (Option String × Expr)) × Tokens) := do
  let ((others, named), ts) ←
    match ts with
    | .symbol "," :: ts => callArguments fuel phase false ts
    | _ => do
      let ts ← expect ")" ts
      some (([], []), ts)
  match name with
  | none => some ((argument :: others, named), ts)
  | some key => some ((others, (key, argument) :: named), ts)

section Arguments

variable {phase : ArgumentPhase} {ts rest : Tokens} {e : Expr} {es : List Expr}

theorem behindArgument_named (key : Option String) :
    behindArgument fuel e (some key) phase ts ≠ some ((es, []), rest) := by
  intro run
  unfold behindArgument at run
  dsimp only at run
  split at run
  next =>
    obtain ⟨⟨⟨others, named⟩, ts⟩, -, run⟩ := Option.bind_eq_some_iff.mp run
    cases run
  next =>
    obtain ⟨ts, -, run⟩ := Option.bind_eq_some_iff.mp run
    cases run

theorem behindArgument_positional (h : ClosesArguments fuel)
    (run : behindArgument fuel e none phase ts = some ((es, []), rest))
    (spellable : ∀ e ∈ es, Spellable e) :
    Spellable e ∧ ∀ ls, Spelled 0 ls e →
      ∃ ms, tokens ls ++ ts = tokens ms ++ .symbol ")" :: rest ∧ SpelledArguments ms es := by
  unfold behindArgument at run
  dsimp only at run
  split at run
  next =>
    obtain ⟨⟨⟨others, named⟩, ts⟩, behind, run⟩ := Option.bind_eq_some_iff.mp run
    cases run
    obtain ⟨first, more⟩ := List.forall_mem_cons.mp spellable
    obtain ⟨rs, rfl, spelled⟩ := h behind more
    refine ⟨first, fun ls here => ⟨ls ++ .mark .comma :: rs, ?_, .comma here spelled⟩⟩
    rw [tokens_append, tokens_cons, List.append_assoc, List.cons_append]
    rfl
  next =>
    obtain ⟨ts, closing, run⟩ := Option.bind_eq_some_iff.mp run
    cases run
    rw [expect_eq_some closing]
    exact ⟨spellable e (List.mem_singleton_self e), fun ls here => ⟨ls, rfl, .last here⟩⟩

end Arguments

theorem callArguments_closes (h : ∀ n < fuel, Sound n) : ClosesArguments fuel := by
  intro phase alone ts es rest run spellable
  rw [callArguments.eq_def] at run
  split at run
  next => cases run
  next =>
    cases run
    exact ⟨[], rfl, .nil⟩
  next =>
    have sound := h _ (Nat.lt_add_one _)
    split at run
    next =>
      obtain ⟨-, run⟩ := Option.ite_none_left_eq_some.mp run
      obtain ⟨⟨value, ts⟩, -, run⟩ := Option.bind_eq_some_iff.mp run
      obtain ⟨form, -⟩ := behindArgument_positional sound.callArguments run spellable
      exact absurd form (isForm _ _).not_spellable
    next =>
      obtain ⟨⟨value, ts⟩, -, run⟩ := Option.bind_eq_some_iff.mp run
      exact absurd run (behindArgument_named none)
    next =>
      obtain ⟨⟨value, ts⟩, -, run⟩ := Option.bind_eq_some_iff.mp run
      exact absurd run (behindArgument_named _)
    next =>
      obtain ⟨-, run⟩ := Option.ite_none_left_eq_some.mp run
      obtain ⟨⟨value, ts'⟩, first, run⟩ := Option.bind_eq_some_iff.mp run
      obtain ⟨⟨parts, after⟩, behind, run⟩ := Option.bind_eq_some_iff.mp run
      cases parts with
      | nil =>
          obtain ⟨inside, go⟩ := behindArgument_positional sound.callArguments run spellable
          obtain ⟨ls, rfl, spelled⟩ := sound.namedExpression first inside
          exact go ls spelled
      | cons part parts =>
          obtain ⟨-, run⟩ := Option.ite_none_right_eq_some.mp run
          obtain ⟨form, -⟩ := behindArgument_positional sound.callArguments run spellable
          exact absurd form (isForm _ _).not_spellable

end Rules

/-- Every rule reads what it is to read, with any fuel. -/
theorem sound (fuel : ℕ) : Sound fuel := by
  induction fuel using Nat.strong_induction_on with
  | h fuel ih =>
      exact {
        expression := expression_recognizes ih
        disjunction := disjunction_recognizes ih
        conjunction := conjunction_recognizes ih
        negation := negation_recognizes ih
        operand := fun _ => operand_recognizes ih
        chain := fun _ => chain_continues ih
        factor := factor_recognizes ih
        power := power_recognizes ih
        awaited := awaited_recognizes ih
        primary := primary_recognizes ih
        trailers := trailers_continues ih
        atom := atom_recognizes ih
        group := group_closes ih
        element := element_recognizes ih
        namedExpression := namedExpression_recognizes ih
        callArguments := callArguments_closes ih }

/-! Whole texts. -/

theorem spelled_of_expressions {fuel : ℕ} {ts : Tokens} {e : Expr}
    (run : expressions fuel ts = some ([e], false)) (spellable : Spellable e) :
    ∃ ls, ts = tokens ls ∧ Spelled 0 ls e := by
  rw [expressions.eq_def] at run
  split at run
  next => cases run
  next =>
    obtain ⟨⟨value, rest⟩, read, run⟩ := Option.bind_eq_some_iff.mp run
    dsimp only at run
    split at run
    next =>
      cases run
      obtain ⟨ls, rfl, spelled⟩ := (sound _).expression read spellable
      exact ⟨ls, List.append_nil _, spelled⟩
    next => cases run
    next =>
      obtain ⟨⟨es, several⟩, -, run⟩ := Option.bind_eq_some_iff.mp run
      cases run
    next => cases run

/-- The tokens of a text with a value are lexemes that spell its tree. -/
theorem spelled_of_tree {text : String} {e : Expr} {x : Float} (tree : Expr.ofText? text = some e)
    (value : e.HasValue x) : ∃ ls, lex text.toList = some (tokens ls) ∧ Spelled 0 ls e := by
  unfold Expr.ofText? at tree
  obtain ⟨ts, lexed, tree⟩ := Option.bind_eq_some_iff.mp tree
  obtain ⟨⟨es, several⟩, run, tree⟩ := Option.bind_eq_some_iff.mp tree
  dsimp only at tree
  split at tree
  next =>
    cases tree
    obtain ⟨ls, rfl, spelled⟩ := spelled_of_expressions run (spellable_of_hasValue value)
    exact ⟨ls, lexed, spelled⟩
  next =>
    cases tree
    cases value

end Astrolabe.Expression
