import Astrolabe.Proofs.Expression.LetterCase

/-!
The parser does not look at names. Where it reads arithmetic, it reads the same from tokens with
other names in them, and the steps that it needs grow with the tokens that it reads, not with the
text that they are cut from.
-/

namespace Astrolabe

/-- Trees of arithmetic, whatever the names and numbers in them. -/
inductive Expr.Plain : Expr → Prop
  | whole (n : ℕ) : Plain (.whole n)
  | decimal (d : Number.Decimal) : Plain (.decimal d)
  | name (id : String) : Plain (.name id)
  | unary (op : Expression.UnaryOp) {e : Expr} (h : Plain e) : Plain (.unary op e)
  | binary (op : Expression.BinaryOp) {l r : Expr} (left : Plain l) (right : Plain r) :
      Plain (.binary op l r)
  | call {f : Expr} {es : List Expr} (callee : Plain f) (h : ∀ e ∈ es, Plain e) :
      Plain (.call f es [])

/-- What may stand in texts that differ in names: a name for each name, and whole numbers or no
numbers at all. -/
structure Expression.Renaming where
  stands : String → String → Prop
  numbers : Prop

/-- Trees of arithmetic on whole numbers that differ in names alone, which stand for each other. -/
inductive Expr.Renamed (R : Expression.Renaming) : Expr → Expr → Prop
  | whole (numbers : R.numbers) (n : ℕ) : Renamed R (.whole n) (.whole n)
  | name {id id' : String} (h : R.stands id id') : Renamed R (.name id) (.name id')
  | unary (op : Expression.UnaryOp) {e e' : Expr} (h : Renamed R e e') :
      Renamed R (.unary op e) (.unary op e')
  | binary (op : Expression.BinaryOp) {l r l' r' : Expr} (left : Renamed R l l')
      (right : Renamed R r r') : Renamed R (.binary op l r) (.binary op l' r')
  | call {f f' : Expr} {es es' : List Expr} (callee : Renamed R f f')
      (h : List.Forall₂ (Renamed R) es es') : Renamed R (.call f es []) (.call f' es' [])

namespace Expression

open Astrolabe.Expr (Plain)

theorem IsForm.not_plain {e : Expr} (h : IsForm e) : ¬Plain e := by
  obtain ⟨kind, parts, rfl⟩ := h
  exact nofun

/-- Tokens other than decimal numbers that differ in names alone, which stand for each other. -/
inductive Token.Renamed (R : Renaming) : Token → Token → Prop
  | name {id id' : String} (h : R.stands id id') : Renamed R (.name id) (.name id')
  | same {t : Token} (noName : ∀ id, t ≠ .name id) (noDecimal : ∀ d, t ≠ .decimal d)
      (noWhole : ∀ n, t = .whole n → R.numbers) : Renamed R t t

abbrev Renamed (R : Renaming) : Tokens → Tokens → Prop :=
  List.Forall₂ (Token.Renamed R)

variable {R : Renaming}

theorem Token.Renamed.lineEnd : Token.Renamed R .lineEnd .lineEnd :=
  .same (fun _ same => by cases same) (fun _ same => by cases same) fun _ same => by cases same

theorem Token.Renamed.symbol (mark : String) : Token.Renamed R (.symbol mark) (.symbol mark) :=
  .same (fun _ same => by cases same) (fun _ same => by cases same) fun _ same => by cases same

theorem Token.Renamed.whole (numbers : R.numbers) (n : ℕ) :
    Token.Renamed R (.whole n) (.whole n) :=
  .same (fun _ same => by cases same) (fun _ same => by cases same) fun _ _ => numbers

namespace Renamed

variable {ts ts' us : Tokens}

theorem of_keyword {w : String} (h : Renamed R ts (.keyword w :: us)) :
    ∃ us', ts = .keyword w :: us' ∧ Renamed R us' us := by
  obtain _ | ⟨⟨⟩, behind⟩ := h
  exact ⟨_, rfl, behind⟩

theorem of_symbol {mark : String} (h : Renamed R ts (.symbol mark :: us)) :
    ∃ us', ts = .symbol mark :: us' ∧ Renamed R us' us := by
  obtain _ | ⟨⟨⟩, behind⟩ := h
  exact ⟨_, rfl, behind⟩

theorem of_name {id : String} (h : Renamed R ts (.name id :: us)) :
    ∃ id' us', ts = .name id' :: us' ∧ Renamed R us' us := by
  obtain _ | ⟨⟨⟩, behind⟩ := h
  · exact ⟨_, _, rfl, behind⟩
  · exact ⟨_, _, rfl, behind⟩

theorem to_symbol {mark : String} (h : Renamed R (.symbol mark :: us) ts) :
    ∃ us', ts = .symbol mark :: us' ∧ Renamed R us us' := by
  obtain _ | ⟨⟨⟩, behind⟩ := h
  exact ⟨_, rfl, behind⟩

theorem ne_keyword (h : Renamed R ts ts') {w : String} (other : ∀ us, ts ≠ .keyword w :: us)
    (us : Tokens) : ts' ≠ .keyword w :: us := by
  rintro rfl
  obtain ⟨us', rfl, -⟩ := h.of_keyword
  exact other us' rfl

theorem ne_symbol (h : Renamed R ts ts') {mark : String} (other : ∀ us, ts ≠ .symbol mark :: us)
    (us : Tokens) : ts' ≠ .symbol mark :: us := by
  rintro rfl
  obtain ⟨us', rfl, -⟩ := h.of_symbol
  exact other us' rfl

theorem startsWith (h : Renamed R ts ts') (mark : String) :
    startsWith mark ts' = startsWith mark ts := by
  cases h with
  | nil => rfl
  | @cons t _ _ _ first _ =>
      cases first with
      | name => rfl
      | same => cases t <;> rfl

theorem comparison? (h : Renamed R ts ts') (last : Expression.comparison? ts = none) :
    Expression.comparison? ts' = none := by
  unfold Expression.comparison? at last ⊢
  split
  next =>
    obtain ⟨us, same, h⟩ := h.of_keyword
    obtain ⟨vs, rfl, -⟩ := h.of_keyword
    rw [same] at last
    cases last
  next =>
    obtain ⟨us, same, h⟩ := h.of_keyword
    obtain ⟨vs, rfl, -⟩ := h.of_keyword
    rw [same] at last
    cases last
  next =>
    obtain ⟨us, rfl, -⟩ := h.of_keyword
    cases last
  next =>
    obtain ⟨us, rfl, h⟩ := h.of_keyword
    split at last <;> grind
  next =>
    obtain ⟨us, rfl, -⟩ := h.of_symbol
    grind
  next => rfl

end Renamed

/-! Rules that read nothing where they give nothing. -/

section Nothing

variable {fuel : ℕ} {ts ts' rest : Tokens}

theorem alternatives_renamed (run : alternatives fuel ts = some ([], rest))
    (h : Renamed R ts ts') (n : ℕ) : alternatives (n + 1) ts' = some ([], ts') := by
  rw [alternatives.eq_def] at run
  split at run
  next => cases run
  next => exact absurd run bind_cons_ne_nil
  next other =>
    rw [alternatives]
    exact h.ne_keyword other

theorem conjuncts_renamed (run : conjuncts fuel ts = some ([], rest))
    (h : Renamed R ts ts') (n : ℕ) : conjuncts (n + 1) ts' = some ([], ts') := by
  rw [conjuncts.eq_def] at run
  split at run
  next => cases run
  next => exact absurd run bind_cons_ne_nil
  next other =>
    rw [conjuncts]
    exact h.ne_keyword other

theorem comparisons_renamed (run : comparisons fuel ts = some ([], rest))
    (h : Renamed R ts ts') (n : ℕ) : comparisons (n + 1) ts' = some ([], ts') := by
  rw [comparisons.eq_def] at run
  split at run
  next => cases run
  next =>
    split at run
    next => exact absurd run bind_cons_ne_nil
    next last => rw [comparisons, h.comparison? last]

theorem clauses_renamed (run : clauses fuel ts = some ([], rest)) (h : Renamed R ts ts') (n : ℕ) :
    clauses (n + 1) ts' = some ([], ts') := by
  rw [clauses.eq_def] at run
  split at run
  next => cases run
  next =>
    dsimp only at run
    split at run
    next last =>
      cases run
      rw [clauses]
      · exact h.ne_keyword (by rintro us rfl; cases last)
      · rintro us rfl
        obtain ⟨us', same, h⟩ := h.of_keyword
        obtain ⟨vs, rfl, -⟩ := h.of_keyword
        rw [same] at last
        cases last
    next =>
      obtain ⟨⟨target, ts⟩, -, run⟩ := Option.bind_eq_some_iff.mp run
      obtain ⟨⟨source, ts⟩, -, run⟩ := Option.bind_eq_some_iff.mp run
      obtain ⟨⟨tests, ts⟩, -, run⟩ := Option.bind_eq_some_iff.mp run
      obtain ⟨⟨others, ts⟩, -, run⟩ := Option.bind_eq_some_iff.mp run
      simp at run

end Nothing

/-! What is to be shown of the rules. -/

/-- Where a rule reads arithmetic, it reads a token at least, and it reads the same from tokens with
other names. The steps that it needs are 16 for each token read and `offset`, less 15. -/
def Follows (R : Renaming) (offset : ℕ)
    (rule : ℕ → Tokens → Option (Expr × Tokens)) (fuel : ℕ) : Prop :=
  ∀ ⦃ts e rest⦄, rule fuel ts = some (e, rest) → Plain e →
    rest.length < ts.length ∧ ∀ ⦃ts'⦄, Renamed R ts ts' →
      ∃ e' rest', e.Renamed R e' ∧ Renamed R rest rest' ∧
        ∀ n, 16 * ts.length + offset ≤ n + 16 * rest.length + 15 → rule n ts' = some (e', rest')

/-- The same of a rule that goes on behind an expression, and may read nothing. -/
def FollowsBehind (R : Renaming)
    (rule : ℕ → Expr → Tokens → Option (Expr × Tokens)) (fuel : ℕ) : Prop :=
  ∀ ⦃left ts e rest⦄, rule fuel left ts = some (e, rest) → Plain e →
    Plain left ∧ rest.length ≤ ts.length ∧
      ∀ ⦃left' ts'⦄, left.Renamed R left' → Renamed R ts ts' →
        ∃ e' rest', e.Renamed R e' ∧ Renamed R rest rest' ∧
          ∀ n, 16 * ts.length + 1 ≤ n + 16 * rest.length → rule n left' ts' = some (e', rest')

/-- The same of the rule for arguments, where all of them are positional. -/
def FollowsArguments (R : Renaming) (fuel : ℕ) : Prop :=
  ∀ ⦃phase alone ts es rest⦄, callArguments fuel phase alone ts = some ((es, []), rest) →
    (∀ e ∈ es, Plain e) → rest.length < ts.length ∧ ∀ ⦃ts'⦄, Renamed R ts ts' →
      ∃ es' rest', List.Forall₂ (Expr.Renamed R) es es' ∧ Renamed R rest rest' ∧
        ∀ n, 16 * ts.length ≤ n + 16 * rest.length →
          callArguments n phase alone ts' = some ((es', []), rest')

structure Followed (R : Renaming) (fuel : ℕ) : Prop where
  expression : Follows R 14 expression fuel
  disjunction : Follows R 13 disjunction fuel
  conjunction : Follows R 12 conjunction fuel
  negation : Follows R 11 negation fuel
  operand : ∀ level ≤ 5, Follows R (10 - level) (operand · level) fuel
  chain : ∀ level ≤ 4, FollowsBehind R (chain · level) fuel
  factor : Follows R 4 factor fuel
  power : Follows R 3 power fuel
  awaited : Follows R 2 awaited fuel
  primary : Follows R 1 primary fuel
  trailers : FollowsBehind R trailers fuel
  atom : Follows R 0 atom fuel
  group : Follows R 1 group fuel
  element : Follows R 16 element fuel
  namedExpression : Follows R 15 namedExpression fuel
  callArguments : FollowsArguments R fuel

/-- A first part and what goes on behind it. -/
theorem FollowsBehind.join {offset fuel : ℕ} {first : ℕ → Tokens → Option (Expr × Tokens)}
    {rule : ℕ → Expr → Tokens → Option (Expr × Tokens)} (next : FollowsBehind R rule fuel)
    (h : Follows R offset first fuel) (few : offset ≤ 14) {ts ts₁ rest : Tokens} {left e : Expr}
    (begun : first fuel ts = some (left, ts₁)) (run : rule fuel left ts₁ = some (e, rest))
    (plain : Plain e) :
    rest.length < ts.length ∧ ∀ ⦃ts'⦄, Renamed R ts ts' →
      ∃ e' rest', e.Renamed R e' ∧ Renamed R rest rest' ∧
        ∀ n, 16 * ts.length + offset ≤ n + 16 * rest.length + 15 →
          ((first n ts').bind fun (left, ts) => rule n left ts) = some (e', rest') := by
  obtain ⟨inside, le, go⟩ := next run plain
  obtain ⟨lt, start⟩ := h begun inside
  refine ⟨by omega, fun ts' renamed => ?_⟩
  obtain ⟨left', ts₁', same, behind, again⟩ := start renamed
  obtain ⟨e', rest', whole, last, more⟩ := go same behind
  refine ⟨e', rest', whole, last, fun n enough => ?_⟩
  rw [again n (by omega), Option.bind_some]
  exact more n (by omega)

/-- A rule that does nothing but enter another one. -/
theorem Follows.enter {offset fuel : ℕ} {rule inner : ℕ → Tokens → Option (Expr × Tokens)}
    (h : Follows R offset inner fuel) {ts rest : Tokens} {e : Expr}
    (run : inner fuel ts = some (e, rest)) (plain : Plain e)
    (enters : ∀ n ts', Renamed R ts ts' → ∀ e' rest', e.Renamed R e' → Renamed R rest rest' →
      inner n ts' = some (e', rest') → rule (n + 1) ts' = some (e', rest')) :
    rest.length < ts.length ∧ ∀ ⦃ts'⦄, Renamed R ts ts' →
      ∃ e' rest', e.Renamed R e' ∧ Renamed R rest rest' ∧
        ∀ n, 16 * ts.length + (offset + 1) ≤ n + 16 * rest.length + 15 →
          rule n ts' = some (e', rest') := by
  obtain ⟨lt, go⟩ := h run plain
  refine ⟨lt, fun ts' renamed => ?_⟩
  obtain ⟨e', rest', same, behind, again⟩ := go renamed
  refine ⟨e', rest', same, behind, fun n enough => ?_⟩
  obtain ⟨n, rfl⟩ := Nat.exists_eq_add_of_le' (show 1 ≤ n by omega)
  exact enters n ts' renamed e' rest' same behind (again n (by omega))

/-! The rules, one by one. -/

section Rules

variable {fuel : ℕ}

theorem expression_follows (h : ∀ n < fuel, Followed R n) : Follows R 14 expression fuel := by
  intro ts e rest run plain
  rw [expression.eq_def] at run
  split at run
  next => cases run
  next =>
    obtain ⟨⟨defaults, ts⟩, -, run⟩ := Option.bind_eq_some_iff.mp run
    obtain ⟨ts, -, run⟩ := Option.bind_eq_some_iff.mp run
    obtain ⟨⟨body, ts⟩, -, run⟩ := Option.bind_eq_some_iff.mp run
    cases run
    exact absurd plain (isForm _ _).not_plain
  next noFunction =>
    obtain ⟨⟨value, after⟩, first, run⟩ := Option.bind_eq_some_iff.mp run
    dsimp only at run
    split at run
    next =>
      obtain ⟨⟨test, ts⟩, -, run⟩ := Option.bind_eq_some_iff.mp run
      obtain ⟨ts, -, run⟩ := Option.bind_eq_some_iff.mp run
      obtain ⟨⟨other, ts⟩, -, run⟩ := Option.bind_eq_some_iff.mp run
      cases run
      exact absurd plain (isForm _ _).not_plain
    next noCondition =>
      cases run
      refine (h _ (Nat.lt_add_one _)).disjunction.enter first plain ?_
      intro n ts' renamed e' rest' _ behind again
      rw [expression]
      · simp only [again, bind, Option.bind_some]
        split
        next => exact absurd rfl (behind.ne_keyword noCondition _)
        next => rfl
      · exact renamed.ne_keyword noFunction

/-- Operands with words between them, of which there is only one where the tree is arithmetic. -/
theorem follows_joined {offset : ℕ} {kind : Form} {rule first : ℕ → Tokens → Option (Expr × Tokens)}
    {more : ℕ → Tokens → Option (List Expr × Tokens)} (h : Follows R offset first fuel)
    (idle : ∀ {ts rest}, more fuel ts = some ([], rest) → rest = ts)
    (still : ∀ {ts ts' rest}, more fuel ts = some ([], rest) → Renamed R ts ts' →
      ∀ n, more (n + 1) ts' = some ([], ts'))
    {ts rest : Tokens} {e : Expr}
    (unfolds : ∀ {ts'} n, Renamed R ts ts' → rule (n + 1) ts' = (do
      let (e, ts) ← first n ts'
      let (others, ts) ← more n ts
      some (if others.isEmpty then e else .form kind (e :: others), ts)))
    (run : (do
      let (e, ts) ← first fuel ts
      let (others, ts) ← more fuel ts
      some (if others.isEmpty then e else .form kind (e :: others), ts)) = some (e, rest))
    (plain : Plain e) :
    rest.length < ts.length ∧ ∀ ⦃ts'⦄, Renamed R ts ts' →
      ∃ e' rest', e.Renamed R e' ∧ Renamed R rest rest' ∧
        ∀ n, 16 * ts.length + (offset + 1) ≤ n + 16 * rest.length + 15 →
          rule n ts' = some (e', rest') := by
  obtain ⟨⟨value, after⟩, begun, run⟩ := Option.bind_eq_some_iff.mp run
  obtain ⟨⟨others, rest⟩, behind, run⟩ := Option.bind_eq_some_iff.mp run
  cases others with
  | nil =>
      cases run
      obtain rfl := idle behind
      obtain ⟨lt, go⟩ := h begun plain
      refine ⟨lt, fun ts' renamed => ?_⟩
      obtain ⟨e', rest', same, last, again⟩ := go renamed
      refine ⟨e', rest', same, last, fun n enough => ?_⟩
      obtain ⟨n, rfl⟩ := Nat.exists_eq_add_of_le' (show 2 ≤ n by omega)
      rw [unfolds (n + 1) renamed, again (n + 1) (by omega)]
      simp only [still behind last n, bind, Option.bind_some, List.isEmpty_nil, if_true]
  | cons other others =>
      cases run
      exact absurd plain (isForm _ _).not_plain

theorem disjunction_follows (h : ∀ n < fuel, Followed R n) : Follows R 13 disjunction fuel := by
  intro ts e rest run plain
  rw [disjunction.eq_def] at run
  split at run
  next => cases run
  next =>
    exact follows_joined (h _ (Nat.lt_add_one _)).conjunction alternatives_nil
      alternatives_renamed (fun n _ => disjunction.eq_def (n + 1) _) run plain

theorem conjunction_follows (h : ∀ n < fuel, Followed R n) : Follows R 12 conjunction fuel := by
  intro ts e rest run plain
  rw [conjunction.eq_def] at run
  split at run
  next => cases run
  next =>
    exact follows_joined (h _ (Nat.lt_add_one _)).negation conjuncts_nil
      conjuncts_renamed (fun n _ => conjunction.eq_def (n + 1) _) run plain

theorem negation_follows (h : ∀ n < fuel, Followed R n) : Follows R 11 negation fuel := by
  intro ts e rest run plain
  rw [negation.eq_def] at run
  split at run
  next => cases run
  next =>
    obtain ⟨⟨operand, ts⟩, inside, run⟩ := Option.bind_eq_some_iff.mp run
    cases run
    cases plain with
    | unary _ hs =>
        obtain ⟨lt, go⟩ := (h _ (Nat.lt_add_one _)).negation inside hs
        refine ⟨Nat.lt_succ_of_lt lt, fun ts' renamed => ?_⟩
        obtain _ | ⟨⟨⟩, renamed⟩ := renamed
        obtain ⟨e', rest', same, behind, again⟩ := go renamed
        refine ⟨_, rest', .unary _ same, behind, fun n enough => ?_⟩
        rw [List.length_cons] at enough
        obtain ⟨n, rfl⟩ := Nat.exists_eq_add_of_le' (show 1 ≤ n by omega)
        rw [negation, again n (by omega)]
        rfl
  next noNegation =>
    have operand := (h _ (Nat.lt_add_one _)).operand 0 (by decide)
    refine follows_joined operand comparisons_nil comparisons_renamed ?_ run plain
    intro ts' n renamed
    rw [negation]
    exact renamed.ne_keyword noNegation

theorem operand_follows (h : ∀ n < fuel, Followed R n) {level : ℕ} (le : level ≤ 5) :
    Follows R (10 - level) (operand · level) fuel := by
  intro ts e rest run plain
  dsimp only at run
  rw [operand.eq_def] at run
  split at run
  next => cases run
  next =>
    have followed := h _ (Nat.lt_add_one _)
    split at run
    next above =>
      obtain rfl : level = 5 := Nat.le_antisymm le above
      refine followed.factor.enter run plain fun n ts' _ e' rest' _ _ again => ?_
      rw [operand, if_pos above]
      exact again
    next below =>
      have le : level ≤ 4 := by
        unfold operatorLevels at below
        omega
      obtain ⟨⟨left, ts₁⟩, begun, run⟩ := Option.bind_eq_some_iff.mp run
      obtain ⟨lt, go⟩ := (followed.chain level le).join (followed.operand (level + 1) (by omega))
        (by omega) begun run plain
      refine ⟨lt, fun ts' renamed => ?_⟩
      obtain ⟨e', rest', same, behind, again⟩ := go renamed
      refine ⟨e', rest', same, behind, fun n enough => ?_⟩
      obtain ⟨n, rfl⟩ := Nat.exists_eq_add_of_le' (show 1 ≤ n by omega)
      dsimp only
      rw [operand, if_neg below]
      exact again n (by omega)

theorem chain_follows (h : ∀ n < fuel, Followed R n) {level : ℕ} (le : level ≤ 4) :
    FollowsBehind R (chain · level) fuel := by
  intro left ts e rest run plain
  dsimp only at run
  rw [chain.eq_def] at run
  split at run
  next => cases run
  next n level left mark ts =>
    have followed := h _ (Nat.lt_add_one _)
    split at run
    next op found =>
      obtain ⟨⟨right, ts₁⟩, second, run⟩ := Option.bind_eq_some_iff.mp run
      obtain ⟨whole, few, go⟩ := followed.chain _ le run plain
      cases whole with
      | binary _ hl hr =>
          obtain ⟨lt, start⟩ := followed.operand (_ + 1) (by omega) second hr
          refine ⟨hl, by rw [List.length_cons]; omega, fun left' ts' leftRenamed renamed => ?_⟩
          obtain _ | ⟨⟨⟩, renamed⟩ := renamed
          obtain ⟨right', ts₁', rightRenamed, behind, again⟩ := start renamed
          obtain ⟨e', rest', same, last, more⟩ := go (.binary op leftRenamed rightRenamed) behind
          refine ⟨e', rest', same, last, fun n enough => ?_⟩
          rw [List.length_cons] at enough
          obtain ⟨n, rfl⟩ := Nat.exists_eq_add_of_le' (show 1 ≤ n by omega)
          dsimp only at again ⊢
          rw [chain, found]
          simp only [again n (by omega), bind, Option.bind_some]
          exact more n (by omega)
    next noOperator =>
      cases run
      refine ⟨plain, Nat.le_refl _, fun left' ts' leftRenamed renamed => ?_⟩
      refine ⟨left', ts', leftRenamed, renamed, fun n enough => ?_⟩
      obtain ⟨n, rfl⟩ := Nat.exists_eq_add_of_le' (show 1 ≤ n by omega)
      obtain _ | ⟨⟨⟩, -⟩ := renamed
      dsimp only
      rw [chain, noOperator]
  next noSymbol =>
    cases run
    refine ⟨plain, Nat.le_refl _, fun left' ts' leftRenamed renamed => ?_⟩
    refine ⟨left', ts', leftRenamed, renamed, fun n enough => ?_⟩
    obtain ⟨n, rfl⟩ := Nat.exists_eq_add_of_le' (show 1 ≤ n by omega)
    dsimp only
    rw [chain]
    exact fun mark => renamed.ne_symbol (noSymbol mark)

theorem factor_follows (h : ∀ n < fuel, Followed R n) : Follows R 4 factor fuel := by
  intro ts e rest run plain
  rw [factor.eq_def] at run
  split at run
  next => cases run
  next =>
    have followed := h _ (Nat.lt_add_one _)
    split at run
    next op found =>
      obtain ⟨⟨operand, ts'⟩, inside, run⟩ := Option.bind_eq_some_iff.mp run
      cases run
      cases plain with
      | unary _ hs =>
          obtain ⟨lt, go⟩ := followed.factor inside hs
          refine ⟨Nat.lt_succ_of_lt lt, fun ts' renamed => ?_⟩
          obtain _ | ⟨⟨⟩, renamed⟩ := renamed
          obtain ⟨e', rest', same, behind, again⟩ := go renamed
          refine ⟨_, rest', .unary op same, behind, fun n enough => ?_⟩
          rw [List.length_cons] at enough
          obtain ⟨n, rfl⟩ := Nat.exists_eq_add_of_le' (show 1 ≤ n by omega)
          exact factor_signed found (again n (by omega))
    next noSign =>
      refine followed.power.enter run plain fun n ts' renamed e' rest' _ _ again => ?_
      obtain _ | ⟨⟨⟩, -⟩ := renamed
      rw [factor, noSign]
      exact again
  next noSymbol =>
    refine (h _ (Nat.lt_add_one _)).power.enter run plain ?_
    intro n ts' renamed e' rest' _ _ again
    rw [factor]
    · exact again
    · exact fun mark => renamed.ne_symbol (noSymbol mark)

theorem power_follows (h : ∀ n < fuel, Followed R n) : Follows R 3 power fuel := by
  intro ts e rest run plain
  rw [power.eq_def] at run
  split at run
  next => cases run
  next =>
    have followed := h _ (Nat.lt_add_one _)
    obtain ⟨⟨base, after⟩, first, run⟩ := Option.bind_eq_some_iff.mp run
    dsimp only at run
    split at run
    next =>
      obtain ⟨⟨exponent, ts''⟩, second, run⟩ := Option.bind_eq_some_iff.mp run
      dsimp only at run
      cases run
      cases plain with
      | binary _ hl hr =>
          obtain ⟨lt, go⟩ := followed.awaited first hl
          obtain ⟨lt', go'⟩ := followed.factor second hr
          rw [List.length_cons] at lt go
          refine ⟨by omega, fun ts' renamed => ?_⟩
          obtain ⟨l', after', left, behind, again⟩ := go renamed
          obtain ⟨after', rfl, inner⟩ := behind.to_symbol
          obtain ⟨r', rest', right, last, more⟩ := go' inner
          refine ⟨_, rest', .binary .pow left right, last, fun n enough => ?_⟩
          obtain ⟨n, rfl⟩ := Nat.exists_eq_add_of_le' (show 1 ≤ n by omega)
          rw [power, again n (by omega)]
          simp only [more n (by omega), bind, Option.bind_some]
    next noExponent =>
      cases run
      refine followed.awaited.enter first plain fun n ts' _ e' rest' _ behind again => ?_
      rw [power, again]
      simp only [bind, Option.bind_some]
      split
      next => exact absurd rfl (behind.ne_symbol noExponent _)
      next => rfl

theorem awaited_follows (h : ∀ n < fuel, Followed R n) : Follows R 2 awaited fuel := by
  intro ts e rest run plain
  rw [awaited.eq_def] at run
  split at run
  next => cases run
  next =>
    obtain ⟨⟨e, ts⟩, -, run⟩ := Option.bind_eq_some_iff.mp run
    cases run
    exact absurd plain (isForm _ _).not_plain
  next noWord =>
    refine (h _ (Nat.lt_add_one _)).primary.enter run plain ?_
    intro n ts' renamed e' rest' _ _ again
    rw [awaited]
    · exact again
    · exact renamed.ne_keyword noWord

theorem primary_follows (h : ∀ n < fuel, Followed R n) : Follows R 1 primary fuel := by
  intro ts e rest run plain
  rw [primary.eq_def] at run
  split at run
  next => cases run
  next =>
    have followed := h _ (Nat.lt_add_one _)
    obtain ⟨⟨first, ts₁⟩, begun, run⟩ := Option.bind_eq_some_iff.mp run
    obtain ⟨lt, go⟩ := followed.trailers.join followed.atom (by decide) begun run plain
    refine ⟨lt, fun ts' renamed => ?_⟩
    obtain ⟨e', rest', same, behind, again⟩ := go renamed
    refine ⟨e', rest', same, behind, fun n enough => ?_⟩
    obtain ⟨n, rfl⟩ := Nat.exists_eq_add_of_le' (show 1 ≤ n by omega)
    rw [primary]
    exact again n (by omega)

theorem trailers_follows (h : ∀ n < fuel, Followed R n) : FollowsBehind R trailers fuel := by
  intro left ts e rest run plain
  rw [trailers.eq_def] at run
  split at run
  next => cases run
  next =>
    obtain ⟨member, -⟩ := (h _ (Nat.lt_add_one _)).trailers run plain
    exact absurd member (isForm _ _).not_plain
  next =>
    have followed := h _ (Nat.lt_add_one _)
    obtain ⟨⟨⟨arguments, named⟩, ts₁⟩, inside, run⟩ := Option.bind_eq_some_iff.mp run
    obtain ⟨whole, few, go⟩ := followed.trailers run plain
    cases whole with
    | call callee all =>
        obtain ⟨lt, start⟩ := followed.callArguments inside all
        refine ⟨callee, by rw [List.length_cons]; omega, fun left' ts' leftRenamed renamed => ?_⟩
        obtain ⟨us, rfl, inner⟩ := renamed.to_symbol
        obtain ⟨es', ts₁', same, behind, again⟩ := start inner
        obtain ⟨e', rest', whole, last, more⟩ := go (.call leftRenamed same) behind
        refine ⟨e', rest', whole, last, fun n enough => ?_⟩
        rw [List.length_cons] at enough
        obtain ⟨n, rfl⟩ := Nat.exists_eq_add_of_le' (show 1 ≤ n by omega)
        rw [trailers, again n (by omega)]
        exact more n (by omega)
  next =>
    obtain ⟨⟨index, ts₁⟩, -, run⟩ := Option.bind_eq_some_iff.mp run
    obtain ⟨item, -⟩ := (h _ (Nat.lt_add_one _)).trailers run plain
    exact absurd item (isForm _ _).not_plain
  next noMember noCall noItem =>
    cases run
    refine ⟨plain, Nat.le_refl _, fun left' ts' leftRenamed renamed => ?_⟩
    refine ⟨left', ts', leftRenamed, renamed, fun n enough => ?_⟩
    obtain ⟨n, rfl⟩ := Nat.exists_eq_add_of_le' (show 1 ≤ n by omega)
    rw [trailers]
    · rintro id us rfl
      obtain ⟨vs, rfl, inner⟩ := renamed.of_symbol
      obtain ⟨id', ws, rfl, -⟩ := inner.of_name
      exact noMember id' ws rfl
    · exact renamed.ne_symbol noCall
    · exact renamed.ne_symbol noItem

/-- An atom of one token, which is given as it stands. -/
theorem follows_leaf {leaf : Token} {ts : Tokens} {e : Expr}
    (same : ∀ ⦃leaf'⦄, leaf.Renamed R leaf' → ∃ e', e.Renamed R e' ∧
      ∀ n us, atom (n + 1) (leaf' :: us) = some (e', us)) :
    ts.length < (leaf :: ts).length ∧ ∀ ⦃ts'⦄, Renamed R (leaf :: ts) ts' →
      ∃ e' rest', e.Renamed R e' ∧ Renamed R ts rest' ∧
        ∀ n, 16 * (leaf :: ts).length + 0 ≤ n + 16 * ts.length + 15 →
          atom n ts' = some (e', rest') := by
  refine ⟨Nat.lt_succ_self _, fun ts' renamed => ?_⟩
  obtain _ | ⟨first, behind⟩ := renamed
  obtain ⟨e', here, again⟩ := same first
  refine ⟨e', _, here, behind, fun n enough => ?_⟩
  rw [List.length_cons] at enough
  obtain ⟨n, rfl⟩ := Nat.exists_eq_add_of_le' (show 1 ≤ n by omega)
  exact again n _

theorem atom_follows (h : ∀ n < fuel, Followed R n) : Follows R 0 atom fuel := by
  intro ts e rest run plain
  rw [atom.eq_def] at run
  split at run
  next => cases run
  next =>
    split at run
    case h_1 =>
      cases run
      refine follows_leaf fun leaf' renamed => ?_
      cases renamed with
      | same _ _ noWhole => exact ⟨_, .whole (noWhole _ rfl) _, fun n us => rfl⟩
    case h_2 =>
      cases run
      refine follows_leaf fun leaf' renamed => ?_
      cases renamed with
      | same _ noDecimal _ => exact absurd rfl (noDecimal _)
    case h_4 =>
      cases run
      refine follows_leaf fun leaf' renamed => ?_
      cases renamed with
      | name related => exact ⟨_, .name related, fun n us => rfl⟩
      | same noName => exact absurd rfl (noName _)
    case h_9 =>
      obtain ⟨⟨values, after⟩, -, run⟩ := Option.bind_eq_some_iff.mp run
      cases run
      cases plain
    case h_10 | h_11 =>
      obtain ⟨⟨joined, after⟩, -, run⟩ := Option.bind_eq_some_iff.mp run
      dsimp only at run
      split at run
      next =>
        cases run
        cases plain
      next =>
        obtain ⟨parts, -, run⟩ := Option.bind_eq_some_iff.mp run
        cases run
        cases plain
    case h_12 =>
      obtain ⟨lt, go⟩ := (h _ (Nat.lt_add_one _)).group run plain
      refine ⟨Nat.lt_succ_of_lt lt, fun ts' renamed => ?_⟩
      obtain ⟨us, rfl, inner⟩ := renamed.to_symbol
      obtain ⟨e', rest', same, behind, again⟩ := go inner
      refine ⟨e', rest', same, behind, fun n enough => ?_⟩
      rw [List.length_cons] at enough
      obtain ⟨n, rfl⟩ := Nat.exists_eq_add_of_le' (show 1 ≤ n by omega)
      rw [atom]
      exact again n (by omega)
    case h_13 => exact absurd plain (isForm_of_listDisplay run).not_plain
    case h_14 =>
      obtain ⟨-, run⟩ := Option.ite_none_right_eq_some.mp run
      exact absurd plain (isForm_of_braceDisplay run).not_plain
    case h_15 => cases run
    all_goals
      cases run
      cases plain

theorem group_follows (h : ∀ n < fuel, Followed R n) : Follows R 1 group fuel := by
  intro ts e rest run plain
  rw [group.eq_def] at run
  split at run
  next => cases run
  next =>
    cases run
    exact absurd plain (isForm _ _).not_plain
  next =>
    obtain ⟨⟨value, ts⟩, inside, run⟩ := Option.bind_eq_some_iff.mp run
    obtain ⟨ts, -, run⟩ := Option.bind_eq_some_iff.mp run
    cases run
    exact absurd plain (isForm_of_yielded inside).not_plain
  next notEmpty noYield =>
    obtain ⟨⟨first, after⟩, inside, run⟩ := Option.bind_eq_some_iff.mp run
    dsimp only at run
    split at run
    next =>
      obtain ⟨⟨others, ts⟩, -, run⟩ := Option.bind_eq_some_iff.mp run
      cases run
      exact absurd plain (isForm _ _).not_plain
    next noComma =>
      obtain ⟨noStar, run⟩ := Option.ite_none_left_eq_some.mp run
      obtain ⟨⟨parts, ts₁⟩, behind, run⟩ := Option.bind_eq_some_iff.mp run
      obtain ⟨ts₂, closing, run⟩ := Option.bind_eq_some_iff.mp run
      cases parts with
      | nil =>
          cases run
          obtain rfl := clauses_nil behind
          obtain rfl := expect_eq_some closing
          obtain ⟨lt, go⟩ := (h _ (Nat.lt_add_one _)).element inside plain
          rw [List.length_cons] at lt go
          refine ⟨by omega, fun ts' renamed => ?_⟩
          obtain ⟨e', after', same, last, again⟩ := go renamed
          have idle := clauses_renamed behind last
          obtain ⟨rest', rfl, tail⟩ := last.to_symbol
          refine ⟨e', rest', same, tail, fun n enough => ?_⟩
          obtain ⟨n, rfl⟩ := Nat.exists_eq_add_of_le' (show 2 ≤ n by omega)
          rw [group]
          · simp only [again (n + 1) (by omega), renamed.startsWith, noStar, idle n, bind,
              Option.bind_some]
            rfl
          · exact renamed.ne_symbol notEmpty
          · exact renamed.ne_keyword noYield
      | cons part parts =>
          cases run
          exact absurd plain (isForm _ _).not_plain

theorem element_follows (h : ∀ n < fuel, Followed R n) : Follows R 16 element fuel := by
  intro ts e rest run plain
  rw [element.eq_def] at run
  split at run
  next => cases run
  next =>
    obtain ⟨⟨e, ts⟩, -, run⟩ := Option.bind_eq_some_iff.mp run
    cases run
    exact absurd plain (isForm _ _).not_plain
  next noStar =>
    refine (h _ (Nat.lt_add_one _)).namedExpression.enter run plain ?_
    intro n ts' renamed e' rest' _ _ again
    rw [element]
    · exact again
    · exact renamed.ne_symbol noStar

theorem namedExpression_follows (h : ∀ n < fuel, Followed R n) :
    Follows R 15 namedExpression fuel := by
  intro ts e rest run plain
  rw [namedExpression.eq_def] at run
  split at run
  next => cases run
  next =>
    obtain ⟨⟨e, ts⟩, -, run⟩ := Option.bind_eq_some_iff.mp run
    cases run
    exact absurd plain (isForm _ _).not_plain
  next noName =>
    refine (h _ (Nat.lt_add_one _)).expression.enter run plain ?_
    intro n ts' renamed e' rest' _ _ again
    rw [namedExpression]
    · exact again
    · rintro id us rfl
      obtain ⟨id', vs, rfl, inner⟩ := renamed.of_name
      obtain ⟨ws, rfl, -⟩ := inner.of_symbol
      exact noName id' ws rfl

section Arguments

variable {phase : ArgumentPhase} {ts rest : Tokens} {e : Expr} {es : List Expr}

theorem behindArgument_follows (h : FollowsArguments R fuel)
    (run : behindArgument fuel e none phase ts = some ((es, []), rest))
    (plain : ∀ e ∈ es, Plain e) :
    Plain e ∧ rest.length < ts.length ∧ ∀ ⦃e' ts'⦄, e.Renamed R e' → Renamed R ts ts' →
      ∃ es' rest', List.Forall₂ (Expr.Renamed R) es es' ∧ Renamed R rest rest' ∧
        ∀ n, 16 * ts.length ≤ n + 16 * rest.length →
          behindArgument n e' none phase ts' = some ((es', []), rest') := by
  unfold behindArgument at run
  dsimp only at run
  split at run
  next =>
    obtain ⟨⟨⟨others, named⟩, ts₁⟩, behind, run⟩ := Option.bind_eq_some_iff.mp run
    dsimp only at run
    cases run
    obtain ⟨first, more⟩ := List.forall_mem_cons.mp plain
    obtain ⟨lt, go⟩ := h behind more
    refine ⟨first, Nat.lt_succ_of_lt lt, fun e' ts' here renamed => ?_⟩
    obtain ⟨us, rfl, inner⟩ := renamed.to_symbol
    obtain ⟨es', rest', same, last, again⟩ := go inner
    refine ⟨e' :: es', rest', .cons here same, last, fun n enough => ?_⟩
    rw [List.length_cons] at enough
    unfold behindArgument
    simp only [again n (by omega), bind, Option.bind_some]
  next noComma =>
    obtain ⟨ts₁, closing, run⟩ := Option.bind_eq_some_iff.mp run
    cases run
    obtain rfl := expect_eq_some closing
    refine ⟨plain e (List.mem_singleton_self e), Nat.lt_succ_self _, fun e' ts' here renamed => ?_⟩
    obtain ⟨us, rfl, inner⟩ := renamed.to_symbol
    exact ⟨[e'], us, .cons here .nil, inner, fun n _ => rfl⟩

end Arguments

theorem callArguments_follows (h : ∀ n < fuel, Followed R n) : FollowsArguments R fuel := by
  intro phase alone ts es rest run plain
  rw [callArguments.eq_def] at run
  split at run
  next => cases run
  next =>
    cases run
    refine ⟨Nat.lt_succ_self _, fun ts' renamed => ?_⟩
    obtain ⟨us, rfl, inner⟩ := renamed.to_symbol
    refine ⟨[], us, .nil, inner, fun n enough => ?_⟩
    rw [List.length_cons] at enough
    obtain ⟨n, rfl⟩ := Nat.exists_eq_add_of_le' (show 1 ≤ n by omega)
    rfl
  next notEmpty =>
    have followed := h _ (Nat.lt_add_one _)
    split at run
    next =>
      obtain ⟨-, run⟩ := Option.ite_none_left_eq_some.mp run
      obtain ⟨⟨value, ts⟩, -, run⟩ := Option.bind_eq_some_iff.mp run
      obtain ⟨form, -⟩ := behindArgument_follows followed.callArguments run plain
      exact absurd form (isForm _ _).not_plain
    next =>
      obtain ⟨⟨value, ts⟩, -, run⟩ := Option.bind_eq_some_iff.mp run
      exact absurd run (behindArgument_named none)
    next =>
      obtain ⟨⟨value, ts⟩, -, run⟩ := Option.bind_eq_some_iff.mp run
      exact absurd run (behindArgument_named _)
    next noStar noSpread noNamed =>
      obtain ⟨positional, run⟩ := Option.ite_none_left_eq_some.mp run
      obtain ⟨⟨value, ts₁⟩, first, run⟩ := Option.bind_eq_some_iff.mp run
      obtain ⟨⟨parts, after⟩, behind, run⟩ := Option.bind_eq_some_iff.mp run
      cases parts with
      | nil =>
          obtain ⟨inside, lt, go⟩ := behindArgument_follows followed.callArguments run plain
          obtain ⟨lt', start⟩ := followed.namedExpression first inside
          refine ⟨by omega, fun ts' renamed => ?_⟩
          obtain ⟨e', ts₁', same, last, again⟩ := start renamed
          obtain ⟨es', rest', all, tail, more⟩ := go same last
          refine ⟨es', rest', all, tail, fun n enough => ?_⟩
          obtain ⟨n, rfl⟩ := Nat.exists_eq_add_of_le' (show 2 ≤ n by omega)
          rw [callArguments]
          · rw [if_neg positional]
            simp only [again (n + 1) (by omega), clauses_renamed behind last n, bind,
              Option.bind_some]
            exact more (n + 1) (by omega)
          · exact renamed.ne_symbol notEmpty
          · exact renamed.ne_symbol noStar
          · exact renamed.ne_symbol noSpread
          · rintro id us rfl
            obtain ⟨id', vs, rfl, inner⟩ := renamed.of_name
            obtain ⟨ws, rfl, -⟩ := inner.of_symbol
            exact noNamed id' ws rfl
      | cons part parts =>
          obtain ⟨-, run⟩ := Option.ite_none_right_eq_some.mp run
          obtain ⟨form, -⟩ := behindArgument_follows followed.callArguments run plain
          exact absurd form (isForm _ _).not_plain

end Rules

/-- Every rule does on tokens with other names what it does on the tokens. -/
theorem followed (fuel : ℕ) : Followed R fuel := by
  induction fuel using Nat.strong_induction_on with
  | h fuel ih =>
      exact {
        expression := expression_follows ih
        disjunction := disjunction_follows ih
        conjunction := conjunction_follows ih
        negation := negation_follows ih
        operand := fun _ => operand_follows ih
        chain := fun _ => chain_follows ih
        factor := factor_follows ih
        power := power_follows ih
        awaited := awaited_follows ih
        primary := primary_follows ih
        trailers := trailers_follows ih
        atom := atom_follows ih
        group := group_follows ih
        element := element_follows ih
        namedExpression := namedExpression_follows ih
        callArguments := callArguments_follows ih }

/-! Whole texts. -/

theorem expressions_renamed {fuel : ℕ} {ts ts' : Tokens} {e : Expr}
    (run : expressions fuel ts = some ([e], false)) (plain : Plain e) (renamed : Renamed R ts ts') :
    ∃ e', e.Renamed R e' ∧
      ∀ n, 16 * ts.length ≤ n → expressions (n + 1) ts' = some ([e'], false) := by
  rw [expressions.eq_def] at run
  split at run
  next => cases run
  next =>
    obtain ⟨⟨value, rest⟩, read, run⟩ := Option.bind_eq_some_iff.mp run
    dsimp only at run
    split at run
    next =>
      cases run
      obtain ⟨-, go⟩ := (followed _).expression read plain
      obtain ⟨e', rest', same, last, again⟩ := go renamed
      cases last
      refine ⟨e', same, fun n enough => ?_⟩
      rw [expressions, again n (by simp only [List.length_nil]; omega)]
      rfl
    next => cases run
    next =>
      obtain ⟨⟨es, several⟩, -, run⟩ := Option.bind_eq_some_iff.mp run
      cases run
    next => cases run

/-- A text with other names than one of arithmetic has the same tree but for the names. -/
theorem ofText?_renamed {text text' : String} {ts ts' : Tokens} {e : Expr}
    (tree : Expr.ofText? text = some e) (plain : Plain e) (lexed : lex text.toList = some ts)
    (lexed' : lex text'.toList = some ts') (renamed : Renamed R ts ts') :
    ∃ e', Expr.ofText? text' = some e' ∧ e.Renamed R e' := by
  have few : ts.length ≤ text'.length + 1 := by
    rw [renamed.length_eq, ← String.length_toList]
    exact length_of_lex lexed'
  unfold Expr.ofText? at tree
  rw [lexed] at tree
  obtain ⟨_, ⟨⟩, tree⟩ := Option.bind_eq_some_iff.mp tree
  obtain ⟨⟨es, several⟩, run, tree⟩ := Option.bind_eq_some_iff.mp tree
  dsimp only at tree
  split at tree
  next =>
    cases tree
    obtain ⟨e', same, again⟩ := expressions_renamed run plain renamed
    obtain ⟨n, fuel⟩ : ∃ n, rulesPerToken * (text'.length + 2) = n + 1 :=
      ⟨rulesPerToken * (text'.length + 2) - 1, by unfold rulesPerToken; omega⟩
    have enough : 16 * ts.length ≤ n := by
      unfold rulesPerToken at fuel
      omega
    refine ⟨e', ?_, same⟩
    unfold Expr.ofText?
    rw [lexed', fuel]
    simp only [again n enough, bind, Option.bind_some]
  next =>
    cases tree
    exact absurd plain (isForm _ _).not_plain

end Expression

end Astrolabe
