import Astrolabe.Proofs.Expression.Lexed

/-!
The parser on written expressions. At each level it reads what is written for the level up to a mark
that is bound weaker; sums and products take their operands from the left, powers from the right. So
the text of a tree has that tree, and the value of the tree.
-/

namespace Astrolabe.Expression

/-! Where an expression ends. -/

/-- The level at which a mark continues an expression, if it does at any. -/
def Mark.level? : Mark → Option ℕ
  | plus | minus => some 3
  | times | slash => some 4
  | caret => some 6
  | opening => some 7
  | closing | comma => none

/-- Tokens that do not continue an expression of a level. -/
inductive Stops (level : ℕ) : Tokens → Prop
  | nil : Stops level []
  | mark {m : Mark} {rest : Tokens} (weaker : ∀ k ∈ m.level?, k < level) :
      Stops level (.symbol m.symbol :: rest)

theorem Stops.mono {k level : ℕ} {rest : Tokens} (h : Stops k rest) (le : k ≤ level) :
    Stops level rest := by
  cases h with
  | nil => exact .nil
  | mark weaker => exact .mark fun j mem => Nat.lt_of_lt_of_le (weaker j mem) le

/-- No mark has the level of signs. -/
theorem Stops.of_power {rest : Tokens} (h : Stops 6 rest) : Stops 5 rest := by
  cases h with
  | nil => exact .nil
  | @mark m more weaker =>
      refine .mark fun k mem => ?_
      have below := weaker k mem
      have other : k ≠ 5 := by
        rintro rfl
        cases m <;> cases mem
      omega

theorem stops_closing (rest : Tokens) : Stops 0 (.symbol ")" :: rest) :=
  .mark (m := .closing) nofun

theorem stops_comma (rest : Tokens) : Stops 0 (.symbol "," :: rest) :=
  .mark (m := .comma) nofun

theorem trailers_stop {rest : Tokens} (h : Stops 7 rest) (fuel : ℕ) (e : Expr) :
    trailers (fuel + 1) e rest = some (e, rest) := by
  cases h with
  | nil => rw [trailers] <;> simp
  | @mark m more weaker =>
      cases m with
      | opening => exact absurd (weaker 7 rfl) (by decide)
      | _ => simp [trailers, Mark.symbol]

theorem operatorAt?_eq_none {m : Mark} {level : ℕ} (weaker : ∀ k ∈ m.level?, k < level)
    (le : level ≤ 4) : operatorAt? level m.symbol = none := by
  interval_cases level <;> cases m <;> simp [Mark.level?] at weaker <;> rfl

theorem chain_stop {rest : Tokens} {level : ℕ} (h : Stops level rest) (le : level ≤ 4) (fuel : ℕ)
    (e : Expr) : chain (fuel + 1) level e rest = some (e, rest) := by
  cases h with
  | nil => simp [chain]
  | mark weaker => rw [chain, operatorAt?_eq_none weaker le]

theorem Stops.ends {rest : Tokens} (h : Stops 0 rest) : Ends rest := by
  cases h with
  | nil => exact .nil
  | @mark m more _ => exact .symbol (by cases m <;> decide)

theorem clauses_stop {level : ℕ} {rest : Tokens} (h : Stops level rest) (fuel : ℕ) :
    clauses (fuel + 1) rest = some ([], rest) := by
  cases h <;> simp [clauses]

/-! How an expression begins. -/

def tokens (ls : List Lexeme) : Tokens :=
  ls.map Lexeme.token

@[simp]
theorem tokens_cons (l : Lexeme) (ls : List Lexeme) : tokens (l :: ls) = l.token :: tokens ls := rfl

@[simp]
theorem tokens_append (ls rs : List Lexeme) : tokens (ls ++ rs) = tokens ls ++ tokens rs :=
  List.map_append

theorem token_eq_symbol {l : Lexeme} {s : String} (h : l.token = .symbol s) :
    ∃ m : Mark, l = .mark m ∧ m.symbol = s := by
  cases l with
  | numeral n =>
      rw [Lexeme.token, Numeral.token] at h
      split at h <;> cases h
  | word w => cases h
  | mark m => exact ⟨m, rfl, Token.symbol.inj h⟩

theorem token_ne_keyword (l : Lexeme) (w : String) : l.token ≠ .keyword w := by
  cases l with
  | numeral n =>
      rw [Lexeme.token, Numeral.token]
      split <;> simp
  | word w => simp [Lexeme.token]
  | mark m => simp [Lexeme.token]

/-- Tokens that begin as arithmetic does: with no reserved word, no symbol but a sign or an opening
parenthesis, and with no symbol behind a name but one of arithmetic. -/
structure Ordinary (ts : Tokens) : Prop where
  keyword : ∀ w rest, ts ≠ .keyword w :: rest
  first : ∀ s rest, ts = .symbol s :: rest → s ∈ ["+", "-", "("]
  second : ∀ id s rest, ts = .name id :: .symbol s :: rest → ∃ m : Mark, m.symbol = s

theorem Ordinary.ne_symbol {ts : Tokens} (h : Ordinary ts) {s : String}
    (other : s ∉ ["+", "-", "("]) (rest : Tokens) : ts ≠ .symbol s :: rest :=
  fun same => other (h.first s rest same)

theorem Ordinary.ne_named {ts : Tokens} (h : Ordinary ts) {s : String}
    (other : ∀ m : Mark, m.symbol ≠ s) (id : String) (rest : Tokens) :
    ts ≠ .name id :: .symbol s :: rest := by
  intro same
  obtain ⟨m, symbol⟩ := h.second id s rest same
  exact other m symbol

theorem Ordinary.startsWith_star {ts : Tokens} (h : Ordinary ts) : startsWith "*" ts = false := by
  unfold startsWith
  split
  next s rest =>
    refine beq_false_of_ne ?_
    rintro rfl
    exact h.ne_symbol (by decide) rest rfl
  next => rfl

theorem Formed.ordinary {k level : ℕ} {ls : List Lexeme} {rest : Tokens} (h : Formed level ls)
    (stops : Stops k rest) : Ordinary (tokens ls ++ rest) := by
  obtain ⟨l, more, rfl, begins⟩ := h.first
  refine ⟨fun w after same => ?_, fun s after same => ?_, fun id s after same => ?_⟩
  · exact token_ne_keyword l w (List.cons.inj same).1
  · obtain ⟨m, rfl, rfl⟩ := token_eq_symbol (List.cons.inj same).1
    cases m <;> first | decide | cases begins
  · have behind := (List.cons.inj same).2
    cases more with
    | nil =>
        cases stops with
        | nil => cases behind
        | @mark m _ _ => exact ⟨m, Token.symbol.inj (List.cons.inj behind).1⟩
    | cons b others =>
        obtain ⟨m, -, symbol⟩ := token_eq_symbol (List.cons.inj behind).1
        exact ⟨m, symbol⟩

/-! Reading at a level. -/

/-- The rule of the parser that reads expressions of a level. -/
def reader : ℕ → ℕ → Tokens → Option (Expr × Tokens)
  | 7, fuel, ts => primary fuel ts
  | 6, fuel, ts => power fuel ts
  | 5, fuel, ts => factor fuel ts
  | level, fuel, ts => operand fuel level ts

/-- Lexemes that the rule of a level reads as an expression, up to where such an expression ends. A
lexeme needs at most 16 rules for itself, and 2 are enough to come from one level to the next. -/
def Reads (level : ℕ) (ls : List Lexeme) (e : Expr) : Prop :=
  ∀ fuel rest, Stops level rest → 16 * ls.length + 20 ≤ fuel + 2 * level →
    reader level fuel (tokens ls ++ rest) = some (e, rest)

theorem reader_eq_operand {level : ℕ} (le : level ≤ 4) (fuel : ℕ) (ts : Tokens) :
    reader level fuel ts = operand fuel level ts := by
  interval_cases level <;> rfl

/-- Lexemes that are the left operands of a level: an operator of the level may follow. -/
def Extends (level : ℕ) (ls : List Lexeme) (e : Expr) : Prop :=
  ∀ fuel rest, Stops (level + 1) rest → 16 * ls.length + 20 ≤ fuel + 2 * level →
    ∃ fuel', fuel ≤ fuel' + ls.length ∧
      operand fuel level (tokens ls ++ rest) = chain fuel' level e rest

section Operators

variable {level : ℕ} {ls rs : List Lexeme} {e l r : Expr} {rest : Tokens} {fuel : ℕ}

theorem Reads.operand (h : Reads level ls e) (le : level ≤ 5) (stops : Stops level rest)
    (enough : 16 * ls.length + 21 ≤ fuel + 2 * level) :
    operand fuel level (tokens ls ++ rest) = some (e, rest) := by
  obtain below | rfl := Nat.lt_or_eq_of_le le
  · rw [← reader_eq_operand (by omega)]
    exact h fuel rest stops (by omega)
  · obtain ⟨n, rfl⟩ := Nat.exists_eq_add_of_le' (show 1 ≤ fuel by omega)
    rw [Expression.operand, if_pos (by decide)]
    exact h n rest stops (by omega)

theorem Reads.extends (h : Reads (level + 1) ls e) (nonempty : ls ≠ []) (le : level ≤ 4) :
    Extends level ls e := by
  intro fuel rest stops enough
  have positive := List.length_pos_iff.mpr nonempty
  obtain ⟨n, rfl⟩ := Nat.exists_eq_add_of_le' (show 1 ≤ fuel by omega)
  refine ⟨n, by omega, ?_⟩
  rw [Expression.operand, if_neg (by unfold operatorLevels; omega),
    h.operand (by omega) stops (by omega)]
  rfl

theorem Extends.reads (h : Extends level ls e) (le : level ≤ 4) : Reads level ls e := by
  intro fuel rest stops enough
  obtain ⟨fuel', used, run⟩ := h fuel rest (stops.mono (Nat.le_succ level)) enough
  obtain ⟨n, rfl⟩ := Nat.exists_eq_add_of_le' (show 1 ≤ fuel' by omega)
  rw [reader_eq_operand le, run, chain_stop stops le]

/-- An operator and a right operand make a left operand again. -/
theorem Extends.binary {op : Operation} (left : Extends op.level ls l)
    (right : Reads (op.level + 1) rs r) :
    Extends op.level (ls ++ .mark op.mark :: rs) (.binary op.op l r) := by
  intro fuel rest stops enough
  rw [List.length_append, List.length_cons] at enough ⊢
  have le := op.level_le
  have begun : Stops (op.level + 1) (.symbol op.mark.symbol :: (tokens rs ++ rest)) :=
    .mark (by cases op <;> rintro k ⟨⟩ <;> decide)
  have named : operatorAt? op.level op.mark.symbol = some op.op := by cases op <;> rfl
  obtain ⟨fuel', used, run⟩ := left fuel _ begun (by omega)
  obtain ⟨n, rfl⟩ := Nat.exists_eq_add_of_le' (show 1 ≤ fuel' by omega)
  have enough' : 16 * rs.length + 21 ≤ n + 2 * (op.level + 1) := by omega
  refine ⟨n, by omega, ?_⟩
  rw [tokens_append, tokens_cons, List.append_assoc, List.cons_append]
  refine run.trans ?_
  rw [chain, named]
  simp only [right.operand (by omega) stops enough', bind, Option.bind_some]

theorem awaited_of_ordinary {ts : Tokens} (h : Ordinary ts) (fuel : ℕ) :
    awaited (fuel + 1) ts = primary fuel ts := by
  rw [awaited]
  exact fun rest same => h.keyword _ _ same

theorem Reads.power_of_primary (h : Reads 7 ls e) (formed : Formed 7 ls) : Reads 6 ls e := by
  intro fuel rest stops enough
  have stops' : Stops 7 rest := stops.mono (by decide)
  obtain ⟨n, rfl⟩ := Nat.exists_eq_add_of_le' (show 2 ≤ fuel by omega)
  have base := h n rest stops' (by omega)
  change power (n + 2) _ = _
  rw [power, awaited_of_ordinary (formed.ordinary stops')]
  change (primary n _).bind _ = _
  change primary n _ = _ at base
  rw [base, Option.bind_some]
  cases stops with
  | nil => rfl
  | @mark m more weaker =>
      cases m with
      | caret => exact absurd (weaker 6 rfl) (by decide)
      | _ => rfl

theorem factor_eq_power {l : Lexeme} (begins : l.begins 6 = true) (fuel : ℕ) (ts : Tokens) :
    factor (fuel + 1) (l.token :: ts) = power fuel (l.token :: ts) := by
  cases l with
  | numeral n =>
      rw [Lexeme.token, Numeral.token]
      split <;> simp [factor]
  | word w => simp [factor, Lexeme.token]
  | mark m =>
      cases m with
      | opening => rfl
      | _ => cases begins

theorem Reads.factor_of_power (h : Reads 6 ls e) (formed : Formed 6 ls) : Reads 5 ls e := by
  intro fuel rest stops enough
  obtain ⟨n, rfl⟩ := Nat.exists_eq_add_of_le' (show 1 ≤ fuel by omega)
  rw [← h n rest (stops.mono (by decide)) (by omega)]
  obtain ⟨l, more, rfl, begins⟩ := formed.first
  exact factor_eq_power begins n _

/-- What is read at a level is read at the weaker ones. -/
theorem Reads.lower (h : Reads (level + 1) ls e) (formed : Formed (level + 1) ls) (le : level ≤ 6) :
    Reads level ls e := by
  obtain rfl | rfl | below : level = 6 ∨ level = 5 ∨ level ≤ 4 := by omega
  · exact h.power_of_primary formed
  · exact h.factor_of_power formed
  · exact (h.extends formed.ne_nil below).reads below

theorem Reads.down {top : ℕ} (h : Reads top ls e) (formed : Formed top ls) (bound : top ≤ 7)
    (le : level ≤ top) : Reads level ls e := by
  induction le using Nat.decreasingInduction with
  | self => exact h
  | of_succ k below ih => exact ih.lower (formed.mono below) (by omega)

theorem Reads.power (base : Reads 7 ls l) (formed : Formed 7 ls) (exponent : Reads 5 rs r) :
    Reads 6 (ls ++ .mark .caret :: rs) (.binary .pow l r) := by
  intro fuel rest stops enough
  rw [List.length_append, List.length_cons] at enough
  have behind : Stops 7 (.symbol "**" :: (tokens rs ++ rest)) :=
    .mark (m := .caret) (by rintro k ⟨⟩; decide)
  obtain ⟨n, rfl⟩ := Nat.exists_eq_add_of_le' (show 2 ≤ fuel by omega)
  have first : primary n _ = _ := base n _ behind (by omega)
  have second : factor (n + 1) _ = _ := exponent (n + 1) rest stops.of_power (by omega)
  change Expression.power (n + 2) _ = _
  rw [tokens_append, tokens_cons, List.append_assoc]
  change Expression.power (n + 2) (tokens ls ++ .symbol "**" :: (tokens rs ++ rest)) = _
  rw [Expression.power, awaited_of_ordinary (formed.ordinary behind), first]
  change (factor (n + 1) _).bind _ = _
  rw [second]
  rfl

theorem Reads.sign (h : Reads 5 ls e) (s : Sign) :
    Reads 5 (.mark s.mark :: ls) (.unary s.op e) := by
  intro fuel rest stops enough
  rw [List.length_cons] at enough
  obtain ⟨n, rfl⟩ := Nat.exists_eq_add_of_le' (show 1 ≤ fuel by omega)
  have operand : factor n _ = _ := h n rest stops (by omega)
  have named : sign? s.mark.symbol = some s.op := by cases s <;> rfl
  exact factor_signed named operand

theorem reads_leaf {a : Lexeme} (leaf : a.token.leaf? = some e) : Reads 7 [a] e := by
  intro fuel rest stops enough
  obtain ⟨n, rfl⟩ := Nat.exists_eq_add_of_le' (show 2 ≤ fuel by omega)
  change primary (n + 2) (a.token :: rest) = _
  rw [primary, atom_leaf leaf]
  exact trailers_stop stops n e

/-! Brackets. -/

/-- A whole expression, up to a comma or a closing parenthesis. -/
theorem Reads.expression (h : Reads 0 ls e) (formed : Formed 0 ls) (stops : Stops 0 rest)
    (enough : 16 * ls.length + 25 ≤ fuel) :
    expression fuel (tokens ls ++ rest) = some (e, rest) := by
  obtain ⟨n, rfl⟩ := Nat.exists_eq_add_of_le' (show 5 ≤ fuel by omega)
  have operand : Expression.operand (n + 1) 0 (tokens ls ++ rest) = some (e, rest) :=
    h.operand (by decide) stops (by omega)
  exact expression_of_operand operand (formed.ordinary stops).keyword stops.ends

theorem Reads.named (h : Reads 0 ls e) (formed : Formed 0 ls) (stops : Stops 0 rest)
    (enough : 16 * ls.length + 26 ≤ fuel) :
    namedExpression fuel (tokens ls ++ rest) = some (e, rest) := by
  obtain ⟨n, rfl⟩ := Nat.exists_eq_add_of_le' (show 1 ≤ fuel by omega)
  rw [namedExpression]
  · exact h.expression formed stops (by omega)
  · exact (formed.ordinary stops).ne_named (by rintro ⟨⟩ <;> decide)

/-- An atom may stand before anything. -/
theorem Reads.atom_enclosed (h : Reads 0 ls e) (formed : Formed 0 ls)
    (enough : 16 * ls.length + 29 ≤ fuel) :
    atom fuel (.symbol "(" :: (tokens ls ++ .symbol ")" :: rest)) = some (e, rest) := by
  have closes := stops_closing rest
  have ordinary := formed.ordinary closes
  obtain ⟨n, rfl⟩ := Nat.exists_eq_add_of_le' (show 4 ≤ fuel by omega)
  have single :
      element (n + 2) (tokens ls ++ .symbol ")" :: rest) = some (e, .symbol ")" :: rest) := by
    rw [element]
    · exact h.named formed closes (by omega)
    · exact ordinary.ne_symbol (by decide)
  have inside : group (n + 3) (tokens ls ++ .symbol ")" :: rest) = some (e, rest) := by
    rw [group]
    · simp only [single, clauses_stop closes, ordinary.startsWith_star, bind, Option.bind_some]
      rfl
    · exact ordinary.ne_symbol (by decide)
    · exact fun after same => ordinary.keyword _ _ same
  rw [atom]
  exact inside

theorem Reads.enclosed (h : Reads 0 ls e) (formed : Formed 0 ls) :
    Reads 7 (.mark .opening :: (ls ++ [.mark .closing])) e := by
  intro fuel rest stops enough
  rw [List.length_cons, List.length_append, List.length_singleton] at enough
  obtain ⟨n, rfl⟩ := Nat.exists_eq_add_of_le' (show 2 ≤ fuel by omega)
  change primary (n + 2) (.symbol "(" :: (tokens (ls ++ [.mark .closing]) ++ rest)) = _
  rw [tokens_append, List.append_assoc, primary]
  change (atom (n + 1) (.symbol "(" :: (tokens ls ++ .symbol ")" :: rest))).bind _ = _
  rw [h.atom_enclosed formed (by omega)]
  exact trailers_stop stops _ e

theorem callArguments_last (h : Reads 0 ls e) (formed : Formed 0 ls) (alone : Bool)
    (enough : 16 * ls.length + 26 ≤ fuel) :
    callArguments (fuel + 1) .positional alone (tokens ls ++ .symbol ")" :: rest) =
      some (([e], []), rest) := by
  have closes := stops_closing rest
  have ordinary := formed.ordinary closes
  have read := h.named formed closes enough
  obtain ⟨n, rfl⟩ := Nat.exists_eq_add_of_le' (show 1 ≤ fuel by omega)
  rw [callArguments]
  · simp only [read, clauses_stop closes, bind, Option.bind_some]
    rfl
  · exact ordinary.ne_symbol (by decide)
  · exact ordinary.ne_symbol (by decide)
  · exact ordinary.ne_symbol (by decide)
  · exact ordinary.ne_named (by rintro ⟨⟩ <;> decide)

theorem callArguments_comma (h : Reads 0 ls e) (formed : Formed 0 ls) (alone : Bool)
    (enough : 16 * ls.length + 26 ≤ fuel) {ts : Tokens} {es : List Expr}
    (others : callArguments fuel .positional false ts = some ((es, []), rest)) :
    callArguments (fuel + 1) .positional alone (tokens ls ++ .symbol "," :: ts) =
      some ((e :: es, []), rest) := by
  have stops := stops_comma ts
  have ordinary := formed.ordinary stops
  have read := h.named formed stops enough
  obtain ⟨n, rfl⟩ := Nat.exists_eq_add_of_le' (show 1 ≤ fuel by omega)
  rw [callArguments]
  · simp only [read, clauses_stop stops, bind, Option.bind_some]
    change (callArguments (n + 1) .positional false ts).bind _ = _
    rw [others]
    rfl
  · exact ordinary.ne_symbol (by decide)
  · exact ordinary.ne_symbol (by decide)
  · exact ordinary.ne_symbol (by decide)
  · exact ordinary.ne_named (by rintro ⟨⟩ <;> decide)

/-- The arguments of a call, up to the closing parenthesis. -/
theorem callArguments_listing {ts : List Tree} (h : ∀ t ∈ ts, Reads 0 t.body t.expr)
    (alone : Bool) (enough : 16 * (Tree.listing ts).length + 27 ≤ fuel) :
    callArguments fuel .positional alone (tokens (Tree.listing ts) ++ .symbol ")" :: rest) =
      some ((Tree.exprs ts, []), rest) := by
  induction ts generalizing fuel alone with
  | nil =>
      obtain ⟨n, rfl⟩ := Nat.exists_eq_add_of_le' (show 1 ≤ fuel by omega)
      rfl
  | cons t more ih =>
      obtain ⟨first, others⟩ := List.forall_mem_cons.mp h
      have formed := t.body_formed.mono (Nat.zero_le _)
      obtain ⟨n, rfl⟩ := Nat.exists_eq_add_of_le' (show 1 ≤ fuel by omega)
      cases more with
      | nil => exact callArguments_last first formed alone (by simpa [Tree.listing] using enough)
      | cons u rest' =>
          rw [Tree.listing, List.length_append, List.length_cons] at enough
          rw [Tree.listing, tokens_append, List.append_assoc]
          · exact callArguments_comma first formed alone (by omega) (ih others false (by omega))
          · exact nofun
          · exact nofun

theorem trailers_call {es : List Expr} (f : Expr) (stops : Stops 7 rest)
    (read : callArguments (fuel + 1) .positional true (tokens ls ++ .symbol ")" :: rest) =
      some ((es, []), rest)) :
    trailers (fuel + 2) f (.symbol "(" :: (tokens ls ++ .symbol ")" :: rest)) =
      some (.call f es [], rest) := by
  rw [trailers]
  simp only [read, bind, Option.bind_some]
  exact trailers_stop stops fuel _

theorem reads_call {ts : List Tree} (h : ∀ t ∈ ts, Reads 0 t.body t.expr) (w : Word) :
    Reads 7 (.word w :: .mark .opening :: (Tree.listing ts ++ [.mark .closing]))
      (.call (.name w.text) (Tree.exprs ts) []) := by
  intro fuel rest stops enough
  rw [List.length_cons, List.length_cons, List.length_append, List.length_singleton] at enough
  obtain ⟨n, rfl⟩ := Nat.exists_eq_add_of_le' (show 3 ≤ fuel by omega)
  change primary (n + 3) (.name w.text :: .symbol "(" ::
    (tokens (Tree.listing ts ++ [.mark .closing]) ++ rest)) = _
  rw [tokens_append, List.append_assoc, primary, atom]
  exact trailers_call _ stops (callArguments_listing h true (by omega))

end Operators

/-! Trees. -/

/-- A tree is read wherever it is written, and as a left operand of sums and products. -/
def Tree.Parses (t : Tree) : Prop :=
  ∀ level ≤ 7, Reads level (t.written level) t.expr ∧
    (level ≤ 4 → Extends level (t.written level) t.expr)

theorem Tree.level_le (t : Tree) : t.level ≤ 7 := by
  cases t with
  | binary op left right => exact Nat.le_trans op.level_le (by decide)
  | sign s operand => exact show 5 ≤ 7 by decide
  | power base exponent => exact show 6 ≤ 7 by decide
  | _ => exact Nat.le_refl 7

theorem Tree.parses_of_body {t : Tree} (h : Reads t.level t.body t.expr)
    (first : t.level ≤ 4 → Extends t.level t.body t.expr) : t.Parses := by
  intro level le
  have bound := t.level_le
  have formed := t.body_formed
  obtain lt | weak := Nat.lt_or_ge t.level level
  · have closed := (h.down formed bound (Nat.zero_le _)).enclosed (formed.mono (Nat.zero_le _))
    have around := formed.toClosed.formed_enclosed 7
    rw [written_of_lt lt]
    refine ⟨closed.down around (by decide) le, fun below => ?_⟩
    exact (closed.down around (by decide) (by omega)).extends around.ne_nil below
  · rw [written_of_le weak]
    refine ⟨h.down formed bound weak, fun below => ?_⟩
    obtain lt | rfl := Nat.lt_or_eq_of_le weak
    · exact (h.down formed bound lt).extends formed.ne_nil below
    · exact first below

theorem Tree.parses_of_high {t : Tree} (high : 5 ≤ t.level) (h : Reads t.level t.body t.expr) :
    t.Parses :=
  parses_of_body h fun below => by omega

theorem Tree.parses (t : Tree) : t.Parses := by
  induction t using parts_induction with
  | number n =>
      refine parses_of_high (show 5 ≤ 7 by decide) (reads_leaf ?_)
      rw [Lexeme.token, Numeral.token, expr, Numeral.expr]
      split <;> rfl
  | constant id known =>
      exact parses_of_high (show 5 ≤ 7 by decide) (reads_leaf rfl)
  | sign s operand ih =>
      refine parses_of_high (Nat.le_refl 5) ?_
      rw [body_sign]
      exact (ih 5 (by decide)).1.sign s
  | binary op left right hl hr =>
      have le := op.level_le
      have whole := ((hl op.level (by omega)).2 le).binary (hr (op.level + 1) (by omega)).1
      rw [← body_binary] at whole
      exact parses_of_body (whole.reads le) fun _ => whole
  | power base exponent hb he =>
      refine parses_of_high (show 5 ≤ 6 by decide) ?_
      rw [body_power]
      exact (hb 7 (by decide)).1.power (base.formed 7) (he 5 (by decide)).1
  | call id known arguments ih =>
      refine parses_of_high (show 5 ≤ 7 by decide) ?_
      rw [body]
      refine reads_call (fun t mem => ?_) _
      have argument := (ih t mem 0 (by decide)).1
      rwa [written_zero] at argument

/-! Texts. -/

theorem ofText?_of_reads {text : String} {ls : List Lexeme} {e : Expr} (h : Reads 0 ls e)
    (formed : Formed 0 ls) (lexed : lex text.toList = some (tokens ls))
    (long : ls.length ≤ text.length + 1) : Expr.ofText? text = some e := by
  obtain ⟨n, fuel⟩ : ∃ n, rulesPerToken * (text.length + 2) = n + 1 :=
    ⟨rulesPerToken * (text.length + 2) - 1, by unfold rulesPerToken; omega⟩
  have enough : 16 * ls.length + 25 ≤ n := by
    unfold rulesPerToken at fuel
    omega
  have whole := h.expression formed .nil enough
  rw [List.append_nil] at whole
  rw [Expr.ofText?, lexed, fuel]
  change (expressions (n + 1) (tokens ls)).bind _ = _
  simp only [expressions, whole, bind, Option.bind_some]

/-- The text of a tree has that tree, whatever the spaces in it. -/
theorem tree?_layout (t : Tree) (gap : ℕ → ℕ) :
    tree? (layout gap (t.written 0)) = some t.expr := by
  have formed := t.formed 0
  obtain ⟨lexed, long⟩ := lex_layout formed.ne_nil formed.chain gap
  refine ofText?_of_reads (t.parses 0 (by decide)).1 formed ?_ ?_
  · rw [String.toList_ofList, lexed]
    rfl
  · rw [String.length_ofList]
    exact Nat.le_succ_of_le long

example : tree? "-e ^ pi" = some (.unary .minus (.binary .pow (.name "e") (.name "pi"))) := by cbv

/-- Reading undoes writing. A text that is written for a tree, with the parentheses that the order
of the operators demands and any spaces, has that tree, and so the value of the tree or its error. A
sign before a power is the sign of the power, powers group to the right, and an exponent may have a
sign. -/
theorem evaluate_written :
    (∀ (t : Tree) (gap : ℕ → ℕ), tree? (layout gap (t.written 0)) = some t.expr ∧
      evaluate (layout gap (t.written 0)) = t.expr.value) ∧
    (∀ (a b : Tree) (gap : ℕ → ℕ),
      evaluate (layout gap (.mark .minus :: (a.written 7 ++ .mark .caret :: b.written 5))) =
        (Expr.unary .minus (.binary .pow a.expr b.expr)).value) ∧
    (∀ (a b c : Tree) (gap : ℕ → ℕ),
      evaluate (layout gap
        (a.written 7 ++ .mark .caret :: (b.written 7 ++ .mark .caret :: c.written 5))) =
        (Expr.binary .pow a.expr (.binary .pow b.expr c.expr)).value) ∧
    ∀ (a b : Tree) (gap : ℕ → ℕ),
      evaluate (layout gap (a.written 7 ++ .mark .caret :: .mark .minus :: b.written 5)) =
        (Expr.binary .pow a.expr (.unary .minus b.expr)).value := by
  have whole (t : Tree) (gap : ℕ → ℕ) : evaluate (layout gap t.body) = t.expr.value := by
    rw [evaluate, ← Tree.written_zero, tree?_layout]
  refine ⟨fun t gap => ⟨tree?_layout t gap, ?_⟩, fun a b gap => ?_, fun a b c gap => ?_,
    fun a b gap => ?_⟩
  · rw [Tree.written_zero, whole]
  · have text := whole (.sign .minus (.power a b)) gap
    rwa [Tree.body_sign, Tree.written_of_le (show 5 ≤ 6 by decide), Tree.body_power] at text
  · have text := whole (.power a (.power b c)) gap
    rwa [Tree.body_power, Tree.written_of_le (t := .power b c) (show 5 ≤ 6 by decide),
      Tree.body_power] at text
  · have text := whole (.power a (.sign .minus b)) gap
    rwa [Tree.body_power, Tree.written_of_le (t := .sign .minus b) (Nat.le_refl 5),
      Tree.body_sign] at text

end Astrolabe.Expression
