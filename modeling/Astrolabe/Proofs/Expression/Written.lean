import Mathlib
import Astrolabe.Expression.Lexer
import Astrolabe.Proofs.Expression.Evaluation

/-!
Arithmetic expressions as they are written. A tree of numerals, constants, signs, operators, powers
and calls of known functions is written with the parentheses that the levels of its parts demand and
with no others, and with any number of spaces between the lexemes.
-/

namespace Astrolabe.Expression

open Number

/-! Lexemes. -/

/-- Digits in a row. Before each of them but the first one an underscore may stand. -/
structure DigitRow where
  first : Char
  others : List (Bool × Char)
  first_digit : first.isDigit = true
  others_digit : ∀ d ∈ others, d.2.isDigit = true

namespace DigitRow

def digits (r : DigitRow) : List Char :=
  r.first :: r.others.map Prod.snd

def chars (r : DigitRow) : List Char :=
  r.first :: r.others.flatMap fun d => if d.1 then ['_', d.2] else [d.2]

end DigitRow

/-- The exponent of a numeral. -/
structure Exponent where
  mark : Char
  sign : Option Char
  row : DigitRow
  mark_eq : mark = 'e' ∨ mark = 'E'
  sign_eq : sign = none ∨ sign = some '+' ∨ sign = some '-'

def Exponent.chars (x : Exponent) : List Char :=
  x.mark :: (x.sign.toList ++ x.row.chars)

def Exponent.value (x : Exponent) : ℤ :=
  if x.sign = some '-' then -(digitsValue x.row.digits : ℤ) else digitsValue x.row.digits

/-- An unsigned decimal numeral: digits with a point before, among or behind them or without one,
and with an exponent or without. Without both it is a whole number, which has no zero in front and
not too many digits. -/
structure Numeral where
  whole : Option DigitRow
  fraction : Option (Option DigitRow)
  exponent : Option Exponent
  some_digits : whole ≠ none ∨ ∃ r, fraction = some (some r)
  plain : fraction = none → exponent = none → ∀ r ∈ whole,
    (r.first = '0' → r.others = []) ∧ r.digits.length ≤ maxWholeDigits

namespace Numeral

def wholeDigits (n : Numeral) : List Char :=
  n.whole.elim [] DigitRow.digits

def fractionDigits (n : Numeral) : List Char :=
  n.fraction.join.elim [] DigitRow.digits

def exponentChars (n : Numeral) : List Char :=
  n.exponent.elim [] Exponent.chars

def chars (n : Numeral) : List Char :=
  n.whole.elim [] DigitRow.chars ++
    (n.fraction.elim [] (fun r => '.' :: r.elim [] DigitRow.chars) ++ n.exponentChars)

def decimal (n : Numeral) : Decimal :=
  ⟨digitsValue (n.wholeDigits ++ n.fractionDigits),
    n.exponent.elim 0 Exponent.value - n.fractionDigits.length⟩

def isWhole (n : Numeral) : Bool :=
  n.fraction.isNone && n.exponent.isNone

def token (n : Numeral) : Token :=
  if n.isWhole then .whole (digitsValue n.wholeDigits) else .decimal n.decimal

def expr (n : Numeral) : Expr :=
  if n.isWhole then .whole (digitsValue n.wholeDigits) else .decimal n.decimal

end Numeral

/-- The name of a constant or of a function, in letters of either case. -/
structure Word where
  text : String
  known : Text.lower text ∈ constantNames ++ functionNames

/-- The marks of arithmetic. -/
inductive Mark where
  | plus | minus | times | slash | caret | opening | closing | comma
deriving DecidableEq

/-- A mark as it is written. -/
def Mark.char : Mark → Char
  | plus => '+'
  | minus => '-'
  | times => '*'
  | slash => '/'
  | caret => '^'
  | opening => '('
  | closing => ')'
  | comma => ','

/-- A mark with the power operator for a caret. -/
def Mark.expanded : Mark → List Char
  | caret => ['*', '*']
  | m => [m.char]

/-- The symbol that a mark stands for. -/
def Mark.symbol : Mark → String
  | plus => "+"
  | minus => "-"
  | times => "*"
  | slash => "/"
  | caret => "**"
  | opening => "("
  | closing => ")"
  | comma => ","

inductive Lexeme where
  | numeral (n : Numeral)
  | word (w : Word)
  | mark (m : Mark)

namespace Lexeme

def chars : Lexeme → List Char
  | numeral n => n.chars
  | word w => w.text.toList
  | mark m => [m.char]

/-- A lexeme with the power operator for a caret. -/
def expanded : Lexeme → List Char
  | numeral n => n.chars
  | word w => w.text.toList
  | mark m => m.expanded

def token : Lexeme → Token
  | numeral n => n.token
  | word w => .name w.text
  | mark m => .symbol m.symbol

/-- Whether an expression of a level can begin with a lexeme: a sign begins none above level 5. -/
def begins (level : ℕ) : Lexeme → Bool
  | numeral _ | word _ | mark .opening => true
  | mark .plus | mark .minus => level ≤ 5
  | mark _ => false

/-- Whether an expression can end with a lexeme. -/
def ends : Lexeme → Bool
  | numeral _ | word _ | mark .closing => true
  | mark _ => false

def isMark : Lexeme → Bool
  | mark _ => true
  | _ => false

/-- Two lexemes that are told apart without a space between them. -/
def Joins (a b : Lexeme) : Prop :=
  (a.isMark = false → b.isMark = true) ∧
    (a = .mark .times ∨ a = .mark .slash → b.begins 0 = true)

theorem begins_mono {l : Lexeme} {k level : ℕ} (le : k ≤ level) (h : l.begins level = true) :
    l.begins k = true := by
  unfold begins at h ⊢
  split at h
  all_goals first | rfl | cases h | skip
  all_goals
    have below := of_decide_eq_true h
    exact decide_eq_true (by omega)

theorem joins_mark {l : Lexeme} (h : l.ends = true) (m : Mark) : l.Joins (.mark m) := by
  refine ⟨fun _ => rfl, ?_⟩
  rintro (rfl | rfl) <;> cases h

theorem mark_joins {l : Lexeme} {level : ℕ} (m : Mark) (h : l.begins level = true) :
    (Lexeme.mark m).Joins l :=
  ⟨nofun, fun _ => begins_mono (Nat.zero_le level) h⟩

theorem bracket_joins {m : Mark} (h : m ≠ .times ∧ m ≠ .slash) (l : Lexeme) :
    (Lexeme.mark m).Joins l := by
  refine ⟨nofun, ?_⟩
  rintro (⟨⟨⟩⟩ | ⟨⟨⟩⟩)
  · exact absurd rfl h.1
  · exact absurd rfl h.2

end Lexeme

/-! Trees. -/

/-- The operators that group to the left. -/
inductive Operation where
  | add | sub | mul | div

namespace Operation

def op : Operation → BinaryOp
  | add => .add
  | sub => .sub
  | mul => .mul
  | div => .div

def mark : Operation → Mark
  | add => .plus
  | sub => .minus
  | mul => .times
  | div => .slash

/-- The level of an operator in the order of `operatorAt?`. -/
def level : Operation → ℕ
  | add | sub => 3
  | mul | div => 4

theorem level_le (op : Operation) : op.level ≤ 4 := by
  cases op <;> decide

end Operation

inductive Sign where
  | plus | minus

namespace Sign

def op : Sign → UnaryOp
  | plus => .plus
  | minus => .minus

def mark : Sign → Mark
  | plus => .plus
  | minus => .minus

end Sign

/-- The trees of the arithmetic notation. -/
inductive Tree where
  | number (n : Numeral)
  | constant (id : String) (known : Text.lower id ∈ constantNames)
  | sign (s : Sign) (operand : Tree)
  | binary (op : Operation) (left right : Tree)
  | power (base exponent : Tree)
  | call (id : String) (known : Text.lower id ∈ functionNames) (arguments : List Tree)

namespace Tree

mutual

/-- The expression that a tree is. -/
def expr : Tree → Expr
  | number n => n.expr
  | constant id _ => .name id
  | sign s operand => .unary s.op operand.expr
  | binary op left right => .binary op.op left.expr right.expr
  | power base exponent => .binary .pow base.expr exponent.expr
  | call id _ arguments => .call (.name id) (exprs arguments) []

def exprs : List Tree → List Expr
  | [] => []
  | t :: rest => t.expr :: exprs rest

end

/-- How strongly the parts of a tree are bound: sums and products have the levels of their
operators, signs the level behind these, powers the next, and what needs no operator the last. -/
def level : Tree → ℕ
  | number _ | constant _ _ | call _ _ _ => 7
  | power _ _ => 6
  | sign _ _ => 5
  | binary op _ _ => op.level

/-- Lexemes in parentheses, where these are called for. -/
def enclose (called : Bool) (ls : List Lexeme) : List Lexeme :=
  if called then .mark .opening :: ls ++ [.mark .closing] else ls

mutual

/-- The lexemes of a tree. A part is in parentheses if it is bound weaker than its place demands.
The right operand of a sum or a product has to be bound stronger than the left one, the base of a
power has no operator at all, and the operand of a sign and an exponent may have signs. -/
def body : Tree → List Lexeme
  | number n => [.numeral n]
  | constant id known => [.word ⟨id, List.mem_append_left _ known⟩]
  | sign s operand => .mark s.mark :: enclose (operand.level < 5) operand.body
  | binary op left right =>
    enclose (left.level < op.level) left.body ++
      .mark op.mark :: enclose (right.level < op.level + 1) right.body
  | power base exponent =>
    enclose (base.level < 7) base.body ++
      .mark .caret :: enclose (exponent.level < 5) exponent.body
  | call id known arguments =>
    .word ⟨id, List.mem_append_right _ known⟩ :: .mark .opening ::
      (listing arguments ++ [.mark .closing])

/-- The lexemes of arguments, with commas between them. -/
def listing : List Tree → List Lexeme
  | [] => []
  | [t] => t.body
  | t :: rest => t.body ++ .mark .comma :: listing rest

end

/-- The lexemes of a tree at a place that demands a level. -/
def written (t : Tree) (level : ℕ) : List Lexeme :=
  enclose (t.level < level) t.body

@[simp]
theorem written_zero (t : Tree) : t.written 0 = t.body := by
  simp [written, enclose]

theorem written_of_le {t : Tree} {level : ℕ} (le : level ≤ t.level) : t.written level = t.body := by
  rw [written, enclose, if_neg (by simpa using le)]

theorem written_of_lt {t : Tree} {level : ℕ} (lt : t.level < level) :
    t.written level = .mark .opening :: t.body ++ [.mark .closing] := by
  rw [written, enclose, if_pos (by simpa using lt)]

theorem body_sign (s : Sign) (t : Tree) : (sign s t).body = .mark s.mark :: t.written 5 := by
  rw [body, written]

theorem body_binary (op : Operation) (left right : Tree) :
    (binary op left right).body =
      left.written op.level ++ .mark op.mark :: right.written (op.level + 1) := by
  rw [body, written, written]

theorem body_power (base exponent : Tree) :
    (power base exponent).body = base.written 7 ++ .mark .caret :: exponent.written 5 := by
  rw [body, written, written]

/-- Induction over the parts of a tree. -/
@[elab_as_elim]
theorem parts_induction {P : Tree → Prop} (t : Tree) (number : ∀ n, P (.number n))
    (constant : ∀ id known, P (.constant id known))
    (sign : ∀ s operand, P operand → P (.sign s operand))
    (binary : ∀ op left right, P left → P right → P (.binary op left right))
    (power : ∀ base exponent, P base → P exponent → P (.power base exponent))
    (call : ∀ id known arguments, (∀ t ∈ arguments, P t) → P (.call id known arguments)) : P t :=
  @Tree.rec P (fun ts => ∀ t ∈ ts, P t) number constant sign binary power
    (fun id known arguments h => call id known arguments h) (List.forall_mem_nil P)
    (fun _ _ first rest => List.forall_mem_cons.mpr ⟨first, rest⟩) t

end Tree

/-! Which lexemes stand at the ends of an expression and side by side. -/

/-- Lexemes that may be written without spaces, and of which no longer ones are made behind them. -/
structure Closed (ls : List Lexeme) : Prop where
  chain : ls.IsChain Lexeme.Joins
  last : ∀ l ∈ ls.getLast?, l.ends = true

/-- Lexemes that can be an expression of a level. -/
structure Formed (level : ℕ) (ls : List Lexeme) : Prop extends Closed ls where
  first : ∃ l rest, ls = l :: rest ∧ l.begins level = true

namespace Formed

theorem ne_nil {level : ℕ} {ls : List Lexeme} (h : Formed level ls) : ls ≠ [] := by
  obtain ⟨l, rest, rfl, -⟩ := h.first
  exact List.cons_ne_nil l rest

theorem mono {k level : ℕ} {ls : List Lexeme} (h : Formed level ls) (le : k ≤ level) :
    Formed k ls := by
  obtain ⟨l, rest, same, begins⟩ := h.first
  exact ⟨h.toClosed, l, rest, same, Lexeme.begins_mono le begins⟩

theorem single {level : ℕ} {l : Lexeme} (begins : l.begins level = true) (ends : l.ends = true) :
    Formed level [l] :=
  ⟨⟨.singleton l, by simpa using ends⟩, l, [], rfl, begins⟩

theorem after_mark {level : ℕ} {ls : List Lexeme} (h : Formed level ls) (m : Mark) :
    Closed (.mark m :: ls) := by
  obtain ⟨l, rest, rfl, begins⟩ := h.first
  exact ⟨.cons_cons (Lexeme.mark_joins m begins) h.chain, by simpa using h.last⟩

theorem join {level k : ℕ} {ls rs : List Lexeme} (left : Formed level ls) (m : Mark)
    (right : Formed k rs) : Formed level (ls ++ .mark m :: rs) := by
  have behind := right.after_mark m
  obtain ⟨l, rest, rfl, begins⟩ := left.first
  refine ⟨⟨List.isChain_append.mpr ⟨left.chain, behind.chain, ?_⟩, ?_⟩, l, _, rfl, begins⟩
  · rintro x last y ⟨⟩
    exact Lexeme.joins_mark (left.last x last) m
  · rw [List.getLast?_append_cons]
    exact behind.last

theorem signed {ls : List Lexeme} (h : Formed 5 ls) (s : Sign) :
    Formed 5 (.mark s.mark :: ls) :=
  ⟨h.after_mark s.mark, _, ls, rfl, by cases s <;> rfl⟩

end Formed

namespace Closed

/-- Lexemes in parentheses, of which there may be none. -/
theorem enclosed {ls : List Lexeme} (h : Closed ls) :
    Closed (.mark .opening :: (ls ++ [.mark .closing])) := by
  refine ⟨List.isChain_cons.mpr ⟨fun l _ => Lexeme.bracket_joins (by decide) l, ?_⟩, ?_⟩
  · refine List.isChain_append.mpr ⟨h.chain, .singleton _, ?_⟩
    rintro x last y ⟨⟩
    exact Lexeme.joins_mark (h.last x last) _
  · rw [← List.cons_append, List.getLast?_concat]
    rintro l ⟨⟩
    rfl

theorem formed_enclosed {ls : List Lexeme} (h : Closed ls) (level : ℕ) :
    Formed level (.mark .opening :: (ls ++ [.mark .closing])) :=
  ⟨h.enclosed, _, _, rfl, rfl⟩

theorem called {ls : List Lexeme} (h : Closed ls) (w : Word) (level : ℕ) :
    Formed level (.word w :: .mark .opening :: (ls ++ [.mark .closing])) :=
  ⟨⟨.cons_cons ⟨fun _ => rfl, nofun⟩ h.enclosed.chain, by simpa using h.enclosed.last⟩, _, _, rfl,
    rfl⟩

end Closed

namespace Tree

theorem written_formed {t : Tree} (h : Formed t.level t.body) (level : ℕ) :
    Formed level (t.written level) := by
  obtain lt | le := Nat.lt_or_ge t.level level
  · rw [written_of_lt lt]
    exact h.toClosed.formed_enclosed level
  · rw [written_of_le le]
    exact h.mono le

theorem listing_formed {t : Tree} {rest : List Tree} (first : Formed t.level t.body)
    (others : ∀ u ∈ rest, Formed u.level u.body) : Formed 0 (listing (t :: rest)) := by
  induction rest generalizing t with
  | nil => exact first.mono (Nat.zero_le _)
  | cons u more ih =>
      obtain ⟨second, others⟩ := List.forall_mem_cons.mp others
      exact (first.mono (Nat.zero_le _)).join .comma (ih second others)

theorem listing_closed {ts : List Tree} (h : ∀ t ∈ ts, Formed t.level t.body) :
    Closed (listing ts) := by
  cases ts with
  | nil => exact ⟨.nil, fun _ last => absurd last (Option.not_mem_none _)⟩
  | cons t rest =>
      obtain ⟨first, others⟩ := List.forall_mem_cons.mp h
      exact (listing_formed first others).toClosed

theorem body_formed (t : Tree) : Formed t.level t.body := by
  induction t using parts_induction with
  | number n => exact .single rfl rfl
  | constant id known => exact .single rfl rfl
  | sign s operand ih =>
      rw [body_sign]
      exact (written_formed ih 5).signed s
  | binary op left right hl hr =>
      rw [body_binary]
      exact (written_formed hl op.level).join op.mark (written_formed hr (op.level + 1))
  | power base exponent hb he =>
      rw [body_power]
      exact ((written_formed hb 7).mono (Nat.le_succ 6)).join .caret (written_formed he 5)
  | call id known arguments ih =>
      rw [body]
      exact (listing_closed ih).called _ 7

/-- A tree written for a place that demands a level can be an expression of that level. -/
theorem formed (t : Tree) (level : ℕ) : Formed level (t.written level) :=
  written_formed t.body_formed level

end Tree

/-! Spaces. -/

def spaces (n : ℕ) : List Char :=
  List.replicate n ' '

/-- Lexemes with spaces before each of them. -/
def spread (chars : Lexeme → List Char) : (ℕ → ℕ) → List Lexeme → List Char
  | _, [] => []
  | gap, l :: rest => spaces (gap 0) ++ (chars l ++ spread chars (fun i => gap (i + 1)) rest)

/-- The text of lexemes with spaces before each of them and behind the last one. -/
def layout (gap : ℕ → ℕ) (ls : List Lexeme) : String :=
  String.ofList (spread Lexeme.chars gap ls ++ spaces (gap ls.length))

end Astrolabe.Expression
