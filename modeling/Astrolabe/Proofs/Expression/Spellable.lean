import Astrolabe.Proofs.Expression.Evaluation
import Astrolabe.Proofs.Expression.Written
import Astrolabe.Proofs.Number.Nearest
import Astrolabe.Proofs.Number.ReadBack

/-!
Which trees are spelled by the grammar of arithmetic. Every decimal number has a numeral, and so has
every whole number in the range of doubles: it has fewer digits than a numeral may have. So each
expression with a value can be spelled.
-/

namespace Astrolabe.Expression

open Number

/-- Expressions that can be spelled: with numbers that have a numeral, known names, and arithmetic
operators alone. -/
inductive Spellable : Expr → Prop
  | whole {k : ℕ} (n : Numeral) (h : n.expr = .whole k) : Spellable (.whole k)
  | decimal {d : Decimal} (n : Numeral) (h : n.expr = .decimal d) : Spellable (.decimal d)
  | name {id : String} (known : Text.lower id ∈ constantNames ++ functionNames) :
      Spellable (.name id)
  | binary {op : BinaryOp} {left right : Expr} (arithmetic : op ∈ [.add, .sub, .mul, .div, .pow])
      (hl : Spellable left) (hr : Spellable right) : Spellable (.binary op left right)
  | unary {op : UnaryOp} {operand : Expr} (sign : op ∈ [.plus, .minus]) (h : Spellable operand) :
      Spellable (.unary op operand)
  | call {id : String} {arguments : List Expr} (known : Text.lower id ∈ functionNames)
      (h : ∀ e ∈ arguments, Spellable e) : Spellable (.call (.name id) arguments [])

/-! Numerals of numbers. -/

theorem toDigits_first {k : ℕ} (pos : 0 < k) : (Nat.toDigits 10 k).head? ≠ some '0' := by
  induction k using Nat.strong_induction_on with
  | h k ih =>
      rw [Nat.toDigits_eq_if (by decide)]
      split
      next =>
        intro first
        have zero := Nat.digitChar_eq_zero.mp (Option.some.inj first)
        omega
      next =>
        have front := ih (k / 10) (by omega) (by omega)
        rwa [List.head?_append_of_ne_nil _ Nat.toDigits_ne_nil]

/-- The decimal digits of a number in a row. -/
theorem exists_row (k : ℕ) : ∃ r : DigitRow, r.digits = Nat.toDigits 10 k := by
  have digit : ∀ c ∈ Nat.toDigits 10 k, c.isDigit = true := fun c =>
    Nat.isDigit_of_mem_toDigits (by decide) (by decide)
  obtain ⟨first, others, row⟩ := List.exists_cons_of_ne_nil (Nat.toDigits_ne_nil (n := k) (b := 10))
  rw [row] at digit ⊢
  obtain ⟨here, later⟩ := List.forall_mem_cons.mp digit
  refine ⟨⟨first, others.map fun c => (false, c), here, ?_⟩, ?_⟩
  · intro d mem
    obtain ⟨c, inside, rfl⟩ := List.mem_map.mp mem
    exact later c inside
  · simp [DigitRow.digits, Function.comp_def]

theorem exists_numeral_whole {k : ℕ} (small : k < 10 ^ maxWholeDigits) :
    ∃ n : Numeral, n.expr = .whole k := by
  obtain ⟨r, row⟩ := exists_row k
  have few : r.digits.length ≤ maxWholeDigits := by
    rw [row]
    exact (Nat.length_toDigits_le_iff (by decide) (by decide)).mpr small
  have plain : r.first = '0' → r.others = [] := by
    intro zero
    obtain rfl | pos := k.eq_zero_or_pos
    · rw [Nat.toDigits_zero] at row
      exact List.map_eq_nil_iff.mp (List.cons.inj row).2
    · refine absurd ?_ (toDigits_first pos)
      rw [← row, DigitRow.digits, zero]
      rfl
  refine ⟨⟨some r, none, none, .inl nofun, ?_⟩, ?_⟩
  · rintro - - _ ⟨⟩
    exact ⟨plain, few⟩
  · change Expr.whole (digitsValue r.digits) = _
    rw [row, digitsValue_toDigits]

theorem exists_numeral_decimal (d : Decimal) : ∃ n : Numeral, n.expr = .decimal d := by
  obtain ⟨r, row⟩ := exists_row d.digits
  obtain ⟨x, places⟩ := exists_row d.exponent.natAbs
  let exponent : Exponent :=
    ⟨'e', if d.exponent < 0 then some '-' else none, x, .inl rfl, by split <;> simp⟩
  have value : exponent.value = d.exponent := by
    rw [Exponent.value, places, digitsValue_toDigits]
    simp only [exponent]
    split_ifs <;> first | omega | simp_all
  refine ⟨⟨some r, none, some exponent, .inl nofun, nofun⟩, ?_⟩
  change Expr.decimal ⟨digitsValue (r.digits ++ []), exponent.value - (0 : ℕ)⟩ = _
  rw [List.append_nil, row, digitsValue_toDigits, value, Nat.cast_zero, sub_zero]

/-! Numbers with a double. -/

theorem lt_of_ofNat? {k : ℕ} {x : Float} (h : Binary64.ofNat? k = some x) : k < 2 ^ 1024 := by
  obtain rfl | pos := k.eq_zero_or_pos
  · positivity
  have finite : (Decimal.toFloat ⟨k, 0⟩).isFinite = true := by
    rw [toFloat_whole]
    exact (Option.ite_none_right_eq_some.mp h).1
  have rounds : Binary64.Rounds (Decimal.toFloat ⟨k, 0⟩) k := by
    have scientific : Decimal.toFloat ⟨k, 0⟩ =
        .ofModel (.pack (Float.Model.UnpackedFloat.ofScientific .binary64 k 0)) := rfl
    rw [scientific, ofScientific_whole pos]
    exact Binary64.rounds_nearest _ (Nat.cast_pos.mpr pos)
  have below := rounds.finite_iff.mp finite
  have power : Binary64.Canonical (2 ^ 52) 972 := ⟨by decide, by decide, by decide, .inl le_rfl⟩
  have value : ((2 ^ 52 : ℕ) : ℚ) * 2 ^ (972 : ℤ) = 2 ^ 1024 := by
    rw [Nat.cast_pow, Nat.cast_ofNat, ← zpow_natCast, ← zpow_add₀ two_ne_zero]
    exact zpow_natCast 2 1024
  refine Nat.lt_of_not_le fun large => absurd below (not_lt.mpr ?_)
  calc (2 : ℚ) ^ 1024 = Binary64.rounded (2 ^ 1024) := by rw [← value, power.rounded]
    _ ≤ Binary64.rounded k := Binary64.rounded_mono (by positivity) (by exact_mod_cast large)

/-- An expression with a value can be spelled. -/
theorem spellable_of_hasValue {e : Expr} {x : Float} (h : e.HasValue x) : Spellable e := by
  induction e using Expr.evaluated_induction generalizing x with
  | whole k =>
      obtain ⟨number⟩ := h
      have few : 2 ^ 1024 ≤ 10 ^ maxWholeDigits := by
        have most : 1024 ≤ maxWholeDigits := by decide
        gcongr <;> decide
      obtain ⟨n, same⟩ := exists_numeral_whole ((lt_of_ofNat? number).trans_le few)
      exact .whole n same
  | decimal d =>
      obtain ⟨n, same⟩ := exists_numeral_decimal d
      exact .decimal n same
  | constant c => cases h
  | name id =>
      obtain _ | _ | ⟨known⟩ := h
      have named := constantNamed?_isSome_iff.mp (Option.isSome_of_eq_some known)
      exact .name (List.mem_append_left _ named)
  | binary op left right hl hr =>
      obtain _ | _ | _ | ⟨vl, vr, result⟩ := h
      exact .binary (BinaryOp.isArithmetic_iff.mp result.isArithmetic) (hl vl) (hr vr)
  | unary op operand ih =>
      cases h with
      | plus h => exact .unary (by simp) (ih h)
      | minus h => exact .unary (by simp) (ih h)
  | call function arguments named ih =>
      obtain _ | _ | _ | _ | _ | _ | ⟨known, values, _⟩ := h
      refine .call (Function.named?_isSome_iff.mp (Option.isSome_of_eq_some known)) fun e mem => ?_
      obtain ⟨y, value⟩ := Expr.hasValue_of_mem values mem
      exact ih e mem value
  | form kind parts => cases h

end Astrolabe.Expression
