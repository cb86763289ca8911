import Astrolabe.Number.Text
import Astrolabe.Proofs.Number.Numeral

/-!
Reading written numbers back. Digits that are written for a number are read as that number, with the
zeros before them or without, and a text of digits, a point and an exponent is read as the decimal
number that it was written for.
-/

namespace Astrolabe.Number

open Binary64

-- `^` means core's power, also where a module above declares another one.
attribute [local instance (high)] instPowNat

/-! Digits. -/

theorem digitsValue_toDigits (k : ℕ) : digitsValue (Nat.toDigits 10 k) = k := by
  have folded := Nat.ofDigitChars_ten_toDigits (n := k)
  rw [Nat.ofDigitChars_eq_foldl] at folded
  exact folded

theorem digitsValue_append (s t : List Char) :
    digitsValue (s ++ t) = digitsValue s * 10 ^ t.length + digitsValue t := by
  have from' (n : ℕ) : t.foldl (fun n c => 10 * n + (c.toNat - 48)) n =
      n * 10 ^ t.length + t.foldl (fun n c => 10 * n + (c.toNat - 48)) 0 := by
    induction t generalizing n with
    | nil => simp
    | cons c rest ih =>
        rw [List.foldl_cons, List.foldl_cons, ih, ih (10 * 0 + _), List.length_cons, Nat.pow_succ]
        ring
  rw [digitsValue, List.foldl_append, from']
  rfl

theorem digitsValue_zeros (count : ℕ) : digitsValue (List.replicate count '0') = 0 := by
  induction count with
  | zero => rfl
  | succ count ih => rw [List.replicate_succ', digitsValue_append, ih]; rfl

theorem isDigit_of_mem_toString {n : ℕ} {c : Char} (mem : c ∈ (toString n).toList) :
    c.isDigit = true := by
  rw [Nat.toString_eq_ofList_toDigits, String.toList_ofList] at mem
  exact Nat.isDigit_of_mem_toDigits (by decide) (by decide) mem

theorem toList_toString_ne_nil (n : ℕ) : (toString n).toList ≠ [] := by
  rw [Nat.toString_eq_ofList_toDigits, String.toList_ofList]
  exact Nat.toDigits_ne_nil

theorem digitsValue_toString (n : ℕ) : digitsValue (toString n).toList = n := by
  rw [Nat.toString_eq_ofList_toDigits, String.toList_ofList, digitsValue_toDigits]

theorem isDigit_of_mem_padded {width n : ℕ} {c : Char} (mem : c ∈ (padded width n).toList) :
    c.isDigit = true := by
  rw [padded, String.toList_append, String.toList_ofList, List.mem_append] at mem
  obtain zero | digit := mem
  · rw [List.eq_of_mem_replicate zero]
    rfl
  · exact isDigit_of_mem_toString digit

theorem digitsValue_padded (width n : ℕ) : digitsValue (padded width n).toList = n := by
  rw [padded, String.toList_append, String.toList_ofList, digitsValue_append, digitsValue_zeros,
    Nat.zero_mul, Nat.zero_add, digitsValue_toString]

/-- A number that fits is padded to the width. -/
theorem length_padded {width n : ℕ} (pos : 0 < width) (fits : n < 10 ^ width) :
    (padded width n).toList.length = width := by
  have short : (toString n).length ≤ width := by
    rw [Nat.toString_eq_ofList_toDigits, String.length_ofList]
    exact (Nat.length_toDigits_le_iff (by decide) pos).mpr fits
  rw [padded, String.toList_append, String.toList_ofList, List.length_append,
    List.length_replicate, String.length_toList]
  omega

/-! Numerals. -/

/-- Digits are cut off where an exponent begins. -/
theorem span_of_exponent? {fraction tail : List Char} {e : ℤ}
    (digits : ∀ c ∈ fraction, c.isDigit = true) (exponent : exponent? tail = some e) :
    (fraction ++ tail).takeWhile Char.isDigit = fraction ∧
      (fraction ++ tail).dropWhile Char.isDigit = tail := by
  rw [List.takeWhile_append_of_pos digits, List.dropWhile_append_of_pos digits]
  cases tail with
  | nil => exact ⟨List.append_nil _, rfl⟩
  | cons mark rest =>
      have other : ¬mark.isDigit = true := by
        obtain rfl | rfl := (exponent?_cons exponent).1 <;> decide
      rw [List.takeWhile_cons_of_neg other, List.dropWhile_cons_of_neg other, List.append_nil]
      exact ⟨rfl, rfl⟩

/-- Digits, a point, digits again and an exponent are read for all of the digits. -/
theorem decimal?_of_parts {whole fraction tail : List Char} {e : ℤ} (nonempty : whole ≠ [])
    (digits : ∀ c ∈ whole, c.isDigit = true) (digits' : ∀ c ∈ fraction, c.isDigit = true)
    (exponent : exponent? tail = some e) :
    decimal? (whole ++ '.' :: (fraction ++ tail)) =
      some ⟨digitsValue (whole ++ fraction), e - fraction.length⟩ := by
  have point : ¬ '.'.isDigit = true := by decide
  have front : (whole ++ '.' :: (fraction ++ tail)).takeWhile Char.isDigit = whole := by
    rw [List.takeWhile_append_of_pos digits, List.takeWhile_cons_of_neg point, List.append_nil]
  have back : (whole ++ '.' :: (fraction ++ tail)).dropWhile Char.isDigit =
      '.' :: (fraction ++ tail) := by
    rw [List.dropWhile_append_of_pos digits, List.dropWhile_cons_of_neg point]
  obtain ⟨cut, rest⟩ := span_of_exponent? digits' exponent
  have given : whole.isEmpty = false := by simpa using nonempty
  unfold decimal?
  simp only [front, back, cut, rest, given, Bool.false_and, Bool.false_eq_true, if_false, exponent,
    Option.map_some]

/-- An exponent that is written is read. -/
theorem exponent?_exponentText (e : ℤ) : exponent? (exponentText e).toList = some e := by
  have parts : ∃ sign, (sign = '-' ∧ e < 0 ∨ sign = '+' ∧ 0 ≤ e) ∧
      (exponentText e).toList = 'e' :: sign :: (padded 2 e.natAbs).toList := by
    rw [exponentText, String.toList_append]
    obtain negative | nonneg := lt_or_ge e 0
    · rw [if_pos negative]
      exact ⟨'-', .inl ⟨rfl, negative⟩, rfl⟩
    · rw [if_neg nonneg.not_gt]
      exact ⟨'+', .inr ⟨rfl, nonneg⟩, rfl⟩
  obtain ⟨sign, cases, text⟩ := parts
  have all : (padded 2 e.natAbs).toList.all Char.isDigit = true :=
    List.all_eq_true.mpr fun c => isDigit_of_mem_padded
  have nonempty : (padded 2 e.natAbs).toList.isEmpty = false := by
    rw [padded, String.toList_append, List.isEmpty_eq_false_iff]
    exact List.append_ne_nil_of_right_ne_nil _ (toList_toString_ne_nil _)
  rw [text, exponent?_cons_eq]
  obtain ⟨rfl, negative⟩ | ⟨rfl, nonneg⟩ := cases
  · have value : -(e.natAbs : ℤ) = e := by omega
    simp only [exponentSign, all, nonempty, digitsValue_padded, value, beq_self_eq_true,
      Bool.true_or, Bool.not_true, Bool.or_self, Bool.false_eq_true, if_true, if_false]
  · have value : (e.natAbs : ℤ) = e := by omega
    simp only [exponentSign, all, nonempty, digitsValue_padded, value, beq_self_eq_true,
      Bool.true_or, Bool.not_true, Bool.or_self, Bool.false_eq_true, if_true, if_false]

/-- Units of the last of some places are read as such, with the exponent behind them. -/
theorem decimal?_unitsText {places : ℕ} (pos : 0 < places) (units : ℕ) {tail : List Char} {e : ℤ}
    (exponent : exponent? tail = some e) :
    decimal? ((unitsText places units).toList ++ tail) = some ⟨units, e - places⟩ := by
  have fits : units % 10 ^ places < 10 ^ places := Nat.mod_lt _ (by positivity)
  have text : (unitsText places units).toList ++ tail =
      (toString (units / 10 ^ places)).toList ++
        '.' :: ((padded places (units % 10 ^ places)).toList ++ tail) := by
    have point : ".".toList = ['.'] := rfl
    rw [unitsText, if_neg pos.ne', String.toList_append, String.toList_append, point,
      List.append_assoc, List.append_assoc, List.singleton_append]
  rw [text, decimal?_of_parts (toList_toString_ne_nil _) (fun c => isDigit_of_mem_toString)
    (fun c => isDigit_of_mem_padded) exponent, digitsValue_append, length_padded pos fits,
    digitsValue_toString, digitsValue_padded, Nat.div_add_mod']

/-! Signs. -/

/-- The value of a decimal number. -/
def Decimal.value (d : Decimal) : ℚ :=
  d.digits * 10 ^ d.exponent

/-- The sign and the decimal number that a text is read back as; the first tells whether it is a
minus. -/
def signedDecimal? (s : String) : Option (Bool × Decimal) :=
  let (negative, body) := splitSign s.toList
  (decimal? body).map (negative, ·)

theorem splitSign_of_decimal? {s : List Char} {d : Decimal} (h : decimal? s = some d) :
    splitSign s = (false, s) := by
  cases s with
  | nil => rfl
  | cons c rest =>
      obtain digit | ⟨rfl, -⟩ := decimal?_cons h
      · unfold splitSign
        split
        next same =>
          cases same
          cases digit
        next same =>
          cases same
          cases digit
        next => rfl
      · rfl

/-- A text behind a minus is read back with it, and one without a sign for itself. -/
theorem signedDecimal?_of_decimal? {s : String} {d : Decimal} (h : decimal? s.toList = some d)
    (negative : Bool) :
    signedDecimal? ((if negative then "-" else "") ++ s) = some (negative, d) := by
  cases negative with
  | true =>
      have parts : ("-" ++ s).toList = '-' :: s.toList := by rw [String.toList_append]; rfl
      rw [if_pos rfl, signedDecimal?, parts, splitSign]
      simp only [h, Option.map_some]
  | false =>
      rw [if_neg Bool.false_ne_true, String.empty_append, signedDecimal?, splitSign_of_decimal? h]
      simp only [h, Option.map_some]

end Astrolabe.Number
