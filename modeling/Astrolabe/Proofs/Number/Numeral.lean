import Astrolabe.Number.Numeral
import Astrolabe.Proofs.Number.Nearest
import Astrolabe.Proofs.Text.Digit

/-!
Decimal numerals. A numeral is its digits, an optional fraction and an optional exponent; where all
digits in front are in ASCII, the reading of digits of any script splits it at the same places. A
whole number is rounded to the same double however it is read.
-/

namespace Astrolabe.Number

open Text (ascii_isDigit_iff ascii_isDigit_of_outside)

/-! Digits of any script. -/

/-- A digit of any script as an ASCII digit. -/
def asciiDigit (c : Char) : Char :=
  match Text.digitValue? c with
  | some value => Char.ofNat (48 + value)
  | none => c

theorem asciiDigits_cons (c : Char) (s : List Char) :
    asciiDigits (c :: s) = asciiDigit c :: asciiDigits s := rfl

theorem asciiDigit_of_ascii {c : Char} (ascii : c.toNat < 128) : asciiDigit c = c := by
  rw [asciiDigit, Text.digitValue?, if_pos ascii]
  split
  next value found =>
    split at found
    next digit =>
      cases found
      rw [Nat.add_sub_cancel' (ascii_isDigit_iff.mp digit).1, Char.ofNat_toNat]
    next => cases found
  next => rfl

/-- A character is left as it is unless it is a digit of another script. -/
theorem asciiDigit_cases (c : Char) :
    asciiDigit c = c ∨
      128 ≤ c.toNat ∧ Text.isDigit c = true ∧ (asciiDigit c).isDigit = true := by
  obtain ascii | outside := Nat.lt_or_ge c.toNat 128
  · exact .inl (asciiDigit_of_ascii ascii)
  rw [asciiDigit, Text.isDigit]
  split
  next value found =>
    obtain ⟨base, -, -, small⟩ := Text.digitValue?_eq_some outside found
    refine .inr ⟨outside, Option.isSome_iff_exists.mpr ⟨value, found⟩, ?_⟩
    rw [ascii_isDigit_iff, Text.toNat_ofNat (by omega)]
    omega
  next => exact .inl rfl

/-- A mark that is no digit stands where it is read. -/
theorem eq_of_asciiDigit {c mark : Char} (h : asciiDigit c = mark) (other : mark.isDigit = false) :
    c = mark := by
  obtain same | ⟨-, -, digit⟩ := asciiDigit_cases c
  · exact same.symm.trans h
  · exact absurd (h ▸ digit) (ne_true_of_eq_false other)

theorem head?_of_asciiDigits {s : List Char} {mark : Char} (h : (asciiDigits s).head? = some mark)
    (other : mark.isDigit = false) : s.head? = some mark := by
  cases s with
  | nil => cases h
  | cons c rest => exact congrArg some (eq_of_asciiDigit (Option.some.inj h) other)

/-- A text begins outside ASCII. -/
def Foreign (s : List Char) : Prop := ∃ c rest, s = c :: rest ∧ 128 ≤ c.toNat

theorem Foreign.head? {s : List Char} (h : Foreign s) {c : Char} (ascii : c.toNat < 128) :
    s.head? ≠ some c := by
  obtain ⟨d, rest, rfl, outside⟩ := h
  rintro ⟨⟩
  omega

/-- The digits in front are the same in all scripts unless a digit of another script follows. -/
theorem asciiDigits_span {s : List Char} (native : ¬Foreign (s.dropWhile Char.isDigit)) :
    (asciiDigits s).takeWhile Char.isDigit = s.takeWhile Char.isDigit ∧
      (asciiDigits s).dropWhile Char.isDigit = asciiDigits (s.dropWhile Char.isDigit) := by
  induction s with
  | nil => exact ⟨rfl, rfl⟩
  | cons c rest ih =>
      rw [asciiDigits_cons]
      by_cases digit : c.isDigit = true
      · have same : asciiDigit c = c :=
          asciiDigit_of_ascii (by have := ascii_isDigit_iff.mp digit; omega)
        rw [List.dropWhile_cons_of_pos digit] at native ⊢
        obtain ⟨take, drop⟩ := ih native
        rw [same, List.takeWhile_cons_of_pos digit, List.dropWhile_cons_of_pos digit,
          List.takeWhile_cons_of_pos digit, take, drop]
        exact ⟨rfl, rfl⟩
      · rw [List.dropWhile_cons_of_neg digit] at native ⊢
        have same : asciiDigit c = c :=
          asciiDigit_of_ascii (Nat.lt_of_not_le fun outside => native ⟨c, rest, rfl, outside⟩)
        rw [same, List.takeWhile_cons_of_neg digit, List.dropWhile_cons_of_neg digit,
          List.takeWhile_cons_of_neg digit, asciiDigits_cons, same]
        exact ⟨rfl, rfl⟩

/-! Exponents. -/

/-- Whether an exponent is negative, whether it has a sign, and its digits. -/
def exponentSign : List Char → Bool × Bool × List Char
  | '-' :: ds => (true, true, ds)
  | '+' :: ds => (false, true, ds)
  | ds => (false, false, ds)

theorem exponentSign_of_unsigned {s : List Char} (h : (exponentSign s).2.1 = false) :
    (exponentSign s).2.2 = s := by
  unfold exponentSign at h ⊢
  split at h <;> first | rfl | cases h

theorem exponentSign_asciiDigits (s : List Char) :
    exponentSign (asciiDigits s) =
      ((exponentSign s).1, (exponentSign s).2.1, asciiDigits (exponentSign s).2.2) := by
  cases s with
  | nil => rfl
  | cons c rest =>
      by_cases minus : c = '-'
      · subst minus
        rfl
      by_cases plus : c = '+'
      · subst plus
        rfl
      have notMinus : asciiDigit c ≠ '-' := fun same => minus (eq_of_asciiDigit same rfl)
      have notPlus : asciiDigit c ≠ '+' := fun same => plus (eq_of_asciiDigit same rfl)
      simp [exponentSign, minus, plus, notMinus, notPlus, asciiDigits_cons]

theorem exponent?_cons_eq (mark : Char) (rest : List Char) :
    exponent? (mark :: rest) =
      if mark == 'e' || mark == 'E' then
        if (exponentSign rest).2.2.isEmpty || !(exponentSign rest).2.2.all Char.isDigit then none
        else some (if (exponentSign rest).1 then -(digitsValue (exponentSign rest).2.2 : ℤ)
          else digitsValue (exponentSign rest).2.2)
      else none := by
  cases rest with
  | nil => rfl
  | cons c ds =>
      by_cases minus : c = '-'
      · subst minus
        rfl
      by_cases plus : c = '+'
      · subst plus
        rfl
      simp [exponent?, exponentSign, minus, plus]

theorem exponent?_cons {mark : Char} {rest : List Char} {e : ℤ}
    (h : exponent? (mark :: rest) = some e) :
    (mark = 'e' ∨ mark = 'E') ∧ (exponentSign rest).2.2 ≠ [] ∧
      (exponentSign rest).2.2.all Char.isDigit = true ∧
      e = if (exponentSign rest).1 then -(digitsValue (exponentSign rest).2.2 : ℤ)
        else digitsValue (exponentSign rest).2.2 := by
  rw [exponent?_cons_eq] at h
  simp only [Option.ite_none_right_eq_some, Option.ite_none_left_eq_some, Bool.or_eq_true,
    beq_iff_eq, not_or, List.isEmpty_iff, Bool.not_eq_true', Bool.not_eq_false] at h
  exact ⟨h.1, h.2.1.1, h.2.1.2, (Option.some.inj h.2.2).symm⟩

theorem head?_of_exponent? {s : List Char} {e : ℤ} (h : exponent? (asciiDigits s) = some e) :
    s.head? ≠ some '_' := by
  intro blank
  cases s with
  | nil => cases blank
  | cons c rest =>
      cases blank
      obtain mark | mark := (exponent?_cons h).1 <;> exact absurd mark (by decide)

/-! The parts of a numeral. -/

theorem decimal?_pointed {s more : List Char} (h : s.dropWhile Char.isDigit = '.' :: more)
    {d : Decimal} (read : decimal? s = some d) :
    ∃ e, exponent? (more.dropWhile Char.isDigit) = some e ∧
      d = ⟨digitsValue (s.takeWhile Char.isDigit ++ more.takeWhile Char.isDigit),
        e - (more.takeWhile Char.isDigit).length⟩ := by
  unfold decimal? at read
  simp only [h, Option.ite_none_left_eq_some, Option.map_eq_some_iff] at read
  obtain ⟨-, e, exponent, rfl⟩ := read
  exact ⟨e, exponent, rfl⟩

theorem decimal?_plain {s : List Char} (plain : (s.dropWhile Char.isDigit).head? ≠ some '.')
    {d : Decimal} (read : decimal? s = some d) :
    ∃ e, exponent? (s.dropWhile Char.isDigit) = some e ∧
      d = ⟨digitsValue (s.takeWhile Char.isDigit ++ []), e - ([] : List Char).length⟩ := by
  unfold decimal? at read
  dsimp only at read
  split at read
  next more pointed => exact absurd (congrArg List.head? pointed) plain
  next =>
    simp only [Option.ite_none_left_eq_some, Option.map_eq_some_iff] at read
    obtain ⟨-, e, exponent, rfl⟩ := read
    exact ⟨e, exponent, rfl⟩

/-- A numeral begins with a digit, or with a point before one. -/
theorem decimal?_cons {c : Char} {rest : List Char} {d : Decimal}
    (h : decimal? (c :: rest) = some d) :
    c.isDigit = true ∨ c = '.' ∧ rest.head?.any Char.isDigit = true := by
  by_cases digit : c.isDigit = true
  · exact .inl digit
  right
  unfold decimal? at h
  simp only [List.takeWhile_cons_of_neg digit, List.dropWhile_cons_of_neg digit, List.isEmpty_nil,
    Bool.true_and, Option.ite_none_left_eq_some] at h
  obtain ⟨fraction, -⟩ := h
  split at fraction
  next more same =>
    obtain ⟨rfl, rfl⟩ := List.cons.inj same
    refine ⟨rfl, ?_⟩
    cases rest with
    | nil => exact absurd rfl fraction
    | cons first more =>
        by_cases digit : first.isDigit = true
        · exact digit
        · rw [List.takeWhile_cons_of_neg digit] at fraction
          exact absurd rfl fraction
  next => exact absurd rfl fraction

/-- The characters of decimal numerals. -/
def isNumeralChar (c : Char) : Bool :=
  c.isDigit || c == '.' || c == 'e' || c == 'E' || c == '+' || c == '-'

theorem isNumeralChar_of_isDigit {c : Char} (h : c.isDigit = true) : isNumeralChar c = true := by
  simp [isNumeralChar, h]

theorem all_isNumeralChar_of_span {s : List Char}
    (behind : (s.dropWhile Char.isDigit).all isNumeralChar = true) :
    s.all isNumeralChar = true := by
  rw [← List.takeWhile_append_dropWhile (p := Char.isDigit) (l := s), List.all_append, behind,
    Bool.and_true]
  exact List.all_eq_true.mpr fun c mem =>
    isNumeralChar_of_isDigit (List.all_eq_true.mp List.all_takeWhile c mem)

theorem exponent?_chars {s : List Char} {e : ℤ} (h : exponent? s = some e) :
    s.all isNumeralChar = true := by
  cases s with
  | nil => rfl
  | cons mark rest =>
      obtain ⟨isMark, -, all, -⟩ := exponent?_cons h
      have digits : (exponentSign rest).2.2.all isNumeralChar = true :=
        List.all_eq_true.mpr fun c mem =>
          isNumeralChar_of_isDigit (List.all_eq_true.mp all c mem)
      have tail : rest.all isNumeralChar = true := by
        unfold exponentSign at digits
        split at digits <;> simpa [isNumeralChar] using digits
      rw [List.all_cons, tail, Bool.and_true]
      obtain rfl | rfl := isMark <;> rfl

theorem decimal?_chars {s : List Char} {d : Decimal} (h : decimal? s = some d) :
    s.all isNumeralChar = true := by
  refine all_isNumeralChar_of_span ?_
  by_cases pointed : (s.dropWhile Char.isDigit).head? = some '.'
  · obtain ⟨more, point⟩ := List.head?_eq_some_iff.mp pointed
    obtain ⟨e, exponent, -⟩ := decimal?_pointed point h
    rw [point, List.all_cons]
    exact all_isNumeralChar_of_span (exponent?_chars exponent)
  · obtain ⟨e, exponent, -⟩ := decimal?_plain pointed h
    exact exponent?_chars exponent

theorem not_mem_of_asciiDigits {s : List Char} {d : Decimal} (h : decimal? (asciiDigits s) = some d)
    {c : Char} (ascii : c.toNat < 128) (other : isNumeralChar c = false) : c ∉ s := by
  intro mem
  have all := List.all_eq_true.mp (decimal?_chars h) _ (List.mem_map_of_mem mem)
  change isNumeralChar (asciiDigit c) = true at all
  rw [asciiDigit_of_ascii ascii, other] at all
  cases all

/-- A sign is a sign, whatever the script of the digits behind it. -/
theorem splitSign_asciiDigits (s : List Char) :
    (∃ body, s = '-' :: body ∧ splitSign (asciiDigits s) = (true, asciiDigits body)) ∨
      (∃ body, s = '+' :: body ∧ splitSign (asciiDigits s) = (false, asciiDigits body)) ∨
      splitSign (asciiDigits s) = (false, asciiDigits s) := by
  cases s with
  | nil => exact .inr (.inr rfl)
  | cons c rest =>
      by_cases minus : c = '-'
      · subst minus
        exact .inl ⟨rest, rfl, rfl⟩
      by_cases plus : c = '+'
      · subst plus
        exact .inr (.inl ⟨rest, rfl, rfl⟩)
      have notMinus : asciiDigit c ≠ '-' := fun same => minus (eq_of_asciiDigit same rfl)
      have notPlus : asciiDigit c ≠ '+' := fun same => plus (eq_of_asciiDigit same rfl)
      exact .inr (.inr (by simp [splitSign, asciiDigits_cons, notMinus, notPlus]))

/-- A numeral has no other characters, a sign included. -/
theorem not_mem_of_signedNumeral? {s : List Char} {x : Float} (h : signedNumeral? s = some x)
    {c : Char} (ascii : c.toNat < 128) (other : isNumeralChar c = false) : c ∉ s := by
  have apart {sign : Char} (same : isNumeralChar sign = true) : c ≠ sign := by
    rintro rfl
    exact absurd same (ne_true_of_eq_false other)
  unfold signedNumeral? at h
  obtain ⟨body, rfl, split⟩ | ⟨body, rfl, split⟩ | split := splitSign_asciiDigits s <;>
    rw [split] at h <;> obtain ⟨d, read, -⟩ := Option.map_eq_some_iff.mp h <;>
    have body := not_mem_of_asciiDigits read ascii other
  · exact List.not_mem_cons_of_ne_of_not_mem (apart rfl) body
  · exact List.not_mem_cons_of_ne_of_not_mem (apart rfl) body
  · exact body

/-! Whole numbers. -/

section Whole

open Binary64 Float.Model UnpackedFloat

theorem ofScientific_whole {n : ℕ} (pos : 0 < n) :
    UnpackedFloat.ofScientific .binary64 n 0 = nearest .positive n := by
  have bits : 52 ≤ (n <<< 53).log2 := by
    rw [Nat.shiftLeft_eq, log2_mul_two_pow pos]
    omega
  have value : ((n <<< 53 : ℕ) : ℚ) * 2 ^ (-53 + 0 : ℤ) = n := by
    rw [Nat.shiftLeft_eq, Nat.cast_mul, Nat.cast_pow, Nat.cast_ofNat, mul_assoc, ← zpow_natCast,
      ← zpow_add₀ two_ne_zero]
    norm_num
  have small : ¬(0 : ℤ) > 2 ^ Format.binary64.exponentBits := by decide
  have large : ¬(0 : ℤ) < -((2 ^ Format.binary64.exponentBits : ℤ) + n.log2) := by
    have : (0 : ℤ) ≤ 2 ^ Format.binary64.exponentBits := by decide
    omega
  have places : Format.binary64.mantissaBits = 53 := rfl
  unfold UnpackedFloat.ofScientific
  simp only [dif_neg pos.ne', if_neg small, if_neg large, if_pos le_rfl, UnpackedFloat.mul, places]
  rw [Int.toNat_zero, pow_zero, mul_one, Nat.cast_ofNat,
    roundWithAccuracy_exact _ (Nat.shiftLeft_pos_iff.mpr pos) (.inl bits), value]
  rfl

/-- A whole number is rounded to the same double as a decimal one. -/
theorem toFloat_whole (n : ℕ) : Decimal.toFloat ⟨n, 0⟩ = ofRatio false n 1 := by
  obtain rfl | pos := n.eq_zero_or_pos
  · rfl
  have one : (n : ℚ) * 2 ^ (0 : ℤ) / ((1 : ℕ) * 2 ^ (0 : ℤ)) = n := by simp
  have scientific : Decimal.toFloat ⟨n, 0⟩ =
      .ofModel (.pack (UnpackedFloat.ofScientific .binary64 n 0)) := rfl
  rw [scientific, ofScientific_whole pos, ofRatio, dif_pos pos, dif_pos Nat.one_pos, div_eq_nearest,
    one]
  rfl

theorem ofNat?_of_isFinite {n : ℕ} (finite : (Decimal.toFloat ⟨n, 0⟩).isFinite = true) :
    ofNat? n = some (Decimal.toFloat ⟨n, 0⟩) := by
  rw [toFloat_whole] at finite ⊢
  exact if_pos finite

end Whole

end Astrolabe.Number
