import Astrolabe.Proofs.Number.Numeral
import Astrolabe.Proofs.Text.LetterCase

/-!
Decimal numerals and letter case: the mark of an exponent is the only letter in one.
-/

namespace Astrolabe.Number

open Text

variable {s t : List Char}

/-- The mark of an exponent may be a small letter or a capital. -/
theorem exponentMark_eq {c d : Char} (h : SameLetter c d) :
    (c == 'e' || c == 'E') = (d == 'e' || d == 'E') :=
  h.congr (f := fun c => c == 'e' || c == 'E') (by decide)

theorem exponentSign_sameLetters (h : SameLetters s t) :
    (exponentSign s).1 = (exponentSign t).1 ∧ (exponentSign s).2.1 = (exponentSign t).2.1 ∧
      SameLetters (exponentSign s).2.2 (exponentSign t).2.2 := by
  cases h with
  | nil => exact ⟨rfl, rfl, .nil⟩
  | @cons c d s t first rest =>
      by_cases minus : c = '-'
      · cases first.eq (minus ▸ rfl)
        subst minus
        exact ⟨rfl, rfl, rest⟩
      by_cases plus : c = '+'
      · cases first.eq (plus ▸ rfl)
        subst plus
        exact ⟨rfl, rfl, rest⟩
      have minus' : d ≠ '-' := fun same => minus ((first.eq_iff rfl).mpr same)
      have plus' : d ≠ '+' := fun same => plus ((first.eq_iff rfl).mpr same)
      simp [exponentSign, minus, plus, minus', plus', first, rest]

theorem exponent?_congr (h : SameLetters s t) : exponent? s = exponent? t := by
  cases h with
  | nil => rfl
  | @cons mark mark' rest rest' first behind =>
      obtain ⟨negative, -, digits⟩ := exponentSign_sameLetters behind
      have test := digits.all_eq fun _ _ => SameLetter.isDigit_eq
      rw [exponent?_cons_eq, exponent?_cons_eq, exponentMark_eq first, negative, ← test]
      cases all : (exponentSign rest).2.2.all Char.isDigit with
      | true => rw [digits.eq_of_digits all]
      | false => simp

theorem decimal?_congr (h : SameLetters s t) : decimal? s = decimal? t := by
  obtain ⟨whole, rest⟩ := h.digits
  unfold decimal?
  rw [whole]
  generalize s.dropWhile Char.isDigit = after at rest ⊢
  generalize t.dropWhile Char.isDigit = after' at rest ⊢
  cases rest with
  | nil => rfl
  | @cons c d more more' first behind =>
      by_cases point : c = '.'
      · cases first.eq (point ▸ rfl)
        subst point
        obtain ⟨fraction, exponent⟩ := SameLetters.digits behind
        simp only [fraction, exponent?_congr exponent]
      · have point' : d ≠ '.' := fun same => point ((first.eq_iff rfl).mpr same)
        simp [point, point', exponent?_congr (.cons first behind)]

theorem splitSign_eq (s : List Char) :
    splitSign s = ((exponentSign s).1, (exponentSign s).2.2) := by
  fun_cases splitSign s with
  | case1 | case2 => rfl
  | case3 s minus plus => rw [exponentSign] <;> assumption

theorem asciiDigits_of_ascii (ascii : ∀ c ∈ s, c.toNat < 128) : asciiDigits s = s :=
  (List.map_congr_left fun c mem => asciiDigit_of_ascii (ascii c mem)).trans (List.map_id s)

theorem signedNumeral?_congr (h : SameLetters s t) : signedNumeral? s = signedNumeral? t := by
  obtain ⟨negative, -, digits⟩ := exponentSign_sameLetters h
  rw [signedNumeral?, signedNumeral?, asciiDigits_of_ascii h.ascii,
    asciiDigits_of_ascii h.symm.ascii, splitSign_eq, splitSign_eq, negative]
  simp only [decimal?_congr digits]

end Astrolabe.Number
