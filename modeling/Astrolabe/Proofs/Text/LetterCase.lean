import Mathlib.Data.List.Forall2
import Astrolabe.Proofs.Text.Blank
import Astrolabe.Proofs.Text.Lowercase

/-!
Texts in ASCII that differ in the case of their letters alone. What is cut off such texts by a test
that does not look at the case is again the same but for the case, and parts without letters are
equal.
-/

namespace Astrolabe.Text

/-- Two characters in ASCII that are the same but for letter case. -/
def SameLetter (c d : Char) : Prop :=
  c.toNat < 128 ∧ c.toLower = d.toLower

/-- Two texts in ASCII that are the same but for letter case. -/
abbrev SameLetters : List Char → List Char → Prop :=
  List.Forall₂ SameLetter

namespace SameLetter

variable {c d : Char}

theorem ascii (h : SameLetter c d) : d.toNat < 128 :=
  ascii_of_toLower (h.2 ▸ forall_ascii (P := fun c => c.toLower.toNat < 128) (by decide) h.1)

theorem symm (h : SameLetter c d) : SameLetter d c :=
  ⟨h.ascii, h.2.symm⟩

/-- What is the same for a letter and its small letter is the same for both. -/
theorem congr {α : Type} {f : Char → α} (h : SameLetter c d)
    (blind : ∀ n < 128, f (Char.ofNat n).toLower = f (Char.ofNat n)) : f c = f d := by
  have small {c : Char} (ascii : c.toNat < 128) : f c.toLower = f c :=
    forall_ascii (P := fun c => f c.toLower = f c) blind ascii
  rw [← small h.1, ← small h.ascii, h.2]

theorem eq (h : SameLetter c d) (plain : c.isAlpha = false) : d = c := by
  have small {c : Char} (ascii : c.toNat < 128) (plain : c.isAlpha = false) : c.toLower = c :=
    forall_ascii (P := fun c => c.isAlpha = false → c.toLower = c) (by decide) ascii plain
  have plain' : d.isAlpha = false := (h.congr (by decide)).symm.trans plain
  rw [← small h.1 plain, ← small h.ascii plain', h.2]

theorem isBlank_eq (h : SameLetter c d) : isBlank c = isBlank d :=
  h.congr (by decide)

theorem isDigit_eq (h : SameLetter c d) : c.isDigit = d.isDigit :=
  h.congr (by decide)

theorem eq_of_isDigit (h : SameLetter c d) (digit : c.isDigit = true) : d = c :=
  h.eq (forall_ascii (P := fun c => c.isDigit = true → c.isAlpha = false) (by decide) h.1 digit)

/-- A character without a case is where it is, whatever the case of the others. -/
theorem eq_iff (h : SameLetter c d) {m : Char} (plain : m.isAlpha = false) : c = m ↔ d = m := by
  have kept {c d : Char} (h : SameLetter c d) (same : c = m) : d = m :=
    (h.eq (same ▸ plain)).trans same
  exact ⟨kept h, kept h.symm⟩

end SameLetter

namespace SameLetters

variable {s t : List Char}

theorem of_toLower (ascii : ∀ c ∈ s, c.toNat < 128)
    (h : s.map Char.toLower = t.map Char.toLower) : SameLetters s t := by
  have letters : List.Forall₂ (fun c d => c.toLower = d.toLower) s t := by
    rw [← List.forall₂_map_right_iff, ← List.forall₂_map_left_iff, h]
    exact List.forall₂_same.mpr fun _ _ => rfl
  exact (List.forall₂_and_left _ _).mpr ⟨ascii, letters⟩

theorem ascii (h : SameLetters s t) : ∀ c ∈ s, c.toNat < 128 :=
  ((List.forall₂_and_left _ _).mp h).1

theorem toLower (h : SameLetters s t) : s.map Char.toLower = t.map Char.toLower := by
  induction h with
  | nil => rfl
  | cons first _ ih => rw [List.map_cons, List.map_cons, first.2, ih]

theorem symm (h : SameLetters s t) : SameLetters t s :=
  (h.imp fun _ _ => SameLetter.symm).flip

theorem reverse (h : SameLetters s t) : SameLetters s.reverse t.reverse :=
  List.rel_reverse h

theorem map_eq {α : Type} {f : Char → α} (h : SameLetters s t)
    (blind : ∀ c d, SameLetter c d → f c = f d) : s.map f = t.map f := by
  induction h with
  | nil => rfl
  | cons first _ ih => rw [List.map_cons, List.map_cons, blind _ _ first, ih]

theorem all_eq {p : Char → Bool} (h : SameLetters s t)
    (blind : ∀ c d, SameLetter c d → p c = p d) : s.all p = t.all p := by
  induction h with
  | nil => rfl
  | cons first _ ih => rw [List.all_cons, List.all_cons, blind _ _ first, ih]

theorem head?_any_eq {p : Char → Bool} (h : SameLetters s t)
    (blind : ∀ c d, SameLetter c d → p c = p d) : s.head?.any p = t.head?.any p := by
  cases h with
  | nil => rfl
  | cons first _ => exact blind _ _ first

/-- Characters without a case are the same in both texts. -/
theorem eq (h : SameLetters s t) (plain : ∀ c ∈ s, c.isAlpha = false) : t = s := by
  induction h with
  | nil => rfl
  | cons first _ ih =>
      obtain ⟨here, later⟩ := List.forall_mem_cons.mp plain
      rw [first.eq here, ih later]

/-- A character without a case is in both texts or in neither. -/
theorem mem_iff {m : Char} (h : SameLetters s t) (plain : m.isAlpha = false) : m ∈ s ↔ m ∈ t := by
  induction h with
  | nil => rfl
  | cons first _ ih => rw [List.mem_cons, List.mem_cons, ih, eq_comm, first.eq_iff plain, eq_comm]

theorem ofList (h : SameLetters s t) :
    SameLetters (String.ofList s).toList (String.ofList t).toList := by
  rwa [String.toList_ofList, String.toList_ofList]

theorem span {p : Char → Bool} (h : SameLetters s t)
    (blind : ∀ c d, SameLetter c d → p c = p d) :
    SameLetters (s.takeWhile p) (t.takeWhile p) ∧ SameLetters (s.dropWhile p) (t.dropWhile p) := by
  induction h with
  | nil => exact ⟨.nil, .nil⟩
  | @cons c d s t first rest ih =>
      have same := blind c d first
      cases test : p c with
      | true =>
          have test' := same.symm.trans test
          rw [List.takeWhile_cons_of_pos test, List.takeWhile_cons_of_pos test',
            List.dropWhile_cons_of_pos test, List.dropWhile_cons_of_pos test']
          exact ⟨.cons first ih.1, ih.2⟩
      | false =>
          have not := ne_true_of_eq_false test
          have not' := ne_true_of_eq_false (same.symm.trans test)
          rw [List.takeWhile_cons_of_neg not, List.takeWhile_cons_of_neg not',
            List.dropWhile_cons_of_neg not, List.dropWhile_cons_of_neg not']
          exact ⟨.nil, .cons first rest⟩

theorem eq_of_digits (h : SameLetters s t) (digits : s.all Char.isDigit = true) : t = s := by
  refine h.eq fun c mem => ?_
  exact forall_ascii (P := fun c => c.isDigit = true → c.isAlpha = false) (by decide)
    (h.ascii c mem) (List.all_eq_true.mp digits c mem)

/-- The digits in front are the same. -/
theorem digits (h : SameLetters s t) :
    t.takeWhile Char.isDigit = s.takeWhile Char.isDigit ∧
      SameLetters (s.dropWhile Char.isDigit) (t.dropWhile Char.isDigit) := by
  obtain ⟨front, behind⟩ := h.span fun _ _ => SameLetter.isDigit_eq
  exact ⟨front.eq_of_digits List.all_takeWhile, behind⟩

theorem dropBlanks (h : SameLetters s t) :
    SameLetters (s.dropWhile isBlank) (t.dropWhile isBlank) :=
  (h.span fun _ _ => SameLetter.isBlank_eq).2

end SameLetters

theorem sameLetters_strip {s t : String} (h : SameLetters s.toList t.toList) :
    SameLetters (strip s).toList (strip t).toList := by
  rw [strip, strip, String.toList_ofList, String.toList_ofList]
  exact h.dropBlanks.reverse.dropBlanks.reverse

theorem strip_eq_empty_congr {s t : String} (h : SameLetters s.toList t.toList) :
    strip s = "" ↔ strip t = "" := by
  rw [← String.toList_inj, ← String.toList_inj]
  have same := (sameLetters_strip h).length_eq
  rw [String.toList_empty, ← List.length_eq_zero_iff, same, List.length_eq_zero_iff]

/-- In ASCII the lower-case form is found letter by letter. -/
theorem lower_of_ascii {s : String} (ascii : ∀ c ∈ s.toList, c.toNat < 128) :
    lower s = String.ofList (s.toList.map Char.toLower) := by
  have letters (before s : List Char) (ascii : ∀ c ∈ s, c.toNat < 128) :
      lowerFrom before s = s.map Char.toLower := by
    induction s generalizing before with
    | nil => rfl
    | cons c rest ih =>
        obtain ⟨here, later⟩ := List.forall_mem_cons.mp ascii
        have apart {d : Char} (outside : 128 ≤ d.toNat) : (c == d) = false := by
          refine beq_false_of_ne ?_
          rintro rfl
          omega
        rw [lowerFrom, ih _ later, apart (by decide), apart (by decide), lowerChar, if_pos here]
        rfl
  rw [lower, letters [] s.toList ascii]

theorem lower_congr {s t : String} (h : SameLetters s.toList t.toList) : lower s = lower t := by
  rw [lower_of_ascii h.ascii, lower_of_ascii h.symm.ascii, h.toLower]

end Astrolabe.Text
