import Astrolabe.Proofs.Text.LetterCase

/-!
Texts of any script that differ in the case of ASCII letters alone have one lower-case form. Whether
a sigma ends a word does not depend on the case of the letters around it.
-/

namespace Astrolabe.Text

/-- Two texts that are the same but for the case of ASCII letters and for the blanks around them. -/
def Respelled (s t : String) : Prop :=
  (strip s).toList.map Char.toLower = (strip t).toList.map Char.toLower

theorem Respelled.refl (s : String) : Respelled s s := rfl

theorem Respelled.symm {s t : String} (h : Respelled s t) : Respelled t s := Eq.symm h

/-! Characters. -/

/-- What does not tell ASCII capitals from small letters takes any character for its small one. -/
theorem toLower_congr {α : Type} {f : Char → α}
    (blind : ∀ n < 128, f (Char.ofNat n).toLower = f (Char.ofNat n)) (c : Char) :
    f c.toLower = f c := by
  obtain ascii | outside := Nat.lt_or_ge c.toNat 128
  · exact forall_ascii (P := fun c => f c.toLower = f c) blind ascii
  · rw [toLower_of_not_ascii outside]

theorem lowerChar_toLower (c : Char) : lowerChar c.toLower = lowerChar c :=
  toLower_congr (by decide) c

theorem isCased_toLower (c : Char) : isCased c.toLower = isCased c :=
  toLower_congr (by decide) c

theorem isCaseIgnorable_toLower (c : Char) : isCaseIgnorable c.toLower = isCaseIgnorable c :=
  toLower_congr (by decide) c

theorem beq_toLower {d : Char} (outside : 128 ≤ d.toNat) (c : Char) :
    (c.toLower == d) = (c == d) := by
  obtain ascii | apart := Nat.lt_or_ge c.toNat 128
  · have small : c.toLower.toNat < 128 :=
      forall_ascii (P := fun c => c.toLower.toNat < 128) (by decide) ascii
    have differ {e : Char} (low : e.toNat < 128) : (e == d) = false := by
      refine beq_false_of_ne ?_
      rintro rfl
      omega
    rw [differ ascii, differ small]
  · rw [toLower_of_not_ascii apart]

/-! Texts. -/

theorem meetsCased_map_toLower (s : List Char) :
    meetsCased (s.map Char.toLower) = meetsCased s := by
  have ignorable : isCaseIgnorable ∘ Char.toLower = isCaseIgnorable :=
    funext isCaseIgnorable_toLower
  rw [meetsCased, List.dropWhile_map, ignorable, List.head?_map, Option.any_map]
  simp only [isCased_toLower, meetsCased]

theorem lowerFrom_map_toLower (before s : List Char) :
    lowerFrom (before.map Char.toLower) (s.map Char.toLower) = lowerFrom before s := by
  induction s generalizing before with
  | nil => rfl
  | cons c rest ih =>
      have later := ih (c :: before)
      rw [List.map_cons] at later
      rw [List.map_cons, lowerFrom, lowerFrom, later, beq_toLower (by decide),
        beq_toLower (by decide), lowerChar_toLower, meetsCased_map_toLower, meetsCased_map_toLower]

/-- Respelled texts have one lower-case form, without the blanks around them. -/
theorem Respelled.lower_strip_eq {s t : String} (h : Respelled s t) :
    lower (strip s) = lower (strip t) := by
  have small (s : String) : lowerFrom [] (s.toList.map Char.toLower) = lowerFrom [] s.toList :=
    lowerFrom_map_toLower [] s.toList
  rw [lower, lower, ← small, ← small (strip t), h]

end Astrolabe.Text
