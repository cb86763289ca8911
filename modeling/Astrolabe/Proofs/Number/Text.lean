import Astrolabe.Unit.Display
import Astrolabe.Proofs.Number.Magnitude

/-!
The characters of written numbers. A finite double is written with digits, signs, a point and the
letter of the exponent; the names of infinities and NaN have other letters.
-/

namespace Astrolabe.Number

open Binary64

/-- The characters of a decimal number. -/
def isNumeric (c : Char) : Bool :=
  c.isDigit || c == '-' || c == '+' || c == '.' || c == 'e'

/-- A text that is written as a decimal number is. -/
def Numeric (s : String) : Prop := ∀ c ∈ s.toList, isNumeric c = true

instance (s : String) : Decidable (Numeric s) :=
  decidable_of_iff (s.toList.all isNumeric = true) List.all_eq_true

theorem Numeric.append {s t : String} (hs : Numeric s) (ht : Numeric t) : Numeric (s ++ t) := by
  intro c mem
  rw [String.toList_append, List.mem_append] at mem
  exact mem.elim (hs c) (ht c)

theorem numeric_toString (n : Nat) : Numeric (toString n) := by
  intro c mem
  rw [Nat.toString_eq_ofList_toDigits, String.toList_ofList] at mem
  simp [isNumeric, Nat.isDigit_of_mem_toDigits (by decide) (by decide) mem]

theorem numeric_padded (width n : Nat) : Numeric (padded width n) := by
  refine Numeric.append (fun c mem => ?_) (numeric_toString n)
  rw [String.toList_ofList] at mem
  rw [List.eq_of_mem_replicate mem]
  rfl

theorem numeric_exponentText (e : Int) : Numeric (exponentText e) := by
  refine Numeric.append ?_ (numeric_padded 2 _)
  split <;> decide

theorem numeric_unitsText (places units : Nat) : Numeric (unitsText places units) := by
  unfold unitsText
  split
  next => exact numeric_toString units
  next =>
    refine Numeric.append (Numeric.append (numeric_toString _) ?_) (numeric_padded _ _)
    decide

theorem numeric_scientificText (num den places : Nat) :
    Numeric (scientificText num den places) := by
  unfold scientificText
  split
  next => exact (numeric_unitsText _ _).append (numeric_exponentText _)
  next => exact (numeric_unitsText _ _).append (numeric_exponentText _)

/-- A double that is written by a layout of numerals is finite just where its text is one. -/
theorem numeric_withSign_iff {layout : Nat → Nat → String}
    (numeric : ∀ num den, Numeric (layout num den)) (x : Float) :
    Numeric (withSign layout x) ↔ x.isFinite = true := by
  unfold withSign
  split
  next d finite =>
    refine iff_of_true (Numeric.append ?_ (numeric _ _)) ?_
    · split <;> decide
    · exact isFinite_iff.mpr ⟨d.toRat, by rw [toRat?, finite]; rfl⟩
  next infinite =>
    refine iff_of_false ?_ fun finite => ?_
    · split_ifs <;> decide
    · obtain ⟨p, value⟩ := isFinite_iff.mp finite
      rw [toRat?, infinite] at value
      cases value

end Astrolabe.Number

namespace Astrolabe.Unit

open Number Binary64

/-- Numbers for display are written as decimal numbers just where they are finite. -/
theorem numeric_shown_iff (x : Float) : Numeric (shown x) ↔ x.isFinite = true := by
  have positional (places : Nat) : Numeric (fixed places x) ↔ x.isFinite = true :=
    numeric_withSign_iff (fun _ _ => numeric_unitsText _ _) x
  unfold shown
  dsimp only
  split
  next zero =>
    refine iff_of_true ?_ (isFinite_of_beq_zero zero)
    decide
  next =>
    split
    next => exact numeric_withSign_iff (fun _ _ => numeric_scientificText _ _ _) x
    next => split <;> [skip; split] <;> exact positional _

end Astrolabe.Unit
