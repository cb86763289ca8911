import Astrolabe.Text.Digit
import Astrolabe.Text.Identifier
import Astrolabe.Proofs.Text.Lowercase

/-!
Decimal digits of all scripts. Outside ASCII no digit begins a name.
-/

namespace Astrolabe.Text

theorem ascii_isDigit_iff {c : Char} : c.isDigit = true ↔ 48 ≤ c.toNat ∧ c.toNat ≤ 57 := by
  simp only [Char.isDigit, Bool.and_eq_true, decide_eq_true_eq]
  rfl

theorem ascii_isDigit_of_outside {c : Char} (outside : 128 ≤ c.toNat) : c.isDigit = false := by
  refine Bool.eq_false_iff.mpr fun digit => ?_
  have := ascii_isDigit_iff.mp digit
  omega

/-- The digits of a script outside ASCII follow its zero. -/
theorem digitValue?_eq_some {c : Char} {value : Nat} (outside : 128 ≤ c.toNat)
    (h : digitValue? c = some value) :
    ∃ base ∈ digitZeros, c.toNat = base + value ∧ value < 10 := by
  rw [digitValue?, ascii_isDigit_of_outside outside, if_neg Bool.false_ne_true,
    if_neg (by omega)] at h
  split at h
  next base among =>
    have near := Array.find?_some among
    simp only [Bool.and_eq_true, decide_eq_true_eq] at near
    cases h
    exact ⟨base, Array.mem_of_find?_eq_some among, by omega, by omega⟩
  next => cases h

/-- No script has its digits among the characters that begin a name. -/
theorem digitZeros_apart :
    (digitZeros.toList.all fun base =>
      nameStartRanges.toList.all fun range =>
        Nat.ble (range.2 + 1) base || Nat.ble (base + 10) range.1) = true := by
  decide +kernel

theorem isNameStart_of_isDigit {c : Char} (outside : 128 ≤ c.toNat) (digit : isDigit c = true) :
    isNameStart c = false := by
  obtain ⟨value, found⟩ := Option.isSome_iff_exists.mp digit
  obtain ⟨base, mem, code, small⟩ := digitValue?_eq_some outside found
  rw [isNameStart, if_neg (by omega), inRanges, Array.any_eq_false]
  intro i lt
  have apart := List.all_eq_true.mp
    (List.all_eq_true.mp digitZeros_apart base (Array.mem_toList_iff.mpr mem))
    nameStartRanges[i] (Array.mem_toList_iff.mpr (Array.getElem_mem lt))
  simp only [Bool.or_eq_true, Nat.ble_eq] at apart
  simp only [Bool.and_eq_true, decide_eq_true_eq]
  omega

end Astrolabe.Text
