import Astrolabe.Text.Compatibility

/-!
Names that are their own compatibility form: those in ASCII, and the letter pi.
-/

namespace Astrolabe.Text

theorem compatibilityForm_of_ascii {s : String} (ascii : ∀ c ∈ s.toList, c.toNat < 128) :
    compatibilityForm s = s := by
  rw [compatibilityForm, if_pos]
  exact List.all_eq_true.mpr fun c mem => decide_eq_true (ascii c mem)

/-- A letter that the tables do not list stands for itself. -/
theorem decompose_of_absent {code : Nat} (noSyllable : Hangul.letters? code = none)
    (noSubstitute : substituteRuns.toList.all (fun run => (run.image? code).isNone) = true)
    (noSequence : decompositions.toList.all (fun entry => entry.1 != code) = true) :
    decompose code = [code] := by
  have substitute : substituteRuns.findSome? (·.image? code) = none :=
    Array.findSome?_eq_none_iff.mpr fun run mem =>
      Option.isNone_iff_eq_none.mp
        (List.all_eq_true.mp noSubstitute run (Array.mem_toList_iff.mpr mem))
  have sequence : decompositions.find? (fun entry => entry.1 == code) = none :=
    Array.find?_eq_none.mpr fun entry mem => by
      have apart := List.all_eq_true.mp noSequence entry (Array.mem_toList_iff.mpr mem)
      simpa using apart
  rw [decompose, noSyllable, substitute, sequence]
  split <;> rfl

theorem compatibilityForm_singleton {c : Char} (h : decompose c.toNat = [c.toNat]) :
    compatibilityForm (String.ofList [c]) = String.ofList [c] := by
  rw [compatibilityForm, String.toList_ofList]
  split
  next => rfl
  next =>
    rw [List.flatMap_singleton, h]
    change String.ofList [Char.ofNat c.toNat] = _
    rw [Char.ofNat_toNat]

theorem compatibilityForm_pi (c : Char) (h : c = 'π' ∨ c = 'Π') :
    compatibilityForm (String.ofList [c]) = String.ofList [c] := by
  refine compatibilityForm_singleton ?_
  obtain rfl | rfl := h <;>
    exact decompose_of_absent (by decide) (by decide +kernel) (by decide +kernel)

end Astrolabe.Text
