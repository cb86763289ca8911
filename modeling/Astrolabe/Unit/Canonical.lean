import Astrolabe.Trace
import Astrolabe.Unit.Conversion

/-!
Values in a canonical unit. Where there is no conversion the value is taken as it is, which is on
record.
-/

namespace Astrolabe.Unit

/-- A value in the canonical unit, with the steps that are on record for it. -/
def toCanonical (value : Float) (source canonical : String) : Float × Trace :=
  let asEntered : Float × Trace := (value, [.fallback source canonical value])
  if sameName source canonical then (value, [])
  else
    match rule? source, rule? canonical with
    | some a, some b => if a.compatible b then (a.convert b value, []) else asEntered
    | _, _ => asEntered

/-- A value is taken as it is just where it is not converted. -/
theorem toCanonical_eq (value : Float) (source canonical : String) :
    toCanonical value source canonical =
      match convert value source canonical with
      | some x => (x, [])
      | none => (value, [.fallback source canonical value]) := by
  unfold toCanonical convert convertBy
  dsimp only
  by_cases same : sameName source canonical = true
  · rw [if_pos same, if_pos same]
  · rw [if_neg same, if_neg same]
    cases rule? source with
    | none => rfl
    | some a =>
        cases rule? canonical with
        | none => rfl
        | some b => by_cases alike : a.compatible b = true <;> simp [alike]

end Astrolabe.Unit
