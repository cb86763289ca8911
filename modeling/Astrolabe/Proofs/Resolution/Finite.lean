import Astrolabe.Proofs.Number.Text
import Astrolabe.Proofs.Resolution.Boundary
import Astrolabe.Proofs.Unit.Conversion
import Astrolabe.Proofs.Unit.Display

/-!
The numbers of an answer. The value and the residual are finite. The number for display is so below
a limit that the unit has, and is an infinity from there on.
-/

namespace Astrolabe

namespace Catalog

/-- The units of the variables of the packaged formulas. -/
def packagedUnits : List String :=
  ["meters", "kg", "W/m²", "Kelvin", "years", "J", "W", "parsecs", "radians", "km/s", "arcseconds",
    "Tesla", "Hz", "Gauss", "J/m³", "AU", "seconds", "m/s", "kg/m³", "Pa/m", "N", "magnitude",
    "L_☉", "M_☉", "dimensionless", "km/(s·Mpc)", "Mpc", "m/s²", "particles/energy", "varies",
    "energy units"]

theorem unit_mem_packagedUnits {f : Formula} (hf : f ∈ packaged.formulas) {v : Variable}
    (hv : v ∈ f.vars) : v.unit ∈ packagedUnits := by
  have all : (packaged.formulas.all fun f =>
      f.vars.all fun v => packagedUnits.contains v.unit) = true := by
    decide +kernel
  exact List.contains_iff_mem.mp (List.all_eq_true.mp (List.all_eq_true.mp all f hf) v hv)

theorem limitHolds_of_mem {unit : String} (h : unit ∈ packagedUnits) :
    Unit.limitHolds unit = true := by
  have all : packagedUnits.all Unit.limitHolds = true := by
    unfold Unit.limitHolds Unit.isLimit Unit.coversUpTo Unit.exceedsAt Unit.targets Unit.rules?
      Unit.rule? Unit.sameName Unit.normalizedTargets Unit.normalizedTable
    rw [Unit.normalize_eq_smallName, Text.lower_eq_smallLetters]
    decide +kernel
  exact List.all_eq_true.mp all unit h

end Catalog

namespace Solver

open Number

/-- The value and the residual of an answer to a request of a packaged formula are finite, and so is
the number for display just where the value is below the limit of its unit. Finite numbers are
written as decimal numbers, others are not. -/
theorem packaged_answer_finite {id : String} {inputs : List (String × Datum)} {t t' : Trace}
    {a : Answer} (run : (packaged.resolve id inputs).run.run t = (.ok a, t')) :
    (a.value.isFinite = true ∧ Numeric (Unit.shown a.value)) ∧
      (∀ r, a.residual = some r → r.isFinite = true) ∧
      ∀ shown, a.display = some shown →
        (shown.value.isFinite = true ↔
          ∀ limit, Unit.displayLimits.lookup a.unit = some limit → a.value.abs < limit) ∧
        (Numeric (Unit.shown shown.value) ↔ shown.value.isFinite = true) := by
  obtain ⟨p, x, _, completed, -, concluded⟩ := resolve_answer run
  obtain ⟨warnings, residual, -, checked, rfl, -⟩ := conclude_answer concluded
  obtain ⟨q, posed, solving⟩ := Except.bind_eq_ok_iff.mp completed
  obtain ⟨y, solved, same⟩ := Except.bind_eq_ok_iff.mp solving
  cases same
  obtain ⟨u, hu, -, unit⟩ := (problem_posed posed).2.unit_eq
  have finite := solve_isFinite solved
  have known := Catalog.unit_mem_packagedUnits (packaged_completion_spec completed).1 hu
  have holds : Unit.limitHolds p.unit = true := unit ▸ Catalog.limitHolds_of_mem known
  simp only [answer_value, answer_unit, answer_residual, answer_display]
  refine ⟨⟨finite, (Unit.numeric_shown_iff _).mpr finite⟩, fun r told => ?_, fun shown display =>
    ⟨Unit.display?_isFinite_iff holds finite display, Unit.numeric_shown_iff _⟩⟩
  obtain ⟨_, -, same⟩ := Except.bind_eq_ok_iff.mp checked
  cases same
  exact (Option.filter_eq_some_iff.mp told).2

/-- A size of 5000 meters is shown as a finite number of kilometers. -/
theorem angularSize_answer_finite :
    ∃ a t' shown, (packaged.resolve "angular_size" [("θ", .text "1"), ("D", .text "5000")]).run.run
        [] = (.ok a, t') ∧ a.value.isFinite = true ∧ a.display = some shown ∧
      shown.value.isFinite = true ∧ Numeric (Unit.shown shown.value) := by
  have answered : ((packaged.resolve "angular_size"
      [("θ", .text "1"), ("D", .text "5000")]).run.run []).1.toOption.map (fun a =>
        a.display.isSome && (Unit.displayLimits.lookup a.unit).all fun limit =>
          a.value.abs < limit) = some true := by
    decide +kernel
  obtain ⟨a, t', run, below⟩ := Except.exists_of_run answered
  rw [Bool.and_eq_true, Option.isSome_iff_exists] at below
  obtain ⟨⟨shown, display⟩, below⟩ := below
  obtain ⟨⟨value, -⟩, -, shows⟩ := packaged_answer_finite run
  obtain ⟨limit, numeric⟩ := shows shown display
  have finite : shown.value.isFinite = true := by
    refine limit.mpr fun bound found => ?_
    rw [found] at below
    exact of_decide_eq_true below
  exact ⟨a, t', shown, run, value, display, finite, numeric.mpr finite⟩

/-- A size of 1e300 meters is shown as an infinity of nanometers. -/
theorem angularSize_display_infinite :
    ∃ a t' shown, (packaged.resolve "angular_size" [("θ", .text "1"), ("D", .text "1e300")]).run.run
        [] = (.ok a, t') ∧ a.display = some shown ∧ shown.value.isFinite = false := by
  have answered : ((packaged.resolve "angular_size"
      [("θ", .text "1"), ("D", .text "1e300")]).run.run []).1.toOption.map (fun a =>
        a.display.any fun shown => !shown.value.isFinite) = some true := by
    decide +kernel
  obtain ⟨a, t', run, infinite⟩ := Except.exists_of_run answered
  rw [Option.any_eq_true] at infinite
  obtain ⟨shown, display, value⟩ := infinite
  exact ⟨a, t', shown, run, display, by simpa using value⟩

end Solver

end Astrolabe
