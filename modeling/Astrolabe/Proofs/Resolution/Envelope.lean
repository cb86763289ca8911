import Astrolabe.Proofs.Datum.Finite
import Astrolabe.Proofs.Resolution.Grammar

/-!
Envelopes without infinities and NaNs. An envelope is what is told of a request but for the numbers
that are not finite, which are dropped at whatever depth they stand; nothing else is changed. The
inputs of the request are told with the first step of the record.
-/

namespace Astrolabe

namespace Solver

section

variable {s : Solver} {id : String} {inputs : List (String × Datum)}

theorem PosedSteps.begins {result : Except Failure Problem} {posed : Trace}
    (h : PosedSteps s id inputs result posed) : posed.head? = some (.inputs id inputs) := by
  cases h <;> rfl

theorem SolvedSteps.begins {result : Except Failure (Problem × Float)} {steps : Trace}
    (h : SolvedSteps s id inputs result steps) : steps.head? = some (.inputs id inputs) := by
  cases h with
  | unposed posing => exact posing.begins
  | unsolved posing solving => exact posing.begins
  | solved posing solving =>
      rw [List.head?_append, posing.begins]
      rfl

theorem RequestSteps.begins {outcome : Except Refusal Answer} {trace : Trace}
    (h : RequestSteps s id inputs outcome trace) : trace.head? = some (.inputs id inputs) := by
  cases h with
  | refused unsolved =>
      rw [List.head?_append, unsolved.begins]
      rfl
  | answered solved symbol checks displays =>
      rw [List.head?_append, solved.begins]
      rfl

/-- The record of a request begins with its inputs. -/
theorem begins_of_tryResolve (keys : (inputs.map Prod.fst).Nodup) {r : Resolution}
    (h : s.tryResolve id inputs = .ok r) : r.trace.head? = some (.inputs id inputs) := by
  unfold tryResolve at h
  split at h
  next answered =>
    cases h
    exact (resolve_steps keys answered).begins
  next refused =>
    cases h
    exact (RequestSteps.refused (resolve_steps_of_refused keys refused)).begins
  next => cases h

end

end Solver

namespace Resolution

open Datum

/-- What is told of a request, numbers that are not finite included. -/
def told (r : Resolution) : Datum :=
  let trace : Datum := .list (r.trace.map Trace.Step.toDatum)
  match r.outcome with
  | .ok a =>
    .map [("ok", .bool true), ("result", a.toDatum), ("error", .null), ("error_kind", .null),
      ("trace", trace)]
  | .error e =>
    .map [("ok", .bool false), ("result", .null), ("error", .text e.message),
      ("error_kind", .text e.kind), ("trace", trace)]

theorem toDatum_eq (r : Resolution) : r.toDatum = r.told.finite := by
  obtain ⟨outcome, trace⟩ := r
  cases outcome <;> rfl

/-- Where the inputs of a request stand in its envelope: in the record, the fifth entry, with the
details of the first step. -/
def inputsPlace : List Nat :=
  [4, 0, 1, 1]

theorem told_at?_inputsPlace {r : Resolution} {id : String} {inputs : List (String × Datum)}
    (h : r.trace.head? = some (.inputs id inputs)) :
    r.told.at? inputsPlace = some (.map inputs) := by
  obtain ⟨outcome, trace⟩ := r
  obtain ⟨rest, rfl⟩ := List.head?_eq_some_iff.mp h
  cases outcome <;> rfl

/-- The envelope of a request is the one value that has at each place what is told there, but for
numbers that are not finite: these are dropped, maps keep their keys and lists their length, and all
else is unchanged. So no number in it is infinite or NaN, and nothing is left to be dropped. This
holds of the inputs, which are told as they were given. -/
theorem toDatum_cleaned (r : Resolution) :
    (∀ value, Cleaned r.told value ↔ value = r.toDatum) ∧ r.toDatum.AllFinite ∧
      r.toDatum.finite = r.toDatum ∧
      ∀ (s : Solver) (id : String) (inputs : List (String × Datum)),
        (inputs.map Prod.fst).Nodup → s.tryResolve id inputs = .ok r →
          ∃ echo, r.toDatum.at? inputsPlace = some echo ∧ Cleaned (.map inputs) echo := by
  rw [toDatum_eq]
  refine ⟨fun value => cleaned_iff, allFinite_finite _, finite_finite _, ?_⟩
  intro s id inputs keys answered
  have given := told_at?_inputsPlace (Solver.begins_of_tryResolve keys answered)
  refine ⟨(Datum.map inputs).finite, ?_, cleaned_finite _⟩
  rw [at?_finite, given, Option.map_some]

/-- Numbers that are not finite, deep in an input that is ignored. -/
theorem albedo_toDatum_cleaned :
    ([("F_reflected", Datum.text "300"), ("F_incident", .text "0"), ("note",
        .list [.float Number.nan, .map [("deep", .float Number.infinity)], .int 3])].map
          Prod.fst).Nodup ∧
      ∃ r, Solver.packaged.tryResolve "albedo"
          [("F_reflected", .text "300"), ("F_incident", .text "0"), ("note",
            .list [.float Number.nan, .map [("deep", .float Number.infinity)], .int 3])] = .ok r ∧
        r.toDatum.at? inputsPlace = some (.map
          [("F_reflected", .text "300"), ("F_incident", .text "0"),
            ("note", .list [.null, .map [("deep", .null)], .int 3])]) := by
  refine ⟨by decide, ?_⟩
  have envelope : (Solver.packaged.tryResolve "albedo"
      [("F_reflected", .text "300"), ("F_incident", .text "0"), ("note",
        .list [.float Number.nan, .map [("deep", .float Number.infinity)], .int 3])]).isOk =
          true := by
    decide +kernel
  obtain ⟨r, answered⟩ := Except.exists_of_isOk envelope
  obtain ⟨echo, found, cleaned⟩ := (toDatum_cleaned r).2.2.2 _ _ _ (by decide) answered
  refine ⟨r, answered, found.trans ?_⟩
  rw [cleaned.eq_finite]
  have nan : Number.nan.isFinite = false := by decide +kernel
  have infinity : Number.infinity.isFinite = false := by decide +kernel
  simp only [finite, finiteEntries, finiteItems, nan, infinity, Bool.false_eq_true, if_false]

end Resolution

end Astrolabe
