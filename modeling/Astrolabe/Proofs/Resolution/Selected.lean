import Astrolabe.Proofs.Resolution.Shared

/-!
What a request comes to is settled by the fields that are selected. Requests with the same selected
fields come to the same, and are on record alike but for the inputs as they were given and the
symbols that were ignored. So whatever leaves the selected fields as they are changes nothing.
-/

namespace Astrolabe

namespace Solver

open Recorded Selection

/-- A change of the inputs of a formula that leaves the selected fields as they are. -/
inductive Harmless (f : Formula) : List (String × Datum) → List (String × Datum) → Prop
  | foreign {before after : List (String × Datum)} {symbol : String} {entry : Datum}
      (foreign : symbol ∉ f.symbols) :
      Harmless f (before ++ (symbol, entry) :: after) (before ++ after)
  | reordered {inputs inputs' : List (String × Datum)} (distinct : (inputs.map Prod.fst).Nodup)
      (perm : inputs.Perm inputs') : Harmless f inputs inputs'
  | vacant {before after : List (String × Datum)} {symbol : String} {entry : Datum}
      (only : symbol ∉ before.map Prod.fst) (vacant : Vacant entry) :
      Harmless f (before ++ (symbol, entry) :: after) (before ++ after)
  | field {before after : List (String × Datum)} {symbol unit : String} {entry : Datum}
      {first second : Fields}
      (alone : ∀ other ∈ first ++ second, Unit.normalize other.1 ≠ Unit.normalize unit)
      (passed : ∀ v ∈ f.vars, v.symbol = symbol →
        ofFields v.unit (first ++ (unit, entry) :: second) ≠ some ⟨unit, entry⟩) :
      Harmless f (before ++ (symbol, .map (first ++ (unit, entry) :: second)) :: after)
        (before ++ (symbol, .map (first ++ second)) :: after)

variable {s : Solver} {id : String} {f : Formula} {inputs inputs' : List (String × Datum)}

/-- Inputs with the same selected fields. -/
def SameSelections (f : Formula) (inputs inputs' : List (String × Datum)) : Prop :=
  ∀ v ∈ f.vars, selectionFor inputs v = selectionFor inputs' v

theorem Harmless.sameSelections (h : Harmless f inputs inputs') :
    SameSelections f inputs inputs' := by
  intro v hv
  cases h with
  | @foreign before after symbol entry foreign =>
      have other : symbol ≠ v.symbol := fun same => foreign (same ▸ List.mem_map_of_mem hv)
      rw [selectionFor, selectionFor, Datum.lookup?_drop other]
  | reordered distinct perm => rw [selectionFor, selectionFor, Datum.lookup?_perm distinct perm]
  | @vacant before after symbol entry only vacant =>
      by_cases same : symbol = v.symbol
      · rw [same] at only
        rw [selectionFor, selectionFor, Datum.lookup?_append, Datum.lookup?_append,
          Datum.lookup?_cons, if_pos same, Datum.lookup?_eq_none_iff.mpr only, Option.or_none,
          Option.or_none]
        cases Datum.lookup? v.symbol after with
        | some entry => rfl
        | none => exact vacant.ofInput_eq_none v.unit
      · rw [selectionFor, selectionFor, Datum.lookup?_drop same]
  | @field before after symbol unit entry first second alone passed =>
      rw [selectionFor, selectionFor, Datum.lookup?_append, Datum.lookup?_append,
        Datum.lookup?_cons, Datum.lookup?_cons]
      by_cases same : symbol = v.symbol
      · rw [if_pos same, if_pos same]
        cases Datum.lookup? v.symbol after with
        | some entry => rfl
        | none => exact ofFields_drop alone (passed v hv same.symm)
      · rw [if_neg same, if_neg same]

theorem sameSelections_of_harmless (h : Relation.EqvGen (Harmless f) inputs inputs') :
    SameSelections f inputs inputs' := by
  induction h with
  | rel _ _ harmless => exact harmless.sameSelections
  | refl _ => exact fun _ _ => rfl
  | symm _ _ _ ih => exact fun v hv => (ih v hv).symm
  | trans _ _ _ _ _ ih ih' => exact fun v hv => (ih v hv).trans (ih' v hv)

theorem SameSelections.selections_eq (h : SameSelections f inputs inputs') :
    selections f inputs = selections f inputs' :=
  List.filterMap_congr fun v hv => by rw [h v hv]

/-- Two requests that come to the same and are on record alike, but for the inputs as they were
given and the symbols that were ignored. -/
def Alike (s : Solver) (id : String) (inputs inputs' : List (String × Datum)) : Prop :=
  ∃ result ignored ignored' rest,
    (s.resolve id inputs).run.run [] = (result, .inputs id inputs :: (ignored ++ rest)) ∧
    (s.resolve id inputs').run.run [] = (result, .inputs id inputs' :: (ignored' ++ rest)) ∧
    ∀ step ∈ ignored ++ ignored', step.kind = "inputs_ignored"

theorem fallbackWarnings_openingSteps {ignored : Trace}
    (h : ∀ step ∈ ignored, step.kind = "inputs_ignored") :
    (openingSteps id inputs f ignored).fallbackWarnings = [] :=
  Trace.fallbackWarnings_eq_nil (Trace.kind_ne (openingSteps_kind h) (by decide))

theorem formula_eq_ok {inversion : Inversion} (found : s.formula id = .ok (f, inversion)) :
    s.catalog.get? id = some f := by
  unfold formula at found
  split at found
  next here _ =>
    cases found
    exact here
  next => cases found

/-- A request comes to what its selected fields do, and the steps that follow their selection
depend on these fields alone. -/
theorem resolve_run_of_pursue {inversion : Inversion} (found : s.formula id = .ok (f, inversion))
    {result : Except Failure (Problem × Float)} {added : Trace}
    (pursued : Adds (pursue s id f inputs) result added) {more : Trace}
    (concludes : Concludes result more) :
    ∃ ignored, (∀ step ∈ ignored, step.kind = "inputs_ignored") ∧
      (s.resolve id inputs).run.run [] =
        (result >>= concluded added.fallbackWarnings,
          openingSteps id inputs f ignored ++ added ++ more) := by
  obtain ⟨ignored, noted, kinds⟩ := noteIgnored_adds_some f inputs
  have adds := complete_adds_of_pursue found noted pursued
  have answers := concludes.answers adds (adds.told (complete_yields s id inputs))
  rw [Trace.fallbackWarnings_append, fallbackWarnings_openingSteps kinds,
    List.nil_append] at answers
  exact ⟨ignored, kinds, by rw [resolve_eq]; exact answers.run_nil⟩

theorem alike_of_sameSelections
    (same : ∀ f, s.catalog.get? id = some f → SameSelections f inputs inputs') :
    Alike s id inputs inputs' := by
  cases found : s.formula id with
  | error r =>
      have refused (given : List (String × Datum)) : (s.resolve id given).run.run [] =
          (.error (.refused r), [.inputs id given]) := by
        rw [resolve, found]
        rfl
      exact ⟨_, [], [], [], refused inputs, refused inputs', by simp⟩
  | ok pair =>
      obtain ⟨f, inversion⟩ := pair
      have selected := (same f (formula_eq_ok found)).selections_eq
      obtain ⟨result, added, pursued⟩ := pursue_adds s id f inputs
      obtain ⟨more, concludes⟩ := exists_concludes result
      have pursued' : Adds (pursue s id f inputs') result added := by
        have values : hasValue f inputs' = hasValue f inputs :=
          funext fun _ => by rw [hasValue, hasValue, selected]
        have asked : ask f inputs' = ask f inputs := by
          rw [ask, ask, values, selected]
        rwa [pursue, asked]
      obtain ⟨ignored, kinds, run⟩ := resolve_run_of_pursue found pursued concludes
      obtain ⟨ignored', kinds', run'⟩ := resolve_run_of_pursue found pursued' concludes
      rw [openingSteps] at run
      rw [openingSteps, ← selected] at run'
      simp only [List.cons_append, List.append_assoc] at run run'
      exact ⟨_, _, _, _, run, run', List.forall_mem_append.mpr ⟨kinds, kinds'⟩⟩

/-- What a request comes to, in all that an answer tells or in its failure, depends on the selected
fields only; and so it does not depend on symbols that are no variables, on the order of symbols,
on what is blank or missing, or on fields that are passed over for the selected ones. -/
theorem resolve_alike (s : Solver) (id : String) (inputs inputs' : List (String × Datum)) :
    ((∀ f, s.catalog.get? id = some f → ∀ v ∈ f.vars,
        selectionFor inputs v = selectionFor inputs' v) → Alike s id inputs inputs') ∧
      ((∀ f, s.catalog.get? id = some f → Relation.EqvGen (Harmless f) inputs inputs') →
        Alike s id inputs inputs') :=
  ⟨alike_of_sameSelections,
    fun harmless => alike_of_sameSelections fun f found =>
      sameSelections_of_harmless (harmless f found)⟩

/-- A symbol that is not of the formula and the order of the others make no difference. -/
theorem albedo_alike :
    Alike packaged "albedo"
      [("F_reflected", .text "300"), ("G", .text "1"), ("F_incident", .text "1000")]
      [("F_incident", .text "1000"), ("F_reflected", .text "300")] := by
  refine (resolve_alike packaged "albedo" _ _).2 fun f found => ?_
  have albedo : packaged.catalog.get? "albedo" = some Catalog.Planets.albedo := rfl
  obtain rfl := Option.some.inj (albedo.symm.trans found)
  have dropped := @Harmless.foreign Catalog.Planets.albedo [("F_reflected", .text "300")]
    [("F_incident", .text "1000")] "G" (.text "1") (by decide)
  exact .trans _ _ _ (.rel _ _ dropped) (.rel _ _ (.reordered (by decide) (.swap _ _ [])))

end Solver

end Astrolabe
