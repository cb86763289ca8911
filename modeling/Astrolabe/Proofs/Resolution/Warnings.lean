import Astrolabe.Proofs.Resolution.Canonical

/-!
The warnings of an answer. They are told from its record, where a fallback stands for each value
without a conversion. So there is one for each selected field that is not converted, in the order of
the variables, and after them one if the solution misses the relation.
-/

namespace Astrolabe

theorem Trace.kinds_append (t t' : Trace) : (t ++ t').kinds = t.kinds ++ t'.kinds :=
  List.map_append

/-- What is read from the field that is selected for a variable. -/
structure Reading where
  quantity : Variable
  selection : Selection
  parsed : Float
  canonical : Float

namespace Reading

def field (r : Reading) : Variable × Selection :=
  (r.quantity, r.selection)

def known (r : Reading) : String × Float :=
  (r.quantity.symbol, r.canonical)

/-- What is read, converted to the unit of the variable. -/
def converted? (r : Reading) : Option Float :=
  Unit.convert r.parsed (Solver.sourceUnit r.selection) r.quantity.unit

/-- The warning for what has no conversion. -/
def warning? (r : Reading) : Option String :=
  match r.converted? with
  | some _ => none
  | none =>
    some ("No conversion from " ++ Solver.sourceUnit r.selection ++ " to " ++ r.quantity.unit ++
      "; value used as entered")

/-- The canonical value is that of the conversion, or what is read where there is none. -/
structure Sound (r : Reading) : Prop where
  read : r.selection.read = .ok (some r.parsed)
  canonical : r.canonical = r.converted?.getD r.parsed

end Reading

namespace Solver

open Recorded

/-! Readings of the fields on record. -/

section

variable {f : Formula} {v : Variable} {selection : Selection}

/-- That a field is not blank, so that a value is read from it or a refusal. -/
def Filled (selection : Selection) : Prop :=
  selection.read = (Entry.value selection.entry).map some

theorem FieldSteps.exists_reading {y : Float} {group : Trace}
    (h : FieldSteps f v selection (.ok y) group) (filled : Filled selection) :
    ∃ r : Reading, r.field = (v, selection) ∧ r.known = (v.symbol, y) ∧ r.Sound ∧
      group.fallbackWarnings = r.warning?.toList := by
  cases h with
  | @canonical x _ fallbacks read conversion range =>
      have given : selection.read = .ok (some x) := by
        rw [filled, read]
        rfl
      refine ⟨⟨v, selection, x, y⟩, rfl, rfl, ⟨given, ?_⟩, ?_⟩
      · rw [Reading.converted?]
        cases conversion with
        | converted convert => rw [convert, Option.getD_some]
        | fallback none => rw [none, Option.getD_none]
      · rw [Reading.warning?, Reading.converted?]
        cases conversion with
        | converted convert =>
            rw [convert]
            rfl
        | fallback none =>
            rw [none]
            rfl

/-- There is a reading of each field, and the warnings on record are theirs. -/
theorem SeriesSteps.exists_readings {fields : List (Variable × Selection)}
    {known : List (String × Float)} {groups : List Trace}
    (h : SeriesSteps f fields (.ok known) groups) (filled : ∀ field ∈ fields, Filled field.2) :
    ∃ readings : List Reading, readings.map Reading.field = fields ∧
      readings.map Reading.known = known ∧ (∀ r ∈ readings, r.Sound) ∧
      Trace.fallbackWarnings groups.flatten = readings.filterMap Reading.warning? := by
  induction h using SeriesSteps.ok_induction with
  | done => exact ⟨[], rfl, rfl, by simp, rfl⟩
  | next field later ih =>
      obtain ⟨here, others⟩ := List.forall_mem_cons.mp filled
      obtain ⟨r, same, known, sound, warning⟩ := field.exists_reading here
      obtain ⟨readings, fields, knowns, sounds, warnings⟩ := ih others
      refine ⟨r :: readings, ?_, ?_, List.forall_mem_cons.mpr ⟨sound, sounds⟩, ?_⟩
      · rw [List.map_cons, same, fields]
      · rw [List.map_cons, known, knowns]
      · rw [List.flatten_cons, Trace.fallbackWarnings_append, warning, warnings]
        cases found : r.warning? <;> simp [found]

end

/-! Answers. -/

/-- What an answer comes from: what is read from the selected fields of its formula, and how far the
solution is from the relation, if there is one. -/
structure Account (s : Solver) (id : String) (inputs : List (String × Datum)) (a : Answer)
    (t : Trace) (f : Formula) (readings : List Reading) (residual : Option Float) : Prop where
  fields : readings.map Reading.field = selections f inputs
  sound : ∀ r ∈ readings, r.Sound
  recorded : t.canonicalInputs = numbers (readings.map Reading.known)
  solved : s.solve id a.symbol (readings.map Reading.known) = .ok a.value
  checked : f.residual (fun symbol =>
    List.lookup symbol ((a.symbol, a.value) :: readings.map Reading.known)) = .ok residual
  related : residual = none ↔ f.relation.isEmptyLike = true
  warnings : a.warnings = readings.filterMap Reading.warning? ++
    ((residual.filter fun r => r.isFinite && r > tolerance).map (mismatchWarning f)).toList
  told : a.residual = residual.filter Float.isFinite
  untold : a.residual = none ↔
    f.relation.isEmptyLike = true ∨ ∃ r, residual = some r ∧ r.isFinite = false
  unchecked : "relation_unchecked" ∈ t.kinds ↔ ∃ r, residual = some r ∧ r.isFinite = false

variable {s : Solver} {id : String} {inputs : List (String × Datum)}

theorem filled_of_mem_selections {f : Formula} :
    ∀ field ∈ selections f inputs, Filled field.2 :=
  fun _ mem => read_of_selectionFor (mem_selections_iff.mp mem).2

theorem answer_warnings (p : Problem) (x : Float) (fallbacks : List String)
    (residual : Option Float) (display : Option (Unit.Shown Float)) :
    (answer p x fallbacks (residual.filter Float.isFinite) display).warnings = fallbacks ++
      ((residual.filter fun r => r.isFinite && r > tolerance).map
        (mismatchWarning p.formula)).toList := by
  refine congrArg (fallbacks ++ ·) ?_
  cases residual with
  | none => rfl
  | some r =>
      by_cases finite : r.isFinite = true
      · by_cases large : r > tolerance <;> simp [Option.filter_some, finite, large]
      · simp [Option.filter_some, finite]

/-- A step tells that the relation was not checked just where the residual is not finite. -/
theorem CheckSteps.unchecked_iff {f : Formula} {residual : Option Float} {check : Trace}
    (related : residual = none ↔ f.relation.isEmptyLike = true)
    (h : CheckSteps f (residual.filter Float.isFinite) check) :
    "relation_unchecked" ∈ check.kinds ↔ ∃ r, residual = some r ∧ r.isFinite = false := by
  generalize told : residual.filter Float.isFinite = outcome at h
  cases h with
  | unrelated empty =>
      rw [related.mpr empty]
      simp [Trace.kinds]
  | checked _ r =>
      obtain ⟨rfl, finite⟩ := Option.filter_eq_some_iff.mp told
      simp [Trace.kinds, Trace.Step.kind, finite]
  | unchecked some =>
      cases residual with
      | none => simp [related.mp rfl] at some
      | some r =>
          rw [Option.filter_eq_none_iff] at told
          simpa [Trace.kinds, Trace.Step.kind] using told

theorem DisplaySteps.unchecked_not_mem {shown : Option (Unit.Shown Float)} {display : Trace}
    (h : DisplaySteps shown display) : "relation_unchecked" ∉ display.kinds := by
  cases h <;> simp [Trace.kinds, Trace.Step.kind]

theorem unchecked_not_mem_completedSteps {p : Problem} {x : Float} {ignored : Trace}
    {groups : List Trace} (kinds : ∀ step ∈ ignored, step.kind = "inputs_ignored")
    {result : Except Failure (List (String × Float))} {fields : List (Variable × Selection)}
    (series : SeriesSteps p.formula fields result groups) :
    "relation_unchecked" ∉ (completedSteps id inputs p x ignored groups).kinds := by
  simp only [completedSteps, Trace.kinds, List.mem_map, List.mem_append, List.mem_singleton]
  rintro ⟨step, opening | field | rfl, same⟩
  · exact Trace.kind_ne (openingSteps_kind kinds) (by decide) step opening same
  · exact Trace.kind_ne series.kind (by decide) step field same
  · simp [Trace.Step.kind] at same

/-- An answer and its record, by the problem that is solved and its residual. -/
theorem resolve_answered {a : Answer} {t : Trace}
    (run : (s.resolve id inputs).run.run [] = (.ok a, t)) :
    ∃ p x inversion ignored groups residual check display,
      s.formula id = .ok (p.formula, inversion) ∧ s.solve id p.unknown p.known = .ok x ∧
      (∀ step ∈ ignored, step.kind = "inputs_ignored") ∧
      SeriesSteps p.formula (selections p.formula inputs) (.ok p.known) groups ∧
      p.formula.residual (p.completed x) = .ok residual ∧
      a = answer p x (Trace.fallbackWarnings groups.flatten) (residual.filter Float.isFinite)
        (Unit.display? x p.unit) ∧
      CheckSteps p.formula (residual.filter Float.isFinite) check ∧
      DisplaySteps a.display display ∧
      t = completedSteps id inputs p x ignored groups ++ (check ++ display) := by
  obtain ⟨p, x, -, completed, -, -⟩ := resolve_answer run
  obtain ⟨inversion, ignored, groups, found, solved, kinds, series, adds⟩ :=
    complete_adds_of_completion completed
  rw [resolve_eq, run_bind, adds [], List.nil_append] at run
  have concluding : (conclude p x).run.run (completedSteps id inputs p x ignored groups) =
      (.ok a, t) := run
  have told := adds.told (complete_yields s id inputs)
  obtain ⟨warnings, outcome, warned, checking, same, -⟩ := conclude_answer concluding
  rw [mapM_fallbackWarning told, fallbackWarnings_completedSteps kinds] at warned
  cases warned
  obtain ⟨residual, measured, filtered⟩ := Except.bind_eq_ok_iff.mp checking
  cases filtered
  obtain ⟨-, -, check, display, rfl, checks, displays⟩ :=
    settle_adds ((conclude_run_of_told told).symm.trans concluding)
  rw [same, answer_residual] at checks
  exact ⟨p, x, inversion, ignored, groups, residual, check, display, found, solved, kinds, series,
    Except.mapError_eq_ok_iff.mp measured, same, checks, displays, rfl⟩

/-- The warnings of an answer are, in the order of the variables, one for each selected field that
is not converted, whose value is then taken as it is read, and after them one if the residual is
finite and above the tolerance. The residual is told unless there is no relation or it is not
finite, which is on record. -/
theorem resolve_warnings (s : Solver) (id : String) (inputs : List (String × Datum)) (a : Answer)
    (t : Trace) (run : (s.resolve id inputs).run.run [] = (.ok a, t)) :
    ∃ f inversion readings residual, s.formula id = .ok (f, inversion) ∧
      Account s id inputs a t f readings residual := by
  obtain ⟨p, x, inversion, ignored, groups, residual, check, display, found, solved, kinds, series,
    measured, same, checks, displays, rfl⟩ := resolve_answered run
  obtain ⟨readings, fields, known, sound, fallbacks⟩ :=
    series.exists_readings filled_of_mem_selections
  have related : residual = none ↔ p.formula.relation.isEmptyLike = true := by
    rw [← Option.isNone_iff_eq_none, ← Option.not_isSome, isSome_residual measured, Bool.not_not]
  have closing : ∀ step ∈ check ++ display, step.kind ∈ closingKinds :=
    List.forall_mem_append.mpr ⟨checks.kind, displays.kind⟩
  refine ⟨p.formula, inversion, readings, residual, found, fields, sound, ?_, ?_, ?_, related,
    ?_, ?_, ?_, ?_⟩
  · rw [Trace.canonicalInputs_append, canonicalInputs_of_closing closing, List.append_nil,
      canonicalInputs_completedSteps kinds, series.canonicalInputs, known]
  · rw [same, known]
    exact solved
  · rw [same, known]
    exact measured
  · rw [same, ← fallbacks]
    exact answer_warnings ..
  · rw [same, answer_residual]
  · rw [same, answer_residual, ← related]
    cases residual <;> simp
  · rw [← checks.unchecked_iff related, Trace.kinds_append, Trace.kinds_append, List.mem_append,
      List.mem_append, or_iff_right (unchecked_not_mem_completedSteps kinds series),
      or_iff_left displays.unchecked_not_mem]

/-- A flux in furlongs is taken as it is read, and the answer warns of that alone. -/
theorem albedo_resolve_warnings :
    ∃ a t, (packaged.resolve "albedo" [("F_reflected", .map [("furlongs", .text "300")]),
        ("F_incident", .text "1000")]).run.run [] = (.ok a, t) ∧
      a.warnings = ["No conversion from furlongs to W/m²; value used as entered"] ∧
      ∃ f inversion readings residual, packaged.formula "albedo" = .ok (f, inversion) ∧
        Account packaged "albedo" [("F_reflected", .map [("furlongs", .text "300")]),
          ("F_incident", .text "1000")] a t f readings residual := by
  have answered : ((packaged.resolve "albedo" [("F_reflected", .map [("furlongs", .text "300")]),
      ("F_incident", .text "1000")]).run.run []).1.toOption.map Answer.warnings =
        some ["No conversion from furlongs to W/m²; value used as entered"] := by
    decide +kernel
  obtain ⟨a, t, run, warned⟩ := Except.exists_of_run answered
  exact ⟨a, t, run, warned, resolve_warnings packaged _ _ a t run⟩

end Solver

end Astrolabe
