import Astrolabe.Proofs.Catalog
import Astrolabe.Proofs.Resolution.Selected

/-!
Reading entries and converting units is a front end. The canonical values that a request puts on
record, given as plain numbers, are a request with the same answer, but for the warnings of
fallbacks, of which there are none any more.
-/

namespace Astrolabe

namespace Trace

/-- The canonical values on record, as inputs. -/
def canonicalInputs (t : Trace) : List (String × Datum) :=
  t.filterMap fun
    | .converted symbol _ _ value => some (symbol, .float value)
    | _ => none

theorem canonicalInputs_append (t t' : Trace) :
    canonicalInputs (t ++ t') = t.canonicalInputs ++ t'.canonicalInputs :=
  List.filterMap_append ..

theorem canonicalInputs_eq_nil {t : Trace} (h : ∀ s ∈ t, s.kind ≠ "unit_converted") :
    t.canonicalInputs = [] := by
  refine List.filterMap_eq_nil_iff.mpr fun s hs => ?_
  cases s with
  | converted => exact absurd rfl (h _ hs)
  | _ => rfl

end Trace

theorem Unit.convert_self (x : Float) (unit : String) : Unit.convert x unit unit = some x := by
  simp [Unit.convert, Unit.convertBy, Unit.sameName]

namespace Solver

open Recorded

/-- Numbers as inputs. -/
def numbers (known : List (String × Float)) : List (String × Datum) :=
  known.map fun entry => (entry.1, .float entry.2)

theorem numbers_symbols (known : List (String × Float)) :
    (numbers known).map Prod.fst = known.map Prod.fst := by
  rw [numbers, List.map_map]
  rfl

section Steps

variable {f : Formula} {v : Variable} {selection : Selection} {y : Float} {group : Trace}

theorem FieldSteps.canonicalInputs (h : FieldSteps f v selection (.ok y) group) :
    group.canonicalInputs = [(v.symbol, .float y)] := by
  cases h with
  | canonical read conversion range => cases conversion <;> rfl

/-- In a series that succeeds every field is read. -/
theorem SeriesSteps.ok_induction
    {motive : ∀ fields known groups, SeriesSteps f fields (.ok known) groups → Prop}
    (done : motive [] [] [] .done)
    (next : ∀ {v selection rest y known group groups}
      (field : FieldSteps f v selection (.ok y) group)
      (later : SeriesSteps f rest (.ok known) groups), motive rest known groups later →
      motive ((v, selection) :: rest) ((v.symbol, y) :: known) (group :: groups)
        (.next field later))
    {fields : List (Variable × Selection)} {known : List (String × Float)} {groups : List Trace}
    (h : SeriesSteps f fields (.ok known) groups) : motive fields known groups h := by
  suffices ∀ result (h : SeriesSteps f fields result groups) (ok : result = .ok known),
      motive fields known groups (ok ▸ h) from this _ h rfl
  intro result h
  induction h generalizing known with
  | done =>
      intro ok
      cases ok
      exact done
  | failed field => exact fun ok => by cases ok
  | @next v selection rest y result group groups field later ih =>
      intro ok
      obtain _ | others := result
      · cases ok
      · cases ok
        exact next field later (ih later rfl)

theorem SeriesSteps.canonicalInputs {fields : List (Variable × Selection)}
    {known : List (String × Float)} {groups : List Trace}
    (h : SeriesSteps f fields (.ok known) groups) :
    Trace.canonicalInputs groups.flatten = numbers known := by
  induction h using SeriesSteps.ok_induction with
  | done => rfl
  | next field later ih =>
      rw [List.flatten_cons, Trace.canonicalInputs_append, field.canonicalInputs, ih]
      rfl

/-- A field in the canonical unit is converted. -/
theorem FieldSteps.fallbackWarnings (h : FieldSteps f v selection (.ok y) group)
    (plain : sourceUnit selection = v.unit) : group.fallbackWarnings = [] := by
  cases h with
  | canonical read conversion range =>
      cases conversion with
      | converted _ => rfl
      | fallback none =>
          rw [plain, Unit.convert_self] at none
          cases none

theorem SeriesSteps.fallbackWarnings {fields : List (Variable × Selection)}
    {known : List (String × Float)} {groups : List Trace}
    (h : SeriesSteps f fields (.ok known) groups)
    (plain : ∀ field ∈ fields, sourceUnit field.2 = field.1.unit) :
    Trace.fallbackWarnings groups.flatten = [] := by
  induction h using SeriesSteps.ok_induction with
  | done => rfl
  | next field later ih =>
      obtain ⟨here, others⟩ := List.forall_mem_cons.mp plain
      rw [List.flatten_cons, Trace.fallbackWarnings_append, field.fallbackWarnings here, ih others]
      rfl

end Steps

section Completed

variable {s : Solver} {id : String} {inputs : List (String × Datum)}

/-- The steps up to a solution: the fields that are selected, then those of each field, then the
solution. -/
def completedSteps (id : String) (inputs : List (String × Datum)) (p : Problem) (x : Float)
    (ignored : Trace) (groups : List Trace) : Trace :=
  openingSteps id inputs p.formula ignored ++ (groups.flatten ++ [.solved id p.unknown x])

theorem complete_adds_of_completion {p : Problem} {x : Float}
    (completed : s.completion id inputs = .ok (p, x)) :
    ∃ inversion ignored groups, s.formula id = .ok (p.formula, inversion) ∧
      s.solve id p.unknown p.known = .ok x ∧
      (∀ step ∈ ignored, step.kind = "inputs_ignored") ∧
      SeriesSteps p.formula (selections p.formula inputs) (.ok p.known) groups ∧
      Adds (s.complete id inputs) (.ok (p, x)) (completedSteps id inputs p x ignored groups) := by
  obtain ⟨q, posed, solving⟩ := Except.bind_eq_ok_iff.mp completed
  obtain ⟨y, solved, same⟩ := Except.bind_eq_ok_iff.mp solving
  cases same
  obtain ⟨⟨f, inversion⟩, found, posed⟩ := Except.bind_eq_ok_iff.mp posed
  obtain ⟨unknown, count, posed⟩ := Except.bind_eq_ok_iff.mp posed
  obtain ⟨known, read, same⟩ := Except.bind_eq_ok_iff.mp posed
  cases same
  rw [Except.mapError_eq_ok_iff] at found count
  obtain ⟨u, only, rfl⟩ := unknown_eq_ok_iff.mp count
  obtain ⟨groups, asked, series⟩ := ask_adds only
  rw [read] at asked series
  have pursued : Adds (pursue s id f inputs) (.ok (⟨f, u.symbol, known⟩, x))
      (groups.flatten ++ [.solved id u.symbol x]) :=
    asked.bind ((solveRecorded_adds solved).map (Prod.mk (Problem.mk f u.symbol known)))
  obtain ⟨ignored, noted, kinds⟩ := noteIgnored_adds_some f inputs
  exact ⟨inversion, ignored, groups, found, solved, kinds, series,
    complete_adds_of_pursue found noted pursued⟩

variable {p : Problem} {x : Float} {ignored : Trace} {groups : List Trace}
  (kinds : ∀ step ∈ ignored, step.kind = "inputs_ignored")

include kinds

theorem fallbackWarnings_completedSteps :
    (completedSteps id inputs p x ignored groups).fallbackWarnings =
      Trace.fallbackWarnings groups.flatten := by
  rw [completedSteps, Trace.fallbackWarnings_append, Trace.fallbackWarnings_append,
    fallbackWarnings_openingSteps kinds, List.nil_append]
  exact List.append_nil _

theorem canonicalInputs_completedSteps :
    (completedSteps id inputs p x ignored groups).canonicalInputs =
      Trace.canonicalInputs groups.flatten := by
  have opening : Trace.canonicalInputs (openingSteps id inputs p.formula ignored) = [] :=
    Trace.canonicalInputs_eq_nil (Trace.kind_ne (openingSteps_kind kinds) (by decide))
  rw [completedSteps, Trace.canonicalInputs_append, Trace.canonicalInputs_append, opening,
    List.nil_append]
  exact List.append_nil _

end Completed

theorem canonicalInputs_of_closing {t : Trace} (h : ∀ step ∈ t, step.kind ∈ closingKinds) :
    t.canonicalInputs = [] :=
  Trace.canonicalInputs_eq_nil (Trace.kind_ne h (by decide))

/-- The record of a request that is solved, and what comes of it. -/
theorem resolve_run_of_completion {s : Solver} {id : String} {inputs : List (String × Datum)}
    {p : Problem} {x : Float} (completed : s.completion id inputs = .ok (p, x)) :
    ∃ t groups, (s.resolve id inputs).run.run [] = (concluded t.fallbackWarnings (p, x), t) ∧
      SeriesSteps p.formula (selections p.formula inputs) (.ok p.known) groups ∧
      t.canonicalInputs = Trace.canonicalInputs groups.flatten ∧
      t.fallbackWarnings = Trace.fallbackWarnings groups.flatten := by
  obtain ⟨-, ignored, groups, -, -, kinds, series, adds⟩ := complete_adds_of_completion completed
  obtain ⟨more, concludes⟩ := exists_concludes (.ok (p, x))
  have run := (concludes.answers adds (adds.told (complete_yields s id inputs))).run_nil
  have told : Trace.fallbackWarnings more = [] :=
    Trace.fallbackWarnings_eq_nil (Trace.kind_ne concludes.kinds (by decide))
  have warnings : Trace.fallbackWarnings (completedSteps id inputs p x ignored groups ++ more) =
      (completedSteps id inputs p x ignored groups).fallbackWarnings := by
    rw [Trace.fallbackWarnings_append, told, List.append_nil]
  refine ⟨_, groups, by rw [warnings, resolve_eq]; exact run, series, ?_, ?_⟩
  · rw [Trace.canonicalInputs_append, canonicalInputs_of_closing concludes.kinds, List.append_nil,
      canonicalInputs_completedSteps kinds]
  · rw [warnings, fallbackWarnings_completedSteps kinds]

section Numbers

variable {f : Formula} {v : Variable} {known : List (String × Float)} {x : Float}

theorem selectionFor_numbers (distinct : (known.map Prod.fst).Nodup)
    (mem : (v.symbol, x) ∈ known) :
    selectionFor (numbers known) v = some ⟨v.unit, .float x⟩ := by
  have given : (v.symbol, Datum.float x) ∈ numbers known := List.mem_map_of_mem mem
  rw [selectionFor, (Datum.lookup?_eq_some_iff (by rwa [numbers_symbols])).mpr given]
  rfl

theorem selectionFor_numbers_eq_none (absent : v.symbol ∉ known.map Prod.fst) :
    selectionFor (numbers known) v = none := by
  rw [selectionFor, Datum.lookup?_eq_none_iff.mpr (by rwa [numbers_symbols])]
  rfl

/-- A finite number is its own canonical value. -/
theorem canonical_number (finite : x.isFinite = true) :
    canonical f v ⟨v.unit, .float x⟩ = .ok x := by
  refine canonical_eq_ok_iff.mpr ⟨x, by rw [Entry.value, if_pos finite], ?_, finite⟩
  have plain : sourceUnit ⟨v.unit, .float x⟩ = v.unit := rfl
  rw [plain, Unit.toCanonical_eq, Unit.convert_self]

end Numbers

section Posed

variable {inputs : List (String × Datum)} {p : Problem}

theorem Posed.symbols (posed : Posed inputs p) :
    p.known.map Prod.fst =
      (p.formula.vars.filter fun v => v.symbol ≠ p.unknown).map Variable.symbol := by
  rw [← List.forall₂_eq_eq_eq, List.forall₂_map_left_iff, List.forall₂_map_right_iff]
  exact posed.known.flip.imp fun _ _ supplied => supplied.1

variable (posed : Posed inputs p) (distinct : p.formula.symbols.Nodup)

include posed distinct

theorem Posed.nodup : (p.known.map Prod.fst).Nodup := by
  rw [posed.symbols]
  exact distinct.sublist (List.filter_sublist.map _)

theorem Posed.isSome_selectionFor_numbers {v : Variable} (hv : v ∈ p.formula.vars) :
    (selectionFor (numbers p.known) v).isSome = decide (v.symbol ≠ p.unknown) := by
  by_cases same : v.symbol = p.unknown
  · have absent : v.symbol ∉ p.known.map Prod.fst := by
      rw [posed.symbols, List.mem_map]
      rintro ⟨w, mem, symbol⟩
      exact of_decide_eq_true (List.mem_filter.mp mem).2 (symbol.trans same)
    rw [selectionFor_numbers_eq_none absent, same]
    simp
  · have given : v.symbol ∈ p.known.map Prod.fst := by
      rw [posed.symbols]
      exact List.mem_map_of_mem (List.mem_filter.mpr ⟨hv, decide_eq_true same⟩)
    obtain ⟨⟨symbol, x⟩, mem, rfl⟩ := List.mem_map.mp given
    rw [selectionFor_numbers (posed.nodup distinct) mem]
    simp [same]

theorem Posed.unknown_numbers :
    p.formula.unknown (hasValue p.formula (numbers p.known)) = .ok p.unknown := by
  obtain ⟨u, only, same⟩ := posed.unknown
  refine unknown_eq_ok_iff.mpr ⟨u, ?_, same⟩
  rw [← only]
  refine List.filter_congr fun v hv => ?_
  rw [← Option.not_isSome, ← Option.not_isSome, posed.isSome_selectionFor_numbers distinct hv,
    isSome_selectionFor only hv, same]

theorem Posed.knownValues_numbers :
    knownValues p.formula (numbers p.known) = .ok p.known := by
  have filled : (selections p.formula (numbers p.known)).map Prod.fst =
      p.formula.vars.filter fun v => v.symbol ≠ p.unknown := by
    rw [selections_variables]
    exact List.filter_congr fun v hv => posed.isSome_selectionFor_numbers distinct hv
  have pairs : List.Forall₂ (fun field entry => entry.1 = field.1.symbol ∧ entry.2.isFinite = true)
      (selections p.formula (numbers p.known)) p.known := by
    have supplied := posed.known
    rw [← filled, List.forall₂_map_left_iff] at supplied
    exact supplied.imp fun _ _ ⟨same, _, _, _, _, _, finite⟩ => ⟨same, finite⟩
  obtain ⟨length, each⟩ := List.forall₂_iff_zip.mp pairs
  rw [knownValues, Except.mapM_eq_ok_iff]
  refine List.forall₂_iff_zip.mpr ⟨length, ?_⟩
  rintro ⟨v, selection⟩ ⟨symbol, x⟩ mem
  obtain ⟨same, finite⟩ := each mem
  obtain ⟨selected, given⟩ := List.of_mem_zip mem
  have found := (mem_selections_iff.mp selected).2
  dsimp only at same finite
  subst same
  rw [selectionFor_numbers (posed.nodup distinct) given] at found
  cases found
  dsimp only
  rw [canonical_number finite]
  rfl

end Posed

section Requests

variable {s : Solver} {id : String} {inputs : List (String × Datum)} {p : Problem}

/-- The values of a problem pose it again. -/
theorem problem_numbers (distinct : s.catalog.Distinct) (h : s.problem id inputs = .ok p) :
    s.problem id (numbers p.known) = .ok p := by
  obtain ⟨⟨inversion, found⟩, posed⟩ := problem_posed h
  have own : p.formula.symbols.Nodup :=
    distinct p.formula (List.mem_of_find?_eq_some (formula_eq_ok found))
  refine Except.bind_eq_ok_iff.mpr
    ⟨(p.formula, inversion), Except.mapError_eq_ok_iff.mpr found, ?_⟩
  refine Except.bind_eq_ok_iff.mpr
    ⟨p.unknown, Except.mapError_eq_ok_iff.mpr (posed.unknown_numbers own), ?_⟩
  exact Except.bind_eq_ok_iff.mpr ⟨p.known, posed.knownValues_numbers own, rfl⟩

theorem sourceUnit_numbers {known : List (String × Float)} {f : Formula}
    (distinct : (known.map Prod.fst).Nodup) :
    ∀ field ∈ selections f (numbers known), sourceUnit field.2 = field.1.unit := by
  rintro ⟨v, selection⟩ mem
  have found := (mem_selections_iff.mp mem).2
  by_cases given : v.symbol ∈ known.map Prod.fst
  · obtain ⟨⟨symbol, x⟩, entry, rfl⟩ := List.mem_map.mp given
    rw [selectionFor_numbers distinct entry] at found
    cases found
    rfl
  · rw [selectionFor_numbers_eq_none given] at found
    cases found

/-- A request that is answered has the same answer for its canonical values as plain numbers. -/
theorem resolve_numbers (distinct : s.catalog.Distinct) {a : Answer} {t : Trace}
    (run : (s.resolve id inputs).run.run [] = (.ok a, t)) :
    ∃ a' t' f, (s.resolve id t.canonicalInputs).run.run [] = (.ok a', t') ∧ a = a'.after t ∧
      t'.fallbackWarnings = [] ∧ s.catalog.get? id = some f ∧
      t.canonicalInputs.map Prod.fst = f.symbols.filter fun symbol => symbol ≠ a.symbol := by
  obtain ⟨p, x, -, completed, -, -⟩ := resolve_answer run
  obtain ⟨q, problem, solving⟩ := Except.bind_eq_ok_iff.mp completed
  obtain ⟨y, solved, same⟩ := Except.bind_eq_ok_iff.mp solving
  cases same
  obtain ⟨⟨inversion, found⟩, posed⟩ := problem_posed problem
  have own : p.formula.symbols.Nodup :=
    distinct p.formula (List.mem_of_find?_eq_some (formula_eq_ok found))
  obtain ⟨t₁, groups, run₁, series, recorded, -⟩ := resolve_run_of_completion completed
  rw [run, Prod.mk.injEq] at run₁
  obtain ⟨concluding, rfl⟩ := run₁
  have values : t.canonicalInputs = numbers p.known := recorded.trans series.canonicalInputs
  have again : s.completion id (numbers p.known) = .ok (p, x) :=
    Except.bind_eq_ok_iff.mpr ⟨p, problem_numbers distinct problem, solving⟩
  obtain ⟨t', groups', run', series', -, warnings⟩ := resolve_run_of_completion again
  have silent : t'.fallbackWarnings = [] :=
    warnings.trans (series'.fallbackWarnings (sourceUnit_numbers (posed.nodup own)))
  have earlier := concluded_after t [] (p, x)
  rw [List.append_nil, ← concluding] at earlier
  rw [silent] at run'
  cases alone : concluded [] (p, x) with
  | error e =>
      rw [alone] at earlier
      cases earlier
  | ok a' =>
      rw [alone] at earlier run'
      cases earlier
      obtain ⟨residual, -, same⟩ := Except.bind_eq_ok_iff.mp alone
      cases same
      refine ⟨_, t', p.formula, values ▸ run', rfl, silent, formula_eq_ok found, ?_⟩
      rw [values, numbers_symbols, posed.symbols, Formula.symbols, List.filter_map]
      rfl

/-- On a catalog whose formulas repeat no symbol, as the packaged one and any that is read from a
document are, the canonical values on record for an answer, one for each variable but the unknown,
have the same answer as plain numbers, but for the warnings of fallbacks. So requests with the same
canonical values have the same answer up to such warnings. -/
theorem resolve_canonicalInputs :
    (Catalog.packaged.Distinct ∧
      ∀ document c, Catalog.ofDatum document = .ok c → c.Distinct) ∧
    ∀ (s : Solver) (id : String) (inputs : List (String × Datum)) (a : Answer) (t : Trace),
      s.catalog.Distinct → (s.resolve id inputs).run.run [] = (.ok a, t) →
      ∃ a' t' f, (s.resolve id t.canonicalInputs).run.run [] = (.ok a', t') ∧
        a = a'.after t ∧ t'.fallbackWarnings = [] ∧ s.catalog.get? id = some f ∧
        t.canonicalInputs.map Prod.fst = f.symbols.filter (fun symbol => symbol ≠ a.symbol) ∧
        ∀ (inputs' : List (String × Datum)) (b : Answer) (u : Trace),
          (s.resolve id inputs').run.run [] = (.ok b, u) →
          u.canonicalInputs = t.canonicalInputs → b = a'.after u := by
  refine ⟨⟨Catalog.distinct_packaged, fun _ _ => Catalog.distinct_ofDatum⟩, ?_⟩
  intro s id inputs a t distinct run
  obtain ⟨a', t', f, run', same, silent, found, symbols⟩ := resolve_numbers distinct run
  refine ⟨a', t', f, run', same, silent, found, symbols, fun inputs' b u other values => ?_⟩
  obtain ⟨b', u', -, again, same', -⟩ := resolve_numbers distinct other
  rw [values, run', Prod.mk.injEq] at again
  rw [same', Except.ok.inj again.1]

/-- A degree mark and a distance in kilometers make no difference to radians and meters. -/
theorem angularSize_canonicalInputs :
    ∃ a t a' t', (packaged.resolve "angular_size"
        [("θ", .text "30°"), ("D", .map [("km", .text "5")])]).run.run [] = (.ok a, t) ∧
      (packaged.resolve "angular_size" t.canonicalInputs).run.run [] = (.ok a', t') ∧
      a = a'.after t := by
  have answered : ((packaged.resolve "angular_size" [("θ", .text "30°"),
      ("D", .map [("km", .text "5")])]).run.run []).1.toOption.map Answer.symbol = some "d" := by
    decide +kernel
  obtain ⟨a, t, run, -⟩ := Except.exists_of_run answered
  obtain ⟨⟨distinct, -⟩, canonical⟩ := resolve_canonicalInputs
  obtain ⟨a', t', _, run', same, -⟩ := canonical packaged _ _ a t distinct run
  exact ⟨a, t, a', t', run, run', same⟩

end Requests

end Solver

end Astrolabe
