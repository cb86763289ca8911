import Mathlib.Data.String.Basic
import Astrolabe.Proofs.Resolution.Posed

/-!
The record of a request. What an answer leaves on record, and what a refusal does, follow
one order: the inputs, the symbols ignored, the fields selected, a group of steps for each
field that is read, the solution, its check and its display. A refusal cuts this order
off, and is the last step.
-/

namespace Astrolabe

namespace Resolution

/-- What an envelope tells under a key. -/
def field? (r : Resolution) (key : String) : Option Datum :=
  match r.toDatum with
  | .map entries => Datum.lookup? key entries
  | _ => none

theorem field?_of_ok (a : Answer) (t : Trace) :
    field? ⟨.ok a, t⟩ "error" = some .null ∧ field? ⟨.ok a, t⟩ "error_kind" = some .null :=
  ⟨rfl, rfl⟩

theorem field?_of_error (e : Refusal) (t : Trace) :
    field? ⟨.error e, t⟩ "result" = some .null ∧
      field? ⟨.error e, t⟩ "error" = some (.text e.message) ∧
      field? ⟨.error e, t⟩ "error_kind" = some (.text e.kind) :=
  ⟨rfl, rfl, rfl⟩

end Resolution

namespace Solver

open Recorded

/-! The grammar. -/

/-- A symbol among the inputs that is neither a variable nor a constant. -/
def Foreign (f : Formula) (inputs : List (String × Datum)) (symbol : String) : Prop :=
  symbol ∈ inputs.map Prod.fst ∧ symbol ∉ f.symbols ∧ f.hasConstant symbol = false

/-- The step for foreign symbols, if there are any, names each of them once, in order. -/
inductive IgnoredSteps (f : Formula) (inputs : List (String × Datum)) : Trace → Prop
  | none (own : ∀ symbol, ¬Foreign f inputs symbol) : IgnoredSteps f inputs []
  | some {symbols : List String} (nonempty : symbols ≠ [])
      (sorted : symbols.Pairwise (· < ·))
      (foreign : ∀ symbol, symbol ∈ symbols ↔ Foreign f inputs symbol) :
      IgnoredSteps f inputs [.ignored symbols]

/-- The steps of a request up to the fields that are selected for its formula. -/
def openingSteps (id : String) (inputs : List (String × Datum)) (f : Formula)
    (ignored : Trace) : Trace :=
  .inputs id inputs :: ignored ++
    (selections f inputs).map fun (v, selection) =>
      .selected v.symbol selection.unit selection.entry

/-- The steps for a value taken to a unit: none where it is converted, and one where it
is used as it is. -/
inductive ConversionSteps (x : Float) (source target : String) : Float → Trace → Prop
  | converted {y : Float} (h : Unit.convert x source target = some y) :
      ConversionSteps x source target y []
  | fallback (h : Unit.convert x source target = none) :
      ConversionSteps x source target x [.fallback source target x]

/-- The group of steps for a field, by what comes of the field. -/
inductive FieldSteps (f : Formula) (v : Variable) (selection : Selection) :
    Except Failure Float → Trace → Prop
  | unread {e : Entry.Failure} (read : Entry.value selection.entry = .error e) :
      FieldSteps f v selection (.error (.ofEntry e)) []
  | outOfRange {x y : Float} {fallback : Trace} (read : Entry.value selection.entry = .ok x)
      (conversion : ConversionSteps x (sourceUnit selection) v.unit y fallback)
      (range : y.isFinite = false) :
      FieldSteps f v selection (.error (.refused (.outOfRange f.id v.symbol v.unit)))
        (.parsed v.symbol selection.entry x :: fallback)
  | canonical {x y : Float} {fallback : Trace} (read : Entry.value selection.entry = .ok x)
      (conversion : ConversionSteps x (sourceUnit selection) v.unit y fallback)
      (range : y.isFinite = true) :
      FieldSteps f v selection (.ok y)
        (.parsed v.symbol selection.entry x :: fallback ++
          [.converted v.symbol (sourceUnit selection) v.unit y])

/-- The groups of steps for fields one after the other, as far as the first that fails. -/
inductive SeriesSteps (f : Formula) :
    List (Variable × Selection) → Except Failure (List (String × Float)) → List Trace → Prop
  | done : SeriesSteps f [] (.ok []) []
  | failed {v : Variable} {selection : Selection} {rest : List (Variable × Selection)}
      {e : Failure} {group : Trace} (field : FieldSteps f v selection (.error e) group) :
      SeriesSteps f ((v, selection) :: rest) (.error e) [group]
  | next {v : Variable} {selection : Selection} {rest : List (Variable × Selection)}
      {y : Float} {result : Except Failure (List (String × Float))} {group : Trace}
      {groups : List Trace} (field : FieldSteps f v selection (.ok y) group)
      (later : SeriesSteps f rest result groups) :
      SeriesSteps f ((v, selection) :: rest) (result.map ((v.symbol, y) :: ·))
        (group :: groups)

/-- The steps of a request up to the solver, by what comes of it so far. -/
inductive PosedSteps (s : Solver) (id : String) (inputs : List (String × Datum)) :
    Except Failure Problem → Trace → Prop
  | unregistered {r : Refusal} (unknown : s.formula id = .error r) :
      PosedSteps s id inputs (.error (.refused r)) [.inputs id inputs]
  | miscounted {f : Formula} {inversion : Inversion} {ignored : Trace}
      (found : s.formula id = .ok (f, inversion)) (ignores : IgnoredSteps f inputs ignored)
      (count : (unfilled f inputs).length ≠ 1) :
      PosedSteps s id inputs
        (.error (.refused (.unknowns ((unfilled f inputs).map Variable.symbol))))
        (openingSteps id inputs f ignored)
  | unread {f : Formula} {inversion : Inversion} {ignored : Trace} {u : Variable}
      {e : Failure} {groups : List Trace}
      (found : s.formula id = .ok (f, inversion)) (ignores : IgnoredSteps f inputs ignored)
      (count : unfilled f inputs = [u])
      (series : SeriesSteps f (selections f inputs) (.error e) groups) :
      PosedSteps s id inputs (.error e) (openingSteps id inputs f ignored ++ groups.flatten)
  | posed {f : Formula} {inversion : Inversion} {ignored : Trace} {u : Variable}
      {known : List (String × Float)} {groups : List Trace}
      (found : s.formula id = .ok (f, inversion)) (ignores : IgnoredSteps f inputs ignored)
      (count : unfilled f inputs = [u])
      (others : (selections f inputs).length + 1 = f.vars.length)
      (series : SeriesSteps f (selections f inputs) (.ok known) groups) :
      PosedSteps s id inputs (.ok ⟨f, u.symbol, known⟩)
        (openingSteps id inputs f ignored ++ groups.flatten)

/-- The step for the check of a relation, with the residual that is told. -/
inductive CheckSteps (f : Formula) : Option Float → Trace → Prop
  | unrelated (h : f.relation.isEmptyLike = true) : CheckSteps f none []
  | checked (h : f.relation.isEmptyLike = false) (residual : Float) :
      CheckSteps f (some residual) [.checked residual]
  | unchecked (h : f.relation.isEmptyLike = false) : CheckSteps f none [.unchecked]

inductive DisplaySteps : Option (Unit.Shown Float) → Trace → Prop
  | plain : DisplaySteps none []
  | shown (s : Unit.Shown Float) : DisplaySteps (some s) [.displayed s.value s.unit]

/-- The steps of a request up to its solution. -/
inductive SolvedSteps (s : Solver) (id : String) (inputs : List (String × Datum)) :
    Except Failure (Problem × Float) → Trace → Prop
  | unposed {e : Failure} {posed : Trace} (posing : PosedSteps s id inputs (.error e) posed) :
      SolvedSteps s id inputs (.error e) posed
  | unsolved {p : Problem} {e : Failure} {posed : Trace}
      (posing : PosedSteps s id inputs (.ok p) posed)
      (solving : s.solve id p.unknown p.known = .error e) :
      SolvedSteps s id inputs (.error e) posed
  | solved {p : Problem} {x : Float} {posed : Trace}
      (posing : PosedSteps s id inputs (.ok p) posed)
      (solving : s.solve id p.unknown p.known = .ok x) :
      SolvedSteps s id inputs (.ok (p, x)) (posed ++ [.solved id p.unknown x])

/-- The whole record of a request, by its answer or refusal. -/
inductive RequestSteps (s : Solver) (id : String) (inputs : List (String × Datum)) :
    Except Refusal Answer → Trace → Prop
  | refused {r : Refusal} {steps : Trace}
      (unsolved : SolvedSteps s id inputs (.error (.refused r)) steps) :
      RequestSteps s id inputs (.error r) (steps ++ [.failed r.kind r.message])
  | answered {p : Problem} {a : Answer} {steps check display : Trace}
      (solved : SolvedSteps s id inputs (.ok (p, a.value)) steps) (symbol : a.symbol = p.unknown)
      (checks : CheckSteps p.formula a.residual check)
      (displays : DisplaySteps a.display display) :
      RequestSteps s id inputs (.ok a) (steps ++ (check ++ display))

/-! The labels of the steps in the grammar, of which only that of a refusal is an error. -/

/-- The labels of the steps before any field is read. -/
def openingKinds : List String :=
  ["inputs_raw", "inputs_ignored", "input_selected"]

/-- The labels of the steps of a field. -/
def fieldKinds : List String :=
  ["value_parsed", "unit_fallback", "unit_converted"]

/-- The labels of the steps that follow a solution. -/
def closingKinds : List String :=
  ["relation_check", "relation_unchecked", "display_conversion"]

section

variable {s : Solver} {id : String} {inputs : List (String × Datum)} {f : Formula}

theorem IgnoredSteps.kind {ignored : Trace} (h : IgnoredSteps f inputs ignored) :
    ∀ step ∈ ignored, step.kind = "inputs_ignored" := by
  cases h <;> simp [Trace.Step.kind]

theorem openingSteps_kind {ignored : Trace}
    (h : ∀ step ∈ ignored, step.kind = "inputs_ignored") :
    ∀ step ∈ openingSteps id inputs f ignored, step.kind ∈ openingKinds := by
  simp only [openingSteps, List.cons_append, List.mem_cons, List.mem_append, List.mem_map]
  rintro step (rfl | mem | ⟨_, -, rfl⟩)
  · simp [Trace.Step.kind, openingKinds]
  · simp [h step mem, openingKinds]
  · simp [Trace.Step.kind, openingKinds]

theorem FieldSteps.kind {v : Variable} {selection : Selection}
    {result : Except Failure Float} {group : Trace} (h : FieldSteps f v selection result group) :
    ∀ step ∈ group, step.kind ∈ fieldKinds := by
  cases h with
  | unread read => simp
  | outOfRange read conversion range => cases conversion <;> simp [Trace.Step.kind, fieldKinds]
  | canonical read conversion range => cases conversion <;> simp [Trace.Step.kind, fieldKinds]

theorem SeriesSteps.kind {fields : List (Variable × Selection)}
    {result : Except Failure (List (String × Float))} {groups : List Trace}
    (h : SeriesSteps f fields result groups) :
    ∀ step ∈ groups.flatten, step.kind ∈ fieldKinds := by
  induction h with
  | done => simp
  | failed field => simpa using field.kind
  | next field later ih =>
      rw [List.flatten_cons, List.forall_mem_append]
      exact ⟨field.kind, ih⟩

theorem CheckSteps.kind {residual : Option Float} {check : Trace}
    (h : CheckSteps f residual check) : ∀ step ∈ check, step.kind ∈ closingKinds := by
  cases h <;> simp [Trace.Step.kind, closingKinds]

theorem DisplaySteps.kind {shown : Option (Unit.Shown Float)} {display : Trace}
    (h : DisplaySteps shown display) : ∀ step ∈ display, step.kind ∈ closingKinds := by
  cases h <;> simp [Trace.Step.kind, closingKinds]

theorem PosedSteps.ne_error {result : Except Failure Problem} {posed : Trace}
    (h : PosedSteps s id inputs result posed) : ∀ step ∈ posed, step.kind ≠ "error" := by
  cases h with
  | unregistered unknown => simp [Trace.Step.kind]
  | miscounted found ignores count =>
      exact Trace.kind_ne (openingSteps_kind ignores.kind) (by decide)
  | unread found ignores count series | posed found ignores count _ series =>
      exact List.forall_mem_append.mpr
        ⟨Trace.kind_ne (openingSteps_kind ignores.kind) (by decide),
          Trace.kind_ne series.kind (by decide)⟩

theorem SolvedSteps.ne_error {result : Except Failure (Problem × Float)} {steps : Trace}
    (h : SolvedSteps s id inputs result steps) : ∀ step ∈ steps, step.kind ≠ "error" := by
  cases h with
  | unposed posing => exact posing.ne_error
  | unsolved posing solving => exact posing.ne_error
  | solved posing solving =>
      exact List.forall_mem_append.mpr ⟨posing.ne_error, by simp [Trace.Step.kind]⟩

/-- Only a refusal leaves an error on record, and just one. -/
theorem RequestSteps.errors {outcome : Except Refusal Answer} {trace : Trace}
    (h : RequestSteps s id inputs outcome trace) :
    (trace.filter fun step => step.kind == "error") =
      match outcome with
      | .ok _ => []
      | .error r => [.failed r.kind r.message] := by
  cases h with
  | refused unsolved =>
      have before := List.filter_eq_nil_iff.mpr fun step mem =>
        mt eq_of_beq (unsolved.ne_error step mem)
      rw [List.filter_append, before]
      rfl
  | answered solved symbol checks displays =>
      refine List.filter_eq_nil_iff.mpr fun step mem => mt eq_of_beq ?_
      revert step
      simp only [List.forall_mem_append]
      exact ⟨solved.ne_error, Trace.kind_ne checks.kind (by decide),
        Trace.kind_ne displays.kind (by decide)⟩

end

/-! What the stages of a request leave on record. -/

section

variable {f : Formula} {inputs : List (String × Datum)}

theorem mem_ignoredSymbols_iff {symbol : String} :
    symbol ∈ ignoredSymbols f inputs ↔ Foreign f inputs symbol := by
  simp [ignoredSymbols, Foreign]

theorem ignoredSymbols_sorted (keys : (inputs.map Prod.fst).Nodup) :
    (ignoredSymbols f inputs).Pairwise (· < ·) := by
  have ascending : (ignoredSymbols f inputs).Pairwise fun a b => decide (a ≤ b) = true :=
    List.pairwise_mergeSort (fun a b c => by simpa using String.le_trans)
      (fun a b => by simpa using String.le_total a b) _
  have distinct : (ignoredSymbols f inputs).Nodup :=
    (List.mergeSort_perm _ _).nodup_iff.mpr (keys.filter _)
  refine (ascending.and distinct).imp fun {a b} h => ?_
  exact lt_of_le_of_ne (of_decide_eq_true h.1) h.2

theorem noteIgnored_adds (keys : (inputs.map Prod.fst).Nodup) :
    ∃ added, Adds (noteIgnored f inputs) (.ok ()) added ∧ IgnoredSteps f inputs added := by
  unfold noteIgnored
  split
  next some =>
    exact ⟨_, Adds.step _, .some (by simpa using some) (ignoredSymbols_sorted keys)
      fun _ => mem_ignoredSymbols_iff⟩
  next none =>
    refine ⟨_, Adds.pure (), .none fun symbol foreign => ?_⟩
    have mem := mem_ignoredSymbols_iff.mpr foreign
    simp only [Bool.not_eq_true, Bool.not_eq_false', List.isEmpty_iff] at none
    rw [none] at mem
    cases mem

theorem toCanonical_steps (x : Float) (source target : String) :
    ConversionSteps x source target (Unit.toCanonical x source target).1
      (Unit.toCanonical x source target).2 := by
  rw [Unit.toCanonical_eq]
  cases h : Unit.convert x source target with
  | some y => exact .converted h
  | none => exact .fallback h

theorem canonicalValue_adds (f : Formula) (v : Variable) (selection : Selection) :
    ∃ added, Adds (canonicalValue f v selection) (canonical f v selection) added ∧
      FieldSteps f v selection (canonical f v selection) added := by
  cases read : Entry.value selection.entry with
  | error e =>
      have failed : canonical f v selection = .error (.ofEntry e) := by
        rw [canonical, read]
        rfl
      refine ⟨[], ?_, failed ▸ .unread read⟩
      rw [failed, canonicalValue, read]
      exact (Adds.ofExcept _ _).bind_error
  | ok x =>
      have conversion := toCanonical_steps x (sourceUnit selection) v.unit
      have value : canonical f v selection =
          if (Unit.toCanonical x (sourceUnit selection) v.unit).1.isFinite then
            .ok (Unit.toCanonical x (sourceUnit selection) v.unit).1
          else .error (.refused (.outOfRange f.id v.symbol v.unit)) := by
        rw [canonical, read]
        rfl
      rw [value, canonicalValue, read, Recorded.ofExcept, pure_bind]
      -- the steps and the value of a conversion are one pair in the program
      dsimp only
      generalize Unit.toCanonical x (sourceUnit selection) v.unit = outcome at conversion ⊢
      obtain ⟨y, fallback⟩ := outcome
      dsimp only at conversion ⊢
      by_cases range : y.isFinite = true
      · simp only [if_pos range]
        exact ⟨_, .stepThen (.stepsThen (.stepThen (.pure y))),
          .canonical read conversion range⟩
      · simp only [if_neg range]
        have stopped : Adds (do
            step (.parsed v.symbol selection.entry x)
            steps fallback
            throw (.refused (.outOfRange f.id v.symbol v.unit)) : Recorded Float)
            (.error (.refused (.outOfRange f.id v.symbol v.unit)))
            (.parsed v.symbol selection.entry x :: (fallback ++ [])) :=
          .stepThen (.stepsThen (.throw _))
        rw [List.append_nil] at stopped
        exact ⟨_, stopped, .outOfRange read conversion (by simpa using range)⟩

/-- Fields are read one after the other, up to the first that fails. -/
theorem series_adds (f : Formula) (fields : List (Variable × Selection)) :
    ∃ groups,
      Adds (fields.mapM fun (v, selection) => do pure (v.symbol, ← canonicalValue f v selection))
        (fields.mapM fun (v, selection) => do .ok (v.symbol, ← canonical f v selection))
        groups.flatten ∧
      SeriesSteps f fields
        (fields.mapM fun (v, selection) => do .ok (v.symbol, ← canonical f v selection))
        groups := by
  induction fields with
  | nil => exact ⟨[], Adds.pure [], .done⟩
  | cons field rest ih =>
      obtain ⟨v, selection⟩ := field
      obtain ⟨group, adds, steps⟩ := canonicalValue_adds f v selection
      cases value : canonical f v selection with
      | error e =>
          have failed : ((v, selection) :: rest).mapM (fun (v, selection) => do
              .ok (v.symbol, ← canonical f v selection)) = .error e := by
            simp only [List.mapM_cons, value]
            rfl
          rw [value] at adds steps
          rw [failed, List.mapM_cons]
          refine ⟨[group], ?_, .failed steps⟩
          rw [List.flatten_singleton]
          exact adds.bind_error.bind_error
      | ok y =>
          obtain ⟨groups, later, series⟩ := ih
          have next : ((v, selection) :: rest).mapM (fun (v, selection) => do
              .ok (v.symbol, ← canonical f v selection)) =
              (rest.mapM fun (v, selection) => do
                .ok (v.symbol, ← canonical f v selection)).map ((v.symbol, y) :: ·) := by
            simp only [List.mapM_cons, value]
            rfl
          rw [value] at adds steps
          rw [next, List.mapM_cons]
          refine ⟨group :: groups, ?_, .next steps series⟩
          rw [List.flatten_cons]
          exact (adds.map (v.symbol, ·)).bind (later.map ((v.symbol, y) :: ·))

/-- A variable is filled or unfilled. -/
theorem selections_length (f : Formula) (inputs : List (String × Datum)) :
    (selections f inputs).length + (unfilled f inputs).length = f.vars.length := by
  have filled : (selections f inputs).length =
      (f.vars.filter fun v => (selectionFor inputs v).isSome).length := by
    rw [← selections_variables, List.length_map]
  have rest : unfilled f inputs = f.vars.filter fun v => !(selectionFor inputs v).isSome :=
    List.filter_congr fun v _ => (Option.not_isSome _).symm
  rw [filled, rest]
  exact (List.length_eq_length_filter_add _).symm

/-- What is left of posing a problem once its fields are selected. -/
def ask (f : Formula) (inputs : List (String × Datum)) : Recorded Problem := do
  let unknown ← ofExcept .refused (f.unknown (hasValue f inputs))
  let known ← (selections f inputs).mapM fun (v, selection) => do
    pure (v.symbol, ← canonicalValue f v selection)
  pure ⟨f, unknown, known⟩

variable {s : Solver} {id : String} {inversion : Inversion}

theorem pose_adds_of_ask (found : s.formula id = .ok (f, inversion)) {ignored added : Trace}
    (noted : Adds (noteIgnored f inputs) (.ok ()) ignored) {result : Except Failure Problem}
    (asked : Adds (ask f inputs) result added) :
    Adds (s.pose id inputs) result (openingSteps id inputs f ignored ++ added) := by
  rw [pose, found, openingSteps, List.append_assoc, List.cons_append]
  exact .stepThen (noted.bind (.stepsThen asked))

theorem ask_adds_error (count : (unfilled f inputs).length ≠ 1) :
    Adds (ask f inputs)
      (.error (.refused (.unknowns ((unfilled f inputs).map Variable.symbol)))) [] := by
  rw [ask, unknown_eq_error count]
  exact (Adds.ofExcept _ _).bind_error

theorem ask_adds {u : Variable} (only : unfilled f inputs = [u]) :
    ∃ groups,
      Adds (ask f inputs) ((knownValues f inputs).map fun known => ⟨f, u.symbol, known⟩)
        groups.flatten ∧
      SeriesSteps f (selections f inputs) (knownValues f inputs) groups := by
  obtain ⟨groups, read, series⟩ := series_adds f (selections f inputs)
  refine ⟨groups, ?_, series⟩
  rw [ask, unknown_eq_ok_iff.mpr ⟨u, only, rfl⟩]
  exact read.map _

/-- A problem that is posed is on record as far as it goes. -/
theorem pose_adds (s : Solver) (id : String) (keys : (inputs.map Prod.fst).Nodup) :
    ∃ added, Adds (s.pose id inputs) (s.problem id inputs) added ∧
      PosedSteps s id inputs (s.problem id inputs) added := by
  -- the result is known to be the problem; what is to be found is the steps
  suffices h : ∃ result added, Adds (s.pose id inputs) result added ∧
      PosedSteps s id inputs result added by
    obtain ⟨result, added, adds, steps⟩ := h
    obtain rfl := adds.result_eq (pose_yields s id inputs)
    exact ⟨added, adds, steps⟩
  cases found : s.formula id with
  | error r =>
      refine ⟨_, _, ?_, .unregistered found⟩
      rw [pose, found]
      exact .stepThen (.bind_error (.ofExcept _ _))
  | ok pair =>
      obtain ⟨f, inversion⟩ := pair
      obtain ⟨ignored, noted, ignores⟩ := noteIgnored_adds (f := f) keys
      by_cases count : (unfilled f inputs).length = 1
      · obtain ⟨u, only⟩ := List.length_eq_one_iff.mp count
        have others : (selections f inputs).length + 1 = f.vars.length := by
          rw [← selections_length f inputs, count]
        obtain ⟨groups, asked, series⟩ := ask_adds only
        refine ⟨_, _, pose_adds_of_ask found noted asked, ?_⟩
        cases known : knownValues f inputs with
        | error e => exact .unread found ignores only (known ▸ series)
        | ok known' => exact .posed found ignores only others (known ▸ series)
      · refine ⟨_, _, pose_adds_of_ask found noted (ask_adds_error count), ?_⟩
        rw [List.append_nil]
        exact .miscounted found ignores count

theorem solveRecorded_adds {unknown : String} {known : List (String × Float)} {x : Float}
    (solving : s.solve id unknown known = .ok x) :
    Adds (s.solveRecorded id unknown known) (.ok x) [.solved id unknown x] := by
  rw [solveRecorded, solving]
  exact (Adds.lift _).bind (.stepThen (.pure x))

theorem solveRecorded_adds_error {unknown : String} {known : List (String × Float)}
    {e : Failure} (solving : s.solve id unknown known = .error e) :
    Adds (s.solveRecorded id unknown known) (.error e) [] := by
  rw [solveRecorded, solving]
  exact (Adds.lift _).bind_error

/-- Just the formulas with a relation have a residual. -/
theorem isSome_residual {values : String → Option Float} {residual : Option Float}
    (h : f.residual values = .ok residual) : residual.isSome = !f.relation.isEmptyLike := by
  unfold Formula.residual at h
  split at h
  next empty =>
    cases h
    rw [empty]
    rfl
  next related =>
    split at h
    next text _ =>
      obtain ⟨⟨left, right⟩, -, h⟩ := Except.bind_eq_ok_iff.mp h
      obtain ⟨named, -, h⟩ := Except.bind_eq_ok_iff.mp h
      obtain ⟨x, -, h⟩ := Except.bind_eq_ok_iff.mp h
      obtain ⟨y, -, h⟩ := Except.bind_eq_ok_iff.mp h
      cases h
      rw [Bool.not_eq_true] at related
      rw [related]
      rfl
    all_goals cases h

theorem check_adds {values : String → Option Float} {residual : Option Float}
    (h : checked f values = .ok residual) :
    ∃ added, Adds (check f values) (.ok residual) added ∧ CheckSteps f residual added := by
  obtain ⟨outcome, checking, same⟩ := Except.bind_eq_ok_iff.mp h
  rw [Except.mapError_eq_ok_iff] at checking
  have related := isSome_residual checking
  rw [check, checking]
  cases outcome with
  | none =>
      rw [Option.filter_none] at same
      cases same
      exact ⟨[], .ofOk (.pure none), .unrelated (by simpa using related)⟩
  | some r =>
      have related : f.relation.isEmptyLike = false := by simpa using related
      by_cases finite : r.isFinite = true
      · rw [Option.filter_some_pos finite] at same
        cases same
        refine ⟨[.checked r], .ofOk ?_, .checked related r⟩
        dsimp only
        rw [if_pos finite]
        exact .stepThen (.pure (some r))
      · rw [Option.filter_some_neg (by simpa using finite)] at same
        cases same
        refine ⟨[.unchecked], .ofOk ?_, .unchecked related⟩
        dsimp only
        rw [if_neg finite]
        exact .stepThen (.pure none)

theorem prepare_adds (x : Float) (unit : String) :
    ∃ added, Adds (prepare x unit) (.ok (Unit.display? x unit)) added ∧
      DisplaySteps (Unit.display? x unit) added := by
  unfold prepare
  cases Unit.display? x unit with
  | none => exact ⟨_, .pure none, .plain⟩
  | some shown => exact ⟨_, .stepThen (.pure (some shown)), .shown shown⟩

/-- What follows a solution is on record if it makes an answer. -/
theorem settle_adds {p : Problem} {x : Float} {fallbacks : List String} {a : Answer}
    {t t' : Trace} (h : (settle p x fallbacks).run.run t = (.ok a, t')) :
    a.symbol = p.unknown ∧ a.value = x ∧
      ∃ check display, t' = t ++ (check ++ display) ∧ CheckSteps p.formula a.residual check ∧
        DisplaySteps a.display display := by
  obtain ⟨_, yields, -⟩ := settle_yields p x fallbacks t
  rw [h, Prod.mk.injEq] at yields
  obtain ⟨residual, checking, same⟩ := Except.bind_eq_ok_iff.mp yields.1.symm
  obtain ⟨check, checks, checked⟩ := check_adds checking
  obtain ⟨display, prepares, displayed⟩ := prepare_adds x p.unit
  have settled : Adds (settle p x fallbacks)
      (.ok (answer p x fallbacks residual (Unit.display? x p.unit)))
      (check ++ (display ++ [])) :=
    checks.bind (prepares.bind (.pure _))
  have run := (settled t).symm.trans h
  rw [List.append_nil] at run
  generalize Unit.display? x p.unit = shown at same displayed
  obtain rfl := Except.ok.inj same
  exact ⟨rfl, rfl, check, display, (congrArg Prod.snd run).symm, checked, displayed⟩

theorem complete_adds (s : Solver) (id : String) (keys : (inputs.map Prod.fst).Nodup) :
    ∃ added, Adds (s.complete id inputs) (s.completion id inputs) added ∧
      SolvedSteps s id inputs (s.completion id inputs) added := by
  suffices h : ∃ result added, Adds (s.complete id inputs) result added ∧
      SolvedSteps s id inputs result added by
    obtain ⟨result, added, adds, steps⟩ := h
    obtain rfl := adds.result_eq (complete_yields s id inputs)
    exact ⟨added, adds, steps⟩
  obtain ⟨posed, adds, posing⟩ := pose_adds s id keys
  cases problem : s.problem id inputs with
  | error e =>
      rw [problem] at adds posing
      exact ⟨_, _, adds.bind_error, .unposed posing⟩
  | ok p =>
      rw [problem] at adds posing
      cases solving : s.solve id p.unknown p.known with
      | error e =>
          refine ⟨_, _, adds.bind (solveRecorded_adds_error solving).bind_error, ?_⟩
          rw [List.append_nil]
          exact .unsolved posing solving
      | ok x =>
          exact ⟨_, _, adds.bind ((solveRecorded_adds solving).map (p, ·)), .solved posing solving⟩

theorem resolve_steps_of_refused (keys : (inputs.map Prod.fst).Nodup) {r : Refusal} {t : Trace}
    (h : (s.resolve id inputs).run.run [] = (.error (.refused r), t)) :
    SolvedSteps s id inputs (.error (.refused r)) t := by
  obtain ⟨added, adds, steps⟩ := complete_adds s id keys
  have refused := (resolve_error_iff (by simp)).mp (congrArg Prod.fst h)
  obtain completing | ⟨_, -, checking⟩ := Except.bind_eq_error_iff.mp refused
  · rw [completing] at adds steps
    rw [resolve_eq, adds.bind_error []] at h
    cases h
    exact steps
  · exact absurd checking checked_ne_refused

theorem resolve_steps (keys : (inputs.map Prod.fst).Nodup) {a : Answer} {t : Trace}
    (h : (s.resolve id inputs).run.run [] = (.ok a, t)) :
    RequestSteps s id inputs (.ok a) t := by
  obtain ⟨added, adds, steps⟩ := complete_adds s id keys
  cases completing : s.completion id inputs with
  | error e =>
      rw [completing] at adds
      rw [resolve_eq, adds.bind_error []] at h
      cases h
  | ok pair =>
      obtain ⟨p, x⟩ := pair
      rw [completing] at adds steps
      rw [resolve_eq, run_bind, adds []] at h
      have told := adds.told (complete_yields s id inputs)
      have run := (conclude_run_of_told told).symm.trans h
      obtain ⟨symbol, rfl, check, display, rfl, checks, displays⟩ := settle_adds run
      exact .answered steps symbol checks displays

/-- Whatever is asked for of whichever catalog, an envelope has its record in order. One
error at most is on it, the refusal that the envelope tells. -/
theorem tryResolve_steps (s : Solver) (id : String) {inputs : List (String × Datum)}
    (keys : (inputs.map Prod.fst).Nodup) {r : Resolution} (h : s.tryResolve id inputs = .ok r) :
    RequestSteps s id inputs r.outcome r.trace ∧
      match r.outcome with
      | .ok _ =>
          r.field? "error" = some .null ∧ r.field? "error_kind" = some .null ∧
            (r.trace.filter fun step => step.kind == "error") = []
      | .error e =>
          r.field? "result" = some .null ∧
            r.field? "error" = some (.text e.message) ∧
            r.field? "error_kind" = some (.text e.kind) ∧
            (r.trace.filter fun step => step.kind == "error") =
              [.failed e.kind e.message] := by
  have steps : RequestSteps s id inputs r.outcome r.trace := by
    unfold tryResolve at h
    split at h
    next answered =>
      cases h
      exact resolve_steps keys answered
    next refused =>
      cases h
      exact .refused (resolve_steps_of_refused keys refused)
    next => cases h
  refine ⟨steps, ?_⟩
  have errors := steps.errors
  obtain ⟨outcome, t⟩ := r
  cases outcome with
  | ok a =>
      obtain ⟨error, kind⟩ := Resolution.field?_of_ok a t
      exact ⟨error, kind, errors⟩
  | error e =>
      obtain ⟨result, error, kind⟩ := Resolution.field?_of_error e t
      exact ⟨result, error, kind, errors⟩

/-- A request of which all fields are read and which has no solution. -/
theorem albedo_tryResolve_steps :
    ∃ r, packaged.tryResolve "albedo"
        [("F_reflected", .text "300"), ("F_incident", .text "0")] = .ok r ∧
      RequestSteps packaged "albedo"
        [("F_reflected", .text "300"), ("F_incident", .text "0")] r.outcome r.trace := by
  have envelope : (packaged.tryResolve "albedo"
      [("F_reflected", .text "300"), ("F_incident", .text "0")]).isOk = true := by
    decide +kernel
  obtain ⟨r, run⟩ := Except.exists_of_isOk envelope
  exact ⟨r, run, (tryResolve_steps packaged _ (by decide) run).1⟩

end

end Solver

end Astrolabe
