import Astrolabe.Proofs.Except
import Astrolabe.Proofs.Resolution.Recorded

/-!
The stages of a request. Posing the problem selects and reads the entries, solving it
gives the last value, and what follows fails only if the check of the relation does.
-/

namespace Astrolabe

/-- A formula with the values of all variables but one. -/
structure Problem where
  formula : Formula
  unknown : String
  known : List (String × Float)

namespace Problem

/-- The values of a problem with a value for the unknown. -/
def completed (p : Problem) (x : Float) (symbol : String) : Option Float :=
  List.lookup symbol ((p.unknown, x) :: p.known)

def unit (p : Problem) : String :=
  ((p.formula.lookup? p.unknown).map Variable.unit).getD ""

end Problem

namespace Trace

/-- The warnings of the fallbacks on a record. -/
def fallbackWarnings (t : Trace) : List String :=
  (t.ofKind "unit_fallback").filterMap fun detail => (Solver.fallbackWarning detail).toOption

theorem fallbackWarnings_append (t t' : Trace) :
    fallbackWarnings (t ++ t') = t.fallbackWarnings ++ t'.fallbackWarnings := by
  simp [fallbackWarnings, ofKind]

theorem fallbackWarnings_flatMap {α : Type} (items : List α) (g : α → Trace) :
    fallbackWarnings (items.flatMap g) = items.flatMap fun item => (g item).fallbackWarnings := by
  induction items with
  | nil => rfl
  | cons first rest ih => rw [List.flatMap_cons, List.flatMap_cons, fallbackWarnings_append, ih]

/-- Steps with labels of a list have none that is not in it. -/
theorem kind_ne {t : Trace} {kinds : List String} (h : ∀ s ∈ t, s.kind ∈ kinds) {kind : String}
    (absent : kind ∉ kinds) : ∀ s ∈ t, s.kind ≠ kind :=
  fun s hs same => absent (same ▸ h s hs)

theorem fallbackWarnings_eq_nil {t : Trace} (h : ∀ s ∈ t, s.kind ≠ "unit_fallback") :
    t.fallbackWarnings = [] := by
  have none : t.filter (·.kind == "unit_fallback") = [] :=
    List.filter_eq_nil_iff.mpr fun s hs => by simpa using h s hs
  rw [fallbackWarnings, ofKind, none]
  rfl

end Trace

namespace Solver

/-- The value of a selected field in the canonical unit of its variable. -/
def canonical (f : Formula) (v : Variable) (selection : Selection) : Except Failure Float := do
  let value ← (Entry.value selection.entry).mapError .ofEntry
  let converted := (Unit.toCanonical value (sourceUnit selection) v.unit).1
  if converted.isFinite then .ok converted
  else .error (.refused (.outOfRange f.id v.symbol v.unit))

def hasValue (f : Formula) (inputs : List (String × Datum)) (symbol : String) : Bool :=
  (selections f inputs).any fun (v, _) => v.symbol == symbol

def knownValues (f : Formula) (inputs : List (String × Datum)) :
    Except Failure (List (String × Float)) :=
  (selections f inputs).mapM fun (v, selection) => do
    .ok (v.symbol, ← canonical f v selection)

/-- The problem that a request poses. -/
def problem (s : Solver) (id : String) (inputs : List (String × Datum)) :
    Except Failure Problem := do
  let (f, _) ← (s.formula id).mapError .refused
  let unknown ← (f.unknown (hasValue f inputs)).mapError .refused
  let known ← knownValues f inputs
  .ok ⟨f, unknown, known⟩

def completion (s : Solver) (id : String) (inputs : List (String × Datum)) :
    Except Failure (Problem × Float) := do
  let p ← s.problem id inputs
  let x ← s.solve id p.unknown p.known
  .ok (p, x)

open Recorded

def noteIgnored (f : Formula) (inputs : List (String × Datum)) : Recorded Unit :=
  if !(ignoredSymbols f inputs).isEmpty then step (.ignored (ignoredSymbols f inputs))
  else pure ()

/-- Poses the problem of a request on record. -/
def pose (s : Solver) (id : String) (inputs : List (String × Datum)) :
    Recorded Problem := do
  step (.inputs id inputs)
  let (f, _) ← ofExcept .refused (s.formula id)
  noteIgnored f inputs
  let selected := selections f inputs
  steps (selected.map fun (v, selection) => .selected v.symbol selection.unit selection.entry)
  let unknown ← ofExcept .refused
    (f.unknown fun symbol => selected.any fun (v, _) => v.symbol == symbol)
  let known ← selected.mapM fun (v, selection) => do
    pure (v.symbol, ← canonicalValue f v selection)
  pure ⟨f, unknown, known⟩

def complete (s : Solver) (id : String) (inputs : List (String × Datum)) :
    Recorded (Problem × Float) := do
  let p ← s.pose id inputs
  let x ← s.solveRecorded id p.unknown p.known
  pure (p, x)

/-- The residual of a solution, where it is finite. -/
def checked (f : Formula) (values : String → Option Float) : Except Failure (Option Float) := do
  let residual ← (f.residual values).mapError .ofRelation
  .ok (residual.filter Float.isFinite)

/-- The answer that a solution makes, with warnings of fallbacks. -/
def answer (p : Problem) (x : Float) (fallbacks : List String) (residual : Option Float)
    (display : Option (Unit.Shown Float)) : Answer :=
  let mismatches :=
    match residual with
    | some r => if r > tolerance then [mismatchWarning p.formula r] else []
    | none => []
  { symbol := p.unknown, value := x, unit := p.unit, display, residual,
    warnings := fallbacks ++ mismatches }

section

variable (p : Problem) (x : Float) (fallbacks : List String) (residual : Option Float)
  (display : Option (Unit.Shown Float))

@[simp] theorem answer_symbol : (answer p x fallbacks residual display).symbol = p.unknown := rfl

@[simp] theorem answer_value : (answer p x fallbacks residual display).value = x := rfl

@[simp] theorem answer_unit : (answer p x fallbacks residual display).unit = p.unit := rfl

@[simp] theorem answer_residual : (answer p x fallbacks residual display).residual = residual := rfl

@[simp] theorem answer_display : (answer p x fallbacks residual display).display = display := rfl

end

/-- Checks a solution and makes an answer of it on record. -/
def settle (p : Problem) (x : Float) (fallbacks : List String) : Recorded Answer := do
  let residual ← check p.formula (p.completed x)
  let display ← prepare x p.unit
  pure (answer p x fallbacks residual display)

def conclude (p : Problem) (x : Float) : Recorded Answer := do
  -- the record may have begun before the request, and its fallbacks are told all the same
  let fallbacks ← lift ((Trace.ofKind (← get) "unit_fallback").mapM fallbackWarning)
  settle p x fallbacks

theorem resolve_eq (s : Solver) (id : String) (inputs : List (String × Datum)) :
    s.resolve id inputs = s.complete id inputs >>= fun (p, x) => conclude p x := by
  simp only [resolve, complete, pose, conclude, settle, answer, noteIgnored,
    Problem.unit, bind_assoc, pure_bind]
  refine congrArg _ (funext fun _ => congrArg _ (funext fun found => ?_))
  -- whether or not symbols are ignored, the same steps follow
  split <;> rfl

theorem told_of_toCanonical {x : Float} {source target : String} {s : Trace.Step}
    (h : s ∈ (Unit.toCanonical x source target).2) : s.Told := by
  rw [Unit.toCanonical_eq] at h
  split at h
  · cases h
  · rw [List.mem_singleton.mp h]
    exact Trace.Step.told nofun

theorem canonicalValue_yields (f : Formula) (v : Variable) (selection : Selection) :
    Yields (canonicalValue f v selection) (canonical f v selection) := by
  unfold canonicalValue canonical
  refine Yields.bind (Yields.ofExcept _ _) fun value _ => ?_
  have told : ∀ s ∈ (Unit.toCanonical value (sourceUnit selection) v.unit).2, s.Told :=
    fun _ => told_of_toCanonical
  -- the steps and the value of a conversion are one pair in the program
  dsimp only
  generalize Unit.toCanonical value (sourceUnit selection) v.unit = outcome at told ⊢
  obtain ⟨x, fallbacks⟩ := outcome
  refine Yields.stepThen nofun ?_
  refine Yields.andThen (Yields.steps told) ?_
  by_cases finite : x.isFinite = true
  · rw [if_pos finite, if_pos finite]
    exact Yields.stepThen nofun (Yields.pure x)
  · rw [if_neg finite, if_neg finite]
    exact Yields.throw _

theorem noteIgnored_yields (f : Formula) (inputs : List (String × Datum)) :
    Yields (noteIgnored f inputs) (.ok ()) := by
  unfold noteIgnored
  split
  next => exact Yields.step (Trace.Step.told nofun)
  next => exact Yields.pure ()

theorem pose_yields (s : Solver) (id : String) (inputs : List (String × Datum)) :
    Yields (s.pose id inputs) (s.problem id inputs) := by
  refine Yields.stepThen nofun ?_
  refine Yields.bind (Yields.ofExcept _ _) fun ⟨f, inversion⟩ _ => ?_
  refine Yields.andThen (noteIgnored_yields f inputs) ?_
  refine Yields.andThen (Yields.steps ?_) ?_
  · intro step mem
    obtain ⟨_, -, rfl⟩ := List.mem_map.mp mem
    exact Trace.Step.told nofun
  refine Yields.bind (Yields.ofExcept _ _) fun unknown _ => ?_
  refine Yields.bind (Yields.mapM fun pair _ => ?_) fun known _ => Yields.pure _
  exact Yields.bind (canonicalValue_yields f pair.1 pair.2) fun x _ => Yields.pure _

theorem solveRecorded_yields (s : Solver) (id unknown : String)
    (known : List (String × Float)) :
    Yields (s.solveRecorded id unknown known) (s.solve id unknown known) := by
  have solved : Yields (s.solveRecorded id unknown known)
      (s.solve id unknown known >>= fun x => .ok x) :=
    Yields.bind (Yields.lift _) fun x _ => Yields.stepThen nofun (Yields.pure x)
  rwa [show (s.solve id unknown known >>= fun x => .ok x) = s.solve id unknown known from
    bind_pure _] at solved

theorem complete_yields (s : Solver) (id : String) (inputs : List (String × Datum)) :
    Yields (s.complete id inputs) (s.completion id inputs) :=
  Yields.bind (pose_yields s id inputs) fun p _ =>
    Yields.bind (solveRecorded_yields s id p.unknown p.known) fun x _ => Yields.pure (p, x)

theorem check_yields (f : Formula) (values : String → Option Float) :
    Yields (check f values) (checked f values) := by
  refine Yields.bind (Yields.ofExcept _ _) fun residual _ => ?_
  cases residual with
  | none => exact Yields.pure none
  | some r =>
      dsimp only
      by_cases finite : r.isFinite = true
      · rw [if_pos finite, Option.filter_some_pos finite]
        exact Yields.stepThen nofun (Yields.pure (some r))
      · rw [if_neg finite, Option.filter_some_neg (by simpa using finite)]
        exact Yields.stepThen nofun (Yields.pure none)

theorem prepare_yields (x : Float) (unit : String) :
    Yields (prepare x unit) (.ok (Unit.display? x unit)) := by
  unfold prepare
  cases Unit.display? x unit with
  | none => exact Yields.pure none
  | some shown =>
      exact Yields.stepThen nofun (Yields.pure (some shown))

theorem settle_yields (p : Problem) (x : Float) (fallbacks : List String) :
    Yields (settle p x fallbacks)
      (checked p.formula (p.completed x) >>= fun residual =>
        .ok (answer p x fallbacks residual (Unit.display? x p.unit))) :=
  Yields.bind (check_yields _ _) fun _ _ =>
    Yields.andThen (prepare_yields _ _) (Yields.pure _)

theorem mapM_fallbackWarning {t : Trace} (h : ∀ s ∈ t, s.Told) :
    (t.ofKind "unit_fallback").mapM fallbackWarning = .ok t.fallbackWarnings := by
  refine Except.mapM_eq_ok_filterMap fun detail mem => ?_
  obtain ⟨s, hs, rfl⟩ := List.mem_map.mp mem
  obtain ⟨hs, kind⟩ := List.mem_filter.mp hs
  obtain ⟨warning, ok⟩ := h s hs (eq_of_beq kind)
  exact ⟨warning, ok, by rw [ok]; rfl⟩

/-- That a relation cannot be checked is no fault of the request. -/
theorem checked_ne_refused {f : Formula} {values : String → Option Float} {r : Refusal} :
    checked f values ≠ .error (.refused r) := by
  intro h
  obtain failed | ⟨_, -, never⟩ := Except.bind_eq_error_iff.mp h
  · obtain ⟨fault, -, same⟩ := Except.mapError_eq_error_iff.mp failed
    cases fault <;> cases same
  · cases never

theorem conclude_run (p : Problem) (x : Float) (t : Trace) :
    (conclude p x).run.run t =
      (lift ((t.ofKind "unit_fallback").mapM fallbackWarning) >>= settle p x).run.run t := by
  rw [conclude, run_bind]
  rfl

/-- An answer is made of a solution, what its check gives and the fallbacks on record. -/
theorem conclude_answer {p : Problem} {x : Float} {t t' : Trace} {a : Answer}
    (h : (conclude p x).run.run t = (.ok a, t')) :
    ∃ warnings residual, (t.ofKind "unit_fallback").mapM fallbackWarning = .ok warnings ∧
      checked p.formula (p.completed x) = .ok residual ∧
      a = answer p x warnings residual (Unit.display? x p.unit) ∧ t <+: t' := by
  rw [conclude_run] at h
  cases told : (t.ofKind "unit_fallback").mapM fallbackWarning with
  | error e =>
      rw [told] at h
      cases h
  | ok warnings =>
      rw [told] at h
      obtain ⟨added, run, -⟩ := settle_yields p x warnings t
      have settled : (settle p x warnings).run.run t = (.ok a, t') := h
      rw [settled, Prod.mk.injEq] at run
      obtain ⟨residual, ok, same⟩ := Except.bind_eq_ok_iff.mp run.1.symm
      exact ⟨warnings, residual, rfl, ok, (Except.ok.inj same).symm, added, run.2.symm⟩

/-- A request that is answered is completed first. -/
theorem resolve_answer {s : Solver} {id : String} {inputs : List (String × Datum)}
    {t t' : Trace} {a : Answer} (h : (s.resolve id inputs).run.run t = (.ok a, t')) :
    ∃ p x t'', s.completion id inputs = .ok (p, x) ∧ t <+: t'' ∧
      (conclude p x).run.run t'' = (.ok a, t') := by
  rw [resolve_eq, run_bind] at h
  obtain ⟨added, completing, -⟩ := complete_yields s id inputs t
  rw [completing] at h
  cases completed : s.completion id inputs with
  | error e =>
      rw [completed] at h
      cases h
  | ok solved =>
      rw [completed] at h
      exact ⟨solved.1, solved.2, _, rfl, List.prefix_append t added, h⟩

theorem conclude_run_of_told {p : Problem} {x : Float} {t : Trace} (h : ∀ s ∈ t, s.Told) :
    (conclude p x).run.run t = (settle p x t.fallbackWarnings).run.run t := by
  rw [conclude_run, mapM_fallbackWarning h]
  rfl

/-- What follows a solution fails only where the check of the relation does. -/
theorem conclude_error_iff {p : Problem} {x : Float} {t : Trace} (h : ∀ s ∈ t, s.Told)
    {e : Failure} :
    ((conclude p x).run.run t).1 = .error e ↔
      checked p.formula (p.completed x) = .error e := by
  obtain ⟨added, settled, -⟩ := settle_yields p x t.fallbackWarnings t
  rw [conclude_run_of_told h, settled, Except.bind_eq_error_iff]
  simp

/-- A request fails while the problem is posed or solved, or where the check fails. -/
theorem resolve_error_iff {s : Solver} {id : String} {inputs : List (String × Datum)}
    {t : Trace} (h : ∀ s ∈ t, s.Told) {e : Failure} :
    ((s.resolve id inputs).run.run t).1 = .error e ↔
      (do
        let (p, x) ← s.completion id inputs
        checked p.formula (p.completed x)) = .error e := by
  rw [resolve_eq, run_bind]
  obtain ⟨added, run, more⟩ := complete_yields s id inputs t
  rw [run]
  cases s.completion id inputs with
  | error _ => simp [bind, Except.bind]
  | ok pair =>
      obtain ⟨p, x⟩ := pair
      refine conclude_error_iff fun step hs => ?_
      obtain old | new := List.mem_append.mp hs
      · exact h step old
      · exact more step new

end Solver

end Astrolabe
