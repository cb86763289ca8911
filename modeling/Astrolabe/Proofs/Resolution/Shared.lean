import Astrolabe.Proofs.Resolution.Grammar

/-!
Calls that share a record. A request, a solution and a conversion each add the same steps to any
record and return the same, but for an answer: it comes with the whole record, and warns of what
was not converted before it, too.
-/

namespace Astrolabe

/-- An answer with the warnings of an earlier record before its own. -/
def Answer.after (earlier : Trace) (a : Answer) : Answer :=
  { a with warnings := earlier.fallbackWarnings ++ a.warnings }

theorem map_after_nil (outcome : Except Failure Answer) :
    outcome.map (Answer.after []) = outcome := by
  cases outcome <;> rfl

namespace Recorded

/-- A computation of an answer that adds the same steps to any record, all of which can be told,
and takes nothing from the record but warnings. -/
def Answers (m : Recorded Answer) (outcome : Except Failure Answer) (added : Trace) : Prop :=
  (∀ s ∈ added, s.Told) ∧ ∀ t : Trace, (∀ s ∈ t, s.Told) →
    m.run.run t = (outcome.map (Answer.after t), t ++ added)

theorem Answers.run_nil {m : Recorded Answer} {outcome : Except Failure Answer} {added : Trace}
    (h : Answers m outcome added) : m.run.run [] = (outcome, added) := by
  rw [h.2 [] (by simp), map_after_nil, List.nil_append]

end Recorded

namespace Solver

open Recorded

/-! Requests. -/

/-- What a solution comes to, with warnings of fallbacks. -/
def concluded (fallbacks : List String) (solved : Problem × Float) : Except Failure Answer := do
  let residual ← checked solved.1.formula (solved.1.completed solved.2)
  .ok (answer solved.1 solved.2 fallbacks residual (Unit.display? solved.2 solved.1.unit))

theorem concluded_after (t : Trace) (fallbacks : List String) (solved : Problem × Float) :
    (concluded fallbacks solved).map (Answer.after t) =
      concluded (t.fallbackWarnings ++ fallbacks) solved := by
  unfold concluded
  cases checked solved.1.formula (solved.1.completed solved.2) with
  | error e => rfl
  | ok residual => simp [bind, Except.bind, Except.map, Answer.after, answer]

theorem check_adds_error {f : Formula} {values : String → Option Float} {e : Failure}
    (h : checked f values = .error e) : Adds (check f values) (.error e) [] := by
  have read := Adds.ofExcept .ofRelation (f.residual values)
  rw [Except.bind_ok_eq_error_iff.mp h] at read
  exact read.bind_error

/-- The steps that follow a solution do not depend on the warnings. -/
theorem settle_adds_always (p : Problem) (x : Float) :
    ∃ added, (∀ step ∈ added, step.kind ∈ closingKinds) ∧
      ∀ fallbacks, Adds (settle p x fallbacks) (concluded fallbacks (p, x)) added := by
  unfold concluded
  obtain ⟨display, prepares, displays⟩ := prepare_adds x p.unit
  cases checking : checked p.formula (p.completed x) with
  | error e => exact ⟨[], by simp, fun _ => (check_adds_error checking).bind_error⟩
  | ok residual =>
      obtain ⟨check, checks, checked⟩ := check_adds checking
      refine ⟨check ++ (display ++ []), ?_, fun _ => checks.bind (prepares.bind (.pure _))⟩
      rw [List.append_nil]
      exact List.forall_mem_append.mpr ⟨checked.kind, displays.kind⟩

/-- The end of a request that comes to a result: what it adds to a record, and an answer or a
failure that the result determines but for the warnings of fallbacks up to there. -/
structure Concludes (result : Except Failure (Problem × Float)) (more : Trace) : Prop where
  kinds : ∀ step ∈ more, step.kind ∈ closingKinds
  answers : ∀ {m : Recorded (Problem × Float)} {added : Trace}, Adds m result added →
    (∀ step ∈ added, step.Told) →
    Answers (m >>= Function.uncurry conclude) (result >>= concluded added.fallbackWarnings)
      (added ++ more)

theorem exists_concludes (result : Except Failure (Problem × Float)) :
    ∃ more, Concludes result more := by
  cases result with
  | error e =>
      refine ⟨[], by simp, fun adds told => ⟨by simpa using told, fun t _ => ?_⟩⟩
      rw [List.append_nil]
      exact adds.bind_error t
  | ok solved =>
      obtain ⟨p, x⟩ := solved
      obtain ⟨more, kinds, settles⟩ := settle_adds_always p x
      have later := (settles []).told (settle_yields p x [])
      refine ⟨more, kinds, fun {m added} adds told =>
        ⟨List.forall_mem_append.mpr ⟨told, later⟩, fun t earlier => ?_⟩⟩
      have all : ∀ s ∈ t ++ added, s.Told := List.forall_mem_append.mpr ⟨earlier, told⟩
      calc (m >>= Function.uncurry conclude).run.run t
        _ = (conclude p x).run.run (t ++ added) := by rw [run_bind, adds t]; rfl
        _ = (settle p x (Trace.fallbackWarnings (t ++ added))).run.run (t ++ added) :=
            conclude_run_of_told all
        _ = (concluded (t.fallbackWarnings ++ added.fallbackWarnings) (p, x),
              t ++ added ++ more) := by
            rw [settles, Trace.fallbackWarnings_append]
        _ = ((concluded added.fallbackWarnings (p, x)).map (Answer.after t),
              t ++ (added ++ more)) := by
            rw [concluded_after, List.append_assoc]

theorem noteIgnored_adds_some (f : Formula) (inputs : List (String × Datum)) :
    ∃ added, Adds (noteIgnored f inputs) (.ok ()) added ∧
      ∀ step ∈ added, step.kind = "inputs_ignored" := by
  unfold noteIgnored
  split
  next => exact ⟨_, Adds.step _, by simp [Trace.Step.kind]⟩
  next => exact ⟨_, Adds.pure (), by simp⟩

theorem solveRecorded_adds_some (s : Solver) (id unknown : String)
    (known : List (String × Float)) :
    ∃ added, Adds (s.solveRecorded id unknown known) (s.solve id unknown known) added := by
  cases solving : s.solve id unknown known with
  | error e => exact ⟨_, solveRecorded_adds_error solving⟩
  | ok x => exact ⟨_, solveRecorded_adds solving⟩

/-- What is left of solving a request once its fields are selected. -/
def pursue (s : Solver) (id : String) (f : Formula) (inputs : List (String × Datum)) :
    Recorded (Problem × Float) := do
  let p ← ask f inputs
  let x ← s.solveRecorded id p.unknown p.known
  pure (p, x)

theorem ask_adds_some (f : Formula) (inputs : List (String × Datum)) :
    ∃ result added, Adds (ask f inputs) result added := by
  by_cases count : (unfilled f inputs).length = 1
  · obtain ⟨u, only⟩ := List.length_eq_one_iff.mp count
    obtain ⟨groups, asked, -⟩ := ask_adds only
    exact ⟨_, _, asked⟩
  · exact ⟨_, _, ask_adds_error count⟩

theorem pursue_adds (s : Solver) (id : String) (f : Formula) (inputs : List (String × Datum)) :
    ∃ result added, Adds (pursue s id f inputs) result added := by
  obtain ⟨result, asked, asks⟩ := ask_adds_some f inputs
  cases result with
  | error e => exact ⟨_, _, asks.bind_error⟩
  | ok p =>
      obtain ⟨solved, solves⟩ := solveRecorded_adds_some s id p.unknown p.known
      exact ⟨_, _, asks.bind (solves.map (p, ·))⟩

theorem complete_adds_of_pursue {s : Solver} {id : String} {f : Formula} {inversion : Inversion}
    {inputs : List (String × Datum)} (found : s.formula id = .ok (f, inversion))
    {ignored added : Trace} (noted : Adds (noteIgnored f inputs) (.ok ()) ignored)
    {result : Except Failure (Problem × Float)}
    (pursued : Adds (pursue s id f inputs) result added) :
    Adds (s.complete id inputs) result (openingSteps id inputs f ignored ++ added) := by
  have stages : s.complete id inputs = (do
      step (.inputs id inputs)
      noteIgnored f inputs
      steps ((selections f inputs).map fun field =>
        .selected field.1.symbol field.2.unit field.2.entry)
      pursue s id f inputs) := by
    rw [complete, pose, found]
    simp only [pursue, ask, bind_assoc, pure_bind]
    rfl
  rw [stages, openingSteps, List.append_assoc, List.cons_append]
  exact .stepThen (noted.bind (.stepsThen pursued))

theorem complete_adds_some (s : Solver) (id : String) (inputs : List (String × Datum)) :
    ∃ added, Adds (s.complete id inputs) (s.completion id inputs) added := by
  suffices h : ∃ result added, Adds (s.complete id inputs) result added by
    obtain ⟨result, added, adds⟩ := h
    obtain rfl := adds.result_eq (complete_yields s id inputs)
    exact ⟨added, adds⟩
  cases found : s.formula id with
  | error r =>
      refine ⟨.error (.refused r), [.inputs id inputs], ?_⟩
      rw [complete, pose, found]
      exact (Adds.stepThen (.bind_error (.ofExcept _ _))).bind_error
  | ok pair =>
      obtain ⟨ignored, noted, -⟩ := noteIgnored_adds_some pair.1 inputs
      obtain ⟨result, added, pursued⟩ := pursue_adds s id pair.1 inputs
      exact ⟨_, _, complete_adds_of_pursue found noted pursued⟩

theorem resolve_answers (s : Solver) (id : String) (inputs : List (String × Datum)) :
    ∃ outcome added, Answers (s.resolve id inputs) outcome added := by
  obtain ⟨added, adds⟩ := complete_adds_some s id inputs
  obtain ⟨more, concludes⟩ := exists_concludes (s.completion id inputs)
  rw [resolve_eq]
  exact ⟨_, _, concludes.answers adds (adds.told (complete_yields s id inputs))⟩

end Solver

/-! Calls. -/

/-- A call that takes a record. -/
inductive Call where
  | resolve (id : String) (inputs : List (String × Datum))
  | solve (id unknown : String) (known : List (String × Float))
  | toCanonical (value : Float) (source canonical : String)

/-- What a call returns. An answer comes with the record up to there. -/
inductive Reply where
  | answer (a : Answer) (record : Trace)
  | value (x : Float)

/-- The reply to a call that other calls came before. -/
def Reply.after (earlier : Trace) : Reply → Reply
  | .answer a record => .answer (a.after earlier) (earlier ++ record)
  | .value x => .value x

namespace Call

open Recorded

def perform (s : Solver) : Call → Recorded Reply
  | resolve id inputs => do
    let a ← s.resolve id inputs
    pure (.answer a (← get))
  | solve id unknown known => do pure (.value (← s.solveRecorded id unknown known))
  | toCanonical value source canonical => do
    Recorded.steps (Unit.toCanonical value source canonical).2
    pure (.value (Unit.toCanonical value source canonical).1)

/-- The reply to a call on a record of its own. -/
def reply (s : Solver) (c : Call) : Except Failure Reply :=
  ((c.perform s).run.run []).1

/-- The steps of a call on a record of its own. -/
def steps (s : Solver) (c : Call) : Trace :=
  ((c.perform s).run.run []).2

theorem after_nil (outcome : Except Failure Reply) : outcome.map (Reply.after []) = outcome := by
  cases outcome with
  | error e => rfl
  | ok reply => cases reply <;> rfl

/-- A call composes with calls before it if its steps do not depend on the record, and its reply
only as a reply does. -/
def Composes (s : Solver) (c : Call) : Prop :=
  (∀ step ∈ c.steps s, step.Told) ∧ ∀ t : Trace, (∀ step ∈ t, step.Told) →
    (c.perform s).run.run t = ((c.reply s).map (Reply.after t), t ++ c.steps s)

theorem composes_of_run {s : Solver} {c : Call} (outcome : Except Failure Reply) {added : Trace}
    (told : ∀ step ∈ added, step.Told)
    (run : ∀ t : Trace, (∀ step ∈ t, step.Told) →
      (c.perform s).run.run t = (outcome.map (Reply.after t), t ++ added)) : Composes s c := by
  have alone := run [] (by simp)
  rw [after_nil, List.nil_append] at alone
  rw [Composes, reply, steps, alone]
  exact ⟨told, run⟩

theorem composes_of_adds {s : Solver} {c : Call} {m : Recorded Float}
    {result : Except Failure Float} {added : Trace}
    (performs : c.perform s = m >>= fun x => pure (.value x))
    (adds : Adds m result added) (told : ∀ step ∈ added, step.Told) : Composes s c := by
  refine composes_of_run (result.map .value) told fun t _ => ?_
  rw [performs, adds.map Reply.value t]
  cases result <;> rfl

theorem composes (s : Solver) (c : Call) : Composes s c := by
  cases c with
  | resolve id inputs =>
      obtain ⟨outcome, added, told, run⟩ := s.resolve_answers id inputs
      refine composes_of_run (outcome.map (.answer · added)) told fun t earlier => ?_
      rw [perform, run_bind, run t earlier]
      cases outcome <;> rfl
  | solve id unknown known =>
      obtain ⟨added, adds⟩ := s.solveRecorded_adds_some id unknown known
      exact composes_of_adds rfl adds (adds.told (s.solveRecorded_yields id unknown known))
  | toCanonical value source canonical =>
      exact composes_of_adds (m := do
        Recorded.steps (Unit.toCanonical value source canonical).2
        pure (Unit.toCanonical value source canonical).1) rfl (.stepsThen (.pure _))
        (by simpa using fun _ => Solver.told_of_toCanonical)

/-- An answer comes with all steps of its call. -/
theorem record_eq_steps {s : Solver} {c : Call} {a : Answer} {record : Trace}
    (h : c.reply s = .ok (.answer a record)) : record = c.steps s := by
  cases c with
  | resolve id inputs =>
      obtain ⟨outcome, added, answers⟩ := s.resolve_answers id inputs
      rw [reply, perform, run_bind, answers.run_nil] at h
      rw [steps, perform, run_bind, answers.run_nil]
      cases outcome with
      | error e => cases h
      | ok a' =>
          cases h
          rfl
  | solve id unknown known =>
      rw [reply, perform, run_bind] at h
      split at h <;> cases h
  | toCanonical value source canonical => cases h

end Call

/-- Calls one after the other on one record. A call that fails leaves its steps there. -/
def Solver.session (s : Solver) : List Call → Trace → List (Except Failure Reply) × Trace
  | [], t => ([], t)
  | c :: rest, t =>
    let (reply, t') := (c.perform s).run.run t
    let (replies, t'') := s.session rest t'
    (reply :: replies, t'')

namespace Solver

theorem session_run (s : Solver) (calls : List Call) {t : Trace} (told : ∀ step ∈ t, step.Told) :
    (s.session calls t).2 = t ++ calls.flatMap (Call.steps s) ∧
      (s.session calls t).1.length = calls.length ∧
      ∀ (before : List Call) (c : Call) (after : List Call), calls = before ++ c :: after →
        (s.session calls t).1[before.length]? =
          some ((c.reply s).map (Reply.after (t ++ before.flatMap (Call.steps s)))) := by
  induction calls generalizing t with
  | nil => simp [session]
  | cons first rest ih =>
      obtain ⟨later, run⟩ := first.composes s
      obtain ⟨log, length, replies⟩ := ih (List.forall_mem_append.mpr ⟨told, later⟩)
      have stepped : s.session (first :: rest) t =
          ((first.reply s).map (Reply.after t) :: (s.session rest (t ++ first.steps s)).1,
            (s.session rest (t ++ first.steps s)).2) := by
        rw [session, run t told]
      rw [stepped]
      refine ⟨by simp [log], by simp [length], fun before c after same => ?_⟩
      cases before with
      | nil =>
          obtain ⟨rfl, rfl⟩ := List.cons.inj same
          simp
      | cons earlier before =>
          obtain ⟨rfl, rfl⟩ := List.cons.inj same
          simpa using replies before c after rfl

/-- Calls on one record compose. What is on record at the end is what each call puts on a record of
its own, in order, and a call replies as it does alone; only an answer comes with all that is on
record up to there, and with the warnings for the fallbacks of all calls before its own. -/
theorem session_composes (s : Solver) :
    (∀ calls : List Call, (s.session calls []).2 = calls.flatMap (Call.steps s) ∧
      (s.session calls []).1.length = calls.length) ∧
    ∀ (before : List Call) (c : Call) (after : List Call),
      (s.session (before ++ c :: after) []).1[before.length]? =
        some ((c.reply s).map (Reply.after (before.flatMap (Call.steps s)))) ∧
      Trace.fallbackWarnings (before.flatMap (Call.steps s)) =
        before.flatMap (fun earlier => (earlier.steps s).fallbackWarnings) ∧
      ∀ a record, c.reply s = .ok (.answer a record) → record = c.steps s := by
  refine ⟨fun calls => ?_, fun before c after => ⟨?_, ?_, fun a record => Call.record_eq_steps⟩⟩
  · obtain ⟨log, length, -⟩ := s.session_run calls (t := []) (by simp)
    exact ⟨log, length⟩
  · obtain ⟨-, -, replies⟩ := s.session_run (before ++ c :: after) (t := []) (by simp)
    exact replies before c after rfl
  · exact Trace.fallbackWarnings_flatMap before _

end Solver

end Astrolabe
