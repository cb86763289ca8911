import Astrolabe.Resolution

/-!
Computations on record whose result does not depend on the record. They add steps at its
end, and every fallback among these steps can be told in a warning.
-/

namespace Astrolabe

/-- A fallback names the units that its warning is about. -/
def Trace.Step.Told (s : Trace.Step) : Prop :=
  s.kind = "unit_fallback" → ∃ warning, Solver.fallbackWarning s.detail = .ok warning

/-- All steps of a request itself can be told; only notes may leave something out. -/
theorem Trace.Step.told {s : Trace.Step} (own : ∀ kind detail, s ≠ .note kind detail) :
    s.Told := by
  intro fallback
  cases s with
  | fallback source target x => exact ⟨_, rfl⟩
  | note kind detail => exact absurd rfl (own kind detail)
  | _ => exact absurd fallback (by simp [kind])

namespace Recorded

theorem run_bind {α β : Type} (m : Recorded α) (k : α → Recorded β) (t : Trace) :
    (m >>= k).run.run t =
      match m.run.run t with
      | (.ok a, t') => (k a).run.run t'
      | (.error e, t') => (.error e, t') := by
  rw [ExceptT.run_bind, StateT.run_bind]
  obtain ⟨_ | _, t'⟩ := m.run.run t <;> rfl

/-- From every record a computation has the same result and only adds steps. -/
def Yields {α : Type} (m : Recorded α) (result : Except Failure α) : Prop :=
  ∀ t : Trace, ∃ added : Trace,
    m.run.run t = (result, t ++ added) ∧ ∀ s ∈ added, s.Told

namespace Yields

variable {α β : Type}

theorem pure (a : α) : Yields (pure a) (.ok a) :=
  fun _ => ⟨[], by rw [List.append_nil]; rfl, by simp⟩

theorem throw (e : Failure) : Yields (throw e : Recorded α) (.error e) :=
  fun _ => ⟨[], by rw [List.append_nil]; rfl, by simp⟩

theorem step {s : Trace.Step} (told : s.Told) : Yields (step s) (.ok ()) :=
  fun _ => ⟨[s], rfl, by simpa using told⟩

theorem steps {more : Trace} (told : ∀ s ∈ more, s.Told) : Yields (steps more) (.ok ()) :=
  fun _ => ⟨more, rfl, told⟩

theorem ofExcept {ε : Type} (onError : ε → Failure) (x : Except ε α) :
    Yields (ofExcept onError x) (x.mapError onError) := by
  cases x with
  | ok a => exact pure a
  | error e => exact throw (onError e)

theorem lift (x : Except Failure α) : Yields (lift x) x := by
  cases x with
  | ok a => exact pure a
  | error e => exact throw e

/-- Computations one after the other have their results one after the other. -/
theorem bind {m : Recorded α} {result : Except Failure α} {k : α → Recorded β}
    {next : α → Except Failure β} (hm : Yields m result)
    (hk : ∀ a, result = .ok a → Yields (k a) (next a)) :
    Yields (m >>= k) (result >>= next) := by
  intro t
  obtain ⟨first, run, told⟩ := hm t
  cases result with
  | error e => exact ⟨first, by rw [run_bind, run]; rfl, told⟩
  | ok a =>
      obtain ⟨second, run', told'⟩ := hk a rfl (t ++ first)
      refine ⟨first ++ second, ?_, ?_⟩
      · rw [run_bind, run, ← List.append_assoc]
        exact run'
      · intro s hs
        obtain h | h := List.mem_append.mp hs
        · exact told s h
        · exact told' s h

/-- A computation that cannot fail leaves the result to the next one. -/
theorem andThen {m : Recorded α} {a : α} {k : α → Recorded β} {result : Except Failure β}
    (hm : Yields m (.ok a)) (hk : Yields (k a) result) : Yields (m >>= k) result :=
  have next : ∀ b, Except.ok a = (.ok b : Except Failure α) → Yields (k b) result :=
    fun _ same => Except.ok.inj same ▸ hk
  bind hm next

theorem stepThen {s : Trace.Step} {k : Unit → Recorded β} {result : Except Failure β}
    (own : ∀ kind detail, s ≠ .note kind detail) (hk : Yields (k ()) result) :
    Yields (Recorded.step s >>= k) result :=
  andThen (step (Trace.Step.told own)) hk

theorem mapM {g : α → Recorded β} {next : α → Except Failure β} {items : List α}
    (all : ∀ a ∈ items, Yields (g a) (next a)) :
    Yields (items.mapM g) (items.mapM next) := by
  induction items with
  | nil => exact pure []
  | cons a rest ih =>
      rw [List.mapM_cons, List.mapM_cons]
      refine bind (all a (List.mem_cons_self ..)) fun b _ => ?_
      refine bind (ih fun c hc => all c (List.mem_cons_of_mem _ hc)) fun bs _ => ?_
      exact pure (b :: bs)

end Yields

/-- From every record a computation has the same result and adds the same steps. -/
def Adds {α : Type} (m : Recorded α) (result : Except Failure α) (added : Trace) : Prop :=
  ∀ t : Trace, m.run.run t = (result, t ++ added)

namespace Adds

variable {α β : Type}

theorem pure (a : α) : Adds (pure a) (.ok a) [] :=
  fun _ => by rw [List.append_nil]; rfl

theorem throw (e : Failure) : Adds (throw e : Recorded α) (.error e) [] :=
  fun _ => by rw [List.append_nil]; rfl

theorem step (s : Trace.Step) : Adds (step s) (.ok ()) [s] :=
  fun _ => rfl

theorem steps (more : Trace) : Adds (steps more) (.ok ()) more :=
  fun _ => rfl

theorem ofExcept {ε : Type} (onError : ε → Failure) (x : Except ε α) :
    Adds (ofExcept onError x) (x.mapError onError) [] := by
  cases x with
  | ok a => exact pure a
  | error e => exact throw (onError e)

theorem lift (x : Except Failure α) : Adds (lift x) x [] := by
  cases x with
  | ok a => exact pure a
  | error e => exact throw e

theorem ofOk {ε : Type} {onError : ε → Failure} {a : α} {k : α → Recorded β}
    {result : Except Failure β} {added : Trace} (hk : Adds (k a) result added) :
    Adds (Recorded.ofExcept onError (.ok a) >>= k) result added :=
  hk

/-- A computation that succeeds leaves the result to the next one. -/
theorem bind {m : Recorded α} {a : α} {k : α → Recorded β} {result : Except Failure β}
    {first second : Trace} (hm : Adds m (.ok a) first) (hk : Adds (k a) result second) :
    Adds (m >>= k) result (first ++ second) := by
  intro t
  rw [run_bind, hm t, ← List.append_assoc]
  exact hk (t ++ first)

theorem stepThen {s : Trace.Step} {k : Unit → Recorded β} {result : Except Failure β}
    {added : Trace} (hk : Adds (k ()) result added) :
    Adds (Recorded.step s >>= k) result (s :: added) :=
  bind (step s) hk

theorem stepsThen {more : Trace} {k : Unit → Recorded β} {result : Except Failure β}
    {added : Trace} (hk : Adds (k ()) result added) :
    Adds (Recorded.steps more >>= k) result (more ++ added) :=
  bind (steps more) hk

/-- What follows a failure leaves nothing on record. -/
theorem bind_error {m : Recorded α} {e : Failure} {k : α → Recorded β} {added : Trace}
    (hm : Adds m (.error e) added) : Adds (m >>= k) (.error e) added := by
  intro t
  rw [run_bind, hm t]

theorem result_eq {m : Recorded α} {result result' : Except Failure α} {added : Trace}
    (hm : Adds m result added) (h : Yields m result') : result = result' := by
  obtain ⟨_, run, -⟩ := h []
  exact congrArg Prod.fst ((hm []).symm.trans run)

theorem told {m : Recorded α} {result result' : Except Failure α} {added : Trace}
    (hm : Adds m result added) (h : Yields m result') : ∀ s ∈ added, s.Told := by
  obtain ⟨more, run, told⟩ := h []
  obtain rfl : added = more := congrArg Prod.snd ((hm []).symm.trans run)
  exact told

theorem map {m : Recorded α} {result : Except Failure α} {added : Trace} (g : α → β)
    (hm : Adds m result added) : Adds (m >>= fun a => Pure.pure (g a)) (result.map g) added := by
  cases result with
  | error e => exact hm.bind_error
  | ok a =>
      have next : Adds (m >>= fun a => Pure.pure (g a)) (.ok (g a)) (added ++ []) :=
        hm.bind (pure (g a))
      rwa [List.append_nil] at next

end Adds

end Recorded

end Astrolabe
