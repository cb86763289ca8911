import Mathlib.Data.List.Forall2

/-!
Computations that succeed or fail, one after the other and over lists.
-/

theorem List.Forall₂.exists_of_mem_left {α β : Type} {r : α → β → Prop} {xs : List α} {ys : List β}
    (h : List.Forall₂ r xs ys) {x : α} (hx : x ∈ xs) : ∃ y ∈ ys, r x y := by
  induction h with
  | nil => cases hx
  | cons here _ ih =>
      obtain rfl | later := List.mem_cons.mp hx
      · exact ⟨_, List.mem_cons_self .., here⟩
      · obtain ⟨y, mem, related⟩ := ih later
        exact ⟨y, List.mem_cons_of_mem _ mem, related⟩

namespace Except

variable {α β ε δ : Type}

theorem bind_eq_ok_iff {x : Except ε α} {next : α → Except ε β} {b : β} :
    (x >>= next) = .ok b ↔ ∃ a, x = .ok a ∧ next a = .ok b := by
  cases x <;> simp [bind, Except.bind]

theorem bind_eq_error_iff {x : Except ε α} {next : α → Except ε β} {e : ε} :
    (x >>= next) = .error e ↔ x = .error e ∨ ∃ a, x = .ok a ∧ next a = .error e := by
  cases x <;> simp [bind, Except.bind]

theorem bind_ok_eq_error_iff {x : Except ε α} {g : α → β} {e : ε} :
    (x >>= fun a => .ok (g a)) = .error e ↔ x = .error e := by
  cases x <;> simp [bind, Except.bind]

theorem mapError_eq_ok_iff {x : Except ε α} {onError : ε → δ} {a : α} :
    x.mapError onError = .ok a ↔ x = .ok a := by
  cases x <;> simp [Except.mapError]

theorem mapError_eq_error_iff {x : Except ε α} {onError : ε → δ} {d : δ} :
    x.mapError onError = .error d ↔ ∃ e, x = .error e ∧ onError e = d := by
  cases x <;> simp [Except.mapError]

theorem toOption_eq_some_iff {x : Except ε α} {a : α} : x.toOption = some a ↔ x = .ok a := by
  cases x <;> simp [Except.toOption]

theorem exists_of_isOk {x : Except ε α} (h : x.isOk = true) : ∃ a, x = .ok a := by
  cases x with
  | ok a => exact ⟨a, rfl⟩
  | error e => cases h

/-- What is evaluated of the result of a run is so of a result that the run has. -/
theorem exists_of_run {τ : Type} {outcome : Except ε α × τ} {g : α → β} {b : β}
    (h : outcome.1.toOption.map g = some b) : ∃ a t, outcome = (.ok a, t) ∧ g a = b := by
  obtain ⟨x, t⟩ := outcome
  obtain ⟨a, found, value⟩ := Option.map_eq_some_iff.mp h
  exact ⟨a, t, Prod.ext (toOption_eq_some_iff.mp found) rfl, value⟩

/-- Computations with the same result, if any, succeed with the same one. -/
theorem eq_ok_congr {x : Except ε α} {y : Except δ α} (h : x.toOption = y.toOption) (a : α) :
    x = .ok a ↔ y = .ok a := by
  rw [← toOption_eq_some_iff, ← toOption_eq_some_iff, h]

theorem toOption_mapError (x : Except ε α) (onError : ε → δ) :
    (x.mapError onError).toOption = x.toOption := by
  cases x <;> rfl

theorem toOption_map (x : Except ε α) (f : α → β) : (x.map f).toOption = x.toOption.map f := by
  cases x <;> rfl

theorem toOption_bind (x : Except ε α) (next : α → Except ε β) :
    (x >>= next).toOption = x.toOption.bind fun a => (next a).toOption := by
  cases x <;> rfl

theorem mapM_eq_ok_filterMap {g : α → Except ε β} {h : α → Option β} {items : List α}
    (all : ∀ a ∈ items, ∃ b, g a = .ok b ∧ h a = some b) :
    items.mapM g = .ok (items.filterMap h) := by
  induction items with
  | nil => rfl
  | cons a rest ih =>
      obtain ⟨b, hg, hh⟩ := all a (List.mem_cons_self ..)
      have tail := ih fun c hc => all c (List.mem_cons_of_mem _ hc)
      simp [List.mapM_cons, hg, hh, tail, bind, Except.bind, pure, Except.pure]

theorem mapM_cons_eq_ok_iff {g : α → Except ε β} {a : α} {rest : List α}
    {results : List β} :
    (a :: rest).mapM g = .ok results ↔
      ∃ b bs, g a = .ok b ∧ rest.mapM g = .ok bs ∧ results = b :: bs := by
  simp only [List.mapM_cons, bind_eq_ok_iff, pure, Except.pure, Except.ok.injEq,
    exists_and_left, eq_comm (a := results)]

/-- A list of computations succeeds just where each of them does. -/
theorem mapM_eq_ok_iff {g : α → Except ε β} {items : List α} {results : List β} :
    items.mapM g = .ok results ↔ List.Forall₂ (fun a b => g a = .ok b) items results := by
  induction items generalizing results with
  | nil => simp [pure, Except.pure, eq_comm]
  | cons a rest ih =>
      simp only [mapM_cons_eq_ok_iff, ih, List.forall₂_cons_left_iff, exists_and_left]

/-- A list of computations fails just where one of them does, after those before it. -/
theorem mapM_eq_error_iff {g : α → Except ε β} {items : List α} {e : ε} :
    items.mapM g = .error e ↔
      ∃ before a after, items = before ++ a :: after ∧ (∀ b ∈ before, ∃ y, g b = .ok y) ∧
        g a = .error e := by
  induction items with
  | nil => simp [pure, Except.pure]
  | cons first rest ih =>
      rw [List.mapM_cons, bind_eq_error_iff]
      constructor
      · rintro (here | ⟨y, ok, later⟩)
        · exact ⟨[], first, rest, rfl, by simp, here⟩
        · obtain failed | ⟨_, _, never⟩ := bind_eq_error_iff.mp later
          · obtain ⟨before, a, after, rfl, fine, failed⟩ := ih.mp failed
            exact ⟨first :: before, a, after, rfl, by simpa [ok] using fine, failed⟩
          · cases never
      · rintro ⟨before, a, after, same, fine, failed⟩
        cases before with
        | nil =>
            obtain ⟨rfl, rfl⟩ := List.cons.inj same
            exact .inl failed
        | cons b before =>
            obtain ⟨rfl, rfl⟩ := List.cons.inj same
            obtain ⟨⟨y, ok⟩, fine⟩ := List.forall_mem_cons.mp fine
            exact .inr ⟨y, ok, bind_eq_error_iff.mpr
              (.inl (ih.mpr ⟨before, a, after, rfl, fine, failed⟩))⟩

/-- A fold over a list fails just where one step of it does, after those before it. -/
theorem foldlM_eq_error_iff {g : β → α → Except ε β} {items : List α} {start : β} {e : ε} :
    items.foldlM g start = .error e ↔
      ∃ before a after reached, items = before ++ a :: after ∧
        before.foldlM g start = .ok reached ∧ g reached a = .error e := by
  induction items generalizing start with
  | nil => simp [pure, Except.pure]
  | cons first rest ih =>
      rw [List.foldlM_cons, bind_eq_error_iff]
      constructor
      · rintro (here | ⟨next, ok, later⟩)
        · exact ⟨[], first, rest, start, rfl, rfl, here⟩
        · obtain ⟨before, a, after, reached, rfl, run, failed⟩ := ih.mp later
          refine ⟨first :: before, a, after, reached, rfl, ?_, failed⟩
          rw [List.foldlM_cons, ok]
          exact run
      · rintro ⟨before, a, after, reached, same, run, failed⟩
        cases before with
        | nil =>
            obtain ⟨rfl, rfl⟩ := List.cons.inj same
            cases run
            exact .inl failed
        | cons b before =>
            obtain ⟨rfl, rfl⟩ := List.cons.inj same
            rw [List.foldlM_cons, bind_eq_ok_iff] at run
            obtain ⟨next, ok, run⟩ := run
            exact .inr ⟨next, ok, ih.mpr ⟨before, a, after, reached, rfl, run, failed⟩⟩

/-- Each of a list of computations that succeed has its result among the results. -/
theorem mem_of_mapM {g : α → Except ε β} {items : List α} {results : List β}
    (h : items.mapM g = .ok results) {a : α} (ha : a ∈ items) :
    ∃ b ∈ results, g a = .ok b :=
  (mapM_eq_ok_iff.mp h).exists_of_mem_left ha

end Except
