import Astrolabe.Proofs.Relation.Denominators
import Astrolabe.Proofs.Resolution.Posed
import Astrolabe.Proofs.Solver.Outcome

/-!
What leaves the boundary of requests. A request whose fields are texts or empty has an
envelope, an answer or a refusal, except where the check of its solution divides by
zero.
-/

namespace Astrolabe

/-- What a caller gives for a symbol: nothing, a text, or fields by unit that hold a text
or nothing. -/
inductive Given where
  | nothing
  | text (s : String)
  | fields (entries : List (String × Option String))

namespace Given

def field : Option String → Datum
  | some s => .text s
  | none => .null

def toDatum : Given → Datum
  | nothing => .null
  | text s => .text s
  | fields entries => .map (entries.map fun (unit, entry) => (unit, field entry))

def inputs (given : List (String × Given)) : List (String × Datum) :=
  given.map fun (symbol, g) => (symbol, g.toDatum)

end Given

namespace Datum

/-- An entry for a field: nothing, a text or a finite number. -/
inductive IsEntry : Datum → Prop
  | null : IsEntry .null
  | text (s : String) : IsEntry (.text s)
  | float {x : Float} (finite : x.isFinite = true) : IsEntry (.float x)

/-- What is given for a symbol: an entry, or entries by unit. -/
inductive IsGiven : Datum → Prop
  | entry {d : Datum} (h : d.IsEntry) : IsGiven d
  | fields {entries : List (String × Datum)} (h : ∀ field ∈ entries, field.2.IsEntry) :
      IsGiven (.map entries)

end Datum

namespace Given

theorem field_isEntry (entry : Option String) : (field entry).IsEntry := by
  cases entry with
  | none => exact .null
  | some s => exact .text s

theorem inputs_isGiven (given : List (String × Given)) :
    ∀ entry ∈ inputs given, entry.2.IsGiven := by
  intro entry mem
  obtain ⟨⟨symbol, g⟩, -, rfl⟩ := List.mem_map.mp mem
  cases g with
  | nothing => exact .entry .null
  | text s => exact .entry (.text s)
  | fields entries =>
      refine .fields fun field mem => ?_
      obtain ⟨⟨unit, entry⟩, -, rfl⟩ := List.mem_map.mp mem
      exact field_isEntry entry

end Given

namespace Solver

theorem isEntry_of_ofInput {unit : String} {d : Datum} (given : d.IsGiven)
    {selection : Selection} (h : Selection.ofInput unit d = some selection) :
    selection.entry.IsEntry := by
  cases given with
  | fields all => exact all _ (Selection.mem_of_ofFields h)
  | entry entry =>
      rw [Selection.ofInput_of_not_map (by rintro ⟨_, rfl⟩; cases entry),
        Option.ite_none_left_eq_some] at h
      obtain ⟨-, same⟩ := h
      cases same
      exact entry

theorem isEntry_of_selectionFor {inputs : List (String × Datum)}
    (given : ∀ entry ∈ inputs, entry.2.IsGiven) {v : Variable} {selection : Selection}
    (h : selectionFor inputs v = some selection) : selection.entry.IsEntry := by
  unfold selectionFor at h
  cases found : Datum.lookup? v.symbol inputs with
  | none =>
      rw [found] at h
      cases h
  | some d =>
      rw [found, Option.getD_some] at h
      exact isEntry_of_ofInput (given _ (Datum.mem_of_lookup? found)) h

theorem entryValue_refused {entry : Datum} (h : entry.IsEntry) {e : Entry.Failure}
    (failed : Entry.value entry = .error e) : ∃ r, e = .refused r := by
  cases h with
  | null =>
      cases failed
      exact ⟨_, rfl⟩
  | text s =>
      change (Entry.textValue s).mapError .refused = .error e at failed
      obtain ⟨r, -, rfl⟩ := Except.mapError_eq_error_iff.mp failed
      exact ⟨r, rfl⟩
  | float finite =>
      rw [Entry.value, if_pos finite] at failed
      cases failed

theorem canonical_refused {f : Formula} {v : Variable} {selection : Selection}
    (entry : selection.entry.IsEntry) {e : Failure}
    (h : canonical f v selection = .error e) : ∃ r, e = .refused r := by
  obtain read | ⟨x, -, range⟩ := Except.bind_eq_error_iff.mp h
  · obtain ⟨failure, refused, rfl⟩ := Except.mapError_eq_error_iff.mp read
    obtain ⟨r, rfl⟩ := entryValue_refused entry refused
    exact ⟨.entry r, rfl⟩
  · dsimp only at range
    split at range
    · cases range
    · cases range
      exact ⟨_, rfl⟩

theorem knownValues_refused {f : Formula} {inputs : List (String × Datum)}
    (given : ∀ entry ∈ inputs, entry.2.IsGiven) {e : Failure}
    (h : knownValues f inputs = .error e) : ∃ r, e = .refused r := by
  obtain ⟨before, ⟨v, selection⟩, after, all, -, failed⟩ := Except.mapM_eq_error_iff.mp h
  have mem : (v, selection) ∈ selections f inputs := by simp [all]
  obtain ⟨-, selected⟩ := mem_selections_iff.mp mem
  rw [Except.bind_ok_eq_error_iff] at failed
  exact canonical_refused (isEntry_of_selectionFor given selected) failed

theorem problem_refused {s : Solver} {id : String} {inputs : List (String × Datum)}
    (given : ∀ entry ∈ inputs, entry.2.IsGiven) {e : Failure}
    (h : s.problem id inputs = .error e) : ∃ r, e = .refused r := by
  obtain unregistered | ⟨⟨f, inversion⟩, -, h⟩ := Except.bind_eq_error_iff.mp h
  · obtain ⟨r, -, rfl⟩ := Except.mapError_eq_error_iff.mp unregistered
    exact ⟨r, rfl⟩
  obtain count | ⟨unknown, -, h⟩ := Except.bind_eq_error_iff.mp h
  · obtain ⟨r, -, rfl⟩ := Except.mapError_eq_error_iff.mp count
    exact ⟨r, rfl⟩
  obtain read | ⟨known, -, never⟩ := Except.bind_eq_error_iff.mp h
  · exact knownValues_refused given read
  · cases never

theorem lookup_knownValues {f : Formula} {inputs : List (String × Datum)}
    {known : List (String × Float)} (h : knownValues f inputs = .ok known)
    {symbol : String} (filled : hasValue f inputs symbol = true) :
    (known.lookup symbol).isSome := by
  obtain ⟨⟨v, selection⟩, mem, same⟩ := List.any_eq_true.mp filled
  obtain ⟨entry, known_mem, read⟩ := Except.mem_of_mapM h mem
  obtain ⟨x, -, ok⟩ := Except.bind_eq_ok_iff.mp read
  cases ok
  rw [List.lookup_isSome_iff]
  exact ⟨(v.symbol, x), known_mem, beq_iff_eq.mpr (eq_of_beq same).symm⟩

/-- The unknown of a problem is a variable of its formula, and all others are known. -/
theorem problem_spec {s : Solver} {id : String} {inputs : List (String × Datum)}
    {p : Problem} (h : s.problem id inputs = .ok p) :
    (∃ inversion, s.formula id = .ok (p.formula, inversion)) ∧
      p.unknown ∈ p.formula.symbols ∧
      ∀ w ∈ p.formula.symbols, w ≠ p.unknown → (p.known.lookup w).isSome := by
  obtain ⟨⟨f, inversion⟩, found, h⟩ := Except.bind_eq_ok_iff.mp h
  obtain ⟨unknown, count, h⟩ := Except.bind_eq_ok_iff.mp h
  obtain ⟨known, read, same⟩ := Except.bind_eq_ok_iff.mp h
  cases same
  rw [Except.mapError_eq_ok_iff] at found count
  have only : (f.symbols.filter fun symbol => !hasValue f inputs symbol) = [unknown] := by
    unfold Formula.unknown at count
    split at count
    next symbol one =>
      cases count
      exact one
    next => cases count
  refine ⟨⟨inversion, found⟩, ?_, fun w hw different => lookup_knownValues read ?_⟩
  · exact (List.mem_filter.mp (only ▸ List.mem_singleton_self unknown)).1
  · by_contra blank
    have mem : w ∈ [unknown] := only ▸ List.mem_filter.mpr ⟨hw, by simpa using blank⟩
    exact different (List.mem_singleton.mp mem)

theorem packaged_formula_eq_ok {id : String} {f : Formula} {inversion : Inversion}
    (h : packaged.formula id = .ok (f, inversion)) :
    f ∈ Catalog.packaged.formulas ∧ f.id = id := by
  unfold formula at h
  split at h
  next g _ found _ =>
    cases h
    exact ⟨List.mem_of_find?_eq_some found, by simpa using List.find?_some found⟩
  next => cases h

/-- Solving a packaged formula fails only with a refusal. -/
theorem packaged_completion_refused {id : String} {given : List (String × Given)}
    {e : Failure} (h : packaged.completion id (Given.inputs given) = .error e) :
    ∃ r, e = .refused r := by
  obtain posing | ⟨p, posed, h⟩ := Except.bind_eq_error_iff.mp h
  · exact problem_refused (Given.inputs_isGiven given) posing
  obtain solving | ⟨_, _, never⟩ := Except.bind_eq_error_iff.mp h
  · obtain ⟨⟨inversion, found⟩, unknown, known⟩ := problem_spec posed
    obtain ⟨mem, rfl⟩ := packaged_formula_eq_ok found
    obtain ⟨_, knows⟩ := packaged_knows mem
    have outcome := knows.solve_outcome unknown known
    rw [solving] at outcome
    cases outcome with
    | refused reason _ => exact ⟨_, rfl⟩
    | proportion _ => exact ⟨_, rfl⟩
  · cases never

theorem packaged_completion_spec {id : String} {inputs : List (String × Datum)}
    {p : Problem} {x : Float} (h : packaged.completion id inputs = .ok (p, x)) :
    p.formula ∈ Catalog.packaged.formulas ∧
      ∀ v ∈ p.formula.vars, ∃ y, p.completed x v.symbol = some y := by
  obtain ⟨q, posed, h⟩ := Except.bind_eq_ok_iff.mp h
  obtain ⟨y, -, same⟩ := Except.bind_eq_ok_iff.mp h
  cases same
  obtain ⟨⟨inversion, found⟩, -, known⟩ := problem_spec posed
  refine ⟨(packaged_formula_eq_ok found).1, fun v hv => ?_⟩
  rw [Problem.completed, List.lookup_cons]
  by_cases unknown : v.symbol = p.unknown
  · exact ⟨x, by simp [unknown]⟩
  · have other : (v.symbol == p.unknown) = false := by simpa using unknown
    rw [other]
    exact Option.isSome_iff_exists.mp (known v.symbol (List.mem_map_of_mem hv) unknown)

/-- A request has no envelope just where it fails with anything but a refusal. -/
theorem tryResolve_eq_error_iff {s : Solver} {id : String} {inputs : List (String × Datum)}
    {e : Failure} :
    s.tryResolve id inputs = .error e ↔
      ((s.resolve id inputs).run.run []).1 = .error e ∧ ∀ r, e ≠ .refused r := by
  unfold tryResolve
  split
  next answered => simp [answered]
  next refused =>
    simp only [refused, reduceCtorEq, Except.error.injEq, false_iff, not_and, not_forall,
      not_not]
    exact fun same => ⟨_, same.symm⟩
  next other failed =>
    simp only [failed, Except.error.injEq, iff_self_and]
    rintro rfl r rfl
    exact other r rfl

/-- With texts in its fields a request has an envelope, unless the values it is completed
to make the check of its relation divide by zero. -/
theorem packaged_tryResolve_eq_error_iff (id : String) (given : List (String × Given))
    (e : Failure) :
    packaged.tryResolve id (Given.inputs given) = .error e ↔
      e = .relation .zeroDivision ∧
        ∃ p x, packaged.completion id (Given.inputs given) = .ok (p, x) ∧
          p.formula.DividesByZero (p.completed x) := by
  rw [tryResolve_eq_error_iff, resolve_error_iff (by simp), Except.bind_eq_error_iff]
  constructor
  · rintro ⟨completing | ⟨⟨p, x⟩, completed, checking⟩, told⟩
    -- up to the check nothing but refusals is raised, and those have envelopes
    · obtain ⟨r, rfl⟩ := packaged_completion_refused completing
      exact absurd rfl (told r)
    · obtain ⟨mem, values⟩ := packaged_completion_spec completed
      obtain failed | ⟨_, -, never⟩ := Except.bind_eq_error_iff.mp checking
      · obtain ⟨fault, residual, rfl⟩ := Except.mapError_eq_error_iff.mp failed
        obtain ⟨rfl, zero⟩ := (Catalog.packaged_residual_eq_error_iff mem values).mp residual
        exact ⟨rfl, p, x, completed, zero⟩
      · cases never
  · rintro ⟨rfl, p, x, completed, zero⟩
    obtain ⟨mem, values⟩ := packaged_completion_spec completed
    have residual :=
      (Catalog.packaged_residual_eq_error_iff mem values).mpr ⟨rfl, zero⟩
    refine ⟨.inr ⟨(p, x), completed, Except.bind_eq_error_iff.mpr (.inl ?_)⟩, nofun⟩
    exact Except.mapError_eq_error_iff.mpr ⟨_, residual, rfl⟩

/-- An angle and a distance of zero are solved for a size, which cannot be checked. -/
theorem angularSize_tryResolve_zero :
    packaged.tryResolve "angular_size"
        (Given.inputs [("θ", .text "1"), ("D", .text "0")]) =
      .error (.relation .zeroDivision) := by
  have divides : (match packaged.tryResolve "angular_size"
        (Given.inputs [("θ", .text "1"), ("D", .text "0")]) with
      | .error (.relation .zeroDivision) => true
      | _ => false) = true := by
    decide +kernel
  split at divides
  next failed => exact failed
  next => cases divides

end Solver

end Astrolabe
