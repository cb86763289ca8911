import Astrolabe.Proofs.Resolution.Boundary

/-!
Which fault of a request is told where there are several. An unknown formula goes before
the count of the fields, the count before what is in them, a field before those that
come later, and the solver is last: nothing after it refuses a request.
-/

namespace Astrolabe

namespace Solver

variable {f : Formula} {inputs : List (String × Datum)}

/-- Why a field is refused: its entry stands for no number, or for one that is too great in
the canonical unit. -/
inductive FieldRefused (f : Formula) (v : Variable) (selection : Selection) : Refusal → Prop
  | unread {r : Entry.Refusal} (read : Entry.value selection.entry = .error (.refused r)) :
      FieldRefused f v selection (.entry r)
  | outOfRange {x : Float} (read : Entry.value selection.entry = .ok x)
      (range : (Unit.toCanonical x (sourceUnit selection) v.unit).1.isFinite = false) :
      FieldRefused f v selection (.outOfRange f.id v.symbol v.unit)

/-- The fault that is told. -/
inductive Prevails (s : Solver) (id : String) (inputs : List (String × Datum)) : Refusal → Prop
  | unregistered (missing : s.catalog.get? id = none ∨ s.registry.lookup id = none) :
      Prevails s id inputs (.unregistered id)
  | count {f : Formula} (found : s.catalog.get? id = some f)
      (registered : s.registry.lookup id ≠ none) (count : (unfilled f inputs).length ≠ 1) :
      Prevails s id inputs (.unknowns ((unfilled f inputs).map Variable.symbol))
  | field {f : Formula} {u v : Variable} {selection : Selection}
      {before after : List (Variable × Selection)} {r : Refusal}
      (found : s.catalog.get? id = some f) (registered : s.registry.lookup id ≠ none)
      (count : unfilled f inputs = [u])
      (order : selections f inputs = before ++ (v, selection) :: after)
      (first : ∀ pair ∈ before, ∀ r, ¬FieldRefused f pair.1 pair.2 r)
      (refused : FieldRefused f v selection r) : Prevails s id inputs r
  | solver {f : Formula} {u : Variable} {known : List (String × Float)} {r : Refusal}
      (found : s.catalog.get? id = some f) (registered : s.registry.lookup id ≠ none)
      (count : unfilled f inputs = [u]) (read : knownValues f inputs = .ok known)
      (refused : s.solve id u.symbol known = .error (.refused r)) : Prevails s id inputs r

/-- A request is refused. -/
def Refuses (s : Solver) (id : String) (inputs : List (String × Datum)) (r : Refusal) : Prop :=
  ((s.resolve id inputs).run.run []).1 = .error (.refused r)

theorem canonical_eq_refused_iff {v : Variable} {selection : Selection} {r : Refusal} :
    canonical f v selection = .error (.refused r) ↔ FieldRefused f v selection r := by
  cases read : Entry.value selection.entry with
  | error e =>
      have failed : canonical f v selection = .error (.ofEntry e) := by
        rw [canonical, read]
        rfl
      rw [failed, Except.error.injEq]
      constructor
      · intro same
        cases e with
        | refused r =>
            cases same
            exact .unread read
        | tooLarge => cases same
      · intro refused
        cases refused with
        | unread read' =>
            cases read.symm.trans read'
            rfl
        | outOfRange read' range => cases read.symm.trans read'
  | ok x =>
      have value : canonical f v selection =
          if (Unit.toCanonical x (sourceUnit selection) v.unit).1.isFinite then
            .ok (Unit.toCanonical x (sourceUnit selection) v.unit).1
          else .error (.refused (.outOfRange f.id v.symbol v.unit)) := by
        rw [canonical, read]
        rfl
      rw [value]
      constructor
      · intro h
        split at h
        next => cases h
        next range =>
          cases h
          exact .outOfRange read (by simpa using range)
      · intro refused
        cases refused with
        | unread read' => cases read.symm.trans read'
        | outOfRange read' range =>
            cases read.symm.trans read'
            rw [range]
            rfl

/-- A selected field has a value or is refused. -/
theorem canonical_or_refused (given : ∀ entry ∈ inputs, entry.2.IsGiven) {v : Variable}
    {selection : Selection} (mem : (v, selection) ∈ selections f inputs) :
    (∃ y, canonical f v selection = .ok y) ∨ ∃ r, FieldRefused f v selection r := by
  cases h : canonical f v selection with
  | ok y => exact .inl ⟨y, rfl⟩
  | error e =>
      have entry := isEntry_of_selectionFor given (mem_selections_iff.mp mem).2
      obtain ⟨r, rfl⟩ := canonical_refused entry h
      exact .inr ⟨r, canonical_eq_refused_iff.mp h⟩

/-- What is read is refused with the first field that is. -/
theorem knownValues_eq_refused_iff (given : ∀ entry ∈ inputs, entry.2.IsGiven) {r : Refusal} :
    knownValues f inputs = .error (.refused r) ↔
      ∃ before v selection after, selections f inputs = before ++ (v, selection) :: after ∧
        (∀ pair ∈ before, ∀ r, ¬FieldRefused f pair.1 pair.2 r) ∧
        FieldRefused f v selection r := by
  rw [knownValues, Except.mapM_eq_error_iff]
  constructor
  · rintro ⟨before, ⟨v, selection⟩, after, order, fine, failed⟩
    rw [Except.bind_ok_eq_error_iff, canonical_eq_refused_iff] at failed
    refine ⟨before, v, selection, after, order, fun pair mem r refused => ?_, failed⟩
    obtain ⟨y, ok⟩ := fine pair mem
    obtain ⟨x, ok, -⟩ := Except.bind_eq_ok_iff.mp ok
    rw [canonical_eq_refused_iff.mpr refused] at ok
    cases ok
  · rintro ⟨before, v, selection, after, order, first, refused⟩
    refine ⟨before, (v, selection), after, order, fun pair mem => ?_, ?_⟩
    · have selected : pair ∈ selections f inputs := by simp [order, mem]
      obtain ⟨y, ok⟩ | ⟨r, refused⟩ := canonical_or_refused given selected
      · exact ⟨(pair.1.symbol, y), Except.bind_eq_ok_iff.mpr ⟨y, ok, rfl⟩⟩
      · exact absurd refused (first pair mem r)
    · rw [Except.bind_ok_eq_error_iff, canonical_eq_refused_iff]
      exact refused

section

variable {s : Solver} {id : String}

theorem problem_of_missing (missing : s.catalog.get? id = none ∨ s.registry.lookup id = none) :
    s.problem id inputs = .error (.refused (.unregistered id)) := by
  have unknown : s.formula id = .error (.unregistered id) := by
    unfold formula
    split
    next found registered =>
      rw [found, registered] at missing
      simp at missing
    next => rfl
  rw [problem, unknown]
  rfl

theorem formula_of_found (found : s.catalog.get? id = some f)
    (registered : s.registry.lookup id ≠ none) :
    ∃ inversion, s.formula id = .ok (f, inversion) := by
  obtain ⟨inversion, lookup⟩ := Option.ne_none_iff_exists'.mp registered
  exact ⟨inversion, by rw [formula, found, lookup]⟩

theorem problem_of_count (found : s.catalog.get? id = some f)
    (registered : s.registry.lookup id ≠ none) (count : (unfilled f inputs).length ≠ 1) :
    s.problem id inputs =
      .error (.refused (.unknowns ((unfilled f inputs).map Variable.symbol))) := by
  obtain ⟨inversion, known⟩ := formula_of_found found registered
  rw [problem, known]
  change ((f.unknown (hasValue f inputs)).mapError Failure.refused >>= _) = _
  rw [unknown_eq_error count]
  rfl

theorem problem_of_only (found : s.catalog.get? id = some f)
    (registered : s.registry.lookup id ≠ none) {u : Variable}
    (count : unfilled f inputs = [u]) :
    s.problem id inputs = (knownValues f inputs).map fun known => ⟨f, u.symbol, known⟩ := by
  obtain ⟨inversion, known⟩ := formula_of_found found registered
  rw [problem, known]
  change ((f.unknown (hasValue f inputs)).mapError Failure.refused >>= _) = _
  rw [unknown_eq_ok_iff.mpr ⟨u, count, rfl⟩]
  rfl

/-- A request is refused where its problem cannot be posed or solved, and nowhere else. -/
theorem refuses_iff {r : Refusal} :
    s.Refuses id inputs r ↔
      s.problem id inputs = .error (.refused r) ∨
        ∃ p, s.problem id inputs = .ok p ∧
          s.solve id p.unknown p.known = .error (.refused r) := by
  rw [Refuses, resolve_error_iff (by simp), Except.bind_eq_error_iff]
  have later : ¬∃ pair, s.completion id inputs = .ok pair ∧
      checked pair.1.formula (pair.1.completed pair.2) = .error (.refused r) :=
    fun ⟨_, _, failed⟩ => checked_ne_refused failed
  rw [or_iff_left later, completion, Except.bind_eq_error_iff]
  refine or_congr_right (exists_congr fun p => and_congr_right fun _ => ?_)
  exact Except.bind_ok_eq_error_iff

theorem refuses_iff_prevails (given : ∀ entry ∈ inputs, entry.2.IsGiven) {r : Refusal} :
    s.Refuses id inputs r ↔ Prevails s id inputs r := by
  rw [refuses_iff]
  constructor
  · intro h
    by_cases missing : s.catalog.get? id = none ∨ s.registry.lookup id = none
    · simp only [problem_of_missing missing, Except.error.injEq, Failure.refused.injEq,
        reduceCtorEq, false_and, exists_false, or_false] at h
      exact h ▸ .unregistered missing
    obtain ⟨catalogued, registered⟩ := not_or.mp missing
    obtain ⟨f, found⟩ := Option.ne_none_iff_exists'.mp catalogued
    by_cases count : (unfilled f inputs).length = 1
    · obtain ⟨u, only⟩ := List.length_eq_one_iff.mp count
      rw [problem_of_only found registered only] at h
      cases read : knownValues f inputs with
      | error e =>
          rw [read] at h
          obtain same | ⟨p, never, -⟩ := h
          · cases same
            obtain ⟨before, v, selection, after, order, first, refused⟩ :=
              (knownValues_eq_refused_iff given).mp read
            exact .field found registered only order first refused
          · cases never
      | ok known =>
          rw [read] at h
          obtain never | ⟨p, posed, refused⟩ := h
          · cases never
          · cases posed
            exact .solver found registered only read refused
    · simp only [problem_of_count found registered count, Except.error.injEq,
        Failure.refused.injEq, reduceCtorEq, false_and, exists_false, or_false] at h
      exact h ▸ .count found registered count
  · intro h
    cases h with
    | unregistered missing => exact .inl (problem_of_missing missing)
    | count found registered count => exact .inl (problem_of_count found registered count)
    | field found registered count order first refused =>
        rw [problem_of_only found registered count,
          (knownValues_eq_refused_iff given).mpr ⟨_, _, _, _, order, first, refused⟩]
        exact .inl rfl
    | solver found registered count read refused =>
        rw [problem_of_only found registered count, read]
        exact .inr ⟨_, rfl, refused⟩

theorem FieldRefused.kind {v : Variable} {selection : Selection} {r : Refusal}
    (h : FieldRefused f v selection r) : r.kind = "ParseError" ∨ r.kind = "DomainError" := by
  cases h with
  | unread read => exact .inl rfl
  | outOfRange read range => exact .inr rfl

/-- The packaged solver refuses a posed problem for what it says, not for want of an
inversion. -/
theorem packaged_solve_kind {p : Problem} (posed : packaged.problem id inputs = .ok p)
    {r : Refusal} (refused : packaged.solve id p.unknown p.known = .error (.refused r)) :
    r.kind = "DomainError" ∨ r.kind = "UnderdeterminedRelation" := by
  obtain ⟨⟨inversion, found⟩, unknown, known⟩ := problem_spec posed
  obtain ⟨mem, rfl⟩ := packaged_formula_eq_ok found
  obtain ⟨_, knows⟩ := packaged_knows mem
  have outcome := knows.solve_outcome unknown known
  rw [refused] at outcome
  cases outcome with
  | refused reason _ => exact .inl rfl
  | proportion _ => exact .inr rfl

/-- With a registry that is packaged or empty, kinds of refusals tell stages apart. -/
theorem Prevails.kind (packaging : s = packaged ∨ s = ⟨Catalog.packaged, []⟩) {r : Refusal}
    (h : Prevails s id inputs r) :
    (r.kind = "UnsupportedFormula" ↔
        s.catalog.get? id = none ∨ s.registry.lookup id = none) ∧
      ∀ f, s.catalog.get? id = some f → s.registry.lookup id ≠ none →
        (r.kind = "InvalidInputCount" ↔ (unfilled f inputs).length ≠ 1) := by
  cases h with
  | unregistered missing =>
      refine ⟨iff_of_true rfl missing, fun f found registered => ?_⟩
      rw [found] at missing
      simp [registered] at missing
  | count found registered count =>
      refine ⟨iff_of_false (by simp [Refusal.kind]) (by simp [found, registered]), ?_⟩
      intro g found' _
      cases found.symm.trans found'
      exact iff_of_true rfl count
  | field found registered count order first refused =>
      refine ⟨iff_of_false ?_ (by simp [found, registered]), ?_⟩
      · obtain kind | kind := refused.kind <;> simp [kind]
      · intro g found' _
        cases found.symm.trans found'
        refine iff_of_false ?_ (by simp [count])
        obtain kind | kind := refused.kind <;> simp [kind]
  | solver found registered count read refused =>
      obtain rfl | rfl := packaging
      · have posed := problem_of_only found registered count
        rw [read] at posed
        have kind := packaged_solve_kind posed refused
        refine ⟨iff_of_false ?_ (by simp [found, registered]), ?_⟩
        · obtain kind | kind := kind <;> simp [kind]
        · intro g found' _
          cases found.symm.trans found'
          refine iff_of_false ?_ (by simp [count])
          obtain kind | kind := kind <;> simp [kind]
      · exact absurd rfl registered

end

/-- Which refusal a request to the packaged catalog ends with. -/
theorem packaged_refusal_precedence {s : Solver}
    (packaging : s = packaged ∨ s = ⟨Catalog.packaged, []⟩) (id : String)
    {inputs : List (String × Datum)} (given : ∀ entry ∈ inputs, entry.2.IsGiven) :
    (∀ r, s.Refuses id inputs r ↔ Prevails s id inputs r) ∧
      ((∃ r, s.Refuses id inputs r ∧ r.kind = "UnsupportedFormula") ↔
        s.catalog.get? id = none ∨ s.registry.lookup id = none) ∧
      ∀ f, s.catalog.get? id = some f → s.registry.lookup id ≠ none →
        ((∃ r, s.Refuses id inputs r ∧ r.kind = "InvalidInputCount") ↔
          (unfilled f inputs).length ≠ 1) ∧
        ∀ v selection, (v, selection) ∈ selections f inputs →
          (∃ x, Entry.value selection.entry = .ok x ∧
            (Unit.toCanonical x (sourceUnit selection) v.unit).1.isFinite = true) ∨
          ∃ r, FieldRefused f v selection r := by
  refine ⟨fun r => refuses_iff_prevails given, ⟨?_, fun missing => ?_⟩, ?_⟩
  · rintro ⟨r, refused, kind⟩
    exact (((refuses_iff_prevails given).mp refused).kind packaging).1.mp kind
  · exact ⟨_, (refuses_iff_prevails given).mpr (.unregistered missing), rfl⟩
  · intro f found registered
    refine ⟨⟨?_, fun count => ?_⟩, fun v selection mem => ?_⟩
    · rintro ⟨r, refused, kind⟩
      exact (((refuses_iff_prevails given).mp refused).kind packaging).2 f found registered |>.mp
        kind
    · exact ⟨_, (refuses_iff_prevails given).mpr (.count found registered count), rfl⟩
    · refine (canonical_or_refused given mem).imp_left fun ⟨y, value⟩ => ?_
      obtain ⟨x, read, rfl, finite⟩ := canonical_eq_ok_iff.mp value
      exact ⟨x, read, finite⟩

/-- A count that is off is told before a field that stands for no number. -/
theorem albedo_refuses_count :
    packaged.Refuses "albedo" [("A", .text "junk"), ("F_reflected", .null)]
      (.unknowns ["F_reflected", "F_incident"]) := by
  have given : ∀ entry ∈ [("A", Datum.text "junk"), ("F_reflected", .null)],
      entry.2.IsGiven := by
    simp only [List.forall_mem_cons, List.not_mem_nil, false_implies, implies_true, and_true]
    exact ⟨.entry (.text _), .entry .null⟩
  have blank : (unfilled Catalog.Planets.albedo
      [("A", .text "junk"), ("F_reflected", .null)]).map Variable.symbol =
        ["F_reflected", "F_incident"] := by
    decide +kernel
  have found : packaged.catalog.get? "albedo" = some Catalog.Planets.albedo :=
    Catalog.get?_of_mem (f := Catalog.Planets.albedo) Catalog.packaged_ids_nodup
      (by simp [Catalog.packaged, Catalog.Planets.all])
  have registered : packaged.registry.lookup "albedo" ≠ none := by
    decide +kernel
  refine ((packaged_refusal_precedence (.inl rfl) "albedo" given).1 _).mpr ?_
  rw [← blank]
  refine .count found registered fun one => ?_
  rw [← List.length_map Variable.symbol, blank] at one
  cases one

end Solver

end Astrolabe
