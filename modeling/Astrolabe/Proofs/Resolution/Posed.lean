import Astrolabe.Proofs.Resolution.Problem
import Astrolabe.Proofs.Selection

/-!
What a problem that reaches the solver is like. Exactly one variable has no filled field,
and that is the unknown; every other variable is known by the finite canonical value of
what was read from its field.
-/

namespace Astrolabe

namespace Solver

/-- The variables without a filled field. -/
def unfilled (f : Formula) (inputs : List (String × Datum)) : List Variable :=
  f.vars.filter fun v => (selectionFor inputs v).isNone

variable {f : Formula} {inputs : List (String × Datum)}

theorem mem_selections_iff {v : Variable} {selection : Selection} :
    (v, selection) ∈ selections f inputs ↔
      v ∈ f.vars ∧ selectionFor inputs v = some selection := by
  simp only [selections, List.mem_filterMap, Option.map_eq_some_iff, Prod.mk.injEq]
  constructor
  · rintro ⟨w, hw, chosen, found, rfl, rfl⟩
    exact ⟨hw, found⟩
  · rintro ⟨hv, found⟩
    exact ⟨v, hv, selection, found, rfl, rfl⟩

theorem selections_variables (f : Formula) (inputs : List (String × Datum)) :
    (selections f inputs).map Prod.fst =
      f.vars.filter fun v => (selectionFor inputs v).isSome := by
  rw [selections, List.map_filterMap, ← List.filterMap_eq_filter]
  refine congrArg (List.filterMap · f.vars) (funext fun v => ?_)
  cases h : selectionFor inputs v <;> simp [Option.guard, h]

/-- Variables with one symbol are both filled or both unfilled. -/
theorem selectionFor_eq_none_iff_of_symbol {v w : Variable} (h : v.symbol = w.symbol) :
    selectionFor inputs v = none ↔ selectionFor inputs w = none := by
  rw [selectionFor, selectionFor, h]
  exact Selection.ofInput_eq_none_iff_of_unit _ _ _

/-- A selected entry is read; it is never taken for one that is not there. -/
theorem read_of_selectionFor {v : Variable} {selection : Selection}
    (h : selectionFor inputs v = some selection) :
    Entry.read selection.entry = (Entry.value selection.entry).map some := by
  rw [Entry.read, Selection.not_isBlank_of_ofInput h]
  rfl

theorem hasValue_eq {v : Variable} (hv : v ∈ f.vars) :
    hasValue f inputs v.symbol = (selectionFor inputs v).isSome := by
  rw [Bool.eq_iff_iff, hasValue, List.any_eq_true]
  constructor
  · rintro ⟨⟨w, selection⟩, mem, same⟩
    have found := (mem_selections_iff.mp mem).2
    rw [Option.isSome_iff_ne_none, Ne, ← selectionFor_eq_none_iff_of_symbol (eq_of_beq same),
      found]
    exact Option.some_ne_none selection
  · intro filled
    obtain ⟨selection, found⟩ := Option.isSome_iff_exists.mp filled
    exact ⟨(v, selection), mem_selections_iff.mpr ⟨hv, found⟩, beq_self_eq_true _⟩

theorem unknown_eq (f : Formula) (inputs : List (String × Datum)) :
    f.unknown (hasValue f inputs) =
      match (unfilled f inputs).map Variable.symbol with
      | [symbol] => .ok symbol
      | symbols => .error (.unknowns symbols) := by
  have same : (f.symbols.filter fun symbol => !hasValue f inputs symbol) =
      (unfilled f inputs).map Variable.symbol := by
    rw [Formula.symbols, List.filter_map, unfilled]
    refine congrArg _ (List.filter_congr fun v hv => ?_)
    rw [Function.comp_apply, hasValue_eq hv, Option.not_isSome]
  generalize (unfilled f inputs).map Variable.symbol = blank at same ⊢
  obtain _ | ⟨_, _ | _⟩ := blank <;> simp only [Formula.unknown, same]

theorem unknown_eq_ok_iff {unknown : String} :
    f.unknown (hasValue f inputs) = .ok unknown ↔
      ∃ u, unfilled f inputs = [u] ∧ u.symbol = unknown := by
  rw [unknown_eq]
  obtain _ | ⟨_, _ | _⟩ := unfilled f inputs <;> simp

theorem unknown_eq_error (count : (unfilled f inputs).length ≠ 1) :
    f.unknown (hasValue f inputs) =
      .error (.unknowns ((unfilled f inputs).map Variable.symbol)) := by
  rw [unknown_eq]
  generalize unfilled f inputs = blank at count
  obtain _ | ⟨_, _ | _⟩ := blank
  · rfl
  · exact absurd rfl count
  · rfl

/-- Where one variable is unfilled, a variable is filled if it has another symbol. -/
theorem isSome_selectionFor {u : Variable} (only : unfilled f inputs = [u]) {v : Variable}
    (hv : v ∈ f.vars) : (selectionFor inputs v).isSome = decide (v.symbol ≠ u.symbol) := by
  have blank : selectionFor inputs u = none := by
    have mem : u ∈ unfilled f inputs := only ▸ List.mem_singleton_self u
    simpa using (List.mem_filter.mp mem).2
  rw [Bool.eq_iff_iff, decide_eq_true_eq, Option.isSome_iff_ne_none, not_iff_not]
  constructor
  · intro none
    have mem : v ∈ unfilled f inputs := List.mem_filter.mpr ⟨hv, by rw [none]; rfl⟩
    rw [only, List.mem_singleton] at mem
    rw [mem]
  · exact fun same => (selectionFor_eq_none_iff_of_symbol same).mpr blank

theorem filled_eq {u : Variable} (only : unfilled f inputs = [u]) :
    (f.vars.filter fun v => (selectionFor inputs v).isSome) =
      f.vars.filter fun v => v.symbol ≠ u.symbol :=
  List.filter_congr fun _ hv => isSome_selectionFor only hv

/-- An entry of what is known for a variable: the finite value, in the canonical unit, of
what is read from the selected field. -/
def Supplied (inputs : List (String × Datum)) (v : Variable) (entry : String × Float) :
    Prop :=
  entry.1 = v.symbol ∧
    ∃ selection x, selectionFor inputs v = some selection ∧
      Entry.read selection.entry = .ok (some x) ∧
      entry.2 = (Unit.toCanonical x (sourceUnit selection) v.unit).1 ∧
      entry.2.isFinite = true

theorem canonical_eq_ok_iff {v : Variable} {selection : Selection} {y : Float} :
    canonical f v selection = .ok y ↔
      ∃ x, Entry.value selection.entry = .ok x ∧
        y = (Unit.toCanonical x (sourceUnit selection) v.unit).1 ∧ y.isFinite = true := by
  simp only [canonical, Except.bind_eq_ok_iff, Except.mapError_eq_ok_iff]
  refine exists_congr fun x => and_congr_right fun _ => ?_
  by_cases finite :
      ((Unit.toCanonical x (sourceUnit selection) v.unit).1).isFinite = true
  · rw [if_pos finite]
    constructor
    · rintro ⟨rfl⟩
      exact ⟨rfl, finite⟩
    · rintro ⟨rfl, -⟩
      rfl
  · rw [if_neg finite]
    simp only [reduceCtorEq, false_iff, not_and]
    rintro rfl
    exact finite

/-- What is known has the filled variables in their order. -/
theorem knownValues_supplied {known : List (String × Float)}
    (h : knownValues f inputs = .ok known) :
    List.Forall₂ (Supplied inputs)
      (f.vars.filter fun v => (selectionFor inputs v).isSome) known := by
  rw [← selections_variables, List.forall₂_map_left_iff]
  rw [knownValues, Except.mapM_eq_ok_iff, List.forall₂_iff_zip] at h
  refine List.forall₂_iff_zip.mpr ⟨h.1, ?_⟩
  rintro ⟨v, selection⟩ ⟨symbol, y⟩ mem
  obtain ⟨z, value, same⟩ := Except.bind_eq_ok_iff.mp (h.2 mem)
  cases same
  have found := (mem_selections_iff.mp (List.of_mem_zip mem).1).2
  obtain ⟨x, read, rfl, finite⟩ := canonical_eq_ok_iff.mp value
  refine ⟨rfl, selection, x, found, ?_, rfl, finite⟩
  rw [read_of_selectionFor found, read]
  rfl

/-- The condition on which the solver is called: exactly one variable has no filled field,
it is the unknown, and the others are known. -/
structure Posed (inputs : List (String × Datum)) (p : Problem) : Prop where
  unknown : ∃ u, unfilled p.formula inputs = [u] ∧ u.symbol = p.unknown
  known : List.Forall₂ (Supplied inputs)
    (p.formula.vars.filter fun v => v.symbol ≠ p.unknown) p.known

theorem problem_posed {s : Solver} {id : String} {p : Problem}
    (h : s.problem id inputs = .ok p) :
    (∃ inversion, s.formula id = .ok (p.formula, inversion)) ∧ Posed inputs p := by
  obtain ⟨⟨f, inversion⟩, found, h⟩ := Except.bind_eq_ok_iff.mp h
  obtain ⟨unknown, count, h⟩ := Except.bind_eq_ok_iff.mp h
  obtain ⟨known, read, same⟩ := Except.bind_eq_ok_iff.mp h
  cases same
  rw [Except.mapError_eq_ok_iff] at found count
  obtain ⟨u, only, rfl⟩ := unknown_eq_ok_iff.mp count
  refine ⟨⟨inversion, found⟩, ⟨u, only, rfl⟩, ?_⟩
  rw [← filled_eq only]
  exact knownValues_supplied read

theorem finish_isFinite {id unknown : String} {values : String → Option Float}
    {solution : Inversion.Solution} {x : Float}
    (h : finish id unknown values solution = .ok x) : x.isFinite = true := by
  unfold finish at h
  split at h
  next => cases h
  next =>
    split at h
    next =>
      split at h
      next finite =>
        cases h
        exact finite
      next => cases h
    next => cases h
    next => cases h

theorem solve_isFinite {s : Solver} {id unknown : String} {known : List (String × Float)}
    {x : Float} (h : s.solve id unknown known = .ok x) : x.isFinite = true := by
  unfold solve at h
  split at h
  next => cases h
  next =>
    dsimp only at h
    split at h
    next => cases h
    next =>
      split at h
      next => cases h
      next =>
        split at h
        next => cases h
        next => exact finish_isFinite h

/-- A solution is answered with the unknown, in its canonical unit. -/
theorem conclude_ok {p : Problem} {x : Float} {t t' : Trace} {a : Answer}
    (h : (conclude p x).run.run t = (.ok a, t')) :
    a.symbol = p.unknown ∧ a.value = x ∧ a.unit = p.unit := by
  obtain ⟨_, _, -, -, rfl, -⟩ := conclude_answer h
  exact ⟨rfl, rfl, rfl⟩

theorem Posed.unit_eq {p : Problem} (posed : Posed inputs p) :
    ∃ u ∈ p.formula.vars, u.symbol = p.unknown ∧ p.unit = u.unit := by
  obtain ⟨u, only, same⟩ := posed.unknown
  have mem : u ∈ p.formula.vars :=
    (List.mem_filter.mp (only ▸ List.mem_singleton_self u : u ∈ unfilled _ _)).1
  cases found : p.formula.lookup? p.unknown with
  | none =>
      have never := List.find?_eq_none.mp found u mem
      exact absurd (beq_iff_eq.mpr same) never
  | some w =>
      refine ⟨w, List.mem_of_find?_eq_some found, by simpa using List.find?_some found, ?_⟩
      rw [Problem.unit, found]
      rfl

/-- The solver is called for a problem that is posed as it requires, whatever the catalog
and the fields are, and an answer gives the unknown a finite value in its unit. -/
theorem resolve_posed (s : Solver) (id : String) (inputs : List (String × Datum)) :
    (s.resolve id inputs = (do
        let p ← s.pose id inputs
        let x ← s.solveRecorded id p.unknown p.known
        conclude p x)) ∧
      (∀ v selection, selectionFor inputs v = some selection →
        Entry.read selection.entry ≠ .ok none) ∧
      (∀ t p t', (s.pose id inputs).run.run t = (.ok p, t') →
        (∃ inversion, s.formula id = .ok (p.formula, inversion)) ∧ Posed inputs p) ∧
      ∀ t a t', (s.resolve id inputs).run.run t = (.ok a, t') →
        ∃ p t'', (s.pose id inputs).run.run t = (.ok p, t'') ∧
          a.symbol = p.unknown ∧ (∃ u ∈ p.formula.vars, u.symbol = p.unknown ∧ a.unit = u.unit) ∧
          a.value.isFinite = true := by
  have stages : s.resolve id inputs = (do
      let p ← s.pose id inputs
      let x ← s.solveRecorded id p.unknown p.known
      conclude p x) := by
    simp only [resolve_eq, complete, bind_assoc, pure_bind]
  have posed : ∀ t p t', (s.pose id inputs).run.run t = (.ok p, t') →
      (∃ inversion, s.formula id = .ok (p.formula, inversion)) ∧ Posed inputs p := by
    intro t p t' run
    obtain ⟨added, yields, -⟩ := pose_yields s id inputs t
    rw [run, Prod.mk.injEq] at yields
    exact problem_posed yields.1.symm
  refine ⟨stages, fun v selection found missing => ?_, posed, fun t a t' run => ?_⟩
  · rw [read_of_selectionFor found] at missing
    cases value : Entry.value selection.entry <;> rw [value] at missing <;> cases missing
  · rw [stages, Recorded.run_bind] at run
    split at run
    next p t₁ posing =>
      rw [Recorded.run_bind] at run
      split at run
      next x t₂ solving =>
        obtain ⟨symbol, value, unit⟩ := conclude_ok run
        obtain ⟨u, mem, same, canonical⟩ := (posed t p t₁ posing).2.unit_eq
        obtain ⟨added, yields, -⟩ := solveRecorded_yields s id p.unknown p.known t₁
        rw [solving, Prod.mk.injEq] at yields
        refine ⟨p, t₁, posing, symbol, ⟨u, mem, same, unit.trans canonical⟩, ?_⟩
        rw [value]
        exact solve_isFinite yields.1.symm
      next => cases run
    next => cases run

end Solver

end Astrolabe
