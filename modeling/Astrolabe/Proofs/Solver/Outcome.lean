import Astrolabe.Proofs.Solver.Coverage

/-!
How solving a packaged formula may end. Given doubles for all other variables, there is
a finite double or a refusal that names the formula and the variable. No key is missing
and nothing is unsupported.
-/

namespace Astrolabe

open Inversion

namespace Solver

theorem values_eq (f : Formula) (known : List (String × Float)) (symbol : String) :
    values f known symbol = (f.constants.lookup symbol).or (known.lookup symbol) :=
  List.lookup_append

/-- Constants are known, and so is every variable that has been given. -/
theorem values_isSome {f : Formula} {unknown : String} {known : List (String × Float)}
    (given : ∀ w ∈ f.symbols, w ≠ unknown → (known.lookup w).isSome)
    {symbol : String} (h : symbol ∈ f.readable unknown) :
    (values f known symbol).isSome := by
  rw [values_eq, Option.isSome_or, Bool.or_eq_true]
  obtain ⟨x, constant⟩ | ⟨mem, other⟩ := Formula.readable_cases h
  · exact .inl (Option.isSome_of_eq_some constant)
  · exact .inr (given symbol mem other)

variable {s : Solver} {f : Formula} {inversion : Inversion}

/-- What an inversion requires is known, whatever has been given. -/
theorem Knows.required_known (knows : s.Knows f inversion) (known : List (String × Float)) :
    firstMissing? (values f known) inversion.required = none := by
  rw [firstMissing?, List.find?_eq_none]
  intro symbol hs
  obtain ⟨x, hx⟩ := Formula.hasConstant_iff.mp (knows.required_mem hs)
  simp [values_eq, hx]

/-- A solver that knows a formula goes on to the solution for the variable. -/
theorem Knows.solve_eq (knows : s.Knows f inversion) {unknown : String}
    (h : unknown ∈ f.symbols) (known : List (String × Float)) :
    ∃ solution, inversion.solutions.lookup unknown = some solution ∧
      s.solve f.id unknown known = finish f.id unknown (values f known) solution := by
  obtain ⟨constant, solution, lookup, -, -⟩ := knows.solution h
  refine ⟨solution, lookup, ?_⟩
  simp [solve, knows.found, knows.required_known known, lookup, constant]

/-- How solving a formula for one of its variables may end. -/
inductive Outcome (id symbol : String) : Except Failure Float → Prop where
  | solved {x : Float} (finite : x.isFinite = true) (relation : id ≠ proportionId) :
      Outcome id symbol (.ok x)
  | refused (reason : Reason) (relation : id ≠ proportionId) :
      Outcome id symbol (.error (.refused (.unsolved id symbol reason)))
  | proportion (only : id = proportionId) :
      Outcome id symbol (.error (.refused (.proportionOnly symbol)))

theorem finish_term_outcome {id symbol : String} {values : String → Option Float}
    {t : Term} (relation : id ≠ proportionId)
    (read : ∀ w ∈ t.symbols, (values w).isSome) :
    Outcome id symbol (finish id symbol values (.term t)) := by
  rw [finish]
  split
  next x _ =>
    split
    next finite => exact .solved finite relation
    next => exact .refused _ relation
  next w missing =>
    obtain ⟨mem, absent⟩ := Term.mem_symbols_of_missing missing
    have present := read w mem
    rw [absent] at present
    cases present
  next reason _ => exact .refused reason relation

/-- A formula that is known is solved for each of its variables, given the others. -/
theorem Knows.solve_outcome (knows : s.Knows f inversion) {unknown : String}
    (h : unknown ∈ f.symbols) {known : List (String × Float)}
    (given : ∀ w ∈ f.symbols, w ≠ unknown → (known.lookup w).isSome) :
    Outcome f.id unknown (s.solve f.id unknown known) := by
  obtain ⟨solution, lookup, solve⟩ := knows.solve_eq h known
  obtain ⟨-, same, lookup', reads, kind⟩ := knows.solution h
  obtain rfl : solution = same := Option.some.inj (lookup.symm.trans lookup')
  rw [solve]
  cases solution with
  | proportionOnly => exact .proportion (kind.mp rfl)
  | term t =>
      have relation : f.id ≠ proportionId := fun h => Solution.noConfusion (kind.mpr h)
      exact finish_term_outcome relation fun w hw => values_isSome given (reads w hw)

/-- There is a finite double, a refusal about that formula and that variable, or, for the
one formula that states only a proportion, the refusal that says so. -/
theorem packaged_solve_outcome {f : Formula} (hf : f ∈ Catalog.packaged.formulas)
    {v : Variable} (hv : v ∈ f.vars) {known : List (String × Float)}
    (given : ∀ w ∈ f.vars, w.symbol ≠ v.symbol → (known.lookup w.symbol).isSome) :
    Outcome f.id v.symbol (packaged.solve f.id v.symbol known) := by
  obtain ⟨inversion, knows⟩ := packaged_knows hf
  refine knows.solve_outcome (List.mem_map_of_mem hv) fun w hw different => ?_
  obtain ⟨other, mem, rfl⟩ := List.mem_map.mp hw
  exact given other mem different

/-- A mass of zero is among the doubles that may be given. -/
theorem keplerThirdLaw_period_outcome :
    Catalog.Orbits.keplerThirdLaw ∈ Catalog.packaged.formulas ∧
      Outcome "kepler_third_law" "T"
        (packaged.solve "kepler_third_law" "T" [("a", 1e300), ("M", 0)]) := by
  have mem : Catalog.Orbits.keplerThirdLaw ∈ Catalog.packaged.formulas := by
    simp [Catalog.packaged, Catalog.Orbits.all]
  refine ⟨mem, packaged_solve_outcome mem (List.mem_cons_self ..) ?_⟩
  decide +kernel

end Solver

end Astrolabe
