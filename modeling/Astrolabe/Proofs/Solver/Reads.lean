import Astrolabe.Proofs.Solver.Outcome

/-!
What solving a formula reads: its constants, which nothing that is given can replace, and the values
of its variables other than the unknown. A value that is missing is one of these.
-/

namespace Astrolabe

namespace Inversion

theorem Term.value_congr {values values' : String → Option Float} {t : Term}
    (agree : ∀ w ∈ t.symbols, values w = values' w) : t.value values = t.value values' := by
  induction t with
  | var s => simp only [value, agree s (List.mem_singleton_self s)]
  | literal _ | pi => rfl
  | neg s ih | natPow s _ ih | sqrt s ih | cbrt s ih | log10 s ih | ln s ih | tan s ih
  | atan s ih => simp only [value, ih agree]
  | add s t ihs iht | sub s t ihs iht | mul s t ihs iht | div s t ihs iht | pow s t ihs iht =>
      have left := ihs fun w hw => agree w (List.mem_append_left _ hw)
      have right := iht fun w hw => agree w (List.mem_append_right _ hw)
      simp only [value, left, right]

/-- Only variables of a formula have solutions. -/
def solvesNoOther (inversion : Inversion) (f : Formula) : Bool :=
  inversion.solutions.all fun (symbol, _) => f.symbols.contains symbol

end Inversion

open Inversion

namespace Catalog

theorem packaged_solvesNoOther :
    (packaged.formulas.all fun f =>
      (Inversion.packaged.lookup f.id).all fun inversion => inversion.solvesNoOther f) = true := by
  decide +kernel

end Catalog

namespace Solver

theorem finish_congr {id unknown : String} {values values' : String → Option Float}
    {solution : Solution} (agree : ∀ w ∈ solution.symbols, values w = values' w) :
    finish id unknown values solution = finish id unknown values' solution := by
  cases solution with
  | term t => simp only [finish, Term.value_congr agree]
  | proportionOnly => rfl

/-- A solution ends for want of a value only where it reads a symbol that has none. -/
theorem mem_symbols_of_finish_missing {id unknown symbol : String}
    {values : String → Option Float} {solution : Solution}
    (h : finish id unknown values solution = .error (.missing symbol)) :
    symbol ∈ solution.symbols ∧ values symbol = none := by
  cases solution with
  | proportionOnly => cases h
  | term t =>
      rw [finish] at h
      split at h
      next => split at h <;> cases h
      next missing =>
        cases h
        exact Term.mem_symbols_of_missing missing
      next => cases h

section

variable {f : Formula} {unknown symbol : String} {known known' : List (String × Float)}

/-- What may be read has one value where the other variables have. -/
theorem values_congr (agree : ∀ w ∈ f.symbols, w ≠ unknown → known.lookup w = known'.lookup w)
    (h : symbol ∈ f.readable unknown) : values f known symbol = values f known' symbol := by
  rw [values_eq, values_eq]
  obtain ⟨x, constant⟩ | ⟨mem, other⟩ := Formula.readable_cases h
  · rw [constant, Option.some_or, Option.some_or]
  · rw [agree symbol mem other]

/-- What may be read and has no value is another variable that has not been given. -/
theorem other_of_values_eq_none (h : symbol ∈ f.readable unknown)
    (absent : values f known symbol = none) :
    symbol ∈ f.symbols ∧ symbol ≠ unknown ∧ known.lookup symbol = none := by
  rw [values_eq, Option.or_eq_none_iff] at absent
  obtain ⟨x, constant⟩ | ⟨mem, other⟩ := Formula.readable_cases h
  · cases absent.1.symm.trans constant
  · exact ⟨mem, other, absent.2⟩

variable {s : Solver} {inversion : Inversion}

/-- A formula that is known has the inversion that is registered for it. -/
theorem Knows.lookup_registry (knows : s.Knows f inversion) :
    s.registry.lookup f.id = some inversion := by
  have found := knows.found
  unfold formula at found
  split at found
  next registered => cases found; exact registered
  next => cases found

theorem Knows.solve_congr (knows : s.Knows f inversion) (h : unknown ∈ f.symbols)
    (agree : ∀ w ∈ f.symbols, w ≠ unknown → known.lookup w = known'.lookup w) :
    s.solve f.id unknown known = s.solve f.id unknown known' := by
  obtain ⟨solution, lookup, solve⟩ := knows.solve_eq h known
  obtain ⟨same, lookup', solve'⟩ := knows.solve_eq h known'
  obtain ⟨-, read, found, reads, -⟩ := knows.solution h
  obtain rfl : solution = same := Option.some.inj (lookup.symm.trans lookup')
  obtain rfl : solution = read := Option.some.inj (lookup.symm.trans found)
  rw [solve, solve']
  exact finish_congr fun w hw => values_congr agree (reads w hw)

theorem Knows.missing_other (knows : s.Knows f inversion) (h : unknown ∈ f.symbols)
    (missing : s.solve f.id unknown known = .error (.missing symbol)) :
    symbol ∈ f.symbols ∧ symbol ≠ unknown ∧ known.lookup symbol = none := by
  obtain ⟨solution, lookup, solve⟩ := knows.solve_eq h known
  obtain ⟨-, read, found, reads, -⟩ := knows.solution h
  obtain rfl : solution = read := Option.some.inj (lookup.symm.trans found)
  obtain ⟨mem, absent⟩ := mem_symbols_of_finish_missing (solve.symm.trans missing)
  exact other_of_values_eq_none (reads symbol mem) absent

theorem Knows.solve_other (knows : s.Knows f inversion)
    (noOther : inversion.solvesNoOther f = true) (h : unknown ∉ f.symbols)
    (known : List (String × Float)) :
    s.solve f.id unknown known = .error (.refused (.unsolvable f.id unknown)) := by
  have unsolved : inversion.solutions.lookup unknown = none := by
    rw [List.lookup_eq_none_iff]
    intro entry mem
    have solvable := List.all_eq_true.mp noOther entry mem
    rw [List.contains_iff_mem] at solvable
    rw [bne_iff_ne]
    rintro rfl
    exact h solvable
  simp only [solve, knows.found, knows.required_known known, unsolved]

end

/-- Solving a packaged formula for a variable depends on its other variables alone: values of the
unknown, of the constants and of foreign symbols change neither the solution nor the refusal. A
value that is missing is that of another variable, and nothing but a variable can be solved for. -/
theorem packaged_solve_reads {f : Formula} (hf : f ∈ Catalog.packaged.formulas) (unknown : String)
    (known : List (String × Float)) :
    (unknown ∈ f.symbols → ∀ known' : List (String × Float),
        (∀ w ∈ f.symbols, w ≠ unknown → known.lookup w = known'.lookup w) →
          packaged.solve f.id unknown known = packaged.solve f.id unknown known') ∧
      (∀ key, packaged.solve f.id unknown known = .error (.missing key) →
        key ∈ f.symbols ∧ key ≠ unknown ∧ known.lookup key = none) ∧
      (unknown ∉ f.symbols →
        packaged.solve f.id unknown known = .error (.refused (.unsolvable f.id unknown)) ∧
          (Refusal.unsolvable f.id unknown).kind = "UnsupportedFormula") := by
  obtain ⟨inversion, knows⟩ := packaged_knows hf
  have noOther : inversion.solvesNoOther f = true := by
    have registered : Inversion.packaged.lookup f.id = some inversion := knows.lookup_registry
    have checked := List.all_eq_true.mp Catalog.packaged_solvesNoOther f hf
    rwa [registered, Option.all_some] at checked
  by_cases h : unknown ∈ f.symbols
  · exact ⟨fun _ _ agree => knows.solve_congr h agree,
      fun _ missing => knows.missing_other h missing, fun other => absurd h other⟩
  · have unsolvable := knows.solve_other noOther h known
    refine ⟨fun mem => absurd mem h, fun key missing => ?_, fun _ => ⟨unsolvable, rfl⟩⟩
    cases unsolvable.symm.trans missing

/-- Neither a period, the unknown, nor another constant of gravity makes a difference, and the
constant cannot be solved for. -/
theorem keplerThirdLaw_reads :
    Catalog.Orbits.keplerThirdLaw ∈ Catalog.packaged.formulas ∧
      packaged.solve "kepler_third_law" "T" [("a", 1e300), ("M", 0)] =
        packaged.solve "kepler_third_law" "T"
          [("T", 1), ("G", 5), ("M", 0), ("x", 2), ("a", 1e300)] ∧
      packaged.solve "kepler_third_law" "G" [("T", 1), ("a", 1e300), ("M", 0)] =
        .error (.refused (.unsolvable "kepler_third_law" "G")) := by
  have mem : Catalog.Orbits.keplerThirdLaw ∈ Catalog.packaged.formulas := by
    simp [Catalog.packaged, Catalog.Orbits.all]
  refine ⟨mem, (packaged_solve_reads mem "T" _).1 (by decide) _ ?_,
    ((packaged_solve_reads mem "G" _).2.2 (by decide)).1⟩
  simp [Formula.symbols, Catalog.Orbits.keplerThirdLaw, Variable.plain, List.lookup_cons]

end Solver

end Astrolabe
