import Astrolabe.Proofs.Catalog
import Astrolabe.Proofs.Formula
import Astrolabe.Proofs.Solver.Symbols
import Astrolabe.Solver

/-!
Every packaged formula has an inversion that solves it for each of its variables and
reads nothing but its constants and its other variables.
-/

namespace Astrolabe

open Inversion

/-- What may be read when a formula is solved for a variable. -/
def Formula.readable (f : Formula) (unknown : String) : List String :=
  f.constants.map (·.1) ++ f.symbols.filter (· != unknown)

/-- What may be read is a constant, which has a value, or another variable. -/
theorem Formula.readable_cases {f : Formula} {unknown symbol : String}
    (h : symbol ∈ f.readable unknown) :
    (∃ x, f.constants.lookup symbol = some x) ∨ symbol ∈ f.symbols ∧ symbol ≠ unknown := by
  rw [readable, List.mem_append] at h
  obtain constant | other := h
  · left
    obtain ⟨c, hc, rfl⟩ := List.mem_map.mp constant
    exact hasConstant_iff.mp (List.any_eq_true.mpr ⟨c, hc, beq_self_eq_true _⟩)
  · right
    simpa only [List.mem_filter, bne_iff_ne] using other

/-- The exact value of a constant, where the formula has it. -/
def Formula.constant? (f : Formula) (symbol : String) : Option Rat :=
  (f.constants.lookup symbol).bind Binary64.toRat?

/-- An inversion requires constants only, and has for each variable a solution that
does not read it. -/
def Inversion.covers (inversion : Inversion) (f : Formula) : Bool :=
  inversion.required.all f.hasConstant &&
    f.symbols.all fun symbol =>
      !f.hasConstant symbol &&
        (inversion.solutions.lookup symbol).any fun solution =>
          solution.symbols.all (f.readable symbol).contains

/-- The only formula that states no more than a proportion. -/
def proportionId : String := "white_dwarf_mass_radius"

/-- The solutions of a formula are terms unless it states only a proportion. -/
def Inversion.solvesByTerms (inversion : Inversion) (f : Formula) : Bool :=
  f.symbols.all fun symbol =>
    (inversion.solutions.lookup symbol == some .proportionOnly) == (f.id == proportionId)

namespace Catalog

theorem packaged_ids_nodup : (packaged.formulas.map Formula.id).Nodup := by
  decide +kernel

theorem eq_of_id {f g : Formula} (hf : f ∈ packaged.formulas) (hg : g ∈ packaged.formulas)
    (same : f.id = g.id) : f = g := by
  have found := get?_of_mem packaged_ids_nodup hf
  rw [same, get?_of_mem packaged_ids_nodup hg] at found
  exact (Option.some.inj found).symm

/-- A packaged formula whose id is among those of some is one of them. -/
theorem mem_of_contains_id {listed : List Formula} (known : listed ⊆ packaged.formulas)
    {f : Formula} (hf : f ∈ packaged.formulas)
    (h : (listed.map Formula.id).contains f.id = true) : f ∈ listed := by
  obtain ⟨g, hg, same⟩ := List.mem_map.mp (List.contains_iff_mem.mp h)
  exact eq_of_id (known hg) hf same ▸ hg

theorem packaged_covered :
    (packaged.formulas.all fun f =>
      (Inversion.packaged.lookup f.id).any fun inversion =>
        inversion.covers f && inversion.solvesByTerms f) = true := by
  decide +kernel

/-- A check that takes long to evaluate is made for one part of the catalog at a time. -/
theorem packaged_all {check : Formula → Bool} (orbits : Orbits.all.all check = true)
    (radiation : Radiation.all.all check = true) (optics : Optics.all.all check = true)
    (cosmology : Cosmology.all.all check = true) (spectra : Spectra.all.all check = true)
    (planets : Planets.all.all check = true) (highEnergy : HighEnergy.all.all check = true)
    (stellarStructure : StellarStructure.all.all check = true) :
    packaged.formulas.all check = true := by
  simp only [packaged, List.all_append, orbits, radiation, optics, cosmology, spectra,
    planets, highEnergy, stellarStructure, Bool.and_self]

end Catalog

/-- What a solver finds for a formula that it can solve for every variable. -/
structure Solver.Knows (s : Solver) (f : Formula) (inversion : Inversion) : Prop where
  found : s.formula f.id = .ok (f, inversion)
  covers : inversion.covers f = true
  byTerms : inversion.solvesByTerms f = true

namespace Solver

theorem packaged_knows {f : Formula} (hf : f ∈ Catalog.packaged.formulas) :
    ∃ inversion, packaged.Knows f inversion := by
  have covered := List.all_eq_true.mp Catalog.packaged_covered f hf
  obtain ⟨inversion, lookup, covers⟩ := (Option.any_eq_true _ _).mp covered
  simp only [Bool.and_eq_true] at covers
  have get := Catalog.get?_of_mem Catalog.packaged_ids_nodup hf
  refine ⟨inversion, ?_, covers.1, covers.2⟩
  simp only [formula, packaged, get, lookup]

variable {s : Solver} {f : Formula} {inversion : Inversion}

theorem Knows.required_mem (knows : s.Knows f inversion) {symbol : String}
    (h : symbol ∈ inversion.required) : f.hasConstant symbol = true := by
  have covers := knows.covers
  simp only [Inversion.covers, Bool.and_eq_true, List.all_eq_true] at covers
  exact covers.1 symbol h

/-- A variable is no constant and has a solution that reads what it may. -/
theorem Knows.solution (knows : s.Knows f inversion) {symbol : String}
    (h : symbol ∈ f.symbols) :
    f.hasConstant symbol = false ∧
      ∃ solution, inversion.solutions.lookup symbol = some solution ∧
        (∀ t ∈ solution.symbols, t ∈ f.readable symbol) ∧
        (solution = .proportionOnly ↔ f.id = proportionId) := by
  have covers := knows.covers
  have byTerms := knows.byTerms
  simp only [Inversion.covers, Bool.and_eq_true, List.all_eq_true] at covers
  simp only [Inversion.solvesByTerms, List.all_eq_true] at byTerms
  obtain ⟨constant, any⟩ := covers.2 symbol h
  obtain ⟨solution, lookup, reads⟩ := (Option.any_eq_true _ _).mp any
  refine ⟨by simpa using constant, solution, lookup, ?_, ?_⟩
  · simpa using reads
  · have kind := byTerms symbol h
    rw [lookup, beq_iff_eq, Bool.eq_iff_iff] at kind
    simpa only [beq_iff_eq, Option.some.injEq] using kind

end Solver

end Astrolabe
