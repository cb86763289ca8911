import Astrolabe.Proofs.Exact.Relation

/-!
Solving over the reals. What a solution has to do for the relation of its formula is
stated for one term at a time: the value it gives satisfies the relation, and it gives
back the value of an assignment that satisfies the relation already.
-/

namespace Astrolabe

open Inversion

namespace Formula

/-- The variables that may be negative, by formula. -/
def signed : List (String × String) :=
  [("orbital_energy", "E"), ("hydrostatic_balance", "dP_dr")]

/-- The angles whose tangent is taken. -/
def angles : List (String × String) :=
  [("parallax_distance_radians", "p")]

/-- The exponents that are variables, with their bases. -/
def exponents : List (String × String × String) :=
  [("power_law_spectrum", "p", "E")]

def Allows (f : Formula) (symbol : String) (x : ℝ) : Prop :=
  0 < x ∨ (f.id, symbol) ∈ signed ∧ x < 0

def unsigned (f : Formula) : List String :=
  f.symbols.filter fun symbol => (f.id, symbol) ∉ signed

/-- Values for all variables but one. -/
def Given (f : Formula) (unknown : String) (a : String → ℝ) : Prop :=
  ∀ symbol ∈ f.symbols, symbol ≠ unknown → f.Allows symbol (a symbol)

theorem Given.pos {f : Formula} {unknown : String} {a : String → ℝ}
    (given : f.Given unknown a) {symbol : String}
    (h : symbol ∈ f.unsigned.filter (· ≠ unknown)) : 0 < a symbol := by
  simp only [unsigned, List.mem_filter, decide_eq_true_eq] at h
  exact (given symbol h.1.1 h.2).resolve_right fun negative => h.1.2 negative.1

/-- All variables have the sign that they have in nature, and angles are acute. -/
structure Admissible (f : Formula) (a : String → ℝ) : Prop where
  positive : ∀ symbol ∈ f.symbols, (f.id, symbol) ∉ signed → 0 < a symbol
  negative : ∀ symbol ∈ f.symbols, (f.id, symbol) ∈ signed → a symbol < 0
  acute : ∀ symbol ∈ f.symbols, (f.id, symbol) ∈ angles → a symbol < Real.pi / 2

theorem Admissible.pos {f : Formula} {a : String → ℝ} (admissible : f.Admissible a)
    {symbol : String} (h : symbol ∈ f.unsigned) : 0 < a symbol := by
  simp only [unsigned, List.mem_filter, decide_eq_true_eq] at h
  exact admissible.positive symbol h.1 h.2

/-- An exponent cannot be told from its power where the base is one. -/
def Indifferent (f : Formula) (a : String → ℝ) (symbol : String) : Prop :=
  ∃ base ∈ f.symbols, (f.id, symbol, base) ∈ exponents ∧ a base = 1

theorem not_indifferent {f : Formula} {a : String → ℝ} {symbol : String}
    (decisive : (f.id, symbol) ∉ exponents.map fun e => (e.1, e.2.1)) :
    ¬f.Indifferent a symbol := fun ⟨_, _, mem, _⟩ =>
  decisive (List.mem_map.mpr ⟨_, mem, rfl⟩)

end Formula

namespace Inversion

/-- A relation holds where its variable has the value of a term, whatever the other
variables are. -/
def Term.SoundFor (f : Formula) (sides : Sides) (symbol : String) (t : Term) : Prop :=
  ∀ a, f.Fits a → f.Given symbol a → t.Defined a → a symbol = t.real a →
    sides.Defined a → sides.Hold a

/-- A term gives the value that a variable has where the relation holds. -/
def Term.Recovers (f : Formula) (sides : Sides) (symbol : String) (t : Term) : Prop :=
  ∀ a, f.Fits a → f.Admissible a → sides.Defined a → sides.Hold a →
    (f.Indifferent a symbol → ¬t.Defined a) ∧
      (¬f.Indifferent a symbol → t.Defined a ∧ t.real a = a symbol)

theorem Term.recovers_of_decisive {f : Formula} {sides : Sides} {symbol : String} {t : Term}
    (decisive : (f.id, symbol) ∉ Formula.exponents.map fun e => (e.1, e.2.1))
    (h : ∀ a, f.Fits a → f.Admissible a → sides.Defined a → sides.Hold a →
      t.Defined a ∧ t.real a = a symbol) : t.Recovers f sides symbol := by
  intro a fits admissible defined hold
  exact ⟨fun indifferent => absurd indifferent (Formula.not_indifferent decisive),
    fun _ => h a fits admissible defined hold⟩

end Inversion

namespace Inversion

def Sound (inversion : Inversion) (f : Formula) (sides : Sides) : Prop :=
  ∀ symbol t, inversion.solutions.lookup symbol = some (.term t) → t.SoundFor f sides symbol

def Recovers (inversion : Inversion) (f : Formula) (sides : Sides) : Prop :=
  ∀ symbol t, inversion.solutions.lookup symbol = some (.term t) → t.Recovers f sides symbol

variable {f : Formula} {sides : Sides} {required : List String}
  {terms : List (String × Term)}

theorem mem_of_lookup_ofTerms {symbol : String} {t : Term}
    (h : (ofTerms required terms).solutions.lookup symbol = some (.term t)) :
    (symbol, t) ∈ terms := by
  obtain ⟨before, after, split, -⟩ := List.lookup_eq_some_iff.mp h
  have mem : (symbol, Solution.term t) ∈ (ofTerms required terms).solutions := by
    simp [split]
  obtain ⟨p, hp, same⟩ := List.mem_map.mp mem
  cases same
  exact hp

theorem sound_ofTerms (h : ∀ p ∈ terms, p.2.SoundFor f sides p.1) :
    (ofTerms required terms).Sound f sides :=
  fun _ _ lookup => h _ (mem_of_lookup_ofTerms lookup)

theorem recovers_ofTerms (h : ∀ p ∈ terms, p.2.Recovers f sides p.1) :
    (ofTerms required terms).Recovers f sides :=
  fun _ _ lookup => h _ (mem_of_lookup_ofTerms lookup)

end Inversion

/-- The packaged inversion of a formula fits its relation in both directions. -/
def Formula.Faithful (f : Formula) : Prop :=
  ∃ sides inversion, f.sides? = some sides ∧
    Inversion.packaged.lookup f.id = some inversion ∧
      inversion.Sound f sides ∧ inversion.Recovers f sides

def without (a : String → ℝ) (unknown symbol : String) : Option ℝ :=
  if symbol = unknown then none else some (a symbol)

@[simp] theorem without_update (a : String → ℝ) (unknown : String) (x : ℝ) :
    without (Function.update a unknown x) unknown = without a unknown := by
  funext symbol
  by_cases same : symbol = unknown <;> simp [without, same]

/-- What `solve` finds when numbers are real: the value of the solution for the unknown,
where everything that it requires is known. -/
noncomputable def Solver.exactSolve? (s : Solver) (id unknown : String)
    (known : String → Option ℝ) : Option ℝ :=
  match s.formula id with
  | .error _ => none
  | .ok (f, inversion) =>
    if inversion.required.all fun symbol => (f.exactValues known symbol).isSome then
      match inversion.solutions.lookup unknown with
      | some (.term t) =>
        if f.hasConstant unknown then none else t.exactValue? (f.exactValues known)
      | _ => none
    else none

namespace Formula

/-- The values of the two sides of a relation, where both have one. -/
noncomputable def sideValues? (f : Formula) (sides : Sides) (a : String → ℝ) :
    Option (ℝ × ℝ) := do
  let l ← sides.left.exactValue? (f.exactValues fun symbol => some (a symbol))
  let r ← sides.right.exactValue? (f.exactValues fun symbol => some (a symbol))
  some (l, r)

def constantsFinite (f : Formula) : Bool :=
  f.constants.all fun (_, x) => (Binary64.toRat? x).isSome

variable {f : Formula} (finite : f.constantsFinite = true)
include finite

theorem toRat?_of_constantsFinite {symbol : String} {x : Float}
    (h : f.constants.lookup symbol = some x) : ∃ q, Binary64.toRat? x = some q := by
  obtain ⟨before, after, split, -⟩ := List.lookup_eq_some_iff.mp h
  exact Option.isSome_iff_exists.mp
    (List.all_eq_true.mp finite (symbol, x) (by simp [split]))

theorem fits_withConstants (a : String → ℝ) : f.Fits (f.withConstants a) := by
  intro symbol x h
  obtain ⟨q, hq⟩ := toRat?_of_constantsFinite finite h
  exact ⟨q, hq, by simp [withConstants, h, hq]⟩

theorem exactValues_eq {known : String → Option ℝ} {a : String → ℝ} {symbol : String}
    (h : f.hasConstant symbol = false → known symbol = some (a symbol)) :
    f.exactValues known symbol = some (f.withConstants a symbol) := by
  cases constant : f.constants.lookup symbol with
  | some x =>
      obtain ⟨q, hq⟩ := toRat?_of_constantsFinite finite constant
      simp [exactValues, withConstants, constant, hq]
  | none =>
      have : f.hasConstant symbol = false := by
        rw [Bool.eq_false_iff, ne_eq, hasConstant_iff]
        simp [constant]
      simp [exactValues, withConstants, constant, h this]

theorem sideValues?_eq_some_iff {sides : Sides} {a : String → ℝ} {l r : ℝ} :
    f.sideValues? sides a = some (l, r) ↔
      sides.Defined (f.withConstants a) ∧ sides.left.real (f.withConstants a) = l ∧
        sides.right.real (f.withConstants a) = r := by
  have values (w : String) :
      f.exactValues (fun symbol => some (a symbol)) w = some (f.withConstants a w) :=
    exactValues_eq finite fun _ => rfl
  have value (t : Term) := Term.exactValue?_eq t fun w _ => values w
  by_cases left : sides.left.Defined (f.withConstants a) <;>
    by_cases right : sides.right.Defined (f.withConstants a) <;>
    simp [sideValues?, value, Sides.Defined, left, right]

omit finite in
theorem withConstants_of_not_hasConstant {symbol : String}
    (h : f.hasConstant symbol = false) (a : String → ℝ) :
    f.withConstants a symbol = a symbol := by
  have : f.constants.lookup symbol = none := by
    rw [Option.eq_none_iff_forall_ne_some]
    intro x hx
    rw [hasConstant_iff.mpr ⟨x, hx⟩] at h
    cases h
  simp [withConstants, this]

end Formula

namespace Solver.Knows

variable {s : Solver} {f : Formula} {inversion : Inversion}

open Classical in
/-- A solver that knows a formula evaluates the term for the unknown. -/
theorem exactSolve?_eq (knows : s.Knows f inversion) (finite : f.constantsFinite = true)
    {unknown : String} (h : unknown ∈ f.symbols) {t : Term}
    (lookup : inversion.solutions.lookup unknown = some (.term t)) (a : String → ℝ) :
    s.exactSolve? f.id unknown (without a unknown) =
      if t.Defined (f.withConstants a) then some (t.real (f.withConstants a)) else none := by
  obtain ⟨constant, solution, lookup', reads, -⟩ := knows.solution h
  obtain rfl : solution = .term t := Option.some.inj (lookup'.symm.trans lookup)
  have required : (inversion.required.all fun symbol =>
      (f.exactValues (without a unknown) symbol).isSome) = true := by
    refine List.all_eq_true.mpr fun symbol hs => ?_
    have present := knows.required_mem hs
    rw [Formula.exactValues_eq finite (a := a) fun absent => by simp [present] at absent]
    rfl
  have values : ∀ w ∈ t.symbols,
      f.exactValues (without a unknown) w = some (f.withConstants a w) := by
    intro w hw
    refine Formula.exactValues_eq finite fun absent => ?_
    have given : w ∈ f.symbols.filter (· != unknown) := by
      refine (List.mem_append.mp (reads w hw)).resolve_left fun present => ?_
      obtain ⟨c, hc, rfl⟩ := List.mem_map.mp present
      rw [Formula.hasConstant, List.any_eq_false] at absent
      exact absent c hc (beq_self_eq_true _)
    simp only [List.mem_filter, bne_iff_ne] at given
    simp [without, given.2]
  simp only [exactSolve?, knows.found, required, lookup, constant, if_true]
  exact Term.exactValue?_eq t values

theorem exactSolve?_eq_some_iff (knows : s.Knows f inversion)
    (finite : f.constantsFinite = true) {unknown : String} (h : unknown ∈ f.symbols)
    {t : Term} (lookup : inversion.solutions.lookup unknown = some (.term t))
    {a : String → ℝ} {x : ℝ} :
    s.exactSolve? f.id unknown (without a unknown) = some x ↔
      t.Defined (f.withConstants a) ∧ t.real (f.withConstants a) = x := by
  rw [exactSolve?_eq knows finite h lookup]
  simp

theorem exactSolve?_eq_none_iff (knows : s.Knows f inversion)
    (finite : f.constantsFinite = true) {unknown : String} (h : unknown ∈ f.symbols)
    {t : Term} (lookup : inversion.solutions.lookup unknown = some (.term t))
    {a : String → ℝ} :
    s.exactSolve? f.id unknown (without a unknown) = none ↔
      ¬t.Defined (f.withConstants a) := by
  rw [exactSolve?_eq knows finite h lookup]
  simp

end Solver.Knows

end Astrolabe
