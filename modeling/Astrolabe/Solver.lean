import Astrolabe.Catalog.Packaged
import Astrolabe.Inversion.Packaged
import Astrolabe.Refusal

/-!
Solving a formula for one of its variables. The constants of the formula are known besides the
values that are given, and take precedence over them. A solution is a finite double.
-/

namespace Astrolabe

/-- A catalog with the inversions of its formulas. -/
structure Solver where
  catalog : Catalog
  registry : Inversion.Registry

namespace Solver

/-- The solver for the packaged formulas. -/
def packaged : Solver := ⟨Catalog.packaged, Inversion.packaged⟩

/-- Whether a formula can be asked for. -/
def supports (s : Solver) (id : String) : Bool :=
  (s.registry.lookup id).isSome && s.catalog.contains id

/-- A formula that can be asked for, with its inversion. -/
def formula (s : Solver) (id : String) : Except Refusal (Formula × Inversion) :=
  match s.catalog.get? id, s.registry.lookup id with
  | some f, some inversion => .ok (f, inversion)
  | _, _ => .error (.unregistered id)

/-- What is known when a formula is solved. -/
def values (f : Formula) (known : List (String × Float)) (symbol : String) : Option Float :=
  (f.constants ++ known).lookup symbol

/-- The first of some symbols that has no value. -/
def firstMissing? (values : String → Option Float) (symbols : List String) : Option String :=
  symbols.find? fun symbol => (values symbol).isNone

/-- The value of a solution. -/
def finish (id unknown : String) (values : String → Option Float) :
    Inversion.Solution → Except Failure Float
  | .proportionOnly => .error (.refused (.proportionOnly unknown))
  | .term t =>
    let domain : Domain := ⟨id, unknown⟩
    match t.value values with
    | .ok x =>
      if x.isFinite then .ok x else .error (.refused (domain.refusal (.notFinite x)))
    | .error (.missing symbol) => .error (.missing symbol)
    | .error (.refused reason) => .error (.refused (domain.refusal reason))

/-- The value of the unknown of a formula. -/
def solve (s : Solver) (id unknown : String) (known : List (String × Float)) :
    Except Failure Float :=
  match s.formula id with
  | .error r => .error (.refused r)
  | .ok (f, inversion) =>
    let values := values f known
    match firstMissing? values inversion.required with
    | some symbol => .error (.missing symbol)
    | none =>
      match inversion.solutions.lookup unknown with
      | none => .error (.refused (.unsolvable id unknown))
      | some solution =>
        if f.hasConstant unknown then .error (.refused (.unsolvable id unknown))
        else finish id unknown values solution

end Solver

end Astrolabe
