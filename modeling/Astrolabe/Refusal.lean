import Astrolabe.Entry
import Astrolabe.Inversion.Guard
import Astrolabe.Relation.Residual

/-!
How a request ends without an answer. A refusal is a fault of the request and is told to whoever
made it; other failures are faults of the catalog, of the caller or of an earlier note.
-/

namespace Astrolabe

/-- A fault of a request. -/
inductive Refusal where
  | entry (r : Entry.Refusal)
  | unknowns (symbols : List String)
  | unsolved (formula symbol : String) (reason : Inversion.Reason)
  | outOfRange (formula symbol unit : String)
  | unregistered (formula : String)
  | unsolvable (formula symbol : String)
  | proportionOnly (symbol : String)

namespace Refusal

/-- The kind of a refusal. -/
def kind : Refusal → String
  | entry _ => "ParseError"
  | unknowns _ => "InvalidInputCount"
  | unsolved _ _ _ | outOfRange _ _ _ => "DomainError"
  | unregistered _ | unsolvable _ _ => "UnsupportedFormula"
  | proportionOnly _ => "UnderdeterminedRelation"

/-- The wording of a refusal. -/
def message : Refusal → String
  | entry r => r.message
  | unknowns [] => "At least one variable must be left empty (unknown)"
  | unknowns symbols =>
    "Only one variable can be unknown. Found " ++ toString symbols.length ++ " empty values: " ++
      ", ".intercalate symbols
  | unsolved formula symbol reason =>
    formula ++ ": cannot solve for " ++ symbol ++ ": " ++ reason.message
  | outOfRange formula symbol unit =>
    formula ++ ": cannot solve for " ++ symbol ++ ": value overflows in " ++ unit
  | unregistered formula => "No inversion set registered for formula '" ++ formula ++ "'"
  | unsolvable formula symbol => formula ++ ": '" ++ symbol ++ "' cannot be solved for"
  | proportionOnly symbol =>
    "white_dwarf_mass_radius: R ∝ M^(-1/3) has no normalization constant; " ++ symbol ++
      " cannot be computed from a single data point"

end Refusal

/-- The guard of a formula that is solved for one of its symbols. -/
structure Domain where
  formula : String
  symbol : String

namespace Domain

/-- How a guarded operation ends without a number. -/
inductive Interruption where
  | refused (r : Refusal)
  | fault (f : Number.Fault)

/-- A refusal of the guard. -/
def refusal (d : Domain) (reason : Inversion.Reason) : Refusal :=
  .unsolved d.formula d.symbol reason

/-- A guarded operation for a formula. -/
def perform (d : Domain) (f : Inversion.Guard.Functions) (call : Inversion.Guard.Call Float) :
    Except Interruption Float :=
  (Inversion.Guard.attempt f call).mapError fun
    | .refused reason => .refused (d.refusal reason)
    | .fault fault => .fault fault

end Domain

/-- The end of a request without an answer. -/
inductive Failure where
  | refused (r : Refusal)
  | missing (key : String)
  | tooLarge
  | relation (e : Relation.Error)

namespace Failure

def ofEntry : Entry.Failure → Failure
  | .refused r => .refused (.entry r)
  | .tooLarge => .tooLarge

def ofRelation : Relation.Error → Failure
  | .missing symbol => .missing symbol
  | e => .relation e

end Failure

end Astrolabe
