import Astrolabe.Inversion.Term

/-!
Inversions: for a formula, the closed form of each variable in terms of the others.
-/

namespace Astrolabe

namespace Inversion

/-- How a variable is found: by a term, or not at all where the relation only states a
proportion. -/
inductive Solution where
  | term (t : Term)
  | proportionOnly
deriving DecidableEq

end Inversion

/-- The solutions of a formula for its variables. The required values are read whichever of them is
asked for. -/
structure Inversion where
  required : List String
  solutions : List (String × Inversion.Solution)
deriving DecidableEq

namespace Inversion

/-- Solutions that are all terms. -/
def ofTerms (required : List String) (terms : List (String × Term)) : Inversion :=
  { required, solutions := terms.map fun (symbol, t) => (symbol, .term t) }

/-- Inversions by the ids of their formulas. -/
abbrev Registry := List (String × Inversion)

end Inversion

end Astrolabe
