import Astrolabe.Inversion.Basic

/-!
Solutions of the formulas on the interior of stars.
-/

namespace Astrolabe.Inversion.StellarStructure

open Term

def hydrostaticBalance : Inversion :=
  .ofTerms ["G"]
    [("dP_dr", -var "G" * var "M" * var "ρ" / var "r" ^ 2),
     ("M", -var "dP_dr" * var "r" ^ 2 / (var "G" * var "ρ")),
     ("ρ", -var "dP_dr" * var "r" ^ 2 / (var "G" * var "M")),
     ("r", sqrt (-var "G" * var "M" * var "ρ" / var "dP_dr"))]

/-- All of them by formula. -/
def all : Registry :=
  [("hydrostatic_balance", hydrostaticBalance)]

end Astrolabe.Inversion.StellarStructure
