import Astrolabe.Catalog.Constants

/-!
Formulas on the interior of stars.
-/

namespace Astrolabe.Catalog.StellarStructure

def category : String := "Stellar Structure"

def hydrostaticBalance : Formula where
  id := "hydrostatic_balance"
  name := "Hydrostatic Balance"
  description := "Pressure gradient balancing gravitational force in stellar interiors"
  equation := "dP/dr = -GM(r)ρ(r) / r²"
  vars :=
    [.plain "dP_dr" "Pressure Gradient" "Pa/m" "Change in pressure with radius",
     .plain "M" "Enclosed Mass" "kg" "Mass enclosed within radius r",
     .keyed "rho" "ρ" "Density" "kg/m³" "Density at radius r",
     .plain "r" "Radius" "meters" "Radial distance from center"]
  constants := [("G", Constants.gravitational.value)]
  category := category
  relation := .text "dP_dr = -G*M*rho/r**2"

/-- All of them, in order. -/
def all : List Formula :=
  [hydrostaticBalance]

end Astrolabe.Catalog.StellarStructure
