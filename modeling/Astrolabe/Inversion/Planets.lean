import Astrolabe.Inversion.Basic

/-!
Solutions of the formulas on planets.
-/

namespace Astrolabe.Inversion.Planets

open Term

def surfaceGravity : Inversion :=
  .ofTerms ["G"]
    [("g", var "G" * var "M" / var "r" ^ 2),
     ("M", var "g" * var "r" ^ 2 / var "G"),
     ("r", sqrt (var "G" * var "M" / var "g"))]

def averageDensity : Inversion :=
  .ofTerms []
    [("ρ", 3 * var "M" / (4 * pi * var "R" ^ 3)),
     ("M", 4 * pi * var "R" ^ 3 * var "ρ" / 3),
     ("R", cbrt (3 * var "M" / (4 * pi * var "ρ")))]

def planetaryEquilibriumTemperature : Inversion :=
  let absorbed := pow (1 - var "A") 0.25
  let geometry := sqrt (var "R_star" / (var "factor" * var "a"))
  let heated := var "T_eq" / (var "T_star" * absorbed)
  .ofTerms ["factor"]
    [("T_eq", var "T_star" * geometry * absorbed),
     ("T_star", var "T_eq" / (geometry * absorbed)),
     ("R_star", var "factor" * var "a" * heated ^ 2),
     ("a", var "R_star" / (var "factor" * heated ^ 2)),
     ("A", 1 - (var "T_eq" / (var "T_star" * geometry)) ^ 4)]

def greenhouseEffect : Inversion :=
  .ofTerms []
    [("ΔT_GH", var "T_surface" - var "T_eq"),
     ("T_surface", var "T_eq" + var "ΔT_GH"),
     ("T_eq", var "T_surface" - var "ΔT_GH")]

/-- All of them by formula. -/
def all : Registry :=
  [("surface_gravity", surfaceGravity), ("average_density", averageDensity),
   ("planetary_equilibrium_temperature", planetaryEquilibriumTemperature),
   ("greenhouse_effect", greenhouseEffect)]

end Astrolabe.Inversion.Planets
