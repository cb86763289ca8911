import Astrolabe.Inversion.Basic

/-!
Solutions of the formulas on cosmology and relativity.
-/

namespace Astrolabe.Inversion.Cosmology

open Term

def hubbleLaw : Inversion :=
  .ofTerms []
    [("v", var "H₀" * var "d"),
     ("H₀", var "v" / var "d"),
     ("d", var "v" / var "H₀")]

def criticalDensity : Inversion :=
  .ofTerms ["G", "factor", "km_s_Mpc"]
    [("ρ_c", var "factor" * (var "H0" * var "km_s_Mpc") ^ 2 / (8 * pi * var "G")),
     ("H0", sqrt (8 * pi * var "G" * var "ρ_c" / var "factor") / var "km_s_Mpc")]

def schwarzschildRadius : Inversion :=
  .ofTerms ["G", "c", "factor"]
    [("R_s", var "factor" * var "G" * var "M" / var "c" ^ 2),
     ("M", var "R_s" * var "c" ^ 2 / (var "factor" * var "G"))]

/-- The factor by which a moving length is shorter; there is none at the speed of light and
above. -/
def shortening : Term := sqrt (1 - (var "v" / var "c") ^ 2)

def timeDilation : Inversion :=
  .ofTerms []
    [("Δt'", var "Δt" / shortening),
     ("Δt", var "Δt'" * shortening),
     ("v", var "c" * sqrt (1 - (var "Δt" / var "Δt'") ^ 2))]

def lengthContraction : Inversion :=
  .ofTerms []
    [("L'", var "L" * shortening),
     ("L", var "L'" / shortening),
     ("v", var "c" * sqrt (1 - (var "L'" / var "L") ^ 2))]

def parallaxDistanceRadians : Inversion :=
  .ofTerms []
    [("d", var "AU" / tan (var "p")),
     ("p", atan (var "AU" / var "d"))]

def parallaxDistanceArcsec : Inversion :=
  .ofTerms []
    [("d", 1 / var "p"),
     ("p", 1 / var "d")]

/-- All of them by formula. -/
def all : Registry :=
  [("hubble_law", hubbleLaw), ("critical_density", criticalDensity),
   ("schwarzschild_radius", schwarzschildRadius), ("time_dilation", timeDilation),
   ("length_contraction", lengthContraction),
   ("parallax_distance_radians", parallaxDistanceRadians),
   ("parallax_distance_arcsec", parallaxDistanceArcsec)]

end Astrolabe.Inversion.Cosmology
