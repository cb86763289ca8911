import Astrolabe.Inversion.Basic

/-!
Solutions of the formulas on radiation and the properties of stars.
-/

namespace Astrolabe.Inversion.Radiation

open Term

def luminosity : Inversion :=
  .ofTerms ["sigma"]
    [("L", 4 * pi * var "R" ^ 2 * var "sigma" * var "T" ^ 4),
     ("R", sqrt (var "L" / (4 * pi * var "sigma" * var "T" ^ 4))),
     ("T", pow (var "L" / (4 * pi * var "R" ^ 2 * var "sigma")) 0.25)]

/-- What is received from a source that shines in all directions. -/
def inverseSquare (flux : String) : Inversion :=
  .ofTerms []
    [(flux, var "L" / (4 * pi * var "d" ^ 2)),
     ("L", 4 * pi * var "d" ^ 2 * var flux),
     ("d", sqrt (var "L" / (4 * pi * var flux)))]

def wiensLaw : Inversion :=
  .ofTerms []
    [("λmax", var "b" / var "T"),
     ("T", var "b" / var "λmax")]

def fluxTemperature : Inversion :=
  .ofTerms []
    [("F", var "sigma" * var "T" ^ 4),
     ("T", pow (var "F" / var "sigma") 0.25)]

def distanceModulus : Inversion :=
  .ofTerms []
    [("m", var "M" + 5 * log10 (var "d") - 5),
     ("M", var "m" - 5 * log10 (var "d") + 5),
     ("d", pow 10 ((var "m" - var "M" + 5) / 5))]

def magnitudeFluxRelation : Inversion :=
  .ofTerms []
    [("m1", var "m2" - 2.5 * log10 (var "F1" / var "F2")),
     ("m2", var "m1" + 2.5 * log10 (var "F1" / var "F2")),
     ("F1", var "F2" * pow 10 ((var "m2" - var "m1") / 2.5)),
     ("F2", var "F1" * pow 10 ((var "m1" - var "m2") / 2.5))]

def stellarLifetime : Inversion :=
  .ofTerms []
    [("τ", var "factor" * pow (var "M_sun" / var "M") (var "exponent")),
     ("M", var "M_sun" / pow (var "τ" / var "factor") (1 / var "exponent"))]

def massLuminosityRelation : Inversion :=
  .ofTerms []
    [("L", pow (var "M") (var "exponent")),
     ("M", pow (var "L") (1 / var "exponent"))]

def hrColorIndex : Inversion :=
  .ofTerms ["factor"]
    [("B_V", var "factor" * log10 (var "F_B" / var "F_V") + var "C"),
     ("F_B", var "F_V" * pow 10 ((var "B_V" - var "C") / var "factor")),
     ("F_V", var "F_B" / pow 10 ((var "B_V" - var "C") / var "factor")),
     ("C", var "B_V" - var "factor" * log10 (var "F_B" / var "F_V"))]

def hrAbsoluteMagnitude : Inversion :=
  .ofTerms []
    [("M_V", var "factor" * log10 (var "L" / var "L_sun") + var "offset"),
     ("L", var "L_sun" * pow 10 ((var "M_V" - var "offset") / var "factor"))]

def chandrasekharLimit : Inversion :=
  .ofTerms [] [("M_Ch", 1.4 * var "M_sun")]

def whiteDwarfMassRadius : Inversion where
  required := []
  solutions := [("R", .proportionOnly), ("M", .proportionOnly)]

/-- All of them by formula. -/
def all : Registry :=
  [("luminosity", luminosity), ("flux_from_luminosity", inverseSquare "F"),
   ("inverse_square_law_brightness", inverseSquare "b"), ("wiens_law", wiensLaw),
   ("flux_temperature", fluxTemperature), ("distance_modulus", distanceModulus),
   ("magnitude_flux_relation", magnitudeFluxRelation), ("stellar_lifetime", stellarLifetime),
   ("mass_luminosity_relation", massLuminosityRelation), ("hr_color_index", hrColorIndex),
   ("hr_absolute_magnitude", hrAbsoluteMagnitude), ("chandrasekhar_limit", chandrasekharLimit),
   ("white_dwarf_mass_radius", whiteDwarfMassRadius)]

end Astrolabe.Inversion.Radiation
