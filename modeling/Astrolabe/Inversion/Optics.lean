import Astrolabe.Inversion.Basic

/-!
Solutions of the formulas on telescopes and optics, and of other ratios.
-/

namespace Astrolabe.Inversion.Optics

open Term

def angularSize : Inversion :=
  .ofTerms []
    [("θ", var "d" / var "D"),
     ("d", var "θ" * var "D"),
     ("D", var "d" / var "θ")]

def lightGatheringPower : Inversion :=
  .ofTerms []
    [("LGP", (var "D_obj" / var "D_eye") ^ 2),
     ("D_obj", var "D_eye" * sqrt (var "LGP")),
     ("D_eye", var "D_obj" / sqrt (var "LGP"))]

/-- A multiple of a ratio of two quantities. -/
def multipleOfRatio (required : List String) (factor : Term)
    (result numerator denominator : String) : Inversion :=
  .ofTerms required
    [(result, factor * (var numerator / var denominator)),
     (numerator, var result * var denominator / factor),
     (denominator, factor * var numerator / var result)]

/-- A ratio of two quantities. -/
def ratio : String → String → String → Inversion :=
  multipleOfRatio [] 1

def angularResolution : Inversion :=
  multipleOfRatio ["factor"] (var "factor") "θ" "λ" "D"

/-- All of them by formula. -/
def all : Registry :=
  [("angular_size", angularSize), ("light_gathering_power", lightGatheringPower),
   ("magnification", ratio "M" "f_obj" "f_eye"), ("f_ratio", ratio "f_ratio" "f" "D"),
   ("angular_resolution", angularResolution), ("albedo", ratio "A" "F_reflected" "F_incident")]

end Astrolabe.Inversion.Optics
