import Astrolabe.Inversion.Basic

/-!
Solutions of the formulas on shifts of spectral lines.
-/

namespace Astrolabe.Inversion.Spectra

open Term

def dopplerShift : Inversion :=
  .ofTerms ["c"]
    [("λ_obs", var "λ_rest" * (1 + var "v" / var "c")),
     ("λ_rest", var "λ_obs" / (1 + var "v" / var "c")),
     ("v", var "c" * ((var "λ_obs" - var "λ_rest") / var "λ_rest"))]

def dopplerShiftApprox : Inversion :=
  .ofTerms ["c"]
    [("v", var "c" * (var "Δλ" / var "λ")),
     ("Δλ", var "v" * var "λ" / var "c"),
     ("λ", var "c" * var "Δλ" / var "v")]

/-- All of them by formula. -/
def all : Registry :=
  [("doppler_shift", dopplerShift), ("doppler_shift_approx", dopplerShiftApprox)]

end Astrolabe.Inversion.Spectra
