import Astrolabe.Inversion.Basic

/-!
Solutions of the formulas on matter and radiation at high energies.
-/

namespace Astrolabe.Inversion.HighEnergy

open Term

def maxGammaBohm : Inversion :=
  let source := 6 * pi * var "e"
  .ofTerms ["e", "sigma_T"]
    [("γmax", sqrt (source / (var "sigma_T" * var "B" * var "ξ"))),
     ("B", source / (var "sigma_T" * var "γmax" ^ 2 * var "ξ")),
     ("ξ", source / (var "sigma_T" * var "B" * var "γmax" ^ 2))]

/-- The balance of a cooling time, or of the energy below which it is too long, against the
field. -/
def cooling (result gamma : String) : Inversion :=
  let source := 6 * pi * var "m_e" * var "c"
  .ofTerms ["m_e", "c", "sigma_T"]
    [(result, source / (var "sigma_T" * var "B" ^ 2 * var gamma)),
     ("B", sqrt (source / (var "sigma_T" * var result * var gamma))),
     (gamma, source / (var "sigma_T" * var "B" ^ 2 * var result))]

def coolingBreakFrequency : Inversion :=
  .ofTerms ["e", "m_e", "c"]
    [("νb", 3 * var "e" * var "B" / (4 * pi * var "m_e" * var "c") * var "γb" ^ 2),
     ("B", 4 * pi * var "m_e" * var "c" * var "νb" / (3 * var "e" * var "γb" ^ 2)),
     ("γb", sqrt (4 * pi * var "m_e" * var "c" * var "νb" / (3 * var "e" * var "B")))]

def synchrotronPower : Inversion :=
  .ofTerms ["sigma_T", "c"]
    [("P_syn", 4 / 3 * var "sigma_T" * var "c" * var "U_B" * var "γ" ^ 2),
     ("U_B", 3 * var "P_syn" / (4 * var "sigma_T" * var "c" * var "γ" ^ 2)),
     ("γ", sqrt (3 * var "P_syn" / (4 * var "sigma_T" * var "c" * var "U_B")))]

def magneticEnergyDensity : Inversion :=
  .ofTerms []
    [("U_B", var "B" ^ 2 / (8 * pi)),
     ("B", sqrt (8 * pi * var "U_B"))]

def powerLawSpectrum : Inversion :=
  .ofTerms []
    [("N", var "K" * pow (var "E") (-var "p")),
     ("K", var "N" * pow (var "E") (var "p")),
     ("E", pow (var "N" / var "K") (-1 / var "p")),
     ("p", -ln (var "N" / var "K") / ln (var "E"))]

def spectralIndex : Inversion :=
  .ofTerms []
    [("α", (var "p" - 1) / 2),
     ("p", 2 * var "α" + 1)]

/-- All of them by formula. -/
def all : Registry :=
  [("max_gamma_bohm", maxGammaBohm), ("cooling_break_gamma", cooling "γb" "t_age"),
   ("synchrotron_cooling_timescale", cooling "t_syn" "γ"),
   ("cooling_break_frequency", coolingBreakFrequency), ("synchrotron_power", synchrotronPower),
   ("magnetic_energy_density", magneticEnergyDensity), ("power_law_spectrum", powerLawSpectrum),
   ("spectral_index", spectralIndex)]

end Astrolabe.Inversion.HighEnergy
