import Astrolabe.Inversion.Basic

/-!
Solutions of the formulas on motion under gravity and in rotation.
-/

namespace Astrolabe.Inversion.Orbits

open Term

def keplerThirdLaw : Inversion :=
  .ofTerms []
    [("T", sqrt (4 * pi ^ 2 * var "a" ^ 3 / (var "G" * var "M"))),
     ("a", cbrt (var "T" ^ 2 * var "G" * var "M" / (4 * pi ^ 2))),
     ("M", 4 * pi ^ 2 * var "a" ^ 3 / (var "G" * var "T" ^ 2))]

def keplerThirdLawSolar : Inversion :=
  .ofTerms []
    [("P", sqrt (var "a" ^ 3)),
     ("a", cbrt (var "P" ^ 2))]

def orbitalVelocity : Inversion :=
  .ofTerms []
    [("v", sqrt (var "G" * var "M" / var "r")),
     ("r", var "G" * var "M" / var "v" ^ 2),
     ("M", var "r" * var "v" ^ 2 / var "G")]

def escapeVelocity : Inversion :=
  .ofTerms []
    [("v_esc", sqrt (2 * var "G" * var "M" / var "r")),
     ("r", 2 * var "G" * var "M" / var "v_esc" ^ 2),
     ("M", var "r" * var "v_esc" ^ 2 / (2 * var "G"))]

def tidalForce : Inversion :=
  .ofTerms ["G"]
    [("F_tidal", 2 * var "G" * var "M" * var "m" * var "R" / var "d" ^ 3),
     ("d", cbrt (2 * var "G" * var "M" * var "m" * var "R" / var "F_tidal")),
     ("M", var "F_tidal" * var "d" ^ 3 / (2 * var "G" * var "m" * var "R")),
     ("m", var "F_tidal" * var "d" ^ 3 / (2 * var "G" * var "M" * var "R")),
     ("R", var "F_tidal" * var "d" ^ 3 / (2 * var "G" * var "M" * var "m"))]

def rocheLimit : Inversion :=
  let widening := cbrt (var "factor" * (var "ρ_M" / var "ρ_m"))
  .ofTerms ["factor"]
    [("d", var "R" * widening),
     ("R", var "d" / widening),
     ("ρ_M", var "ρ_m" * (var "d" / var "R") ^ 3 / var "factor"),
     ("ρ_m", var "factor" * var "ρ_M" / (var "d" / var "R") ^ 3)]

def orbitalEnergy : Inversion :=
  .ofTerms ["G"]
    [("E", -var "G" * var "M" * var "m" / (2 * var "a")),
     ("a", -var "G" * var "M" * var "m" / (2 * var "E")),
     ("M", -2 * var "E" * var "a" / (var "G" * var "m")),
     ("m", -2 * var "E" * var "a" / (var "G" * var "M"))]

def visViva : Inversion :=
  let geometry := 2 / var "r" - 1 / var "a"
  .ofTerms ["G"]
    [("v", sqrt (var "G" * var "M" * geometry)),
     ("M", var "v" ^ 2 / (var "G" * geometry)),
     ("r", 2 / (var "v" ^ 2 / (var "G" * var "M") + 1 / var "a")),
     ("a", 1 / (2 / var "r" - var "v" ^ 2 / (var "G" * var "M")))]

def keplerThirdLawBinary : Inversion :=
  let totalMass := 4 * pi ^ 2 * var "a" ^ 3 / (var "G" * var "P" ^ 2)
  .ofTerms ["G"]
    [("P", sqrt (4 * pi ^ 2 * var "a" ^ 3 / (var "G" * (var "M1" + var "M2")))),
     ("a", cbrt (var "G" * (var "M1" + var "M2") * var "P" ^ 2 / (4 * pi ^ 2))),
     ("M1", totalMass - var "M2"),
     ("M2", totalMass - var "M1")]

def rotationalVelocity : Inversion :=
  .ofTerms []
    [("v", 2 * pi * var "R" / var "P_rot"),
     ("R", var "v" * var "P_rot" / (2 * pi)),
     ("P_rot", 2 * pi * var "R" / var "v")]

/-- All of them by formula. -/
def all : Registry :=
  [("kepler_third_law", keplerThirdLaw), ("kepler_third_law_solar", keplerThirdLawSolar),
   ("orbital_velocity", orbitalVelocity), ("escape_velocity", escapeVelocity),
   ("tidal_force", tidalForce), ("roche_limit", rocheLimit), ("orbital_energy", orbitalEnergy),
   ("vis_viva", visViva), ("kepler_third_law_binary", keplerThirdLawBinary),
   ("rotational_velocity", rotationalVelocity)]

end Astrolabe.Inversion.Orbits
