import Astrolabe.Catalog.Constants

/-!
Formulas on motion under gravity and in rotation.
-/

namespace Astrolabe.Catalog.Orbits

def category : String := "Orbital Mechanics"

def keplerThirdLaw : Formula where
  id := "kepler_third_law"
  name := "Kepler's Third Law"
  description := "Relates the orbital period to the semi-major axis of an orbit"
  equation := "T² = (4π²/GM) × a³"
  vars :=
    [.plain "T" "Orbital Period" "seconds" "Time for one complete orbit",
     .plain "a" "Semi-major Axis" "meters" "Half the longest diameter of the elliptical orbit",
     .plain "M" "Central Mass" "kg" "Mass of the central body (e.g., star, planet)"]
  constants := [("G", Constants.gravitational.value)]
  category := category
  relation := .text "T**2 = 4*pi**2*a**3/(G*M)"

def keplerThirdLawSolar : Formula where
  id := "kepler_third_law_solar"
  name := "Kepler's Third Law (Solar System)"
  description := "Simplified form for solar system objects (P in years, a in AU)"
  equation := "P² = a³"
  vars :=
    [.plain "P" "Orbital Period" "years" "Orbital period in years",
     .plain "a" "Semi-major Axis" "AU" "Semi-major axis in Astronomical Units"]
  constants := []
  category := category
  relation := .text "P**2 = a**3"

def orbitalVelocity : Formula where
  id := "orbital_velocity"
  name := "Orbital Velocity"
  description := "The velocity of an object in circular orbit around a central body"
  equation := "v = √(GM/r)"
  vars :=
    [.plain "v" "Orbital Velocity" "m/s" "Speed of the orbiting object",
     .plain "r" "Orbital Radius" "meters" "Distance from center of central body to orbiting object",
     .plain "M" "Central Mass" "kg" "Mass of the central body"]
  constants := [("G", Constants.gravitational.value)]
  category := category
  relation := .text "v = sqrt(G*M/r)"

def escapeVelocity : Formula where
  id := "escape_velocity"
  name := "Escape Velocity"
  description := "Minimum velocity needed to escape the gravitational pull of a body"
  equation := "v_esc = √(2GM/r)"
  vars :=
    [.plain "v_esc" "Escape Velocity" "m/s" "Velocity required to escape gravitational field",
     .plain "r" "Radius" "meters" "Distance from center of the body",
     .plain "M" "Mass" "kg" "Mass of the body"]
  constants := [("G", Constants.gravitational.value)]
  category := category
  relation := .text "v_esc = sqrt(2*G*M/r)"

def tidalForce : Formula where
  id := "tidal_force"
  name := "Tidal Force"
  description := "Tidal force between two bodies"
  equation := "F_tidal = (2GMmR) / d³"
  vars :=
    [.plain "F_tidal" "Tidal Force" "N" "Tidal force",
     .plain "M" "Primary Mass" "kg" "Mass of primary body",
     .plain "m" "Secondary Mass" "kg" "Mass of secondary body",
     .plain "R" "Primary Radius" "meters" "Radius of primary body",
     .plain "d" "Distance" "meters" "Distance between centers"]
  constants := [("G", Constants.gravitational.value)]
  category := category
  relation := .text "F_tidal = 2*G*M*m*R/d**3"

def rocheLimit : Formula where
  id := "roche_limit"
  name := "Roche Limit"
  description := "Minimum distance for a rigid body to avoid tidal disruption"
  equation := "d = R × (2 × (ρ_M / ρ_m))^(1/3)"
  vars :=
    [.plain "d" "Roche Limit" "meters" "Minimum safe distance",
     .plain "R" "Primary Radius" "meters" "Radius of primary body",
     .keyed "rho_M" "ρ_M" "Primary Density" "kg/m³" "Density of primary body",
     .keyed "rho_m" "ρ_m" "Secondary Density" "kg/m³" "Density of secondary body"]
  constants := [("factor", 2)]
  category := category
  relation := .text "d = R*(factor*rho_M/rho_m)**(1/3)"

def orbitalEnergy : Formula where
  id := "orbital_energy"
  name := "Orbital Energy"
  description := "Total energy of an orbiting body"
  equation := "E = -GMm / (2a)"
  vars :=
    [.plain "E" "Orbital Energy" "J" "Total orbital energy",
     .plain "M" "Central Mass" "kg" "Mass of central body",
     .plain "m" "Orbiting Mass" "kg" "Mass of orbiting body",
     .plain "a" "Semi-major Axis" "meters" "Semi-major axis of orbit"]
  constants := [("G", Constants.gravitational.value)]
  category := category
  relation := .text "E = -G*M*m/(2*a)"

def visViva : Formula where
  id := "vis_viva"
  name := "Vis Viva Equation"
  description := "Velocity at any point in an elliptical orbit"
  equation := "v² = GM × ((2/r) - (1/a))"
  vars :=
    [.plain "v" "Velocity" "m/s" "Orbital velocity",
     .plain "M" "Central Mass" "kg" "Mass of central body",
     .plain "r" "Distance" "meters" "Current distance from central body",
     .plain "a" "Semi-major Axis" "meters" "Semi-major axis of orbit"]
  constants := [("G", Constants.gravitational.value)]
  category := category
  relation := .text "v**2 = G*M*(2/r - 1/a)"

def keplerThirdLawBinary : Formula where
  id := "kepler_third_law_binary"
  name := "Kepler's Third Law (Binary System)"
  description := "Orbital period for a binary system"
  equation := "P² = (4π²a³) / (G(M₁ + M₂))"
  vars :=
    [.plain "P" "Orbital Period" "seconds" "Time for one complete orbit",
     .plain "a" "Semi-major Axis" "meters" "Semi-major axis of the orbit",
     .plain "M1" "Mass of Primary" "kg" "Mass of the first body",
     .plain "M2" "Mass of Secondary" "kg" "Mass of the second body"]
  constants := [("G", Constants.gravitational.value)]
  category := category
  relation := .text "P**2 = 4*pi**2*a**3/(G*(M1 + M2))"

def rotationalVelocity : Formula where
  id := "rotational_velocity"
  name := "Rotational Velocity"
  description := "Equatorial rotational velocity of a rotating body"
  equation := "v = (2πR) / P_rot"
  vars :=
    [.plain "v" "Rotational Velocity" "m/s" "Speed at the equator",
     .plain "R" "Radius" "meters" "Radius of the body",
     .plain "P_rot" "Rotational Period" "seconds" "Time for one complete rotation"]
  constants := []
  category := category
  relation := .text "v = 2*pi*R/P_rot"

/-- All of them, in order. -/
def all : List Formula :=
  [keplerThirdLaw, keplerThirdLawSolar, orbitalVelocity, escapeVelocity, tidalForce, rocheLimit,
   orbitalEnergy, visViva, keplerThirdLawBinary, rotationalVelocity]

end Astrolabe.Catalog.Orbits
