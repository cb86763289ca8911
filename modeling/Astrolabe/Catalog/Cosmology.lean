import Astrolabe.Catalog.Constants

/-!
Formulas on cosmology and relativity.
-/

namespace Astrolabe.Catalog.Cosmology

def category : String := "Cosmology & Relativity"

def hubbleLaw : Formula where
  id := "hubble_law"
  name := "Hubble's Law"
  description := "Relates recessional velocity to distance in an expanding universe"
  equation := "v = H₀ × d"
  vars :=
    [.plain "v" "Recessional Velocity" "km/s" "Speed at which galaxy is moving away",
     .keyed "H0" "H₀" "Hubble Constant" "km/(s·Mpc)"
       "Rate of expansion of the universe (about 70)",
     .plain "d" "Distance" "Mpc" "Distance to the galaxy"]
  constants := []
  category := category
  relation := .text "v = H0*d"

def criticalDensity : Formula where
  id := "critical_density"
  name := "Critical Density"
  description := "Critical density for a flat universe"
  equation := "ρ_c = (3H₀²) / (8πG)"
  vars :=
    [.keyed "rho_c" "ρ_c" "Critical Density" "kg/m³" "Critical density",
     .plain "H0" "Hubble Constant" "km/(s·Mpc)" "Hubble constant"]
  constants :=
    [("G", Constants.gravitational.value),
     ("factor", 3),
     ("km_s_Mpc", Constants.hubbleUnit.value)]
  category := category
  relation := .text "rho_c = factor*(H0*km_s_Mpc)**2/(8*pi*G)"

def schwarzschildRadius : Formula where
  id := "schwarzschild_radius"
  name := "Schwarzschild Radius"
  description := "Event horizon radius of a black hole"
  equation := "R_s = (2GM) / c²"
  vars :=
    [.plain "R_s" "Schwarzschild Radius" "meters" "Event horizon radius",
     .plain "M" "Mass" "kg" "Mass of the black hole"]
  constants := [("G", Constants.gravitational.value), ("c", 2.998e8), ("factor", 2)]
  category := category
  relation := .text "R_s = factor*G*M/c**2"

def timeDilation : Formula where
  id := "time_dilation"
  name := "Time Dilation"
  description := "Time dilation in special relativity"
  equation := "Δt' = Δt / √(1 - (v² / c²))"
  vars :=
    [.keyed "dt_prime" "Δt'" "Dilated Time" "seconds" "Time as measured in moving frame",
     .keyed "dt" "Δt" "Proper Time" "seconds" "Time as measured in rest frame",
     .plain "v" "Velocity" "m/s" "Relative velocity"]
  constants := [("c", 2.998e8)]
  category := category
  relation := .text "dt_prime = dt/sqrt(1 - v**2/c**2)"

def lengthContraction : Formula where
  id := "length_contraction"
  name := "Length Contraction"
  description := "Length contraction in special relativity"
  equation := "L' = L × √(1 - (v² / c²))"
  vars :=
    [.keyed "L_prime" "L'" "Contracted Length" "meters" "Length as measured in moving frame",
     .plain "L" "Proper Length" "meters" "Length as measured in rest frame",
     .plain "v" "Velocity" "m/s" "Relative velocity"]
  constants := [("c", 2.998e8)]
  category := category
  relation := .text "L_prime = L*sqrt(1 - v**2/c**2)"

def parallaxDistanceRadians : Formula where
  id := "parallax_distance_radians"
  name := "Parallax Distance (Radians)"
  description := "Calculates distance to a star using parallax angle in radians (general form)"
  equation := "d = 1 AU / tan(p)"
  vars :=
    [.plain "d" "Distance" "meters" "Distance from Earth to the star",
     .plain "p" "Parallax Angle" "radians" "Parallax angle of the star"]
  constants := [("AU", Constants.astronomicalUnit.value)]
  category := category
  relation := .text "d = AU/tan(p)"

def parallaxDistanceArcsec : Formula where
  id := "parallax_distance_arcsec"
  name := "Parallax Distance (Arcseconds)"
  description :=
    "Calculates distance to a star using parallax angle in arcseconds (small angle approximation)"
  equation := "d ≈ 1 / p"
  vars :=
    [.plain "d" "Distance" "parsecs" "Distance from Earth to the star",
     .plain "p" "Parallax Angle" "arcseconds" "Parallax angle of the star"]
  constants := []
  category := category
  relation := .text "d = 1/p"

/-- All of them, in order. -/
def all : List Formula :=
  [hubbleLaw, criticalDensity, schwarzschildRadius, timeDilation, lengthContraction,
   parallaxDistanceRadians, parallaxDistanceArcsec]

end Astrolabe.Catalog.Cosmology
