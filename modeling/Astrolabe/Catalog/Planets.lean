import Astrolabe.Catalog.Constants

/-!
Formulas on planets.
-/

namespace Astrolabe.Catalog.Planets

def category : String := "Planetary Science & Exoplanets"

def surfaceGravity : Formula where
  id := "surface_gravity"
  name := "Surface Gravity"
  description := "Gravitational acceleration at the surface of a body"
  equation := "g = GM/r²"
  vars :=
    [.plain "g" "Surface Gravity" "m/s²" "Acceleration due to gravity at surface",
     .plain "M" "Mass" "kg" "Mass of the body",
     .plain "r" "Radius" "meters" "Radius of the body"]
  constants := [("G", Constants.gravitational.value)]
  category := category
  relation := .text "g = G*M/r**2"

def averageDensity : Formula where
  id := "average_density"
  name := "Average Density"
  description := "Average density of a spherical body"
  equation := "ρ = 3M / (4πR³)"
  vars :=
    [.keyed "rho" "ρ" "Average Density" "kg/m³" "Average density of the body",
     .plain "M" "Mass" "kg" "Mass of the body",
     .plain "R" "Radius" "meters" "Radius of the body"]
  constants := []
  category := category
  relation := .text "rho = 3*M/(4*pi*R**3)"

def planetaryEquilibriumTemperature : Formula where
  id := "planetary_equilibrium_temperature"
  name := "Planetary Equilibrium Temperature"
  description := "Equilibrium temperature of a planet"
  equation := "T_eq = T_star × √(R_star / (2a)) × (1 - A)^(1/4)"
  vars :=
    [.plain "T_eq" "Equilibrium Temperature" "Kelvin" "Planetary equilibrium temperature",
     .plain "T_star" "Star Temperature" "Kelvin" "Effective temperature of star",
     .plain "R_star" "Star Radius" "meters" "Radius of the star",
     .plain "a" "Orbital Distance" "meters" "Distance from star to planet",
     .plain "A" "Albedo" "dimensionless" "Planetary albedo (0-1)"]
  constants := [("factor", 2)]
  category := category
  relation := .text "T_eq = T_star*sqrt(R_star/(factor*a))*(1 - A)**(1/4)"

def greenhouseEffect : Formula where
  id := "greenhouse_effect"
  name := "Greenhouse Effect"
  description := "Temperature difference due to greenhouse effect"
  equation := "ΔT_GH = T_surface - T_eq"
  vars :=
    [.keyed "dT_GH" "ΔT_GH" "Greenhouse Temperature Difference" "Kelvin"
       "Temperature increase from greenhouse effect",
     .plain "T_surface" "Surface Temperature" "Kelvin" "Actual surface temperature",
     .plain "T_eq" "Equilibrium Temperature" "Kelvin" "Equilibrium temperature without greenhouse"]
  constants := []
  category := category
  relation := .text "dT_GH = T_surface - T_eq"

def albedo : Formula where
  id := "albedo"
  name := "Albedo"
  description := "Reflectivity of a surface"
  equation := "A = F_reflected / F_incident"
  vars :=
    [.plain "A" "Albedo" "dimensionless" "Albedo (0-1)",
     .plain "F_reflected" "Reflected Flux" "W/m²" "Reflected radiative flux",
     .plain "F_incident" "Incident Flux" "W/m²" "Incident radiative flux"]
  constants := []
  category := category
  relation := .text "A = F_reflected/F_incident"

/-- All of them, in order. -/
def all : List Formula :=
  [surfaceGravity, averageDensity, planetaryEquilibriumTemperature, greenhouseEffect, albedo]

end Astrolabe.Catalog.Planets
