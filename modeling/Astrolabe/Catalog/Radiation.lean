import Astrolabe.Catalog.Constants

/-!
Formulas on radiation and the properties of stars.
-/

namespace Astrolabe.Catalog.Radiation

def category : String := "Radiation & Stellar Properties"

def luminosity : Formula where
  id := "luminosity"
  name := "Stellar Luminosity"
  description := "Relates luminosity to radius and temperature (Stefan-Boltzmann Law)"
  equation := "L = 4πR²σT⁴"
  vars :=
    [.plain "L" "Luminosity" "W" "Total power output of the star",
     .plain "R" "Radius" "meters" "Radius of the star",
     .plain "T" "Temperature" "Kelvin" "Surface temperature of the star"]
  constants := [("sigma", Constants.stefanBoltzmann.value)]
  category := category
  relation := .text "L = 4*pi*R**2*sigma*T**4"

def fluxFromLuminosity : Formula where
  id := "flux_from_luminosity"
  name := "Flux from Luminosity"
  description := "Observed flux based on intrinsic luminosity and distance"
  equation := "F = L / (4πd²)"
  vars :=
    [.plain "F" "Observed Flux" "W/m²" "Power received per unit area",
     .plain "L" "Luminosity" "W" "Total power emitted",
     .plain "d" "Distance" "meters" "Distance to the source"]
  constants := []
  category := category
  relation := .text "F = L/(4*pi*d**2)"

def inverseSquareLawBrightness : Formula where
  id := "inverse_square_law_brightness"
  name := "Inverse Square Law (Brightness)"
  description := "Relates brightness to luminosity and distance"
  equation := "b = L / (4πd²)"
  vars :=
    [.plain "b" "Brightness" "W/m²" "Observed brightness",
     .plain "L" "Luminosity" "W" "Total power output of the source",
     .plain "d" "Distance" "meters" "Distance to the source"]
  constants := []
  category := category
  relation := .text "b = L/(4*pi*d**2)"

def wiensLaw : Formula where
  id := "wiens_law"
  name := "Wien's Displacement Law"
  description := "Relates peak wavelength of blackbody radiation to temperature"
  equation := "λmax = b / T"
  vars :=
    [.keyed "lam_max" "λmax" "Peak Wavelength" "meters" "Wavelength at peak emission",
     .plain "T" "Temperature" "Kelvin" "Surface temperature"]
  constants := [("b", Constants.wien.value)]
  category := category
  relation := .text "lam_max = b/T"

def fluxTemperature : Formula where
  id := "flux_temperature"
  name := "Flux from Temperature (Stefan-Boltzmann)"
  description := "Flux from a blackbody at temperature T"
  equation := "F = σT⁴"
  vars :=
    [.plain "F" "Flux" "W/m²" "Radiative flux",
     .plain "T" "Temperature" "Kelvin" "Blackbody temperature"]
  constants := [("sigma", 5.670e-8)]
  category := category
  relation := .text "F = sigma*T**4"

def distanceModulus : Formula where
  id := "distance_modulus"
  name := "Distance Modulus"
  description := "Relates apparent magnitude, absolute magnitude, and distance"
  equation := "m - M = 5 log₁₀(d) - 5"
  vars :=
    [.plain "m" "Apparent Magnitude" "magnitude" "Brightness as seen from Earth",
     .plain "M" "Absolute Magnitude" "magnitude" "Intrinsic brightness at 10 parsecs",
     .plain "d" "Distance" "parsecs" "Distance to the star"]
  constants := []
  category := category
  relation := .text "m - M = 5*log(d, 10) - 5"

def magnitudeFluxRelation : Formula where
  id := "magnitude_flux_relation"
  name := "Magnitude-Flux Relation"
  description := "Compares brightness between two stars based on their magnitudes"
  equation := "m₁ - m₂ = -2.5 log₁₀(F₁/F₂)"
  vars :=
    [.plain "m1" "Magnitude of Star 1" "magnitude" "Apparent magnitude of first star",
     .plain "m2" "Magnitude of Star 2" "magnitude" "Apparent magnitude of second star",
     .plain "F1" "Flux of Star 1" "W/m²" "Observed flux of first star",
     .plain "F2" "Flux of Star 2" "W/m²" "Observed flux of second star"]
  constants := []
  category := category
  relation := .text "m1 - m2 = -5/2*log(F1/F2, 10)"

def stellarLifetime : Formula where
  id := "stellar_lifetime"
  name := "Stellar Lifetime"
  description := "Approximate main sequence lifetime of a star"
  equation := "τ ≈ 10¹⁰ × (M_sun / M)^2.5"
  vars :=
    [.keyed "tau" "τ" "Lifetime" "years" "Main sequence lifetime",
     .plain "M" "Stellar Mass" "kg" "Mass of the star"]
  constants := [("M_sun", Constants.solarMass.value), ("factor", 1.0e10), ("exponent", 2.5)]
  category := category
  relation := .text "tau = factor*(M_sun/M)**exponent"

def massLuminosityRelation : Formula where
  id := "mass_luminosity_relation"
  name := "Mass-Luminosity Relation"
  description := "Luminosity as a function of mass for main sequence stars"
  equation := "L ≈ M^3.5"
  vars :=
    [.plain "L" "Luminosity" "L_☉" "Luminosity in solar units",
     .plain "M" "Mass" "M_☉" "Mass in solar units"]
  constants := [("exponent", 3.5)]
  category := category
  relation := .text "L = M**exponent"

def hrColorIndex : Formula where
  id := "hr_color_index"
  name := "HR Diagram Color Index"
  description := "Color index from B and V band fluxes"
  equation := "B - V = -2.5 × log₁₀(F_B / F_V) + C"
  vars :=
    [.plain "B_V" "Color Index" "magnitude" "B minus V color index",
     .plain "F_B" "B Band Flux" "W/m²" "Flux in B (blue) band",
     .plain "F_V" "V Band Flux" "W/m²" "Flux in V (visual) band",
     .plain "C" "Constant" "magnitude" "Calibration constant"]
  constants := [("factor", -2.5)]
  category := category
  relation := .text "B_V = factor*log(F_B/F_V, 10) + C"

def hrAbsoluteMagnitude : Formula where
  id := "hr_absolute_magnitude"
  name := "HR Diagram Absolute Magnitude"
  description := "Absolute visual magnitude from luminosity"
  equation := "M_V = -2.5 × log₁₀(L / L_sun) + 4.83"
  vars :=
    [.plain "M_V" "Absolute Magnitude" "magnitude" "Absolute visual magnitude",
     .plain "L" "Luminosity" "W" "Stellar luminosity"]
  constants := [("L_sun", Constants.solarLuminosity.value), ("factor", -2.5), ("offset", 4.83)]
  category := category
  relation := .text "M_V = factor*log(L/L_sun, 10) + offset"

def chandrasekharLimit : Formula where
  id := "chandrasekhar_limit"
  name := "Chandrasekhar Limit"
  description := "Maximum stable mass for a white dwarf (order-of-magnitude)"
  equation := "M_Ch ≈ 1.4 M_☉"
  vars :=
    [.plain "M_Ch" "Chandrasekhar Mass" "kg" "Maximum stable white dwarf mass"]
  constants := [("M_sun", Constants.solarMass.value)]
  category := category
  relation := .text "M_Ch = 7/5*M_sun"

def whiteDwarfMassRadius : Formula where
  id := "white_dwarf_mass_radius"
  name := "White Dwarf Mass-Radius Relation"
  description :=
    "Non-relativistic approximation: radius inversely proportional to cube root of mass"
  equation := "R ∝ 1 / M^(1/3)"
  vars :=
    [.plain "R" "Radius" "meters" "Radius of the white dwarf",
     .plain "M" "Mass" "kg" "Mass of the white dwarf"]
  constants := []
  category := category
  relation := .null

/-- All of them, in order. -/
def all : List Formula :=
  [luminosity, fluxFromLuminosity, inverseSquareLawBrightness, wiensLaw, fluxTemperature,
   distanceModulus, magnitudeFluxRelation, stellarLifetime, massLuminosityRelation, hrColorIndex,
   hrAbsoluteMagnitude, chandrasekharLimit, whiteDwarfMassRadius]

end Astrolabe.Catalog.Radiation
