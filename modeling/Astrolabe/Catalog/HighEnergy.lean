import Astrolabe.Catalog.Constants

/-!
Formulas on matter and radiation at high energies.
-/

namespace Astrolabe.Catalog.HighEnergy

def category : String := "High Energy Astrophysics"

def maxGammaBohm : Formula where
  id := "max_gamma_bohm"
  name := "Maximum Gamma (Bohm Limit)"
  description :=
    "Maximum Lorentz factor from acceleration vs. loss, based on Bohm limit approximation"
  equation := "γmax ≈ √(6πe / (σT B ξ))"
  vars :=
    [.keyed "gamma_max" "γmax" "Maximum Lorentz Factor" "dimensionless"
       "Maximum relativistic gamma factor",
     .plain "B" "Magnetic Field Strength" "Tesla" "Strength of the magnetic field",
     .keyed "xi" "ξ" "Efficiency Parameter" "dimensionless" "Dimensionless efficiency parameter"]
  constants := [("e", Constants.elementaryCharge.value), ("sigma_T", Constants.thomson.value)]
  category := category
  relation := .text "gamma_max = sqrt(6*pi*e/(sigma_T*B*xi))"

def coolingBreakGamma : Formula where
  id := "cooling_break_gamma"
  name := "Cooling Break Lorentz Factor"
  description :=
    "Break Lorentz factor where electrons have cooled significantly due to synchrotron radiation"
  equation := "γb = (6π m_e c) / (σ_T B² t_age)"
  vars :=
    [.keyed "gamma_b" "γb" "Break Lorentz Factor" "dimensionless"
       "Lorentz factor at the cooling break",
     .plain "B" "Magnetic Field Strength" "Tesla" "Strength of the magnetic field",
     .plain "t_age" "System Age" "seconds" "Age of the system"]
  constants :=
    [("m_e", Constants.electronMass.value),
     ("c", Constants.lightSpeed.value),
     ("sigma_T", Constants.thomson.value)]
  category := category
  relation := .text "gamma_b = 6*pi*m_e*c/(sigma_T*B**2*t_age)"

def coolingBreakFrequency : Formula where
  id := "cooling_break_frequency"
  name := "Cooling Break Frequency"
  description := "Break frequency corresponding to the cooling break Lorentz factor"
  equation := "νb = (3eB / (4π m_e c)) × γb²"
  vars :=
    [.keyed "nu_b" "νb" "Break Frequency" "Hz" "Frequency at the cooling break",
     .plain "B" "Magnetic Field Strength" "Tesla" "Strength of the magnetic field",
     .keyed "gamma_b" "γb" "Break Lorentz Factor" "dimensionless"
       "Lorentz factor at the cooling break"]
  constants :=
    [("e", Constants.elementaryCharge.value),
     ("m_e", Constants.electronMass.value),
     ("c", Constants.lightSpeed.value)]
  category := category
  relation := .text "nu_b = 3*e*B/(4*pi*m_e*c)*gamma_b**2"

def synchrotronCoolingTimescale : Formula where
  id := "synchrotron_cooling_timescale"
  name := "Synchrotron Cooling Timescale"
  description := "Characteristic time for an electron to lose energy via synchrotron radiation"
  equation := "t_syn = (6π m_e c) / (σ_T B² γ)"
  vars :=
    [.plain "t_syn" "Cooling Timescale" "seconds" "Time for electron to lose most of its energy",
     .plain "B" "Magnetic Field Strength" "Gauss"
       "Strength of the magnetic field (in Gauss for this formula)",
     .keyed "gamma" "γ" "Lorentz Factor" "dimensionless"
       "Relativistic Lorentz factor of the electron"]
  constants :=
    [("m_e", Constants.electronMassGrams.value),
     ("c", Constants.lightSpeedCentimeters.value),
     ("sigma_T", Constants.thomsonCentimeters.value)]
  category := category
  relation := .text "t_syn = 6*pi*m_e*c/(sigma_T*B**2*gamma)"

def synchrotronPower : Formula where
  id := "synchrotron_power"
  name := "Synchrotron Power"
  description := "Power radiated by a relativistic electron via synchrotron radiation"
  equation := "P_syn = (4/3) σ_T c U_B γ²"
  vars :=
    [.plain "P_syn" "Synchrotron Power" "W" "Power radiated by the electron",
     .plain "U_B" "Magnetic Energy Density" "J/m³" "Energy density of the magnetic field",
     .keyed "gamma" "γ" "Lorentz Factor" "dimensionless" "Relativistic Lorentz factor"]
  constants := [("sigma_T", Constants.thomson.value), ("c", Constants.lightSpeed.value)]
  category := category
  relation := .text "P_syn = 4/3*sigma_T*c*U_B*gamma**2"

def magneticEnergyDensity : Formula where
  id := "magnetic_energy_density"
  name := "Magnetic Energy Density"
  description := "Energy density stored in a magnetic field"
  equation := "U_B = B² / (8π)"
  vars :=
    [.plain "U_B" "Magnetic Energy Density" "J/m³" "Energy density of the magnetic field",
     .plain "B" "Magnetic Field Strength" "Tesla" "Strength of the magnetic field"]
  constants := []
  category := category
  relation := .text "U_B = B**2/(8*pi)"

def powerLawSpectrum : Formula where
  id := "power_law_spectrum"
  name := "Power-Law Energy Spectrum"
  description := "Differential number of particles per unit energy as a function of energy"
  equation := "N(E) = K E^(-p)"
  vars :=
    [.plain "N" "Spectral Density" "particles/energy"
       "Number of particles per unit energy at energy E",
     .plain "K" "Normalization Constant" "varies" "Constant of proportionality",
     .plain "E" "Energy" "energy units" "Energy at which spectral density is evaluated",
     .plain "p" "Power-Law Index" "dimensionless" "Exponent describing steepness of spectrum"]
  constants := []
  category := category
  relation := .text "N = K*E**(-p)"

def spectralIndex : Formula where
  id := "spectral_index"
  name := "Spectral Index"
  description := "Relates power-law index to spectral index"
  equation := "α = (p - 1) / 2"
  vars :=
    [.keyed "alpha" "α" "Spectral Index" "dimensionless" "Spectral index of flux density",
     .plain "p" "Power-Law Index" "dimensionless" "Power-law index of particle spectrum"]
  constants := []
  category := category
  relation := .text "alpha = (p - 1)/2"

/-- All of them, in order. -/
def all : List Formula :=
  [maxGammaBohm, coolingBreakGamma, coolingBreakFrequency, synchrotronCoolingTimescale,
   synchrotronPower, magneticEnergyDensity, powerLawSpectrum, spectralIndex]

end Astrolabe.Catalog.HighEnergy
