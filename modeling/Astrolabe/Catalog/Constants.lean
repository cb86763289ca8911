import Astrolabe.Formula

/-!
The physical constants of the packaged catalog.
-/

namespace Astrolabe.Catalog.Constants

def gravitational : Constant :=
  ⟨"G", 6.67430e-11, "m³/(kg·s²)", "Gravitational constant"⟩

def stefanBoltzmann : Constant :=
  ⟨"sigma_sb", 5.670374419e-8, "W/(m²·K⁴)", "Stefan-Boltzmann constant"⟩

def astronomicalUnit : Constant :=
  ⟨"AU", 1.496e11, "m", "Astronomical unit"⟩

def elementaryCharge : Constant :=
  ⟨"e_charge", 1.602176634e-19, "C", "Elementary charge"⟩

def electronMass : Constant :=
  ⟨"m_e", 9.1093837015e-31, "kg", "Electron mass"⟩

def electronMassGrams : Constant :=
  ⟨"m_e_cgs", 9.1093837015e-28, "g", "Electron mass (CGS)"⟩

def lightSpeed : Constant :=
  ⟨"c", 2.99792458e8, "m/s", "Speed of light"⟩

def lightSpeedCentimeters : Constant :=
  ⟨"c_cgs", 2.99792458e10, "cm/s", "Speed of light (CGS)"⟩

def thomson : Constant :=
  ⟨"sigma_T", 6.6524587158e-29, "m²", "Thomson cross-section"⟩

def thomsonCentimeters : Constant :=
  ⟨"sigma_T_cgs", 6.6524587158e-25, "cm²", "Thomson cross-section (CGS)"⟩

def solarMass : Constant :=
  ⟨"M_sun", 1.989e30, "kg", "Solar mass"⟩

def solarLuminosity : Constant :=
  ⟨"L_sun", 3.828e26, "W", "Solar luminosity"⟩

def wien : Constant :=
  ⟨"b_wien", 2.898e-3, "m·K", "Wien's displacement constant"⟩

def hubbleUnit : Constant :=
  ⟨"km_s_Mpc", 3.2404406999351913e-20, "1/s", "One km/(s·Mpc) in 1/s"⟩

/-- All of them, in order. -/
def all : List Constant :=
  [gravitational, stefanBoltzmann, astronomicalUnit, elementaryCharge, electronMass,
   electronMassGrams, lightSpeed, lightSpeedCentimeters, thomson, thomsonCentimeters, solarMass,
   solarLuminosity, wien, hubbleUnit]

end Astrolabe.Catalog.Constants
