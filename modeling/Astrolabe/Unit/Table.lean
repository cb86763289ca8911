import Astrolabe.Unit.Basic

/-!
The table of units. No two of its names agree without blanks and letter case.
-/

namespace Astrolabe.Unit

open Number

def metersPerParsec : Float := 3.086e16

def metersPerAstronomicalUnit : Float := 1.496e11

def radiansPerArcsecond : Float := Elementary.pi / 648000

/-- A unit that is a multiple of the reference unit. -/
def scaled (dimension : Dimension) (factor : Float) : Rule Float := ⟨dimension, factor, 0⟩

/-- A unit whose zero is not the zero of the reference unit. -/
def shifted (dimension : Dimension) (factor offset : Float) : Rule Float :=
  ⟨dimension, factor, offset⟩

/-- The units by name. -/
def table : List (String × Rule Float) :=
  [("meters", scaled .length 1.0), ("m", scaled .length 1.0), ("km", scaled .length 1e3),
   ("cm", scaled .length 1e-2), ("mm", scaled .length 1e-3), ("μm", scaled .length 1e-6),
   ("um", scaled .length 1e-6), ("nm", scaled .length 1e-9),
   ("AU", scaled .length metersPerAstronomicalUnit),
   ("light-minutes", scaled .length (metersPerAstronomicalUnit / 8.317)),
   ("light-years", scaled .length 9.461e15), ("ly", scaled .length 9.461e15),
   ("parsecs", scaled .length metersPerParsec), ("pc", scaled .length metersPerParsec),
   ("kpc", scaled .length (metersPerParsec * 1e3)),
   ("Mpc", scaled .length (metersPerParsec * 1e6)), ("kg", scaled .mass 1.0),
   ("kilograms", scaled .mass 1.0), ("g", scaled .mass 1e-3), ("grams", scaled .mass 1e-3),
   ("M☉", scaled .mass 1.989e30), ("M_☉", scaled .mass 1.989e30),
   ("M_sun", scaled .mass 1.989e30), ("M_earth", scaled .mass 5.972e24),
   ("seconds", scaled .time 1.0), ("s", scaled .time 1.0), ("minutes", scaled .time 60.0),
   ("hours", scaled .time 3600.0), ("days", scaled .time 86400.0),
   ("years", scaled .time 3.156e7), ("y", scaled .time 3.156e7), ("yr", scaled .time 3.156e7),
   ("radians", scaled .angle 1.0), ("rad", scaled .angle 1.0),
   ("degrees", scaled .angle (Elementary.pi / 180.0)),
   ("deg", scaled .angle (Elementary.pi / 180.0)), ("°", scaled .angle (Elementary.pi / 180.0)),
   ("arcminutes", scaled .angle (Elementary.pi / 10800.0)),
   ("arcmin", scaled .angle (Elementary.pi / 10800.0)),
   ("arcseconds", scaled .angle radiansPerArcsecond),
   ("arcsec", scaled .angle radiansPerArcsecond),
   ("milliarcseconds", scaled .angle (radiansPerArcsecond * 1e-3)),
   ("mas", scaled .angle (radiansPerArcsecond * 1e-3)), ("Kelvin", scaled .temperature 1.0),
   ("K", scaled .temperature 1.0), ("°C", shifted .temperature 1.0 273.15),
   ("Celsius", shifted .temperature 1.0 273.15), ("C", shifted .temperature 1.0 273.15),
   ("°F", shifted .temperature (5.0 / 9.0) (273.15 - 32.0 * 5.0 / 9.0)),
   ("Fahrenheit", shifted .temperature (5.0 / 9.0) (273.15 - 32.0 * 5.0 / 9.0)),
   ("m/s", scaled .velocity 1.0), ("meters per second", scaled .velocity 1.0),
   ("km/s", scaled .velocity 1e3), ("km/h", scaled .velocity (1000.0 / 3600.0)),
   ("m/s²", scaled .acceleration 1.0), ("m/s^2", scaled .acceleration 1.0),
   ("cm/s²", scaled .acceleration 1e-2), ("W", scaled .power 1.0), ("Watts", scaled .power 1.0),
   ("L☉", scaled .power 3.828e26), ("L_☉", scaled .power 3.828e26),
   ("L_sun", scaled .power 3.828e26), ("erg/s", scaled .power 1e-7), ("W/m²", scaled .flux 1.0),
   ("W/m^2", scaled .flux 1.0), ("Watts per square meter", scaled .flux 1.0),
   ("erg/(s·cm²)", scaled .flux 1e-3), ("J", scaled .energy 1.0), ("Joules", scaled .energy 1.0),
   ("erg", scaled .energy 1e-7), ("eV", scaled .energy 1.602176634e-19),
   ("J/m³", scaled .energyDensity 1.0), ("J/m^3", scaled .energyDensity 1.0),
   ("erg/cm³", scaled .energyDensity 0.1), ("N", scaled .force 1.0),
   ("Newtons", scaled .force 1.0), ("dyn", scaled .force 1e-5), ("Hz", scaled .frequency 1.0),
   ("Hertz", scaled .frequency 1.0), ("kHz", scaled .frequency 1e3),
   ("MHz", scaled .frequency 1e6), ("GHz", scaled .frequency 1e9), ("kg/m³", scaled .density 1.0),
   ("kg/m^3", scaled .density 1.0), ("kilograms per cubic meter", scaled .density 1.0),
   ("g/cm³", scaled .density 1e3), ("g/cm^3", scaled .density 1e3),
   ("Pa/m", scaled .pressureGradient 1.0), ("atm/m", scaled .pressureGradient 101325.0),
   ("Tesla", scaled .magneticField 1.0), ("T", scaled .magneticField 1.0),
   ("Gauss", scaled .magneticField 1e-4), ("μG", scaled .magneticField 1e-10),
   ("km/(s·Mpc)", scaled .rate (1e3 / (metersPerParsec * 1e6))),
   ("km/s/Mpc", scaled .rate (1e3 / (metersPerParsec * 1e6))), ("1/s", scaled .rate 1.0),
   ("magnitude", scaled .magnitude 1.0), ("mag", scaled .magnitude 1.0),
   ("dimensionless", scaled .dimensionless 1.0)]

/-- The units by the name that is looked up. -/
def normalizedTable : List (String × Rule Float) :=
  table.map fun (name, rule) => (normalize name, rule)

/-- The rule of a unit. -/
def rule? (name : String) : Option (Rule Float) :=
  normalizedTable.lookup (normalize name)

end Astrolabe.Unit
