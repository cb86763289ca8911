import Astrolabe.Unit.Basic

/-!
The units in which a quantity may be typed in, in order of preference, and the long names of units.
-/

namespace Astrolabe.Unit

/-- For a canonical unit, the other units of its field, the preferred ones first. -/
def alternativeTable : List (String × List String) :=
  [("meters", ["m", "km", "AU", "pc", "light-years", "ly", "cm", "mm", "μm", "nm"]),
   ("m", ["meters", "km", "AU", "pc", "light-years", "ly", "cm", "mm", "μm", "nm"]),
   ("AU", ["km", "meters", "light-minutes"]),
   ("parsecs", ["pc", "light-years", "ly", "AU", "meters"]),
   ("pc", ["parsecs", "light-years", "ly", "AU", "meters"]),
   ("Mpc", ["kpc", "pc", "light-years"]),
   ("kg", ["kilograms", "g", "M☉", "M_☉", "M_sun", "M_earth"]),
   ("kilograms", ["kg", "g", "M☉", "M_☉", "M_sun", "M_earth"]),
   ("M_☉", ["M☉", "M_sun", "kg", "M_earth"]),
   ("seconds", ["s", "minutes", "hours", "days", "years"]),
   ("s", ["seconds", "minutes", "hours", "days", "years"]),
   ("years", ["y", "yr", "seconds", "days"]),
   ("m/s", ["meters per second", "km/s", "km/h"]),
   ("km/s", ["m/s", "km/h"]),
   ("m/s²", ["m/s^2", "cm/s²"]),
   ("W", ["Watts", "L☉", "L_sun", "erg/s"]),
   ("L_☉", ["L☉", "L_sun", "W", "erg/s"]),
   ("W/m²", ["Watts per square meter", "erg/(s·cm²)"]),
   ("J", ["Joules", "erg", "eV"]),
   ("J/m³", ["erg/cm³"]),
   ("N", ["Newtons", "dyn"]),
   ("Kelvin", ["K", "°C", "Celsius"]),
   ("K", ["Kelvin", "°C", "Celsius"]),
   ("Hz", ["Hertz", "kHz", "MHz", "GHz"]),
   ("kg/m³", ["kilograms per cubic meter", "g/cm³"]),
   ("Pa/m", ["atm/m"]),
   ("Tesla", ["T", "Gauss", "μG"]),
   ("Gauss", ["Tesla", "μG"]),
   ("km/(s·Mpc)", ["km/s/Mpc", "1/s"]),
   ("radians", ["rad", "degrees", "deg", "°"]),
   ("rad", ["radians", "degrees", "deg", "°"]),
   ("arcseconds", ["arcsec", "milliarcseconds", "arcminutes", "degrees", "radians"])]

/-- The other units by the name that is looked up. -/
def normalizedAlternatives : List (String × List String) :=
  alternativeTable.map fun (name, others) => (normalize name, others)

/-- The units of the field for a quantity: its own unit first, none twice. -/
def alternatives (name : String) : List String :=
  ((normalizedAlternatives.lookup (normalize name)).getD []).foldl
    (fun done other => if done.contains other then done else done ++ [other]) [name]

/-- Long names of units. -/
def longNames : List (String × String) :=
  [("m", "meters"), ("s", "seconds"), ("kg", "kilograms"), ("W", "Watts"), ("J", "Joules"),
   ("K", "Kelvin"), ("Hz", "Hertz"), ("Pa", "Pascals"), ("N", "Newtons"), ("M☉", "Solar Masses"),
   ("M_☉", "Solar Masses"), ("M_earth", "Earth Masses"), ("L☉", "Solar Luminosities"),
   ("L_☉", "Solar Luminosities"), ("AU", "Astronomical Units"), ("pc", "parsecs"),
   ("Mpc", "megaparsecs"), ("km/s", "kilometers per second"), ("m/s", "meters per second"),
   ("m/s²", "meters per second squared"), ("W/m²", "Watts per square meter"),
   ("kg/m³", "kilograms per cubic meter"), ("magnitude", "magnitude"), ("mag", "magnitude"),
   ("dimensionless", "dimensionless"), ("arcseconds", "arcseconds"), ("arcsec", "arcseconds"),
   ("radians", "radians"), ("rad", "radians"), ("Gauss", "Gauss"), ("Tesla", "Tesla"),
   ("T", "Tesla")]

/-- The long name of a unit, which is the name itself where there is none. -/
def describe (name : String) : String :=
  (longNames.lookup name).getD name

end Astrolabe.Unit
