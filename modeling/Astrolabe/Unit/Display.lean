import Astrolabe.Number.Text
import Astrolabe.Unit.Conversion

/-!
Numbers for display. A quantity may be shown in a second unit, the first in whose natural range it
falls; numbers are written with four to six digits after the point, in scientific notation where
they are large or small.
-/

namespace Astrolabe.Unit

open Number

/-- A unit for display with the range of magnitudes for which it is natural. -/
structure Target (α : Type) where
  unit : String
  low : α
  high : α

/-- For a unit, the units in which its quantities may be shown, the preferred ones first. -/
def targetTable : List (String × List (Target Float)) :=
  [("radians", [⟨"degrees", 0.0, 360.0⟩]),
   ("rad", [⟨"degrees", 0.0, 360.0⟩]),
   ("degrees", [⟨"radians", 0.0, 2 * Elementary.pi⟩]),
   ("deg", [⟨"radians", 0.0, 2 * Elementary.pi⟩]),
   ("arcseconds", [⟨"milliarcseconds", 1.0, 1000.0⟩, ⟨"arcminutes", 1.0, 60.0⟩,
     ⟨"degrees", 1.0, 360.0⟩]),
   ("meters", [⟨"nm", 1.0, 1000.0⟩, ⟨"μm", 1.0, 1000.0⟩, ⟨"mm", 1.0, 1000.0⟩,
     ⟨"km", 1.0, 1e5⟩, ⟨"AU", 6.68459e-4, 1e4⟩, ⟨"light-years", 0.1, 3.26⟩,
     ⟨"pc", 1.0, 1e12⟩]),
   ("m", [⟨"nm", 1.0, 1000.0⟩, ⟨"μm", 1.0, 1000.0⟩, ⟨"mm", 1.0, 1000.0⟩,
     ⟨"km", 1.0, 1e5⟩, ⟨"AU", 6.68459e-4, 1e4⟩, ⟨"light-years", 0.1, 3.26⟩,
     ⟨"pc", 1.0, 1e12⟩]),
   ("parsecs", [⟨"AU", 1.0, 1e4⟩, ⟨"light-years", 0.1, 1e6⟩, ⟨"kpc", 1.0, 1000.0⟩,
     ⟨"Mpc", 1.0, 1e6⟩]),
   ("pc", [⟨"AU", 1.0, 1e4⟩, ⟨"light-years", 0.1, 1e6⟩, ⟨"kpc", 1.0, 1000.0⟩,
     ⟨"Mpc", 1.0, 1e6⟩]),
   ("AU", [⟨"km", 1.496e5, 1.496e11⟩, ⟨"light-minutes", 0.1, 1e4⟩]),
   ("seconds", [⟨"minutes", 1.0, 60.0⟩, ⟨"hours", 1.0, 24.0⟩, ⟨"days", 1.0, 366.0⟩,
     ⟨"years", 1.0, 1e12⟩]),
   ("s", [⟨"minutes", 1.0, 60.0⟩, ⟨"hours", 1.0, 24.0⟩, ⟨"days", 1.0, 366.0⟩,
     ⟨"years", 1.0, 1e12⟩]),
   ("years", [⟨"days", 1.0, 366.0⟩]),
   ("kg", [⟨"M☉", 0.03, 1e6⟩, ⟨"M_earth", 1e-4, 1e4⟩, ⟨"g", 1.0, 1000.0⟩]),
   ("m/s", [⟨"km/s", 1.0, 1e5⟩, ⟨"km/h", 0.36, 3600.0⟩]),
   ("km/s", [⟨"m/s", 1.0, 1000.0⟩]),
   ("W", [⟨"L☉", 1e-4, 1e7⟩, ⟨"erg/s", 1e4, 1e7⟩]),
   ("W/m²", [⟨"erg/(s·cm²)", 1.0, 1000.0⟩]),
   ("J", [⟨"eV", 1.0, 1e9⟩, ⟨"erg", 1.0, 1e7⟩]),
   ("J/m³", [⟨"erg/cm³", 1.0, 1e4⟩]),
   ("Kelvin", [⟨"°C", -273.15, 1e6⟩]),
   ("K", [⟨"°C", -273.15, 1e6⟩]),
   ("Hz", [⟨"kHz", 1.0, 1000.0⟩, ⟨"MHz", 1.0, 1000.0⟩, ⟨"GHz", 1.0, 1e6⟩]),
   ("kg/m³", [⟨"g/cm³", 1e-3, 1e4⟩]),
   ("Pa/m", [⟨"atm/m", 1.0, 1e10⟩]),
   ("Tesla", [⟨"Gauss", 1e-6, 1e4⟩]),
   ("Gauss", [⟨"μG", 1.0, 1e6⟩])]

/-- The units for display by the name that is looked up. -/
def normalizedTargets : List (String × List (Target Float)) :=
  targetTable.map fun (name, targets) => (normalize name, targets)

/-- The units for display of a unit. -/
def targets (name : String) : List (Target Float) :=
  (normalizedTargets.lookup (normalize name)).getD []

/-- A number for display: scientific from a million on and below a thousandth. -/
def shown (x : Float) : String :=
  let magnitude := x.abs
  if x == 0 then "0"
  else if 1e6 ≤ magnitude || magnitude < 1e-3 then scientific 4 x
  else if 1000 ≤ magnitude then fixed 2 x
  else if 1 ≤ magnitude then fixed 4 x
  else fixed 6 x

/-- A quantity in a unit for display. -/
structure Shown (α : Type) where
  value : α
  unit : String

def Shown.text (s : Shown Float) : String :=
  Unit.shown s.value ++ " " ++ s.unit

section

variable {α : Type} [LE α] [LT α] [DecidableLE α] [DecidableLT α]

/-- A quantity in a target, if its magnitude there is natural; `inUnit` gives the quantity in other
units. -/
def Target.fit? (magnitude : α → α) (inUnit : String → Option α) (target : Target α) :
    Option (Shown α) :=
  match inUnit target.unit with
  | some x =>
    if target.low ≤ magnitude x && magnitude x ≤ target.high then some ⟨x, target.unit⟩
    else none
  | none => none

variable [OfNat α 0] [OfScientific α]

/-- Whether a magnitude is shown in another unit even where that is not natural. -/
def isExtreme (magnitude : α) : Bool :=
  1e6 ≤ magnitude || (0 < magnitude && magnitude < 1e-3)

/-- The second unit for a quantity: the first natural one. Where there is none, a large or small
quantity is shown in the first of all. -/
def displayBy? (magnitude : α → α) (choices : List (Target α)) (inUnit : String → Option α)
    (value : α) : Option (Shown α) :=
  match choices.findSome? (Target.fit? magnitude inUnit) with
  | some s => some s
  | none =>
    if isExtreme (magnitude value) then do
      let first ← choices.head?
      let x ← inUnit first.unit
      some ⟨x, first.unit⟩
    else none

end

/-- The second unit for a quantity by the tables. -/
def display? (value : Float) (name : String) : Option (Shown Float) :=
  displayBy? Float.abs (targets name) (convert value name) value

end Astrolabe.Unit
