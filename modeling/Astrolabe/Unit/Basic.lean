import Astrolabe.Number.Elementary
import Astrolabe.Text.Blank
import Astrolabe.Text.Lowercase

/-!
Units of measurement. A unit has a dimension and an affine map to the reference unit of that
dimension: the reference value is the raw value times a factor plus an offset. Names of units are
compared without blanks and letter case.
-/

namespace Astrolabe.Unit

/-- What a unit measures. -/
inductive Dimension where
  | length
  | mass
  | time
  | angle
  | temperature
  | velocity
  | acceleration
  | power
  | flux
  | energy
  | energyDensity
  | force
  | frequency
  | density
  | pressureGradient
  | magneticField
  | rate
  | magnitude
  | dimensionless
deriving DecidableEq, Repr

/-- The name of a dimension. -/
def Dimension.label : Dimension → String
  | length => "length"
  | mass => "mass"
  | time => "time"
  | angle => "angle"
  | temperature => "temperature"
  | velocity => "velocity"
  | acceleration => "acceleration"
  | power => "power"
  | flux => "flux"
  | energy => "energy"
  | energyDensity => "energy_density"
  | force => "force"
  | frequency => "frequency"
  | density => "density"
  | pressureGradient => "pressure_gradient"
  | magneticField => "magnetic_field"
  | rate => "rate"
  | magnitude => "magnitude"
  | dimensionless => "dimensionless"

/-- A dimension and the affine map to its reference unit, over some kind of numbers. -/
structure Rule (α : Type) where
  dimension : Dimension
  factor : α
  offset : α

/-- A name as it is looked up: without blanks, in lower case. -/
def normalize (name : String) : String :=
  Text.lower (Text.compact name)

/-- Whether two names are one but for the blanks around them and letter case. -/
def sameName (a b : String) : Bool :=
  a == b || Text.lower (Text.strip a) == Text.lower (Text.strip b)

end Astrolabe.Unit
