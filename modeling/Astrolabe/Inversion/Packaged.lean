import Astrolabe.Inversion.Orbits
import Astrolabe.Inversion.Radiation
import Astrolabe.Inversion.Optics
import Astrolabe.Inversion.Cosmology
import Astrolabe.Inversion.Spectra
import Astrolabe.Inversion.Planets
import Astrolabe.Inversion.HighEnergy
import Astrolabe.Inversion.StellarStructure

/-!
The solutions of all packaged formulas.
-/

namespace Astrolabe.Inversion

/-- Solutions by formula. -/
def packaged : Registry :=
  Orbits.all ++ Radiation.all ++ Optics.all ++ Cosmology.all ++ Spectra.all ++ Planets.all ++
    HighEnergy.all ++ StellarStructure.all

end Astrolabe.Inversion
