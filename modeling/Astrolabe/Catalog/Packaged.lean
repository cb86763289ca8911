import Astrolabe.Catalog.Basic
import Astrolabe.Catalog.Orbits
import Astrolabe.Catalog.Radiation
import Astrolabe.Catalog.Optics
import Astrolabe.Catalog.Cosmology
import Astrolabe.Catalog.Spectra
import Astrolabe.Catalog.Planets
import Astrolabe.Catalog.HighEnergy
import Astrolabe.Catalog.StellarStructure

/-!
The packaged catalog.
-/

namespace Astrolabe.Catalog

/-- The constants and formulas at hand without a document. -/
def packaged : Catalog where
  constants := Constants.all
  formulas :=
    Orbits.all ++ Radiation.all ++ Optics.all ++ Cosmology.all ++ Spectra.all ++
      Planets.all ++ HighEnergy.all ++ StellarStructure.all

end Astrolabe.Catalog
