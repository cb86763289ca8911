import Astrolabe.Catalog.Constants

/-!
Formulas on telescopes and optics.
-/

namespace Astrolabe.Catalog.Optics

def category : String := "Telescopes & Optics"

def angularSize : Formula where
  id := "angular_size"
  name := "Angular Size"
  description := "Relates physical size, distance, and angular diameter"
  equation := "θ = d / D"
  vars :=
    [.keyed "theta" "θ" "Angular Size" "radians" "Angular diameter as seen from observer",
     .plain "d" "Physical Diameter" "meters" "Actual size of the object",
     .plain "D" "Distance" "meters" "Distance to the object"]
  constants := []
  category := category
  relation := .text "theta = d/D"

def lightGatheringPower : Formula where
  id := "light_gathering_power"
  name := "Light Gathering Power"
  description := "Ratio of light gathering ability of telescope to human eye"
  equation := "LGP = (D_obj / D_eye)²"
  vars :=
    [.plain "LGP" "Light Gathering Power" "dimensionless" "Light gathering power ratio",
     .plain "D_obj" "Objective Diameter" "meters" "Diameter of telescope objective",
     .plain "D_eye" "Eye Diameter" "meters" "Diameter of human eye pupil"]
  constants := []
  category := category
  relation := .text "LGP = (D_obj/D_eye)**2"

def magnification : Formula where
  id := "magnification"
  name := "Telescope Magnification"
  description := "Magnification power of a telescope"
  equation := "M = f_obj / f_eye"
  vars :=
    [.plain "M" "Magnification" "dimensionless" "Magnification power",
     .plain "f_obj" "Objective Focal Length" "meters" "Focal length of objective lens/mirror",
     .plain "f_eye" "Eyepiece Focal Length" "meters" "Focal length of eyepiece"]
  constants := []
  category := category
  relation := .text "M = f_obj/f_eye"

def fRatio : Formula where
  id := "f_ratio"
  name := "f-ratio"
  description := "Focal ratio of a telescope"
  equation := "f_ratio = f / D"
  vars :=
    [.plain "f_ratio" "Focal Ratio" "dimensionless" "Focal ratio (f-number)",
     .plain "f" "Focal Length" "meters" "Focal length of telescope",
     .plain "D" "Diameter" "meters" "Diameter of aperture"]
  constants := []
  category := category
  relation := .text "f_ratio = f/D"

def angularResolution : Formula where
  id := "angular_resolution"
  name := "Angular Resolution"
  description := "Minimum angular separation resolvable by a telescope"
  equation := "θ = 1.22 × (λ / D)"
  vars :=
    [.keyed "theta" "θ" "Angular Resolution" "radians" "Minimum resolvable angle",
     .keyed "lam" "λ" "Wavelength" "meters" "Wavelength of light",
     .plain "D" "Diameter" "meters" "Diameter of aperture"]
  constants := [("factor", 1.22)]
  category := category
  relation := .text "theta = factor*lam/D"

/-- All of them, in order. -/
def all : List Formula :=
  [angularSize, lightGatheringPower, magnification, fRatio, angularResolution]

end Astrolabe.Catalog.Optics
