import Astrolabe.Catalog.Constants

/-!
Formulas on shifts of spectral lines.
-/

namespace Astrolabe.Catalog.Spectra

def category : String := "Doppler & Spectroscopy"

def dopplerShift : Formula where
  id := "doppler_shift"
  name := "Doppler Shift"
  description := "Relates observed wavelength shift to velocity"
  equation := "(λ_obs - λ_rest) / λ_rest = v / c"
  vars :=
    [.keyed "lam_obs" "λ_obs" "Observed Wavelength" "meters" "Wavelength as observed",
     .keyed "lam_rest" "λ_rest" "Rest Wavelength" "meters" "Wavelength at rest",
     .plain "v" "Velocity" "m/s" "Radial velocity"]
  constants := [("c", 2.998e8)]
  category := category
  relation := .text "(lam_obs - lam_rest)/lam_rest = v/c"

def dopplerShiftApprox : Formula where
  id := "doppler_shift_approx"
  name := "Doppler Shift (Approximate)"
  description := "Approximate formula for Doppler shift"
  equation := "v = c × (Δλ / λ)"
  vars :=
    [.plain "v" "Velocity" "m/s" "Radial velocity",
     .keyed "d_lam" "Δλ" "Change in Wavelength" "meters" "Wavelength shift",
     .keyed "lam" "λ" "Wavelength" "meters" "Rest wavelength"]
  constants := [("c", 2.998e8)]
  category := category
  relation := .text "v = c*d_lam/lam"

/-- All of them, in order. -/
def all : List Formula :=
  [dopplerShift, dopplerShiftApprox]

end Astrolabe.Catalog.Spectra
