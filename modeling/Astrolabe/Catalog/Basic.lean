import Astrolabe.Formula

/-!
Catalogs: the constants and the formulas of a document, in its order.
-/

namespace Astrolabe

/-- The constants and formulas that requests may use. -/
structure Catalog where
  constants : List Constant
  formulas : List Formula

namespace Catalog

/-- The formula with an id. -/
def get? (c : Catalog) (id : String) : Option Formula :=
  c.formulas.find? (·.id == id)

/-- Whether there is a formula with an id. -/
def contains (c : Catalog) (id : String) : Bool :=
  c.formulas.any (·.id == id)

/-- What a list of formulas tells about one. -/
def listing (f : Formula) : Datum :=
  .map [("id", .text f.id), ("name", .text f.name), ("category", .text f.category),
    ("equation", .text f.equation)]

/-- All formulas, in order, as a list of what is told about each. -/
def list (c : Catalog) : List Datum :=
  c.formulas.map listing

end Catalog

end Astrolabe
