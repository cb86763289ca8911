import Astrolabe.Catalog.Document
import Astrolabe.Yaml.Block

/-!
Reading a catalog from the text of a document.
-/

namespace Astrolabe.Catalog

/-- The catalog that a text holds. -/
def ofText (text : String) : Except Error Catalog :=
  match Yaml.document? text with
  | some document => ofDatum document
  | none => .error .invalidText

end Astrolabe.Catalog
