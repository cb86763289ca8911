import Astrolabe.Catalog.Packaged
import Astrolabe.Proofs.Catalog.Described

/-!
A catalog that is read from a document is well formed and loses nothing of it: no id is given twice,
and the formulas are found by their ids. No formula has two variables with one symbol.
-/

namespace Astrolabe.Catalog

/-- The variables of each formula have symbols of their own. -/
def Distinct (c : Catalog) : Prop :=
  ∀ f ∈ c.formulas, f.symbols.Nodup

theorem distinct_packaged : packaged.Distinct := by
  have all : (packaged.formulas.all fun f => decide f.symbols.Nodup) = true := by decide +kernel
  exact fun f hf => of_decide_eq_true (List.all_eq_true.mp all f hf)

/-- A document that is read has no formula with a repeated symbol. -/
theorem distinct_ofDatum {document : Datum} {c : Catalog} (h : ofDatum document = .ok c) :
    c.Distinct := by
  obtain ⟨-, -, -, wellFormed⟩ := ofDatum_eq_ok h
  exact fun f hf => (wellFormed f hf).symbols

/-- An id leads back to its formula. -/
theorem get?_of_mem {c : Catalog} (distinct : (c.formulas.map Formula.id).Nodup)
    {f : Formula} (hf : f ∈ c.formulas) : c.get? f.id = some f := by
  unfold get?
  induction hs : c.formulas generalizing c with
  | nil => simp [hs] at hf
  | cons g rest ih =>
      simp only [hs, List.map_cons, List.nodup_cons, List.mem_cons] at distinct hf
      obtain rfl | hf := hf
      · simp
      · have other : g.id ≠ f.id := fun same =>
          distinct.1 (same ▸ List.mem_map_of_mem hf)
        rw [List.find?_cons_of_neg (by simpa using other)]
        exact ih (c := ⟨c.constants, rest⟩) distinct.2 hf rfl

theorem get?_eq_some_iff {c : Catalog} (distinct : (c.formulas.map Formula.id).Nodup) {id : String}
    {f : Formula} : c.get? id = some f ↔ f ∈ c.formulas ∧ f.id = id := by
  constructor
  · exact fun found => ⟨List.mem_of_find?_eq_some found, by simpa using List.find?_some found⟩
  · rintro ⟨mem, rfl⟩
    exact get?_of_mem distinct mem

theorem contains_eq (c : Catalog) (id : String) : c.contains id = (c.get? id).isSome := by
  rw [contains, get?, List.isSome_find?]

/-- The list of formulas tells the id of each, in order. -/
theorem list_ids (c : Catalog) :
    c.list.map (Datum.under "id") = c.formulas.map fun f => .text f.id := by
  rw [list, List.map_map]
  rfl

/-- A document that is read makes a catalog of all that it holds. The constants and the formulas are
those of its entries, one for each and in order, a formula under the name of its category and a
constant of it with the number that it denotes; every formula is well formed. No two formulas have
one id, so that an id leads to the formula that has it and no other leads to any. -/
theorem ofDatum_describes {document : Datum} {c : Catalog} (h : ofDatum document = .ok c) :
    List.Forall₂ DescribesConstant (document.under "constants").fields c.constants ∧
      List.Forall₂ (Describes c.constants) (formulaEntries document) c.formulas ∧
      (∀ f ∈ c.formulas, f.WellFormed) ∧
      (c.formulas.map Formula.id).Nodup ∧
      (∀ id f, c.get? id = some f ↔ f ∈ c.formulas ∧ f.id = id) ∧
      (∀ id, c.contains id = (c.get? id).isSome) ∧
      c.list.map (Datum.under "id") = c.formulas.map fun f => .text f.id := by
  obtain ⟨constants, formulas, distinct, wellFormed⟩ := ofDatum_eq_ok h
  exact ⟨constants, formulas, wellFormed, distinct, fun _ _ => get?_eq_some_iff distinct,
    c.contains_eq, c.list_ids⟩

/-- A document with one formula, whose constants are the one of the catalog, a number, and a text
that is read as a number. -/
def gravityDocument : Datum :=
  .map [
    ("constants", .map [("G", .map [("value", .float 6.6743e-11), ("unit", .text "m³/(kg·s²)")])]),
    ("categories", .map [("Test", .map [("formulas", .list [.map [
      ("id", .text "surface_gravity"),
      ("name", .text "Surface Gravity"),
      ("equation", .text "g = GM/r²"),
      ("variables", .list [
        .map [("symbol", .text "g"), ("unit", .text "m/s²")],
        .map [("symbol", .text "M"), ("unit", .text "kg")],
        .map [("symbol", .text "r"), ("unit", .text "meters")]]),
      ("constants", .map [("G", .text "G"), ("k", .float 2.5), ("c", .text "2.998e8")])]])])])]

theorem gravityDocument_describes :
    ∃ c, ofDatum gravityDocument = .ok c ∧
      List.Forall₂ (Describes c.constants) (formulaEntries gravityDocument) c.formulas ∧
      ∃ f, c.get? "surface_gravity" = some f ∧ f.WellFormed := by
  have read : (ofDatum gravityDocument).toOption.any
      (fun c => (c.get? "surface_gravity").isSome) = true := by
    decide +kernel
  generalize accepted : ofDatum gravityDocument = outcome at read
  cases outcome with
  | error e => cases read
  | ok c =>
      obtain ⟨-, described, wellFormed, -, found, -, -⟩ := ofDatum_describes accepted
      obtain ⟨f, hf⟩ := Option.isSome_iff_exists.mp read
      exact ⟨c, rfl, described, f, hf, wellFormed f ((found _ f).mp hf).1⟩

end Astrolabe.Catalog
