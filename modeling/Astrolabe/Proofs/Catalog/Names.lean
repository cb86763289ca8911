import Astrolabe.Proofs.Catalog

/-!
What the names of a relation stand for when it is checked, in a formula that is read from a document.
The symbol of a constant always stands for the constant. The key of a variable stands for the value
of the variable unless a constant has it as its symbol: only the symbols of variables are kept apart
from those of constants.
-/

namespace Astrolabe

namespace Formula

/-- Every variable has a value. -/
def Complete (f : Formula) (values : String → Option Float) : Prop :=
  ∀ v ∈ f.vars, ∃ x, values v.symbol = some x

variable {f : Formula}

theorem hasConstant_iff_mem {symbol : String} :
    f.hasConstant symbol = true ↔ symbol ∈ f.constants.map Prod.fst := by
  simp [hasConstant]

theorem nodup_names_iff (keys : f.keys.Nodup) (constants : (f.constants.map Prod.fst).Nodup) :
    f.names.Nodup ↔ ∀ v ∈ f.vars, f.hasConstant v.key = false := by
  have apart : f.names.Nodup ↔ ∀ key ∈ f.keys, key ∉ f.constants.map Prod.fst := by
    rw [names, List.nodup_append']
    exact ⟨fun h => h.2.2, fun h => ⟨keys, constants, h⟩⟩
  rw [apart, Formula.keys, List.forall_mem_map]
  exact forall₂_congr fun v _ => by rw [← hasConstant_iff_mem, Bool.not_eq_true]

/-- Whatever the values are, the keys stand for those of their variables, just where the names
differ from each other. -/
theorem lookup_named_iff (keys : f.keys.Nodup) (constants : (f.constants.map Prod.fst).Nodup) :
    (∀ values, f.Complete values →
        ∀ v ∈ f.vars, (f.named values).lookup v.key = values v.symbol) ↔
      f.names.Nodup := by
  rw [nodup_names_iff keys constants]
  refine ⟨fun own v hv => ?_, fun apart values _ v hv => ?_⟩
  · by_contra shadowed
    obtain ⟨x, hx⟩ := hasConstant_iff.mp (Bool.not_eq_false _ ▸ shadowed)
    -- no constant has the value of the variable both where that is zero and where it is one
    have same (y : Float) : x = y := by
      have value := own (fun _ => some y) (fun _ _ => ⟨y, rfl⟩) v hv
      rw [lookup_named_constant hx] at value
      exact Option.some.inj value
    exact absurd ((same 0).symm.trans (same 1)) (by decide)
  · rw [lookup_named_key keys hv, lookup_eq_none_of_hasConstant (apart v hv), Option.none_or]

end Formula

namespace Catalog

theorem hasDistinctKeys_of_mem_formulaEntries {document : Datum}
    (distinct : document.hasDistinctKeys = true) {entry : String × Datum}
    (mem : entry ∈ formulaEntries document) : entry.2.hasDistinctKeys = true := by
  obtain ⟨category, hc, mem⟩ := List.mem_flatMap.mp mem
  obtain ⟨part, hp, rfl⟩ := List.mem_map.mp mem
  have categories := Datum.hasDistinctKeys_under distinct "categories"
  have formulas := Datum.hasDistinctKeys_under
    (Datum.hasDistinctKeys_of_mem_fields categories hc) "formulas"
  exact Datum.hasDistinctKeys_of_mem_items formulas hp

theorem Describes.constants_fst {known : List Constant} {entry : String × Datum} {f : Formula}
    (h : Describes known entry f) :
    f.constants.map Prod.fst = (entry.2.under "constants").fields.map Prod.fst := by
  rw [← List.forall₂_eq_eq_eq, List.forall₂_map_left_iff, List.forall₂_map_right_iff]
  exact h.constants.flip.imp fun _ _ => And.left

/-- The constants of a formula that is read differ in their symbols. -/
theorem nodup_constants {document : Datum} {c : Catalog}
    (distinct : document.hasDistinctKeys = true) (h : ofDatum document = .ok c) {f : Formula}
    (hf : f ∈ c.formulas) : (f.constants.map Prod.fst).Nodup := by
  obtain ⟨-, described, -, -⟩ := ofDatum_eq_ok h
  obtain ⟨entry, mem, here⟩ := described.flip.exists_of_mem_left hf
  rw [here.constants_fst]
  exact Datum.nodup_fields
    (Datum.hasDistinctKeys_under (hasDistinctKeys_of_mem_formulaEntries distinct mem) _)

/-- In a formula that is read from a document the keys of the variables differ from each other, and
so do the symbols of the constants. When its relation is checked, each constant stands for its
value, and each key for the value of its variable or, where a constant has that name, for the
constant; a variable whose key is its symbol always stands for its own value. So the keys stand for
the values of their variables, whatever these are, just where all names differ. -/
theorem ofDatum_relationValues {document : Datum} {c : Catalog}
    (distinct : document.hasDistinctKeys = true) (h : ofDatum document = .ok c) {f : Formula}
    (hf : f ∈ c.formulas) :
    f.keys.Nodup ∧ (f.constants.map Prod.fst).Nodup ∧
      (∀ values, f.Complete values → ∃ named, f.relationValues values = .ok named ∧
        (∀ constant ∈ f.constants, named.lookup constant.1 = some constant.2) ∧
        ∀ v ∈ f.vars,
          named.lookup v.key = (f.constants.lookup v.key).or (values v.symbol) ∧
            (v.key = v.symbol → named.lookup v.key = values v.symbol)) ∧
      ((∀ values, f.Complete values → ∃ named, f.relationValues values = .ok named ∧
          ∀ v ∈ f.vars, named.lookup v.key = values v.symbol) ↔
        f.names.Nodup) := by
  obtain ⟨-, -, -, wellFormed⟩ := ofDatum_eq_ok h
  have keys := (wellFormed f hf).keys
  have constants := nodup_constants distinct h hf
  refine ⟨keys, constants, fun values complete => ⟨f.named values,
    Formula.relationValues_eq complete, fun constant mem => ?_, fun v hv => ?_⟩, ?_⟩
  · exact Formula.lookup_named_constant (Formula.lookup_constants constants mem)
  · have value : (f.named values).lookup v.key =
        (f.constants.lookup v.key).or (values v.symbol) := Formula.lookup_named_key keys hv
    refine ⟨value, fun same => ?_⟩
    have apart := (wellFormed f hf).apart v.symbol (List.mem_map_of_mem hv)
    rw [value, same, Formula.lookup_eq_none_of_hasConstant apart, Option.none_or]
  · rw [← Formula.lookup_named_iff keys constants]
    refine forall₂_congr fun values complete => ?_
    rw [Formula.relationValues_eq complete]
    exact ⟨fun ⟨_, same, own⟩ => Except.ok.inj same ▸ own, fun own => ⟨_, rfl, own⟩⟩

/-- The names of the formula for gravity differ, and its constants and values are looked up by
them. -/
theorem gravityDocument_relationValues :
    ∃ c f named, ofDatum gravityDocument = .ok c ∧ f ∈ c.formulas ∧ f.names.Nodup ∧
      f.relationValues (fun _ => some 1) = .ok named ∧
      (∀ constant ∈ f.constants, named.lookup constant.1 = some constant.2) ∧
      ∀ v ∈ f.vars, named.lookup v.key = some 1 := by
  have read : (ofDatum gravityDocument).toOption.any
      (fun c => c.formulas.any fun f => decide f.names.Nodup) = true := by
    decide +kernel
  generalize accepted : ofDatum gravityDocument = outcome at read
  cases outcome with
  | error e => cases read
  | ok c =>
      obtain ⟨f, hf, names⟩ := List.any_eq_true.mp read
      have differ := of_decide_eq_true names
      obtain ⟨-, -, valued, own⟩ := ofDatum_relationValues (by decide) accepted hf
      obtain ⟨named, same, constants, -⟩ := valued (fun _ => some 1) fun _ _ => ⟨1, rfl⟩
      obtain ⟨named', same', vars⟩ := own.mpr differ (fun _ => some 1) fun _ _ => ⟨1, rfl⟩
      obtain rfl : named = named' := Except.ok.inj (same.symm.trans same')
      exact ⟨c, f, named, rfl, hf, differ, same, constants, vars⟩

/-- A document in which a constant has the key of a variable as its symbol. -/
def shadowedDocument : Datum :=
  .map [("categories", .map [("Test", .map [("formulas", .list [.map [
    ("id", .text "albedo"),
    ("name", .text "Albedo"),
    ("equation", .text "A = F_r/F_i"),
    ("relation", .text "a = F_reflected/F_incident"),
    ("variables", .list [
      .map [("symbol", .text "A"), ("key", .text "a"), ("unit", .text "dimensionless")],
      .map [("symbol", .text "F_reflected"), ("unit", .text "W/m²")],
      .map [("symbol", .text "F_incident"), ("unit", .text "W/m²")]]),
    ("constants", .map [("a", .float 5)])]])])])]

/-- An albedo of one half is replaced by the constant in the check of the relation. -/
theorem shadowedDocument_relationValues :
    ∃ c f v named, shadowedDocument.hasDistinctKeys = true ∧ ofDatum shadowedDocument = .ok c ∧
      f ∈ c.formulas ∧ v ∈ f.vars ∧ f.relationValues (fun _ => some 0.5) = .ok named ∧
      named.lookup v.key = some 5 ∧ (5 : Float) ≠ 0.5 ∧ ¬f.names.Nodup := by
  have read : (ofDatum shadowedDocument).toOption.any (fun c => c.formulas.any fun f =>
      decide ¬f.names.Nodup && f.vars.any fun v =>
        (f.relationValues fun _ => some 0.5).toOption.any
          fun named => decide (named.lookup v.key = some 5)) = true := by
    decide +kernel
  generalize accepted : ofDatum shadowedDocument = outcome at read
  cases outcome with
  | error e => cases read
  | ok c =>
      obtain ⟨f, hf, replaced⟩ := List.any_eq_true.mp read
      rw [Bool.and_eq_true, List.any_eq_true] at replaced
      obtain ⟨alike, v, hv, valued⟩ := replaced
      generalize same : f.relationValues (fun _ => some 0.5) = values at valued
      cases values with
      | error e => cases valued
      | ok named =>
          exact ⟨c, f, v, named, by decide, rfl, hf, hv, same, of_decide_eq_true valued,
            by decide, of_decide_eq_true alike⟩

end Catalog

end Astrolabe
