import Astrolabe.Proofs.Datum
import Astrolabe.Selection

/-!
The field that is used for a variable is one that was given for it and is not blank. Its
unit has no part in whether there is one.
-/

namespace Astrolabe

namespace Selection

theorem inUnit?_cons {first : String × Datum} {rest : Fields} {unit : String} :
    inUnit? (first :: rest) unit =
      if Unit.normalize first.1 = Unit.normalize unit then some first else inUnit? rest unit := by
  by_cases same : Unit.normalize first.1 = Unit.normalize unit <;> simp [inUnit?, same]

theorem inUnit?_append {before after : Fields} {unit : String} :
    inUnit? (before ++ after) unit = (inUnit? before unit).or (inUnit? after unit) :=
  List.find?_append

theorem inUnit?_eq_none_iff {fields : Fields} {unit : String} :
    inUnit? fields unit = none ↔
      ∀ field ∈ fields, Unit.normalize field.1 ≠ Unit.normalize unit := by
  simp [inUnit?]

theorem inUnit?_congr {fields : Fields} {unit other : String}
    (h : Unit.normalize unit = Unit.normalize other) :
    inUnit? fields unit = inUnit? fields other := by
  rw [inUnit?, inUnit?, h]

theorem normalize_of_inUnit? {fields : Fields} {unit : String} {field : String × Datum}
    (h : inUnit? fields unit = some field) : Unit.normalize field.1 = Unit.normalize unit := by
  simpa using List.find?_some h

/-- A field is kept just where it is the first in its unit. -/
theorem mem_distinctUnits_iff {fields : Fields} {field : String × Datum} :
    field ∈ distinctUnits fields ↔ inUnit? fields field.1 = some field := by
  have with_earlier : ∀ more done : Fields,
      field ∈ more.foldl
        (fun done field =>
          if done.any fun other => Unit.normalize other.1 == Unit.normalize field.1 then done
          else done ++ [field]) done ↔
      field ∈ done ∨ inUnit? done field.1 = none ∧ inUnit? more field.1 = some field := by
    intro more
    induction more with
    | nil => intro done; simp [inUnit?]
    | cons first rest ih =>
        intro done
        have any_iff : (done.any fun other => Unit.normalize other.1 == Unit.normalize first.1) =
            (inUnit? done first.1).isSome := by
          rw [inUnit?, List.isSome_find?]
        rw [List.foldl_cons, ih, inUnit?_cons, any_iff]
        by_cases unit : Unit.normalize first.1 = Unit.normalize field.1
        · rw [if_pos unit, inUnit?_congr unit]
          cases earlier : inUnit? done field.1 with
          | none => simp [inUnit?_append, inUnit?_cons, unit, earlier, eq_comm]
          | some other => simp [earlier]
        · have different : field ≠ first := fun same => unit (same ▸ rfl)
          rw [if_neg unit]
          cases (inUnit? done first.1).isSome <;>
            simp [inUnit?_append, inUnit?_cons, unit, different, inUnit?_eq_none_iff]
  exact (with_earlier fields []).trans (by simp [inUnit?])

/-- Fields that are put first do not change which one is the first in its unit. -/
theorem inUnit?_preferred (fields : Fields) (units : List String) (unit : String) :
    inUnit? (units.filterMap (inUnit? fields) ++ fields) unit = inUnit? fields unit := by
  rw [inUnit?_append]
  cases preferred : inUnit? (units.filterMap (inUnit? fields)) unit with
  | none => rfl
  | some field =>
      obtain ⟨other, -, found⟩ := List.mem_filterMap.mp (List.mem_of_find?_eq_some preferred)
      have same := (normalize_of_inUnit? preferred).symm.trans (normalize_of_inUnit? found)
      rw [Option.some_or, inUnit?_congr same, found]

/-- Alternative units change the order of the fields, not which of them stand for
their units. -/
theorem mem_byPreference_iff {canonical : String} {fields : Fields} {field : String × Datum} :
    field ∈ byPreference canonical fields ↔ inUnit? fields field.1 = some field := by
  rw [byPreference, mem_distinctUnits_iff, inUnit?_preferred]

theorem ofFields_eq_none_iff {canonical : String} {fields : Fields} :
    ofFields canonical fields = none ↔
      ∀ field ∈ distinctUnits fields, Entry.isBlank field.2 = true := by
  simp [ofFields, mem_byPreference_iff, mem_distinctUnits_iff]

/-- The field that is used is one of those that were given. -/
theorem mem_of_ofFields {canonical : String} {fields : Fields} {selection : Selection}
    (h : ofFields canonical fields = some selection) :
    (selection.unit, selection.entry) ∈ fields := by
  obtain ⟨field, found, rfl⟩ := Option.map_eq_some_iff.mp h
  have mem := mem_byPreference_iff.mp (List.mem_of_find?_eq_some found)
  exact List.mem_of_find?_eq_some mem

theorem ofInput_of_not_map {canonical : String} {d : Datum}
    (h : ¬∃ fields, d = .map fields) :
    ofInput canonical d =
      if Entry.isBlank d then none else some { unit := canonical, entry := d } := by
  cases d with
  | map fields => exact absurd ⟨fields, rfl⟩ h
  | _ =>
      rw [ofInput]
      simp

/-- Whether a variable has a filled field does not depend on its unit. -/
theorem ofInput_eq_none_iff_of_unit (canonical other : String) (d : Datum) :
    ofInput canonical d = none ↔ ofInput other d = none := by
  by_cases several : ∃ fields, d = .map fields
  · obtain ⟨fields, rfl⟩ := several
    simp only [ofInput, ofFields_eq_none_iff]
  · simp [ofInput_of_not_map several]

/-- A filled field is not blank. -/
theorem not_isBlank_of_ofInput {canonical : String} {d : Datum} {selection : Selection}
    (h : ofInput canonical d = some selection) : Entry.isBlank selection.entry = false := by
  by_cases several : ∃ fields, d = .map fields
  · obtain ⟨fields, rfl⟩ := several
    rw [ofInput, ofFields, Option.map_eq_some_iff] at h
    obtain ⟨field, found, rfl⟩ := h
    simpa using List.find?_some found
  · rw [ofInput_of_not_map several, Option.ite_none_left_eq_some] at h
    obtain ⟨filled, same⟩ := h
    cases same
    simpa using filled

/-- Whether a field is in another unit. -/
def isApart (unit : String) (field : String × Datum) : Bool :=
  Unit.normalize field.1 != Unit.normalize unit

theorem inUnit?_filter_isApart {fields : Fields} {unit other : String} :
    inUnit? (fields.filter (isApart unit)) other =
      (inUnit? fields other).filter (isApart unit) := by
  induction fields with
  | nil => rfl
  | cons first rest ih =>
      rw [inUnit?_cons, List.filter_cons]
      by_cases here : Unit.normalize first.1 = Unit.normalize other
      · by_cases apart : isApart unit first = true
        · rw [if_pos apart, if_pos here, inUnit?_cons, if_pos here, Option.filter_some_pos apart]
        · -- the unit is the one left out, so that no field in it is left
          rw [if_neg apart, if_pos here, Option.filter_some_neg (by simpa using apart),
            inUnit?_eq_none_iff]
          intro field mem
          have left := (List.mem_filter.mp mem).2
          rw [isApart, bne_iff_ne] at left apart
          rw [not_ne_iff] at apart
          rwa [← here, apart]
      · rw [if_neg here, ← ih]
        split
        · rw [inUnit?_cons, if_neg here]
        · rfl

theorem distinctUnits_filter_isApart (fields : Fields) (unit : String) :
    distinctUnits (fields.filter (isApart unit)) =
      (distinctUnits fields).filter (isApart unit) := by
  have with_earlier : ∀ more done : Fields,
      (more.filter (isApart unit)).foldl
        (fun done field =>
          if done.any fun other => Unit.normalize other.1 == Unit.normalize field.1 then done
          else done ++ [field]) (done.filter (isApart unit)) =
      (more.foldl
        (fun done field =>
          if done.any fun other => Unit.normalize other.1 == Unit.normalize field.1 then done
          else done ++ [field]) done).filter (isApart unit) := by
    intro more
    induction more with
    | nil => intro done; rfl
    | cons first rest ih =>
        intro done
        rw [List.foldl_cons, ← ih, List.filter_cons]
        by_cases apart : isApart unit first = true
        · have seen : ((done.filter (isApart unit)).any fun other =>
                Unit.normalize other.1 == Unit.normalize first.1) =
              done.any fun other => Unit.normalize other.1 == Unit.normalize first.1 := by
            rw [List.any_filter]
            refine congrArg (List.any done) (funext fun other => ?_)
            rw [isApart, bne_iff_ne] at apart
            by_cases same : Unit.normalize other.1 = Unit.normalize first.1 <;>
              simp [isApart, same, apart]
          rw [if_pos apart, List.foldl_cons, seen]
          split <;> simp [apart]
        · rw [if_neg apart]
          split <;> simp [apart]
  exact with_earlier fields []

/-- Fields of one unit can be left out without a change in the order of the others. -/
theorem byPreference_filter_isApart (canonical unit : String) (fields : Fields) :
    byPreference canonical (fields.filter (isApart unit)) =
      (byPreference canonical fields).filter (isApart unit) := by
  rw [byPreference, byPreference, ← distinctUnits_filter_isApart, List.filter_append,
    List.filter_filterMap]
  simp only [inUnit?_filter_isApart]

/-- Fields of one unit can be left out if the selected field is in another. -/
theorem ofFields_filter_isApart {canonical unit : String} {fields : Fields}
    (passed : ∀ selection, ofFields canonical fields = some selection →
      isApart unit (selection.unit, selection.entry) = true) :
    ofFields canonical (fields.filter (isApart unit)) = ofFields canonical fields := by
  rw [ofFields, byPreference_filter_isApart, List.find?_filter]
  cases found : (byPreference canonical fields).find? fun field => !Entry.isBlank field.2 with
  | none =>
      have blank : (byPreference canonical fields).find?
          (fun field => decide (isApart unit field = true ∧ (!Entry.isBlank field.2) = true)) =
            none := by
        refine List.find?_eq_none.mpr fun field mem filled => ?_
        exact List.find?_eq_none.mp found field mem (of_decide_eq_true filled).2
      rw [ofFields, found, blank]
  | some field =>
      have selected : ofFields canonical fields = some ⟨field.1, field.2⟩ := by
        rw [ofFields, found]
        rfl
      have apart : isApart unit field = true := passed ⟨field.1, field.2⟩ selected
      obtain ⟨filled, earlier, later, same, blank⟩ := List.find?_eq_some_iff_append.mp found
      have first : (byPreference canonical fields).find?
          (fun field => decide (isApart unit field = true ∧ (!Entry.isBlank field.2) = true)) =
            some field := by
        refine List.find?_eq_some_iff_append.mpr
          ⟨decide_eq_true ⟨apart, filled⟩, earlier, later, same, fun other mem => ?_⟩
        rw [Bool.not_eq_true', decide_eq_false_iff_not, not_and_or]
        exact .inr (by simpa using blank other mem)
      rw [ofFields, found, first]

/-- A field alone in its unit that is not selected can be left out. -/
theorem ofFields_drop {canonical unit : String} {entry : Datum} {first second : Fields}
    (alone : ∀ other ∈ first ++ second, Unit.normalize other.1 ≠ Unit.normalize unit)
    (passed : ofFields canonical (first ++ (unit, entry) :: second) ≠ some ⟨unit, entry⟩) :
    ofFields canonical (first ++ (unit, entry) :: second) =
      ofFields canonical (first ++ second) := by
  have kept : ∀ field ∈ first ++ second, isApart unit field = true :=
    fun field mem => bne_iff_ne.mpr (alone field mem)
  have others : (first ++ (unit, entry) :: second).filter (isApart unit) = first ++ second := by
    rw [List.filter_append, List.filter_cons_of_neg (by simp [isApart]), ← List.filter_append,
      List.filter_eq_self.mpr kept]
  rw [← others]
  refine (ofFields_filter_isApart fun selection selected => ?_).symm
  have mem := mem_of_ofFields selected
  rw [List.mem_append, List.mem_cons, or_left_comm, ← List.mem_append] at mem
  obtain same | other := mem
  · obtain ⟨rfl, rfl⟩ := Prod.mk.inj same
    exact absurd selected passed
  · exact kept _ other

/-- An entry in which nothing is filled in. -/
def Vacant : Datum → Prop
  | .map fields => ∀ field ∈ fields, Entry.isBlank field.2 = true
  | entry => Entry.isBlank entry = true

theorem Vacant.ofInput_eq_none {entry : Datum} (h : Vacant entry) (canonical : String) :
    ofInput canonical entry = none := by
  cases entry with
  | map fields =>
      rw [ofInput, ofFields_eq_none_iff]
      intro field mem
      exact h field (List.mem_of_find?_eq_some (mem_distinctUnits_iff.mp mem))
  | _ =>
      rw [ofInput_of_not_map (by simp)]
      exact if_pos h

end Selection

end Astrolabe
