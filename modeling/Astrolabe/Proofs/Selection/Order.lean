import Astrolabe.Proofs.Selection.Preference

/-!
When the order of fields matters. Where no two fields have one unit, a field in an alternative unit
is used whatever the order of the fields is and whatever those with a later place hold. Only among
other units does the order decide.
-/

namespace Astrolabe.Selection

variable {canonical unit : String} {fields fields' : Fields} {field first : String × Datum}

/-- No two fields have one unit. -/
def UnitsDiffer (fields : Fields) : Prop :=
  (fields.map fun field => Unit.normalize field.1).Nodup

/-- Some fields and others are the same down to the place of a unit. -/
def SameDownTo (canonical unit : String) (fields fields' : Fields) : Prop :=
  ∀ field, place canonical field.1 ≤ place canonical unit → (field ∈ fields ↔ field ∈ fields')

/-- Whether a field is in a unit that is no alternative. -/
def isForeign (canonical : String) (field : String × Datum) : Bool :=
  !isAlternative canonical field.1

theorem UnitsDiffer.perm (differ : UnitsDiffer fields) (perm : fields.Perm fields') :
    UnitsDiffer fields' :=
  (perm.map _).nodup_iff.mp differ

theorem filledIn?_eq_some_iff_mem (differ : UnitsDiffer fields) :
    filledIn? fields unit = some field ↔
      field ∈ fields ∧ Unit.normalize field.1 = Unit.normalize unit ∧
        Entry.isBlank field.2 = false := by
  rw [filledIn?_eq_some_iff, ← and_assoc]
  refine and_congr_left fun _ => ⟨fun found => ?_, fun ⟨mem, same⟩ => ?_⟩
  · exact ⟨List.mem_of_find?_eq_some found, normalize_of_inUnit? found⟩
  · obtain ⟨first, found⟩ := Option.isSome_iff_exists.mp (isSome_inUnit? mem)
    obtain rfl : first = field := List.inj_on_of_nodup_map differ
      (List.mem_of_find?_eq_some found) mem (normalize_of_inUnit? found)
    rw [← inUnit?_congr same, found]

/-- A unit has the same filled field where the fields in it are the same. -/
theorem filledIn?_eq_of_same (differ : UnitsDiffer fields) (differ' : UnitsDiffer fields')
    (same : ∀ field : String × Datum, Unit.normalize field.1 = Unit.normalize unit →
      (field ∈ fields ↔ field ∈ fields')) :
    filledIn? fields unit = filledIn? fields' unit := by
  refine Option.ext fun field => ?_
  rw [filledIn?_eq_some_iff_mem differ, filledIn?_eq_some_iff_mem differ']
  refine and_congr_left fun ⟨unit, _⟩ => ?_
  exact same field unit

theorem ofFields_of_alternative
    (found : (Unit.alternatives canonical).findSome? (filledIn? fields) = some first) :
    ofFields canonical fields = some { unit := first.1, entry := first.2 } := by
  rw [ofFields_eq, List.findSome?_append, found, Option.some_or, Option.map_some]

/-- What an alternative holds is found again among fields that are the same down to its place. -/
theorem findSome?_of_sameDownTo (differ : UnitsDiffer fields) (differ' : UnitsDiffer fields')
    (found : (Unit.alternatives canonical).findSome? (filledIn? fields) = some first)
    (same : SameDownTo canonical first.1 fields fields') :
    (Unit.alternatives canonical).findSome? (filledIn? fields') = some first := by
  obtain ⟨-, filled, before, unit, after, split, here, position, passed⟩ :=
    findSome?_alternatives found
  refine List.findSome?_eq_some_iff.mpr ⟨before, unit, after, split, ?_, fun other mem => ?_⟩
  · rw [filledIn?_congr here, ← filled]
    refine (filledIn?_eq_of_same differ differ' fun field equal => same field ?_).symm
    rw [place, equal, place]
  · rw [← passed other mem]
    refine (filledIn?_eq_of_same differ differ' fun field equal => same field ?_).symm
    obtain ⟨earlier, later, rfl⟩ := List.append_of_mem mem
    rw [position, place, split, List.append_assoc, List.cons_append]
    refine Nat.le_trans (findIdx_append_le (beq_iff_eq.mpr equal.symm)) ?_
    simp

/-- Without a filled field in an alternative unit, the first filled one of the others is used. -/
theorem ofFields_of_foreign (differ : UnitsDiffer fields)
    (blank : ∀ field ∈ fields, isAlternative canonical field.1 = true →
      Entry.isBlank field.2 = true) :
    ofFields canonical fields =
      ((fields.filter (isForeign canonical)).find? fun field => !Entry.isBlank field.2).map
        fun (unit, entry) => { unit, entry } := by
  have none : (Unit.alternatives canonical).findSome? (filledIn? fields) = none := by
    refine List.findSome?_eq_none_iff.mpr fun unit mem => ?_
    refine Option.eq_none_iff_forall_ne_some.mpr fun field found => ?_
    obtain ⟨given, same, filled⟩ := (filledIn?_eq_some_iff_mem differ).mp found
    have alternative := isAlternative_iff.mpr ⟨unit, mem, same.symm⟩
    cases (blank field given alternative).symm.trans filled
  have search : fields.findSome? (filledIn? fields ∘ Prod.fst) =
      fields.find? fun field => !Entry.isBlank field.2 := by
    rw [List.find?_eq_findSome?_guard]
    refine findSome?_congr fun field mem => Option.ext fun other => ?_
    rw [Function.comp_apply, filledIn?_eq_some_iff_mem differ, Option.guard_eq_some_iff,
      Bool.not_eq_true']
    constructor
    · rintro ⟨given, same, filled⟩
      obtain rfl := List.inj_on_of_nodup_map differ given mem same
      exact ⟨rfl, filled⟩
    · rintro ⟨rfl, filled⟩
      exact ⟨mem, rfl, filled⟩
  rw [ofFields_eq, List.findSome?_append, none, Option.none_or, List.findSome?_map, search,
    List.find?_filter]
  refine congrArg _ (List.find?_congr fun field mem => ?_)
  by_cases alternative : isAlternative canonical field.1 = true
  · simp [isForeign, alternative, blank field mem alternative]
  · simp [isForeign, alternative]

/-- Where no two fields have one unit and an alternative has a filled field, the order of the fields
makes no difference, and neither do those whose units come after the one that is used. Where none
has, only the order of the fields in other units makes a difference. -/
theorem ofInput_order (canonical : String) {fields : Fields} (differ : UnitsDiffer fields) :
    ((∃ field ∈ fields, Entry.isBlank field.2 = false ∧ isAlternative canonical field.1 = true) →
      (∀ fields', fields.Perm fields' →
        ofInput canonical (.map fields') = ofInput canonical (.map fields)) ∧
      ∃ s, ofInput canonical (.map fields) = some s ∧
        ∀ fields', UnitsDiffer fields' → SameDownTo canonical s.unit fields fields' →
          ofInput canonical (.map fields') = some s) ∧
      ((¬∃ field ∈ fields,
          Entry.isBlank field.2 = false ∧ isAlternative canonical field.1 = true) →
        ∀ fields', fields.Perm fields' →
          fields.filter (isForeign canonical) = fields'.filter (isForeign canonical) →
            ofInput canonical (.map fields') = ofInput canonical (.map fields)) := by
  constructor
  · rintro ⟨field, mem, filled, alternative⟩
    obtain ⟨unit, here, same⟩ := isAlternative_iff.mp alternative
    have holds : filledIn? fields unit = some field :=
      (filledIn?_eq_some_iff_mem differ).mpr ⟨mem, same.symm, filled⟩
    obtain ⟨first, found⟩ : ∃ first,
        (Unit.alternatives canonical).findSome? (filledIn? fields) = some first := by
      refine Option.isSome_iff_exists.mp (List.findSome?_isSome_iff.mpr ⟨unit, here, ?_⟩)
      rw [holds, Option.isSome_some]
    have settled {fields' : Fields} (differ' : UnitsDiffer fields')
        (same : SameDownTo canonical first.1 fields fields') :=
      ofFields_of_alternative (findSome?_of_sameDownTo differ differ' found same)
    refine ⟨fun fields' perm => ?_, ⟨first.1, first.2⟩, ofFields_of_alternative found,
      fun _ differ' same => settled differ' same⟩
    have same : SameDownTo canonical first.1 fields fields' := fun _ _ => perm.mem_iff
    exact (settled (differ.perm perm) same).trans (ofFields_of_alternative found).symm
  · intro none fields' perm order
    have blank : ∀ field ∈ fields, isAlternative canonical field.1 = true →
        Entry.isBlank field.2 = true := by
      intro field mem alternative
      by_contra filled
      exact none ⟨field, mem, Bool.eq_false_iff.mpr filled, alternative⟩
    have blank' : ∀ field ∈ fields', isAlternative canonical field.1 = true →
        Entry.isBlank field.2 = true := fun field mem => blank field (perm.mem_iff.mpr mem)
    rw [ofInput, ofInput, ofFields_of_foreign differ blank,
      ofFields_of_foreign (differ.perm perm) blank', order]

/-- A distance in parsecs, with a field in another unit before it and a blank one in a better unit
behind it. -/
def distanceFields : Fields :=
  [("furlongs", .text "3"), ("pc", .text "1"), ("km", .text " ")]

/-- The same choice is made in the reverse order, and without the field in furlongs. -/
theorem distanceFields_order :
    UnitsDiffer distanceFields ∧
      ofInput "meters" (.map distanceFields.reverse) = ofInput "meters" (.map distanceFields) ∧
      ∃ s, ofInput "meters" (.map distanceFields) = some s ∧ s.unit = "pc" ∧
        ofInput "meters" (.map distanceFields.tail) = some s := by
  have differ : UnitsDiffer distanceFields := by
    unfold UnitsDiffer
    decide +kernel
  have filled : Entry.isBlank (.text "1") = false ∧ isAlternative "meters" "pc" = true := by
    decide +kernel
  have given : ("pc", .text "1") ∈ distanceFields := by simp [distanceFields]
  obtain ⟨reorder, s, chosen, settled⟩ := (ofInput_order "meters" differ).1 ⟨_, given, filled⟩
  have unit : (ofInput "meters" (.map distanceFields)).any (fun s => s.unit == "pc") = true := by
    decide +kernel
  rw [chosen, Option.any_some, beq_iff_eq] at unit
  refine ⟨differ, reorder _ (List.reverse_perm _).symm, s, chosen, unit, settled _ ?_ ?_⟩
  · exact List.Nodup.tail differ
  · have later : ¬place "meters" "furlongs" ≤ place "meters" "pc" := by decide +kernel
    intro field place
    rw [unit] at place
    refine List.mem_cons.trans (or_iff_right ?_)
    rintro rfl
    exact later place

end Astrolabe.Selection
