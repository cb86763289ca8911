import Mathlib.Data.List.Find
import Mathlib.Data.List.Induction
import Astrolabe.Proofs.Selection

/-!
Which of several fields is used. The units are gone through in order, the alternatives first and
then those of the fields, and the first field in a unit is used if it is filled. So the best of the
filled fields is used, but for those in a unit whose first field is blank.
-/

namespace Astrolabe.Selection

variable {canonical unit other : String} {fields : Fields} {field first : String × Datum}

/-! Units in order. -/

theorem distinctUnits_concat :
    distinctUnits (fields ++ [field]) =
      if (inUnit? (distinctUnits fields) field.1).isSome then distinctUnits fields
      else distinctUnits fields ++ [field] := by
  rw [distinctUnits, distinctUnits, List.foldl_concat, inUnit?, List.isSome_find?]

theorem inUnit?_singleton :
    inUnit? [field] unit =
      if Unit.normalize field.1 = Unit.normalize unit then some field else none :=
  inUnit?_cons

theorem isSome_inUnit? (mem : field ∈ fields) : (inUnit? fields field.1).isSome = true := by
  rw [inUnit?, List.isSome_find?, List.any_eq_true]
  exact ⟨field, mem, beq_self_eq_true _⟩

theorem inUnit?_distinctUnits : inUnit? (distinctUnits fields) unit = inUnit? fields unit := by
  induction fields using List.reverseRecOn with
  | nil => rfl
  | append_singleton fields field ih =>
      rw [distinctUnits_concat, inUnit?_append, inUnit?_singleton]
      by_cases here : Unit.normalize field.1 = Unit.normalize unit
      · rw [inUnit?_congr here, ih, if_pos here]
        cases seen : inUnit? fields unit with
        | none => rw [if_neg (by simp), inUnit?_append, ih, seen, inUnit?_singleton, if_pos here]
        | some earlier => rw [if_pos Option.isSome_some, ih, seen, Option.some_or]
      · rw [if_neg here, Option.or_none, ← ih]
        split
        · rfl
        · rw [inUnit?_append, inUnit?_singleton, if_neg here, Option.or_none]

theorem findSome?_congr {α β : Type} {l : List α} {f g : α → Option β} (h : ∀ x ∈ l, f x = g x) :
    l.findSome? f = l.findSome? g := by
  rw [← List.head?_filterMap, ← List.head?_filterMap, List.filterMap_congr h]

/-- A search among the first fields of the units goes through the units of all fields. -/
theorem find?_distinctUnits (p : String × Datum → Bool) :
    (distinctUnits fields).find? p =
      fields.findSome? fun field => (inUnit? fields field.1).filter p := by
  induction fields using List.reverseRecOn with
  | nil => rfl
  | append_singleton fields last ih =>
      have before : ∀ field ∈ fields,
          (inUnit? (fields ++ [last]) field.1).filter p = (inUnit? fields field.1).filter p := by
        intro field mem
        obtain ⟨first, found⟩ := Option.isSome_iff_exists.mp (isSome_inUnit? mem)
        rw [inUnit?_append, found, Option.some_or]
      rw [distinctUnits_concat, inUnit?_distinctUnits, List.findSome?_append,
        findSome?_congr before, ← ih, List.findSome?_singleton, inUnit?_append]
      cases seen : inUnit? fields last.1 with
      | none =>
          rw [if_neg (by simp), List.find?_append, inUnit?_singleton, if_pos rfl, Option.none_or,
            List.find?_singleton, Option.filter_some]
      | some first =>
          rw [if_pos Option.isSome_some, Option.some_or]
          -- the first field in the unit was already searched
          cases found : (distinctUnits fields).find? p with
          | some field => rfl
          | none =>
              have mem : first ∈ distinctUnits fields := mem_distinctUnits_iff.mpr
                ((inUnit?_congr (normalize_of_inUnit? seen)).trans seen)
              rw [Option.none_or, Option.filter_some,
                if_neg (List.find?_eq_none.mp found first mem)]

/-- The first field in a unit, if it is filled. -/
def filledIn? (fields : Fields) (unit : String) : Option (String × Datum) :=
  (inUnit? fields unit).filter fun field => !Entry.isBlank field.2

theorem filledIn?_eq_some_iff :
    filledIn? fields unit = some field ↔
      inUnit? fields unit = some field ∧ Entry.isBlank field.2 = false := by
  rw [filledIn?, Option.filter_eq_some_iff, Bool.not_eq_true']

theorem filledIn?_congr (h : Unit.normalize unit = Unit.normalize other) :
    filledIn? fields unit = filledIn? fields other := by
  rw [filledIn?, filledIn?, inUnit?_congr h]

theorem filledIn?_self (h : filledIn? fields unit = some field) :
    filledIn? fields field.1 = some field :=
  (filledIn?_congr (normalize_of_inUnit? (filledIn?_eq_some_iff.mp h).1)).trans h

/-- The field that is used is the first one found when the units are gone through in order. -/
theorem ofFields_eq :
    ofFields canonical fields =
      ((Unit.alternatives canonical ++ fields.map Prod.fst).findSome? (filledIn? fields)).map
        fun (unit, entry) => { unit, entry } := by
  have preferred (units : List String) :
      (units.filterMap (inUnit? fields)).findSome? (fun field => filledIn? fields field.1) =
        units.findSome? (filledIn? fields) := by
    rw [← List.head?_filterMap, List.filterMap_filterMap, List.head?_filterMap]
    refine findSome?_congr fun unit _ => ?_
    cases found : inUnit? fields unit with
    | none => rw [filledIn?, found]; rfl
    | some field => exact filledIn?_congr (normalize_of_inUnit? found)
  have filled (unit : String) :
      (inUnit? fields unit).filter (fun field => !Entry.isBlank field.2) =
        filledIn? fields unit := rfl
  rw [ofFields, byPreference, find?_distinctUnits]
  simp only [inUnit?_preferred, filled, List.findSome?_append, preferred, List.findSome?_map,
    Function.comp_def]

/-! The best field. -/

/-- The place of a unit among the alternatives, which is the last where it is none of them. -/
def place (canonical unit : String) : Nat :=
  (Unit.alternatives canonical).findIdx fun other => Unit.normalize other == Unit.normalize unit

/-- Whether a unit is one of the alternatives. -/
def isAlternative (canonical unit : String) : Bool :=
  (Unit.alternatives canonical).any fun other => Unit.normalize other == Unit.normalize unit

/-- The rank of a unit: the place of an alternative; the other units come after these, in the order
of the fields. -/
def rank (canonical : String) (fields : Fields) (unit : String) : Nat :=
  if isAlternative canonical unit then place canonical unit
  else (Unit.alternatives canonical).length + fields.findIdx fun field => field.1 == unit

theorem findIdx_append_le {α : Type} {p : α → Bool} {before after : List α} {x : α}
    (here : p x = true) : (before ++ x :: after).findIdx p ≤ before.length := by
  rw [List.findIdx_append, List.findIdx_cons, here]
  split <;> simp_all [Nat.le_of_lt]

theorem length_le_findIdx_append {α : Type} {p : α → Bool} {before after : List α}
    (apart : ∀ x ∈ before, p x = false) : before.length ≤ (before ++ after).findIdx p := by
  rw [List.findIdx_append, List.findIdx_eq_length.mpr apart, if_neg (Nat.lt_irrefl _)]
  exact Nat.le_add_left ..

theorem isAlternative_iff :
    isAlternative canonical unit = true ↔
      ∃ other ∈ Unit.alternatives canonical, Unit.normalize other = Unit.normalize unit := by
  simp [isAlternative]

theorem place_le_rank : place canonical unit ≤ rank canonical fields unit := by
  rw [rank]
  split
  · exact Nat.le_refl _
  · exact Nat.le_trans List.findIdx_le_length (Nat.le_add_right ..)

theorem rank_of_alternative (h : isAlternative canonical unit = true) :
    rank canonical fields unit = place canonical unit :=
  if_pos h

/-- A unit with a filled field is not among alternatives that have none. -/
theorem length_le_place {before after : List String}
    (split : Unit.alternatives canonical = before ++ after)
    (passed : ∀ unit ∈ before, filledIn? fields unit = none)
    (filled : filledIn? fields unit = some field) : before.length ≤ place canonical unit := by
  rw [place, split]
  refine length_le_findIdx_append fun other mem => beq_eq_false_iff_ne.mpr fun equal => ?_
  cases (passed other mem).symm.trans ((filledIn?_congr equal).trans filled)

/-- The field found among the alternatives is in the first unit of them that has a filled one. -/
theorem findSome?_alternatives
    (found : (Unit.alternatives canonical).findSome? (filledIn? fields) = some first) :
    isAlternative canonical first.1 = true ∧ filledIn? fields first.1 = some first ∧
      ∃ before unit after, Unit.alternatives canonical = before ++ unit :: after ∧
        Unit.normalize unit = Unit.normalize first.1 ∧
        place canonical first.1 = before.length ∧
          ∀ unit ∈ before, filledIn? fields unit = none := by
  obtain ⟨before, unit, after, split, here, passed⟩ := List.findSome?_eq_some_iff.mp found
  have same : Unit.normalize unit = Unit.normalize first.1 :=
    (normalize_of_inUnit? (filledIn?_eq_some_iff.mp here).1).symm
  have filled : filledIn? fields first.1 = some first := filledIn?_self here
  refine ⟨isAlternative_iff.mpr ⟨unit, by simp [split], same⟩, filled, before, unit, after, split,
    same, Nat.le_antisymm ?_ (length_le_place split passed filled), passed⟩
  rw [place, split]
  exact findIdx_append_le (beq_iff_eq.mpr same)

/-- A field found among the alternatives has the best rank of all that are filled. -/
theorem rank_le_of_alternative
    (found : (Unit.alternatives canonical).findSome? (filledIn? fields) = some first)
    (filled : filledIn? fields unit = some field) :
    rank canonical fields first.1 ≤ rank canonical fields unit := by
  obtain ⟨alternative, -, before, _, after, split, -, position, passed⟩ :=
    findSome?_alternatives found
  rw [rank_of_alternative alternative, position]
  exact Nat.le_trans (length_le_place split passed filled) place_le_rank

/-- Where no alternative has a filled field, the first one that is filled has the best rank. -/
theorem rank_le_of_foreign
    (none : (Unit.alternatives canonical).findSome? (filledIn? fields) = none)
    (found : fields.findSome? (fun field => filledIn? fields field.1) = some first)
    (filled : filledIn? fields unit = some field) :
    rank canonical fields first.1 ≤ rank canonical fields unit := by
  have foreign {unit : String} {field : String × Datum}
      (filled : filledIn? fields unit = some field) : ¬isAlternative canonical unit = true := by
    rw [isAlternative_iff]
    rintro ⟨other, mem, same⟩
    cases (List.findSome?_eq_none_iff.mp none other mem).symm.trans
      ((filledIn?_congr same).trans filled)
  obtain ⟨before, here, after, split, given, passed⟩ := List.findSome?_eq_some_iff.mp found
  have own : filledIn? fields first.1 = some first := filledIn?_self given
  -- the first field in its unit is none of those passed by, so it is the one that was reached
  obtain rfl : here = first := by
    have unique := (filledIn?_eq_some_iff.mp given).1
    have absent : inUnit? before here.1 = Option.none := by
      refine Option.eq_none_iff_forall_ne_some.mpr fun other earlier => ?_
      rw [split, inUnit?_append, earlier, Option.some_or] at unique
      cases unique
      cases (passed first (List.mem_of_find?_eq_some earlier)).symm.trans own
    rw [split, inUnit?_append, absent, Option.none_or, inUnit?_cons, if_pos rfl] at unique
    exact Option.some.inj unique
  rw [rank, rank, if_neg (foreign own), if_neg (foreign filled)]
  refine Nat.add_le_add_left (Nat.le_trans (m := before.length) ?_ ?_) _
  · exact split ▸ findIdx_append_le (beq_self_eq_true _)
  · refine split ▸ length_le_findIdx_append fun other mem => beq_eq_false_iff_ne.mpr ?_
    rintro rfl
    cases (passed other mem).symm.trans filled

/-- Whether the first field in a unit is blank, so that no other field in it is used. -/
def isHidden (fields : Fields) (unit : String) : Bool :=
  (inUnit? fields unit).any fun first => Entry.isBlank first.2

/-- The fields in units whose first field is filled. -/
def visible (fields : Fields) : Fields :=
  fields.filter fun field => !isHidden fields field.1

/-- What is asked of a choice among several fields: nothing is chosen where all are blank; otherwise
it is one of them, which is filled, and no filled one has a better rank. -/
inductive BestOf (rank : String → Nat) (fields : Fields) : Option Selection → Prop where
  | nothing (blank : ∀ field ∈ fields, Entry.isBlank field.2 = true) : BestOf rank fields none
  | field {s : Selection} (mem : (s.unit, s.entry) ∈ fields)
      (filled : Entry.isBlank s.entry = false)
      (least : ∀ field ∈ fields, Entry.isBlank field.2 = false → rank s.unit ≤ rank field.1) :
      BestOf rank fields (some s)

theorem mem_visible_iff :
    field ∈ visible fields ↔ field ∈ fields ∧ isHidden fields field.1 = false := by
  rw [visible, List.mem_filter, Bool.not_eq_true']

/-- The first field in the unit of a visible one is filled. -/
theorem exists_filledIn?_of_visible (h : field ∈ visible fields) :
    ∃ first, filledIn? fields field.1 = some first := by
  obtain ⟨mem, visible⟩ := mem_visible_iff.mp h
  obtain ⟨first, found⟩ := Option.isSome_iff_exists.mp (isSome_inUnit? mem)
  rw [isHidden, found, Option.any_some] at visible
  exact ⟨first, filledIn?_eq_some_iff.mpr ⟨found, visible⟩⟩

theorem mem_visible_of_filledIn? (h : filledIn? fields unit = some field) :
    field ∈ visible fields := by
  obtain ⟨found, filled⟩ := filledIn?_eq_some_iff.mp (filledIn?_self h)
  refine mem_visible_iff.mpr ⟨List.mem_of_find?_eq_some found, ?_⟩
  rw [isHidden, found, Option.any_some, filled]

/-- The field that is used is the best of those that are visible. -/
theorem ofFields_bestOf_visible (canonical : String) (fields : Fields) :
    BestOf (rank canonical fields) (visible fields) (ofFields canonical fields) := by
  rw [ofFields_eq, List.findSome?_append, List.findSome?_map]
  cases found : (Unit.alternatives canonical).findSome? (filledIn? fields) with
  | some first =>
      obtain ⟨-, own, -⟩ := findSome?_alternatives found
      refine .field (mem_visible_of_filledIn? own) (filledIn?_eq_some_iff.mp own).2
        fun field mem _ => ?_
      obtain ⟨_, filled⟩ := exists_filledIn?_of_visible mem
      exact rank_le_of_alternative found filled
  | none =>
      rw [Option.none_or]
      cases reached : fields.findSome? (filledIn? fields ∘ Prod.fst) with
      | some first =>
          obtain ⟨_, -, here⟩ := List.exists_of_findSome?_eq_some reached
          have own : filledIn? fields first.1 = some first := filledIn?_self here
          refine .field (mem_visible_of_filledIn? own) (filledIn?_eq_some_iff.mp own).2
            fun field mem _ => ?_
          obtain ⟨_, filled⟩ := exists_filledIn?_of_visible mem
          exact rank_le_of_foreign found reached filled
      | none =>
          refine .nothing fun field mem => ?_
          obtain ⟨_, filled⟩ := exists_filledIn?_of_visible mem
          have passed := List.findSome?_eq_none_iff.mp reached field (mem_visible_iff.mp mem).1
          cases passed.symm.trans filled

/-- The best of some fields is the best of more just where these have none that is better. -/
theorem BestOf.iff_of_subset {rank : String → Nat} {part all : Fields} {choice : Option Selection}
    (best : BestOf rank part choice) (subset : part ⊆ all) :
    BestOf rank all choice ↔
      ∀ field ∈ all, Entry.isBlank field.2 = false →
        ∃ other ∈ part, Entry.isBlank other.2 = false ∧ rank other.1 ≤ rank field.1 := by
  constructor
  · intro best' field mem filled
    cases best' with
    | nothing blank => cases (blank field mem).symm.trans filled
    | field _ _ least' =>
        cases best with
        | field mem' filled' _ => exact ⟨_, mem', filled', least' field mem filled⟩
  · intro matched
    cases best with
    | nothing blank =>
        refine .nothing fun field mem => ?_
        by_contra filled
        obtain ⟨other, here, filled', -⟩ := matched field mem (Bool.eq_false_iff.mpr filled)
        cases (blank other here).symm.trans filled'
    | field mem filled least =>
        refine .field (subset mem) filled fun field mem' filled' => ?_
        obtain ⟨other, here, filled'', le⟩ := matched field mem' filled'
        exact Nat.le_trans (least other here filled'') le

/-- The field that is used for a variable is the best of those that are visible, which are those in
units whose first field is filled. So it is the best of all, and there is none just where all are
blank, unless a filled field is hidden that is better than all that are visible. -/
theorem ofInput_bestOf (canonical : String) (fields : Fields) :
    BestOf (rank canonical fields) (visible fields) (ofInput canonical (.map fields)) ∧
      (BestOf (rank canonical fields) fields (ofInput canonical (.map fields)) ↔
        ∀ field ∈ fields, Entry.isBlank field.2 = false →
          ∃ other ∈ visible fields, Entry.isBlank other.2 = false ∧
            rank canonical fields other.1 ≤ rank canonical fields field.1) := by
  have best := ofFields_bestOf_visible canonical fields
  exact ⟨best, best.iff_of_subset fun _ mem => (mem_visible_iff.mp mem).1⟩

/-- Two spellings of one unit, of which the first is left blank. -/
def twoSpellings : Fields :=
  [("km", .text ""), ("KM", .text "5")]

/-- The filled field is lost. -/
theorem twoSpellings_not_bestOf :
    ¬BestOf (rank "meters" twoSpellings) twoSpellings
      (ofInput "meters" (.map twoSpellings)) := by
  have lost : (ofInput "meters" (.map twoSpellings)).isNone = true := by decide +kernel
  have filled : Entry.isBlank (.text "5") = false := by decide +kernel
  rw [Option.isNone_iff_eq_none.mp lost]
  rintro ⟨blank⟩
  cases (blank ("KM", .text "5") (by simp [twoSpellings])).symm.trans filled

end Astrolabe.Selection
