import Astrolabe.Proofs.Text.Respelled
import Astrolabe.Proofs.Unit.Spelling
import Astrolabe.Unit.Alternatives

/-!
The units offered for a quantity. A known unit is offered with the others of its table, of which
none is another spelling of it or of one another, and all have rules of one dimension. So what is
offered converts, in any spelling that differs in ASCII letter case or in the blanks around it.
-/

namespace Astrolabe.Unit

/-! What is offered. -/

/-- The other units under a name that is looked up. -/
@[irreducible]
def others (name : String) : List String :=
  (normalizedAlternatives.lookup (normalize name)).getD []

/-- Whether a unit and the others of its field are all different names. -/
def listsApart (entry : String × List String) : Bool :=
  decide ((entry.1 :: entry.2.map normalize).Nodup)

theorem normalizedAlternatives_apart : normalizedAlternatives.all listsApart = true := by
  unfold normalizedAlternatives listsApart
  rw [normalize_eq_smallName]
  decide +kernel

theorem others_cases (name : String) :
    others name = [] ∨ (normalize name, others name) ∈ normalizedAlternatives := by
  rw [others]
  cases found : normalizedAlternatives.lookup (normalize name) with
  | none => exact .inl rfl
  | some entry =>
      obtain ⟨_, _, split, -⟩ := List.lookup_eq_some_iff.mp found
      rw [split]
      exact .inr List.mem_append_cons_self

theorem others_apart (name : String) :
    (normalize name :: (others name).map normalize).Nodup := by
  obtain none | mem := others_cases name
  · rw [none]
    exact List.nodup_singleton _
  · have apart := List.all_eq_true.mp normalizedAlternatives_apart _ mem
    rwa [listsApart, decide_eq_true_iff] at apart

/-- Names that are all new are put behind those that are there. -/
theorem foldl_append_of_nodup {α : Type} [DecidableEq α] (rest done : List α)
    (h : (done ++ rest).Nodup) :
    rest.foldl (fun done other => if done.contains other then done else done ++ [other]) done =
      done ++ rest := by
  induction rest generalizing done with
  | nil => rw [List.foldl_nil, List.append_nil]
  | cons other rest ih =>
      have new : done.contains other = false := by
        rw [List.contains_eq_mem, decide_eq_false_iff_not]
        exact fun mem => List.disjoint_of_nodup_append h mem List.mem_cons_self
      rw [List.append_cons] at h
      rw [List.foldl_cons, new, if_neg Bool.false_ne_true, ih _ h, ← List.append_cons]

/-- A unit is offered first, then the others of its field. -/
theorem alternatives_eq (name : String) : alternatives name = name :: others name := by
  have apart : ([name] ++ others name).Nodup := by
    have names := others_apart name
    rw [← List.map_cons] at names
    exact names.of_map
  rw [alternatives, ← others, foldl_append_of_nodup _ _ apart, List.singleton_append]

/-! What is offered converts. -/

/-- Whether both of two units have rules, and these measure the same. -/
def Converts (source target : String) : Prop :=
  ∃ a b, rule? source = some a ∧ rule? target = some b ∧ a.compatible b = true

/-- Whether the others of a field have rules of the dimension of its unit. -/
def listsConvertible (entry : String × List String) : Bool :=
  entry.2.all fun other =>
    match normalizedTable.lookup (normalize other), normalizedTable.lookup entry.1 with
    | some a, some b => a.compatible b
    | _, _ => false

theorem normalizedAlternatives_convertible :
    normalizedAlternatives.all listsConvertible = true := by
  unfold normalizedAlternatives listsConvertible normalizedTable
  rw [normalize_eq_smallName]
  decide +kernel

theorem converts_of_mem_others {name other : String} (mem : other ∈ others name) :
    Converts other name := by
  obtain none | listed := others_cases name
  · rw [none] at mem
    cases mem
  · have alike := List.all_eq_true.mp normalizedAlternatives_convertible _ listed
    rw [listsConvertible, List.all_eq_true] at alike
    have entry := alike other mem
    split at entry
    next a b source target => exact ⟨a, b, source, target, entry⟩
    next => cases entry

/-- Nothing is on record where two names are taken for one. -/
theorem toCanonical_of_sameName {source canonical : String}
    (same : sameName source canonical = true)
    (value : Float) : (toCanonical value source canonical).2 = [] := by
  rw [toCanonical]
  exact congrArg Prod.snd (if_pos same)

theorem toCanonical_of_converts {source canonical : String} (h : Converts source canonical)
    (value : Float) : (toCanonical value source canonical).2 = [] := by
  obtain ⟨a, b, left, right, alike⟩ := h
  by_cases same : sameName source canonical = true
  · exact toCanonical_of_sameName same value
  · simp only [toCanonical, if_neg same, left, right, if_pos alike]

/-- In any spelling, a unit that is offered for a quantity is taken to its own unit. -/
theorem toCanonical_of_offered {name offered spelled : String}
    (mem : offered ∈ alternatives name) (spelling : Text.Respelled offered spelled)
    (value : Float) : (toCanonical value spelled name).2 = [] := by
  have same : sameName spelled offered = true := sameName_iff.mpr spelling.symm.lower_strip_eq
  rw [alternatives_eq, List.mem_cons] at mem
  obtain rfl | other := mem
  · exact toCanonical_of_sameName same value
  · obtain ⟨a, b, source, target, alike⟩ := converts_of_mem_others other
    exact toCanonical_of_converts ⟨a, b, (rule?_of_sameName same).trans source, target, alike⟩ value

/-- No two units that are offered are spellings of one. -/
theorem alternatives_apart (name : String) : ((alternatives name).map normalize).Nodup := by
  rw [alternatives_eq, List.map_cons]
  exact others_apart name

end Astrolabe.Unit
