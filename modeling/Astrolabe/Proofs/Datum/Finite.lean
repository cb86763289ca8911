import Mathlib.Data.List.Basic
import Astrolabe.Datum

/-!
Data without infinities and NaNs. What stands at a place of a value is dropped if it is a number
that is not finite and kept otherwise, and this says what all of the value becomes. Data without
such numbers stay as they are.
-/

namespace Astrolabe.Datum

/-! Places. -/

/-- What stands directly in a value, in order: the items of a list or the values of a map. -/
def parts : Datum → List Datum
  | list items => items
  | map entries => entries.map Prod.snd
  | _ => []

/-- What stands at a place, which is given by the numbers of the parts that lead to it. -/
def at? (value : Datum) : List Nat → Option Datum
  | [] => some value
  | i :: rest => value.parts[i]?.bind fun part => part.at? rest

/-- What holds of a value if it holds of its parts holds of all values. -/
theorem parts_induction {motive : Datum → Prop}
    (step : ∀ value, (∀ part ∈ value.parts, motive part) → motive value) (value : Datum) :
    motive value := by
  refine step value fun part mem => ?_
  have smaller : sizeOf part < sizeOf value := by
    cases value with
    | list items =>
        have := List.sizeOf_lt_of_mem (show part ∈ items from mem)
        simp only [list.sizeOf_spec]
        omega
    | map entries =>
        obtain ⟨⟨key, _⟩, inside, rfl⟩ := List.mem_map.mp mem
        have := List.sizeOf_lt_of_mem inside
        simp only [Prod.mk.sizeOf_spec] at this
        simp only [map.sizeOf_spec]
        omega
    | _ => cases mem
  exact parts_induction step part
termination_by sizeOf value

/-! Values that are kept and values that are dropped. -/

/-- A number that is not finite. -/
def IsNonFinite (value : Datum) : Prop :=
  ∃ x : Float, value = float x ∧ x.isFinite = false

/-- No infinity and no NaN at any place. -/
def AllFinite (value : Datum) : Prop :=
  ∀ place part, value.at? place = some part → ¬part.IsNonFinite

/-- What becomes of a value, its parts apart. -/
inductive Becomes : Datum → Datum → Prop
  | dropped {value : Datum} (h : value.IsNonFinite) : Becomes value null
  | kept {value : Datum} (simple : value.parts = []) (h : ¬value.IsNonFinite) : Becomes value value
  | list {items items' : List Datum} (length : items'.length = items.length) :
      Becomes (list items) (list items')
  | map {entries entries' : List (String × Datum)}
      (keys : entries'.map Prod.fst = entries.map Prod.fst) :
      Becomes (map entries) (map entries')

/-- The same value but for the numbers that are not finite, which are dropped. -/
def Cleaned (value value' : Datum) : Prop :=
  ∀ place, Option.Rel Becomes (value.at? place) (value'.at? place)

theorem becomes_self {value : Datum} (h : ¬value.IsNonFinite) : Becomes value value := by
  cases value with
  | list items => exact .list rfl
  | map entries => exact .map rfl
  | _ => exact .kept rfl h

theorem finiteItems_eq (items : List Datum) : finiteItems items = items.map finite := by
  induction items with
  | nil => rfl
  | cons item rest ih => rw [finiteItems, ih, List.map_cons]

theorem finiteEntries_eq (entries : List (String × Datum)) :
    finiteEntries entries = entries.map fun entry => (entry.1, entry.2.finite) := by
  induction entries with
  | nil => rfl
  | cons entry rest ih => rw [finiteEntries, ih, List.map_cons]

theorem finite_of_isNonFinite {value : Datum} (h : value.IsNonFinite) : value.finite = null := by
  obtain ⟨x, rfl, infinite⟩ := h
  rw [finite, if_neg (ne_true_of_eq_false infinite)]

theorem finite_of_parts_eq_nil {value : Datum} (simple : value.parts = [])
    (h : ¬value.IsNonFinite) : value.finite = value := by
  cases value with
  | float x =>
      have isFinite : x.isFinite = true := Bool.of_not_eq_false fun infinite => h ⟨x, rfl, infinite⟩
      rw [finite, if_pos isFinite]
  | list items =>
      cases (simple : items = [])
      rfl
  | map entries =>
      cases List.map_eq_nil_iff.mp simple
      rfl
  | _ => rfl

theorem not_isNonFinite_finite (value : Datum) : ¬value.finite.IsNonFinite := by
  rintro ⟨x, same, infinite⟩
  cases value with
  | float y =>
      rw [finite] at same
      split at same
      next isFinite =>
        cases same
        exact ne_true_of_eq_false infinite isFinite
      next => cases same
  | _ => cases same

theorem parts_finite (value : Datum) : value.finite.parts = value.parts.map finite := by
  cases value with
  | float x =>
      rw [finite]
      split <;> rfl
  | list items => exact finiteItems_eq items
  | map entries => simp [finite, parts, finiteEntries_eq]
  | _ => rfl

theorem becomes_finite (value : Datum) : Becomes value value.finite := by
  by_cases infinite : value.IsNonFinite
  · rw [finite_of_isNonFinite infinite]
    exact .dropped infinite
  cases value with
  | list items => exact .list (by rw [finiteItems_eq, List.length_map])
  | map entries => exact .map (by simp [finiteEntries_eq])
  | _ =>
      rw [finite_of_parts_eq_nil rfl infinite]
      exact .kept rfl infinite

/-! Whole values. -/

theorem at?_finite (value : Datum) (place : List Nat) :
    value.finite.at? place = (value.at? place).map finite := by
  induction place generalizing value with
  | nil => rfl
  | cons i rest ih =>
      rw [at?, at?, parts_finite, List.getElem?_map]
      cases value.parts[i]? with
      | none => rfl
      | some part => exact ih part

theorem cleaned_finite (value : Datum) : Cleaned value value.finite := by
  intro place
  rw [at?_finite]
  cases value.at? place with
  | none => exact .none
  | some part => exact .some (becomes_finite part)

theorem Cleaned.becomes {value value' : Datum} (h : Cleaned value value') :
    Becomes value value' := by
  obtain ⟨root⟩ := h []
  exact root

/-- Parts are cleaned one by one. -/
theorem Cleaned.part {value value' : Datum} (h : Cleaned value value') (i : Nat) :
    Option.Rel Cleaned value.parts[i]? value'.parts[i]? := by
  have first := h [i]
  rw [at?, at?] at first
  cases here : value.parts[i]? with
  | none =>
      cases there : value'.parts[i]? with
      | none => exact .none
      | some part' => rw [here, there] at first; cases first
  | some part =>
      cases there : value'.parts[i]? with
      | none => rw [here, there] at first; cases first
      | some part' =>
          refine .some fun place => ?_
          have inside := h (i :: place)
          rwa [at?, at?, here, there] at inside

/-- What a value becomes is determined at its places. -/
theorem Cleaned.eq_finite {value value' : Datum} (h : Cleaned value value') :
    value' = value.finite := by
  induction value using parts_induction generalizing value' with
  | step value ih =>
      have parts : value'.parts = value.parts.map finite := by
        refine List.ext_getElem? fun i => ?_
        rw [List.getElem?_map]
        have part := h.part i
        generalize value'.parts[i]? = there at part ⊢
        cases found : value.parts[i]? with
        | none =>
            rw [found] at part
            cases part
            rfl
        | some item =>
            rw [found] at part
            cases part with
            | some clean => rw [ih item (List.mem_of_getElem? found) clean, Option.map_some]
      cases h.becomes with
      | dropped infinite => exact (finite_of_isNonFinite infinite).symm
      | kept simple finite => exact (finite_of_parts_eq_nil simple finite).symm
      | @list items items' =>
          have same : items' = items.map finite := parts
          rw [finite, finiteItems_eq, same]
      | @map entries entries' keys =>
          have values : entries'.map Prod.snd = (entries.map Prod.snd).map finite := parts
          have cleaned : (entries.map fun entry => (entry.1, entry.2.finite)) =
              (entries.map Prod.fst).zip ((entries.map Prod.snd).map finite) := by
            refine List.zip_of_prod ?_ ?_ <;> simp
          rw [finite, finiteEntries_eq, cleaned]
          exact congrArg map (List.zip_of_prod keys values)

theorem cleaned_iff {value value' : Datum} : Cleaned value value' ↔ value' = value.finite :=
  ⟨Cleaned.eq_finite, fun same => same ▸ cleaned_finite value⟩

theorem allFinite_finite (value : Datum) : value.finite.AllFinite := by
  intro place part found
  rw [at?_finite] at found
  obtain ⟨whole, -, rfl⟩ := Option.map_eq_some_iff.mp found
  exact not_isNonFinite_finite whole

theorem finite_of_allFinite {value : Datum} (h : value.AllFinite) : value.finite = value := by
  have itself : Cleaned value value := by
    intro place
    cases found : value.at? place with
    | none => exact .none
    | some part => exact .some (becomes_self (h place part found))
  exact itself.eq_finite.symm

theorem finite_finite (value : Datum) : value.finite.finite = value.finite :=
  finite_of_allFinite (allFinite_finite value)

end Astrolabe.Datum
