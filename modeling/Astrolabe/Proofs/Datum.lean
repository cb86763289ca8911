import Mathlib.Data.List.Nodup
import Astrolabe.Datum

/-!
Looking into data: by key in the entries of a map, and by what stands under a key of any value. Data
as it is read from documents has no map with a key twice.
-/

namespace Astrolabe.Datum

/-! Entries by key. -/

section

variable {before after entries entries' : List (String × Datum)} {key symbol : String} {d : Datum}

theorem mem_of_lookup? (h : lookup? key entries = some d) : (key, d) ∈ entries := by
  obtain ⟨entry, found, rfl⟩ := Option.map_eq_some_iff.mp h
  have mem := List.mem_reverse.mp (List.mem_of_find?_eq_some found)
  have same : entry.1 = key := by simpa using List.find?_some found
  exact same ▸ mem

theorem lookup?_append :
    lookup? key (before ++ after) = (lookup? key after).or (lookup? key before) := by
  rw [lookup?, lookup?, lookup?, List.reverse_append, List.find?_append, Option.map_or]

theorem lookup?_cons :
    lookup? key ((symbol, d) :: after) =
      (lookup? key after).or (if symbol = key then some d else none) := by
  rw [← List.singleton_append, lookup?_append]
  by_cases same : symbol = key <;> simp [lookup?, same]

/-- An entry of another key is not looked up. -/
theorem lookup?_drop (other : symbol ≠ key) :
    lookup? key (before ++ (symbol, d) :: after) = lookup? key (before ++ after) := by
  rw [lookup?_append, lookup?_append, lookup?_cons, if_neg other, Option.or_none]

theorem lookup?_eq_none_iff : lookup? key entries = none ↔ key ∉ entries.map Prod.fst := by
  simp only [lookup?, Option.map_eq_none_iff, List.find?_eq_none, List.mem_reverse, List.mem_map,
    beq_iff_eq, not_exists, not_and]

/-- Where keys are distinct, an entry is looked up by its key. -/
theorem lookup?_eq_some_iff (distinct : (entries.map Prod.fst).Nodup) :
    lookup? key entries = some d ↔ (key, d) ∈ entries := by
  refine ⟨mem_of_lookup?, fun mem => ?_⟩
  cases found : lookup? key entries with
  | none => exact absurd (List.mem_map_of_mem mem) (lookup?_eq_none_iff.mp found)
  | some other =>
      have same := List.inj_on_of_nodup_map distinct (mem_of_lookup? found) mem rfl
      exact congrArg some (congrArg Prod.snd same)

theorem lookup?_perm (distinct : (entries.map Prod.fst).Nodup) (perm : entries.Perm entries') :
    lookup? key entries = lookup? key entries' := by
  have distinct' : (entries'.map Prod.fst).Nodup := (perm.map _).nodup_iff.mp distinct
  refine Option.ext fun d => ?_
  rw [lookup?_eq_some_iff distinct, lookup?_eq_some_iff distinct', perm.mem_iff]

end

/-! What stands in a value. -/

/-- The entries of a map; other values have none. -/
def fields : Datum → List (String × Datum)
  | map entries => entries
  | _ => []

/-- The items of a list; other values have none. -/
def items : Datum → List Datum
  | list items => items
  | _ => []

/-- Whether a value is a number; a truth value counts as one. -/
def isNumber : Datum → Bool
  | bool _ | int _ | float _ => true
  | _ => false

/-- What stands under a key; nothing where no entry has it. -/
def under (key : String) (value : Datum) : Datum :=
  (lookup? key value.fields).getD null

/-- Only in a map does anything stand under a key. -/
theorem exists_eq_map_of_under {value : Datum} {key : String}
    (given : (value.under key).isNull = false) : ∃ fields, value = map fields := by
  cases value with
  | map fields => exact ⟨fields, rfl⟩
  | _ => simp [under, fields, lookup?, isNull] at given

mutual

/-- Whether no map in a value has a key twice. -/
def hasDistinctKeys : Datum → Bool
  | list items => haveDistinctKeys items
  | map entries => decide (entries.map Prod.fst).Nodup && entriesHaveDistinctKeys entries
  | _ => true

def haveDistinctKeys : List Datum → Bool
  | [] => true
  | item :: rest => hasDistinctKeys item && haveDistinctKeys rest

def entriesHaveDistinctKeys : List (String × Datum) → Bool
  | [] => true
  | (_, value) :: rest => hasDistinctKeys value && entriesHaveDistinctKeys rest

end

theorem haveDistinctKeys_iff {items : List Datum} :
    haveDistinctKeys items = true ↔ ∀ item ∈ items, item.hasDistinctKeys = true := by
  induction items with
  | nil => simp [haveDistinctKeys]
  | cons item rest ih => simp [haveDistinctKeys, ih]

theorem entriesHaveDistinctKeys_iff {entries : List (String × Datum)} :
    entriesHaveDistinctKeys entries = true ↔ ∀ entry ∈ entries, entry.2.hasDistinctKeys = true := by
  induction entries with
  | nil => simp [entriesHaveDistinctKeys]
  | cons entry rest ih => simp [entriesHaveDistinctKeys, ih]

section

variable {value : Datum} (distinct : value.hasDistinctKeys = true)

include distinct

theorem nodup_fields : (value.fields.map Prod.fst).Nodup := by
  cases value with
  | map entries =>
      simp only [hasDistinctKeys, Bool.and_eq_true, decide_eq_true_eq] at distinct
      exact distinct.1
  | _ => exact List.nodup_nil

theorem hasDistinctKeys_of_mem_fields {entry : String × Datum} (mem : entry ∈ value.fields) :
    entry.2.hasDistinctKeys = true := by
  cases value with
  | map entries =>
      simp only [hasDistinctKeys, Bool.and_eq_true] at distinct
      exact entriesHaveDistinctKeys_iff.mp distinct.2 entry mem
  | _ => cases mem

theorem hasDistinctKeys_of_mem_items {item : Datum} (mem : item ∈ value.items) :
    item.hasDistinctKeys = true := by
  cases value with
  | list items => exact haveDistinctKeys_iff.mp distinct item mem
  | _ => cases mem

theorem hasDistinctKeys_under (key : String) : (value.under key).hasDistinctKeys = true := by
  unfold under
  cases found : lookup? key value.fields with
  | none => rfl
  | some d => exact hasDistinctKeys_of_mem_fields distinct (mem_of_lookup? found)

end

end Astrolabe.Datum
