import Astrolabe.Proofs.Except
import Astrolabe.Relation.Residual

/-!
The names of a formula. Variables have a symbol, by which they are given, and a key, which stands
for them in the relation; constants have one name for both. A relation is checked for the values
that the names stand for.
-/

namespace Astrolabe.Formula

/-- The keys of the variables. -/
def keys (f : Formula) : List String :=
  f.vars.map Variable.key

/-- The names that a relation may be written over. -/
def names (f : Formula) : List String :=
  f.keys ++ f.constants.map Prod.fst

/-- A formula has variables, which differ in their symbols and in their keys, and no constant has
the symbol of one. -/
structure WellFormed (f : Formula) : Prop where
  nonempty : f.vars ≠ []
  symbols : f.symbols.Nodup
  keys : f.keys.Nodup
  apart : ∀ symbol ∈ f.symbols, f.hasConstant symbol = false

def named (f : Formula) (values : String → Option Float) : List (String × Float) :=
  f.constants ++ f.vars.filterMap fun v => (values v.symbol).map (v.key, ·)

def namesApart (f : Formula) : Bool :=
  (f.vars.map Variable.key).Nodup && f.vars.all fun v => !f.hasConstant v.key

variable {f : Formula} {values : String → Option Float}

theorem hasConstant_iff {symbol : String} :
    f.hasConstant symbol = true ↔ ∃ x, f.constants.lookup symbol = some x := by
  unfold hasConstant
  induction f.constants with
  | nil => simp
  | cons c rest ih =>
      rw [List.any_cons, List.lookup_cons]
      by_cases same : c.1 = symbol
      · simp [same]
      · have other : (symbol == c.1) = false := by simpa using Ne.symm same
        simpa [same, other] using ih

theorem lookup_eq_none_of_hasConstant {symbol : String} (h : f.hasConstant symbol = false) :
    f.constants.lookup symbol = none := by
  rw [← Option.not_isSome_iff_eq_none, Option.isSome_iff_exists, ← hasConstant_iff, h]
  exact Bool.false_ne_true

/-- Where no two constants have one name, a constant is looked up by its own. -/
theorem lookup_constants {constants : List (String × Float)}
    (distinct : (constants.map Prod.fst).Nodup) {constant : String × Float}
    (mem : constant ∈ constants) : constants.lookup constant.1 = some constant.2 := by
  induction constants with
  | nil => cases mem
  | cons first rest ih =>
      rw [List.map_cons, List.nodup_cons] at distinct
      obtain rfl | later := List.mem_cons.mp mem
      · exact List.lookup_cons_self
      · have other : (constant.1 == first.1) = false := by
          simpa using fun same : constant.1 = first.1 =>
            distinct.1 (same ▸ List.mem_map_of_mem later)
        rw [List.lookup_cons, other]
        exact ih distinct.2 later

theorem relationValues_eq (given : ∀ v ∈ f.vars, ∃ x, values v.symbol = some x) :
    f.relationValues values = .ok (f.named values) := by
  rw [relationValues, Except.mapM_eq_ok_filterMap (h := fun v => (values v.symbol).map (v.key, ·))]
  · rfl
  · intro v hv
    obtain ⟨x, hx⟩ := given v hv
    exact ⟨(v.key, x), by simp [hx], by simp [hx]⟩

theorem lookup_named_constant {key : String} {x : Float}
    (h : f.constants.lookup key = some x) : (f.named values).lookup key = some x := by
  simp [named, List.lookup_append, h]

theorem lookup_keys {vars : List Variable} (distinct : (vars.map Variable.key).Nodup)
    {v : Variable} (hv : v ∈ vars) :
    (vars.filterMap fun w => (values w.symbol).map (w.key, ·)).lookup v.key =
      values v.symbol := by
  induction vars with
  | nil => cases hv
  | cons w rest ih =>
      simp only [List.map_cons, List.nodup_cons] at distinct
      obtain rfl | tail := List.mem_cons.mp hv
      · cases given : values v.symbol with
        | some x => simp [given]
        | none =>
            -- no entry stands for the variable, and none of the others has its key
            simp only [List.filterMap_cons, given, Option.map_none]
            rw [List.lookup_eq_none_iff]
            intro entry mem
            obtain ⟨u, hu, same⟩ := List.mem_filterMap.mp mem
            obtain ⟨x, -, rfl⟩ := Option.map_eq_some_iff.mp same
            simpa using fun equal : v.key = u.key =>
              distinct.1 (equal ▸ List.mem_map_of_mem hu)
      · have keys : (v.key == w.key) = false := by
          simpa using fun equal : v.key = w.key =>
            distinct.1 (equal ▸ List.mem_map_of_mem tail)
        have next := ih distinct.2 tail
        cases given : values w.symbol with
        | some x => simpa [given, List.lookup_cons, keys] using next
        | none => simpa [given] using next

/-- The key of a variable stands for its value, unless a constant has that name. -/
theorem lookup_named_key (distinct : f.keys.Nodup) {v : Variable} (hv : v ∈ f.vars) :
    (f.named values).lookup v.key = (f.constants.lookup v.key).or (values v.symbol) := by
  rw [named, List.lookup_append, lookup_keys distinct hv]

theorem lookup_named_variable (apart : f.namesApart = true) {v : Variable}
    (hv : v ∈ f.vars) : (f.named values).lookup v.key = values v.symbol := by
  simp only [namesApart, Bool.and_eq_true, decide_eq_true_eq, List.all_eq_true,
    Bool.not_eq_true'] at apart
  obtain ⟨distinct, constant⟩ := apart
  rw [lookup_named_key distinct hv, lookup_eq_none_of_hasConstant (constant v hv), Option.none_or]

end Astrolabe.Formula
