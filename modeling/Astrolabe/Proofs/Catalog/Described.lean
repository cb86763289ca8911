import Astrolabe.Catalog.Document
import Astrolabe.Proofs.Datum
import Astrolabe.Proofs.Formula

/-!
What a catalog that is read has of its document: the constants and the formulas are those of the
document, one for each entry and in its order, and each has what its entry says.
-/

namespace Astrolabe

namespace Catalog

/-! What entries of a document say. -/

/-- The entry of a document for a constant of the catalog. -/
structure DescribesConstant (entry : String × Datum) (c : Constant) : Prop where
  key : c.key = entry.1
  value : numberOf? (entry.2.under "value") = .ok (some c.value)
  unit : c.unit = optionalText "unit" "" entry.2.fields
  notes : c.notes = optionalText "notes" "" entry.2.fields

/-- The part of a document for a variable. The symbol is its key, too, where no other is given. -/
structure DescribesVariable (part : Datum) (v : Variable) : Prop where
  given : (part.under "symbol").isNull = false ∧ (part.under "unit").isNull = false
  symbol : v.symbol = (part.under "symbol").asText
  key : v.key =
    if (part.under "key").isEmptyLike then v.symbol else (part.under "key").asText
  name : v.name = optionalText "name" v.symbol part.fields
  unit : v.unit = (part.under "unit").asText
  description : v.description = optionalText "description" "" part.fields

/-- What the value of a constant of a formula stands for. A number stands for itself; any other
value names a constant of the catalog, and a text that names none may be that of a number. -/
inductive Denotes (known : List Constant) : Datum → Float → Prop
  | float (x : Float) : Denotes known (.float x) x
  | int {n : Int} {x : Float} (near : Binary64.ofInt? n = some x) : Denotes known (.int n) x
  | named {value : Datum} {c : Constant} (other : value.isNumber = false) (mem : c ∈ known)
      (key : c.key = value.asText) : Denotes known value c.value
  | written {s : String} {x : Float} (unnamed : ∀ c ∈ known, c.key ≠ s)
      (number : Number.readFloat? s = some x) : Denotes known (.text s) x

/-- The entry of a document for a constant of a formula. -/
def DescribesValue (known : List Constant) (entry : String × Datum) (constant : String × Float) :
    Prop :=
  constant.1 = entry.1 ∧ Denotes known entry.2 constant.2

/-- The entry of a document for a formula, with the name of the category that it stands in. -/
structure Describes (known : List Constant) (entry : String × Datum) (f : Formula) : Prop where
  given : ∀ key ∈ ["id", "name", "equation"], (entry.2.under key).isNull = false
  category : f.category = entry.1
  id : f.id = (entry.2.under "id").asText
  name : f.name = (entry.2.under "name").asText
  equation : f.equation = (entry.2.under "equation").asText
  description : f.description = optionalText "description" "" entry.2.fields
  relation : f.relation = entry.2.under "relation"
  vars : List.Forall₂ DescribesVariable (entry.2.under "variables").items f.vars
  constants : List.Forall₂ (DescribesValue known) (entry.2.under "constants").fields f.constants

/-- The entries of a category. -/
def categoryEntries (category : String × Datum) : List (String × Datum) :=
  (category.2.under "formulas").items.map (category.1, ·)

/-- The entries of all categories of a document, in its order. -/
def formulaEntries (document : Datum) : List (String × Datum) :=
  (document.under "categories").fields.flatMap categoryEntries

/-! What is read has what it is read from. -/

theorem entries_eq_ok {value : Datum} {fields : List (String × Datum)}
    (h : entries value = .ok fields) : fields = value.fields := by
  cases value with
  | map entries =>
      cases h
      rfl
  | _ =>
      simp only [entries] at h
      split at h
      next =>
        cases h
        rfl
      next => cases h

theorem require_eq_ok_iff {place field : String} {value d : Datum} :
    require place field value = .ok d ↔ value.under field = d ∧ d.isNull = false := by
  cases value with
  | map entries =>
      rw [require, Datum.under, Datum.fields]
      cases Datum.lookup? field entries with
      | none =>
          simp only [Option.getD_none, reduceCtorEq, false_iff, not_and]
          rintro rfl
          simp [Datum.isNull]
      | some v =>
          dsimp only [Option.getD_some]
          cases null : v.isNull with
          | false =>
              simp only [Bool.false_eq_true, if_false, Except.ok.injEq]
              exact ⟨fun same => ⟨same, same ▸ null⟩, And.left⟩
          | true =>
              simp only [if_true, reduceCtorEq, false_iff, not_and]
              rintro rfl
              simp [null]
  | _ =>
      simp only [require, reduceCtorEq, false_iff, not_and]
      rintro rfl given
      obtain ⟨_, same⟩ := Datum.exists_eq_map_of_under (by simpa using given)
      cases same

/-- Items that are no texts are those of a list: a map has its keys, and a text its characters. -/
theorem items_eq_ok {value : Datum} {parts : List Datum} (h : items value = .ok parts)
    (others : ∀ part ∈ parts, ∀ s, part ≠ .text s) : parts = value.items := by
  have none {α : Type} {given : List α} {text : α → String}
      (same : parts = given.map fun a => .text (text a)) : parts = [] := by
    rw [same, List.map_eq_nil_iff, List.eq_nil_iff_forall_not_mem]
    exact fun a mem => others (.text (text a)) (same ▸ List.mem_map_of_mem mem) _ rfl
  cases value with
  | list items =>
      cases h
      rfl
  | map entries => exact none (Except.ok.inj h).symm
  | text s => exact none (Except.ok.inj h).symm
  | _ => cases h

/-! Variables. -/

theorem DescribesVariable.ne_text {part : Datum} {v : Variable} (h : DescribesVariable part v)
    (s : String) : part ≠ .text s := by
  obtain ⟨_, rfl⟩ := Datum.exists_eq_map_of_under h.given.1
  nofun

theorem fresh_of_any {before : List Variable} {symbol key : String} {e : Error}
    {rest : Except Error Variable} {v : Variable}
    (h : (if before.any fun w => w.symbol == symbol || w.key == key then .error e else rest) =
      .ok v) :
    (symbol ∉ before.map Variable.symbol ∧ key ∉ before.map Variable.key) ∧ rest = .ok v := by
  split at h
  next => cases h
  next fresh =>
    simp only [List.any_eq_true, Bool.or_eq_true, beq_iff_eq, not_exists, not_and, not_or] at fresh
    refine ⟨⟨?_, ?_⟩, h⟩
    · simpa using fun w hw => (fresh w hw).1
    · simpa using fun w hw => (fresh w hw).2

theorem variableOf_eq_ok {formula : String} {before : List Variable} {part : Datum} {v : Variable}
    (h : variableOf formula before part = .ok v) :
    DescribesVariable part v ∧ v.symbol ∉ before.map Variable.symbol ∧
      v.key ∉ before.map Variable.key := by
  obtain ⟨d, symbol, h⟩ := Except.bind_eq_ok_iff.mp h
  obtain ⟨fields, read, h⟩ := Except.bind_eq_ok_iff.mp h
  obtain rfl := entries_eq_ok read
  obtain ⟨fresh, h⟩ := fresh_of_any h
  obtain ⟨e, unit, same⟩ := Except.bind_eq_ok_iff.mp h
  cases same
  obtain ⟨rfl, symbol⟩ := require_eq_ok_iff.mp symbol
  obtain ⟨rfl, unit⟩ := require_eq_ok_iff.mp unit
  refine ⟨⟨⟨symbol, unit⟩, rfl, ?_, rfl, rfl, rfl⟩, fresh⟩
  unfold Datum.under
  cases Datum.lookup? "key" part.fields <;> rfl

theorem nodup_map_concat {α β : Type} {g : α → β} {before : List α} {a : α}
    (distinct : (before.map g).Nodup) (fresh : g a ∉ before.map g) :
    ((before ++ [a]).map g).Nodup := by
  rw [List.map_append, List.map_singleton, ← List.concat_eq_append]
  exact distinct.concat fresh

/-- The variables that are read after others describe their parts, and differ from each other and
from the others. -/
theorem foldlM_variableOf_eq_ok {formula : String} {parts : List Datum}
    {before found : List Variable}
    (h : parts.foldlM (fun before part => do .ok (before ++ [← variableOf formula before part]))
      before = .ok found) :
    (∃ added, found = before ++ added ∧ List.Forall₂ DescribesVariable parts added) ∧
      ((before.map Variable.symbol).Nodup → (found.map Variable.symbol).Nodup) ∧
      ((before.map Variable.key).Nodup → (found.map Variable.key).Nodup) := by
  induction parts generalizing before with
  | nil =>
      cases h
      exact ⟨⟨[], (List.append_nil _).symm, .nil⟩, id, id⟩
  | cons part rest ih =>
      rw [List.foldlM_cons] at h
      obtain ⟨longer, here, later⟩ := Except.bind_eq_ok_iff.mp h
      obtain ⟨v, read, same⟩ := Except.bind_eq_ok_iff.mp here
      cases same
      obtain ⟨described, symbol, key⟩ := variableOf_eq_ok read
      obtain ⟨⟨added, rfl, others⟩, symbols, keys⟩ := ih later
      refine ⟨⟨v :: added, List.append_assoc .., .cons described others⟩, fun distinct => ?_,
        fun distinct => ?_⟩
      · exact symbols (nodup_map_concat distinct symbol)
      · exact keys (nodup_map_concat distinct key)

theorem variablesOf_eq_ok {formula : String} {part : Datum} {vars : List Variable}
    (h : variablesOf formula part = .ok vars) :
    List.Forall₂ DescribesVariable (part.under "variables").items vars ∧ vars ≠ [] ∧
      (vars.map Variable.symbol).Nodup ∧ (vars.map Variable.key).Nodup := by
  obtain ⟨listed, given, reading⟩ := Except.bind_eq_ok_iff.mp h
  obtain ⟨rfl, -⟩ := require_eq_ok_iff.mp given
  obtain ⟨parts, read, folding⟩ := Except.bind_eq_ok_iff.mp reading
  obtain ⟨found, folded, h⟩ := Except.bind_eq_ok_iff.mp folding
  obtain ⟨⟨added, rfl, described⟩, symbols, keys⟩ := foldlM_variableOf_eq_ok folded
  split at h
  next => cases h
  next some =>
    cases h
    have others : ∀ d ∈ parts, ∀ s, d ≠ .text s := by
      intro d mem
      obtain ⟨v, -, here⟩ := described.exists_of_mem_left mem
      exact here.ne_text
    rw [items_eq_ok read others] at described
    exact ⟨described, by simpa using some, symbols List.nodup_nil, keys List.nodup_nil⟩

/-! Constants. -/

theorem constantOf_eq_ok {key : String} {value : Datum} {c : Constant}
    (h : constantOf key value = .ok c) : DescribesConstant (key, value) c := by
  unfold constantOf at h
  split at h
  next => cases h
  next => cases h
  next d given =>
    obtain ⟨rfl, -⟩ := require_eq_ok_iff.mp given
    obtain ⟨number, read, h⟩ := Except.bind_eq_ok_iff.mp h
    cases number with
    | none => cases h
    | some x =>
        obtain ⟨fields, opened, same⟩ := Except.bind_eq_ok_iff.mp h
        obtain rfl := entries_eq_ok opened
        cases same
        exact ⟨rfl, read, rfl, rfl⟩

theorem named_eq_ok {known : List Constant} {key : String} {other : Except Error Float} {x : Float}
    (h : (match known.find? (·.key == key) with
      | some c => Except.ok c.value
      | none => other) = .ok x) :
    (∃ c ∈ known, c.key = key ∧ c.value = x) ∨ (∀ c ∈ known, c.key ≠ key) ∧ other = .ok x := by
  split at h
  next c found =>
    cases h
    exact .inl ⟨c, List.mem_of_find?_eq_some found, by simpa using List.find?_some found, rfl⟩
  next none => exact .inr ⟨by simpa using none, h⟩

theorem constantValue_eq_ok {known : List Constant} {formula symbol : String} {value : Datum}
    {x : Float} (h : constantValue known formula symbol value = .ok x) :
    Denotes known value x := by
  cases value with
  | bool b => cases h
  | float y =>
      cases h
      exact .float x
  | int n =>
      simp only [constantValue] at h
      split at h
      next near =>
        cases h
        exact .int near
      next => cases h
  | text s =>
      obtain ⟨c, mem, key, rfl⟩ | ⟨unnamed, h⟩ := named_eq_ok h
      · exact .named rfl mem key
      · split at h
        next number =>
          cases h
          exact .written unnamed number
        next => cases h
  | _ =>
      obtain ⟨c, mem, key, rfl⟩ | ⟨-, h⟩ := named_eq_ok h
      · exact .named rfl mem key
      · cases h

theorem constantsOf_eq_ok {known : List Constant} {formula : String} {value : Datum}
    {constants : List (String × Float)}
    (h : constantsOf known formula value.fields = .ok constants) :
    List.Forall₂ (DescribesValue known) (value.under "constants").fields constants := by
  obtain ⟨given, opened, h⟩ := Except.bind_eq_ok_iff.mp h
  obtain rfl := entries_eq_ok opened
  refine (Except.mapM_eq_ok_iff.mp h).imp fun entry constant here => ?_
  obtain ⟨x, read, same⟩ := Except.bind_eq_ok_iff.mp here
  cases same
  exact ⟨rfl, constantValue_eq_ok read⟩

/-! Formulas. -/

theorem Describes.ne_text {known : List Constant} {entry : String × Datum} {f : Formula}
    (h : Describes known entry f) (s : String) : entry.2 ≠ .text s := by
  obtain ⟨_, same⟩ := Datum.exists_eq_map_of_under (h.given "id" (by simp))
  rw [same]
  nofun

theorem formulaOf_eq_ok {known : List Constant} {category : String} {part : Datum} {f : Formula}
    (h : formulaOf known category part = .ok f) :
    Describes known (category, part) f ∧ f.WellFormed := by
  obtain ⟨id, given, h⟩ := Except.bind_eq_ok_iff.mp h
  obtain ⟨rfl, hasId⟩ := require_eq_ok_iff.mp given
  obtain ⟨vars, read, h⟩ := Except.bind_eq_ok_iff.mp h
  obtain ⟨fields, opened, h⟩ := Except.bind_eq_ok_iff.mp h
  obtain rfl := entries_eq_ok opened
  obtain ⟨constants, valued, h⟩ := Except.bind_eq_ok_iff.mp h
  obtain ⟨described, nonempty, symbols, keys⟩ := variablesOf_eq_ok read
  dsimp only at h
  split at h
  next apart =>
    obtain ⟨name, named, h⟩ := Except.bind_eq_ok_iff.mp h
    obtain ⟨rfl, hasName⟩ := require_eq_ok_iff.mp named
    obtain ⟨equation, stated, h⟩ := Except.bind_eq_ok_iff.mp h
    obtain ⟨rfl, hasEquation⟩ := require_eq_ok_iff.mp stated
    cases h
    refine ⟨⟨?_, rfl, rfl, rfl, rfl, rfl, rfl, described, constantsOf_eq_ok valued⟩,
      nonempty, symbols, keys, ?_⟩
    · simp [hasId, hasName, hasEquation]
    · intro symbol mem
      obtain ⟨v, hv, rfl⟩ := List.mem_map.mp mem
      simp only [List.isEmpty_iff, List.filter_eq_nil_iff, List.any_eq_true, beq_iff_eq,
        not_exists, not_and] at apart
      rw [Formula.hasConstant, List.any_eq_false]
      intro constant hc same
      exact apart constant.1 (List.mem_map_of_mem hc) v hv (eq_of_beq same).symm
  next => cases h

theorem categoryOf_eq_ok {known : List Constant} {category : String × Datum}
    {formulas : List Formula} (h : categoryOf known category.1 category.2 = .ok formulas) :
    List.Forall₂ (Describes known) (categoryEntries category) formulas ∧
      ∀ f ∈ formulas, f.WellFormed := by
  obtain ⟨fields, opened, h⟩ := Except.bind_eq_ok_iff.mp h
  obtain rfl := entries_eq_ok opened
  rw [categoryEntries, Datum.under]
  split at h
  next absent =>
    cases h
    rw [absent]
    exact ⟨.nil, by simp⟩
  next listed given =>
    obtain ⟨parts, read, h⟩ := Except.bind_eq_ok_iff.mp h
    have each := (Except.mapM_eq_ok_iff.mp h).imp fun part f here => formulaOf_eq_ok here
    have others : ∀ part ∈ parts, ∀ s, part ≠ .text s := by
      intro part mem
      obtain ⟨f, -, described, -⟩ := each.exists_of_mem_left mem
      exact described.ne_text
    rw [given, Option.getD_some, ← items_eq_ok read others, List.forall₂_map_left_iff]
    refine ⟨each.imp fun _ _ => And.left, fun f hf => ?_⟩
    obtain ⟨part, -, -, wellFormed⟩ := each.flip.exists_of_mem_left hf
    exact wellFormed

/-! Documents. -/

theorem firstRepeated?_eq_none {before texts : List String} (h : firstRepeated? before texts = none) :
    texts.Nodup ∧ ∀ s ∈ texts, s ∉ before := by
  induction texts generalizing before with
  | nil => simp
  | cons s rest ih =>
      rw [firstRepeated?] at h
      split at h
      next => cases h
      next fresh =>
        obtain ⟨distinct, apart⟩ := ih h
        rw [List.contains_iff_mem] at fresh
        refine ⟨List.nodup_cons.mpr ⟨fun mem => apart s mem (List.mem_cons_self ..), distinct⟩, ?_⟩
        rintro t (_ | ⟨_, later⟩)
        · exact fresh
        · exact fun mem => apart t later (List.mem_cons_of_mem _ mem)

/-- A catalog that is read describes its document and has well-formed formulas, whose ids differ. -/
theorem ofDatum_eq_ok {document : Datum} {c : Catalog} (h : ofDatum document = .ok c) :
    List.Forall₂ DescribesConstant (document.under "constants").fields c.constants ∧
      List.Forall₂ (Describes c.constants) (formulaEntries document) c.formulas ∧
      (c.formulas.map Formula.id).Nodup ∧ ∀ f ∈ c.formulas, f.WellFormed := by
  unfold ofDatum at h
  split at h
  next fields =>
    obtain ⟨given, opened, reading⟩ := Except.bind_eq_ok_iff.mp h
    obtain rfl := entries_eq_ok opened
    obtain ⟨constants, read, listing⟩ := Except.bind_eq_ok_iff.mp reading
    obtain ⟨categories, listed, finding⟩ := Except.bind_eq_ok_iff.mp listing
    obtain rfl := entries_eq_ok listed
    obtain ⟨formulas, found, h⟩ := Except.bind_eq_ok_iff.mp finding
    have each := (Except.mapM_eq_ok_iff.mp found).imp fun category formulas here =>
      @categoryOf_eq_ok constants category formulas here
    split at h
    next => cases h
    next distinct =>
      cases h
      refine ⟨(Except.mapM_eq_ok_iff.mp read).imp fun _ _ => constantOf_eq_ok, ?_,
        (firstRepeated?_eq_none distinct).1, fun f hf => ?_⟩
      · rw [formulaEntries, List.flatMap_def]
        refine List.rel_flatten ?_
        rw [List.forall₂_map_left_iff]
        exact each.imp fun _ _ => And.left
      · obtain ⟨some, mem, hf⟩ := List.mem_flatten.mp hf
        obtain ⟨category, -, -, wellFormed⟩ := each.flip.exists_of_mem_left mem
        exact wellFormed f hf
  next => cases h

end Catalog

end Astrolabe
