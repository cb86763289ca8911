import Astrolabe.Proofs.Catalog.Described

/-!
Faults that escape the reading of a catalog. Most faults of a document are told as faults of the
catalog; a value that does not have what is read from it is not always noticed as one. Which it is
depends on the place where it stands, and on nothing going wrong before it.
-/

namespace Astrolabe

namespace Datum

/-- Whether a value has items: those of a list, the keys of a map or the characters of a text. -/
def hasItems : Datum → Bool
  | text _ | list _ | map _ => true
  | _ => false

/-- Whether a value has entries; whatever is empty has none to miss. -/
def hasEntries : Datum → Bool
  | map _ => true
  | value => value.isEmptyLike

end Datum

namespace Catalog

/-- Whether a fault is that of a value which does not have what is read from it. No message of the
catalog tells of it. -/
def Error.escapes : Error → Bool
  | .noItems | .noEntries | .tooLarge => true
  | _ => false

/-! Places of faults that escape. -/

/-- A value without fields in which a field is looked for: one in which nothing can be found, or a
text or list in which the word for the field is found and no field. -/
inductive Fieldless (field : String) : Datum → Prop
  | bare {value : Datum} (bare : value.hasItems = false) : Fieldless field value
  | text {s : String} (occurs : field.toList <:+: s.toList) : Fieldless field (.text s)
  | list {items : List Datum} (occurs : .text field ∈ items) : Fieldless field (.list items)

/-- The value of a constant of a formula: an integer beyond the doubles, or a value that is neither
a number nor a text and names no constant of the catalog. -/
inductive ValueFault (known : List Constant) : Datum → Error → Prop
  | tooLarge {n : Int} (beyond : Binary64.ofInt? n = none) : ValueFault known (.int n) .tooLarge
  | unnamed {value : Datum} (number : value.isNumber = false) (text : ∀ s, value ≠ .text s)
      (unnamed : ∀ c ∈ known, c.key ≠ value.asText) : ValueFault known value .noItems

/-- The variables of a formula that are read from parts of a document. -/
def variablesIn (formula : String) (parts : List Datum) : Except Error (List Variable) :=
  parts.foldlM (fun before part => do .ok (before ++ [← variableOf formula before part])) []

/-- The variables of a formula: a value without items, or an item without a symbol. -/
inductive VariablesFault (formula : String) (value : Datum) : Prop
  | bare (given : value.isNull = false) (bare : value.hasItems = false)
  | symbol {before after : List Datum} {part : Datum} {vars : List Variable}
      (parts : items value = .ok (before ++ part :: after))
      (read : variablesIn formula before = .ok vars) (fieldless : Fieldless "symbol" part)

/-- The constants of a formula: a value that is no map, or a fault in the value of a constant. -/
inductive ConstantsFault (known : List Constant) (formula : String) (given : Datum) : Error → Prop
  | shape (none : given.hasEntries = false) : ConstantsFault known formula given .noEntries
  | value {before after : List (String × Datum)} {symbol : String} {value : Datum} {e : Error}
      (entries : given.fields = before ++ (symbol, value) :: after)
      (earlier : ∀ entry ∈ before, ∃ x, constantValue known formula entry.1 entry.2 = .ok x)
      (fault : ValueFault known value e) : ConstantsFault known formula given e

/-- A formula of a category: one without an id, or with a fault in its variables or constants. -/
inductive FormulaFault (known : List Constant) (part : Datum) : Error → Prop
  | id (fieldless : Fieldless "id" part) : FormulaFault known part .noItems
  | variables (id : (part.under "id").isNull = false)
      (fault : VariablesFault (part.under "id").asText (part.under "variables")) :
      FormulaFault known part .noItems
  | constants {vars : List Variable} {e : Error} (id : (part.under "id").isNull = false)
      (read : variablesOf (part.under "id").asText part = .ok vars)
      (fault : ConstantsFault known (part.under "id").asText (part.under "constants") e) :
      FormulaFault known part e

/-- A category: a value that is no map, or one whose formulas have no items or a fault in one. -/
inductive CategoryFault (known : List Constant) (name : String) (value : Datum) : Error → Prop
  | shape (none : value.hasEntries = false) : CategoryFault known name value .noEntries
  | formulas {listed : Datum} (given : Datum.lookup? "formulas" value.fields = some listed)
      (bare : listed.hasItems = false) : CategoryFault known name value .noItems
  | formula {listed part : Datum} {before after : List Datum} {e : Error}
      (given : Datum.lookup? "formulas" value.fields = some listed)
      (parts : items listed = .ok (before ++ part :: after))
      (earlier : ∀ other ∈ before, ∃ f, formulaOf known name other = .ok f)
      (fault : FormulaFault known part e) : CategoryFault known name value e

/-- The constants of a document. -/
def constantsIn (document : Datum) : Except Error (List Constant) := do
  (← entries (document.under "constants")).mapM fun (key, value) => constantOf key value

/-- A document: constants or categories that are no map, a constant whose value is an integer beyond
the doubles, or a fault in a category. -/
inductive DocumentFault (document : Datum) : Error → Prop
  | constants (none : (document.under "constants").hasEntries = false) :
      DocumentFault document .noEntries
  | constant {before after : List (String × Datum)} {key : String} {value : Datum} {n : Int}
      (given : (document.under "constants").fields = before ++ (key, value) :: after)
      (earlier : ∀ entry ∈ before, ∃ c, constantOf entry.1 entry.2 = .ok c)
      (number : value.under "value" = .int n) (beyond : Binary64.ofInt? n = none) :
      DocumentFault document .tooLarge
  | categories {known : List Constant} (read : constantsIn document = .ok known)
      (none : (document.under "categories").hasEntries = false) :
      DocumentFault document .noEntries
  | category {known : List Constant} {before after : List (String × Datum)} {name : String}
      {value : Datum} {e : Error} (read : constantsIn document = .ok known)
      (given : (document.under "categories").fields = before ++ (name, value) :: after)
      (earlier : ∀ entry ∈ before, ∃ formulas, categoryOf known entry.1 entry.2 = .ok formulas)
      (fault : CategoryFault known name value e) : DocumentFault document e

/-! Computations that end with a fault that escapes. -/

/-- A computation ends with a fault that escapes. -/
def Escapes {α : Type} (x : Except Error α) (e : Error) : Prop :=
  x = .error e ∧ e.escapes = true

section

variable {α β : Type} {e : Error}

theorem not_escapes_ok {a : α} : ¬Escapes (.ok a) e :=
  fun h => nomatch h.1

/-- A fault that is told as one of the catalog does not escape. -/
theorem not_escapes_error {told : Error} (h : told.escapes = false) :
    ¬Escapes (.error told : Except Error α) e := by
  rintro ⟨same, escapes⟩
  cases same
  exact Bool.false_ne_true (h.symm.trans escapes)

theorem escapes_error_iff {fault : Error} (h : fault.escapes = true) :
    Escapes (.error fault : Except Error α) e ↔ e = fault := by
  constructor
  · rintro ⟨same, -⟩
    exact (Except.error.inj same).symm
  · rintro rfl
    exact ⟨rfl, h⟩

theorem escapes_ite_iff {p : Prop} [Decidable p] {told : Error} (h : told.escapes = false)
    {x : Except Error α} : Escapes (if p then .error told else x) e ↔ ¬p ∧ Escapes x e := by
  by_cases hp : p
  · rw [if_pos hp]
    exact ⟨fun here => absurd here (not_escapes_error h), fun here => absurd hp here.1⟩
  · rw [if_neg hp]
    exact (and_iff_right hp).symm

theorem escapes_bind_iff {x : Except Error α} {next : α → Except Error β} :
    Escapes (x >>= next) e ↔ Escapes x e ∨ ∃ a, x = .ok a ∧ Escapes (next a) e := by
  rw [Escapes, Except.bind_eq_error_iff]
  constructor
  · rintro ⟨here | ⟨a, ok, later⟩, escapes⟩
    · exact .inl ⟨here, escapes⟩
    · exact .inr ⟨a, ok, later, escapes⟩
  · rintro (⟨here, escapes⟩ | ⟨a, ok, later, escapes⟩)
    · exact ⟨.inl here, escapes⟩
    · exact ⟨.inr ⟨a, ok, later⟩, escapes⟩

/-- What only repacks a result adds no fault. -/
theorem escapes_map_iff {x : Except Error α} {g : α → β} :
    Escapes (x >>= fun a => .ok (g a)) e ↔ Escapes x e := by
  rw [Escapes, Except.bind_ok_eq_error_iff, Escapes]

theorem escapes_mapM_iff {g : α → Except Error β} {items : List α} :
    Escapes (items.mapM g) e ↔
      ∃ before a after, items = before ++ a :: after ∧ (∀ b ∈ before, ∃ y, g b = .ok y) ∧
        Escapes (g a) e := by
  rw [Escapes, Except.mapM_eq_error_iff]
  constructor
  · rintro ⟨⟨before, a, after, same, earlier, failed⟩, escapes⟩
    exact ⟨before, a, after, same, earlier, failed, escapes⟩
  · rintro ⟨before, a, after, same, earlier, failed, escapes⟩
    exact ⟨⟨before, a, after, same, earlier, failed⟩, escapes⟩

theorem escapes_foldlM_iff {g : β → α → Except Error β} {items : List α} {start : β} :
    Escapes (items.foldlM g start) e ↔
      ∃ before a after reached, items = before ++ a :: after ∧
        before.foldlM g start = .ok reached ∧ Escapes (g reached a) e := by
  rw [Escapes, Except.foldlM_eq_error_iff]
  constructor
  · rintro ⟨⟨before, a, after, reached, same, run, failed⟩, escapes⟩
    exact ⟨before, a, after, reached, same, run, failed, escapes⟩
  · rintro ⟨before, a, after, reached, same, run, failed, escapes⟩
    exact ⟨⟨before, a, after, reached, same, run, failed⟩, escapes⟩

end

/-! Reading values. -/

variable {e : Error}

theorem items_escapes_iff {value : Datum} :
    Escapes (items value) e ↔ e = .noItems ∧ value.hasItems = false := by
  cases value with
  | list _ | map _ | text _ => exact ⟨fun h => absurd h not_escapes_ok, nofun⟩
  | _ => exact (escapes_error_iff rfl).trans (and_iff_left rfl).symm

theorem entries_escapes_iff {value : Datum} :
    Escapes (entries value) e ↔ e = .noEntries ∧ value.hasEntries = false := by
  cases value with
  | map _ => exact ⟨fun h => absurd h not_escapes_ok, nofun⟩
  | _ =>
      simp only [entries, Datum.hasEntries]
      split
      next empty => simp [not_escapes_ok, empty]
      next some => simpa [some] using escapes_error_iff rfl

theorem not_fieldless_map {field : String} {fields : List (String × Datum)} :
    ¬Fieldless field (.map fields) := by
  rintro (bare | _ | _)
  cases bare

theorem require_escapes_iff {place field : String} {value : Datum} :
    Escapes (require place field value) e ↔ e = .noItems ∧ Fieldless field value := by
  have whenFound (found : Bool) :
      Escapes (.error (if found then .noItems else .missingField place field) :
        Except Error Datum) e ↔ e = .noItems ∧ found = true := by
    cases found with
    | true => exact (escapes_error_iff rfl).trans (and_iff_left rfl).symm
    | false => exact ⟨fun h => absurd h (not_escapes_error rfl), nofun⟩
  cases value with
  | map fields =>
      refine ⟨fun h => absurd h ?_, fun h => absurd h.2 not_fieldless_map⟩
      rw [require]
      split
      next v _ =>
        split
        next => exact not_escapes_error rfl
        next => exact not_escapes_ok
      next => exact not_escapes_error rfl
  | text s =>
      refine (whenFound _).trans (and_congr_right fun _ => ?_)
      rw [occurs_iff]
      refine ⟨.text, ?_⟩
      rintro (bare | occurs | _)
      · cases bare
      · exact occurs
  | list items =>
      refine (whenFound _).trans (and_congr_right fun _ => ?_)
      rw [List.any_eq_true]
      constructor
      · rintro ⟨item, mem, same⟩
        cases item with
        | text s => exact .list (eq_of_beq same ▸ mem)
        | _ => cases same
      · rintro (bare | _ | occurs)
        · cases bare
        · exact ⟨_, occurs, beq_self_eq_true _⟩
  | _ => exact (escapes_error_iff rfl).trans (and_iff_left (.bare rfl)).symm

/-- In a map a field that is missing or null is told. -/
theorem not_escapes_require_map {place field : String} {fields : List (String × Datum)} :
    ¬Escapes (require place field (.map fields)) e :=
  fun h => not_fieldless_map (require_escapes_iff.mp h).2

theorem not_escapes_entries_map {fields : List (String × Datum)} :
    ¬Escapes (entries (.map fields)) e :=
  not_escapes_ok

/-! Variables. -/

theorem variableOf_escapes_iff {formula : String} {before : List Variable} {part : Datum} :
    Escapes (variableOf formula before part) e ↔ e = .noItems ∧ Fieldless "symbol" part := by
  rw [variableOf, escapes_bind_iff, require_escapes_iff]
  refine or_iff_left ?_
  rintro ⟨d, given, later⟩
  obtain ⟨rfl, some⟩ := require_eq_ok_iff.mp given
  -- what has a symbol is a map, and whatever else a map lacks is told
  obtain ⟨fields, rfl⟩ := Datum.exists_eq_map_of_under some
  obtain here | ⟨_, -, later⟩ := escapes_bind_iff.mp later
  · exact not_escapes_entries_map here
  · obtain ⟨-, later⟩ := (escapes_ite_iff rfl).mp later
    exact not_escapes_require_map (escapes_map_iff.mp later)

theorem variablesOf_escapes_iff {formula : String} {fields : List (String × Datum)} :
    Escapes (variablesOf formula (.map fields)) e ↔
      e = .noItems ∧ VariablesFault formula ((Datum.map fields).under "variables") := by
  rw [variablesOf, escapes_bind_iff, or_iff_right not_escapes_require_map]
  constructor
  · rintro ⟨value, given, reading⟩
    obtain ⟨rfl, some⟩ := require_eq_ok_iff.mp given
    obtain here | ⟨parts, read, folding⟩ := escapes_bind_iff.mp reading
    · obtain ⟨rfl, bare⟩ := items_escapes_iff.mp here
      exact ⟨rfl, .bare some bare⟩
    · obtain here | ⟨vars, -, later⟩ := escapes_bind_iff.mp folding
      · obtain ⟨before, part, after, vars, rfl, earlier, here⟩ := escapes_foldlM_iff.mp here
        obtain ⟨rfl, fieldless⟩ := variableOf_escapes_iff.mp (escapes_map_iff.mp here)
        exact ⟨rfl, .symbol read earlier fieldless⟩
      · exact absurd ((escapes_ite_iff rfl).mp later).2 not_escapes_ok
  · rintro ⟨rfl, fault⟩
    cases fault with
    | bare given bare =>
        exact ⟨_, require_eq_ok_iff.mpr ⟨rfl, given⟩,
          escapes_bind_iff.mpr (.inl (items_escapes_iff.mpr ⟨rfl, bare⟩))⟩
    | @symbol before after part vars parts read fieldless =>
        have given : ((Datum.map fields).under "variables").isNull = false := by
          cases value : (Datum.map fields).under "variables" with
          | null =>
              rw [value] at parts
              cases parts
          | _ => rfl
        refine ⟨_, require_eq_ok_iff.mpr ⟨rfl, given⟩, escapes_bind_iff.mpr (.inr ⟨_, parts, ?_⟩)⟩
        refine escapes_bind_iff.mpr (.inl (escapes_foldlM_iff.mpr ?_))
        exact ⟨before, part, after, vars, rfl, read,
          escapes_map_iff.mpr (variableOf_escapes_iff.mpr ⟨rfl, fieldless⟩)⟩

/-! Constants. -/

theorem numberOf?_escapes_iff {value : Datum} :
    Escapes (numberOf? value) e ↔
      e = .tooLarge ∧ ∃ n, value = .int n ∧ Binary64.ofInt? n = none := by
  cases value with
  | int n =>
      cases beyond : Binary64.ofInt? n with
      | some x => simp [numberOf?, beyond, not_escapes_ok]
      | none => simpa [numberOf?, beyond] using escapes_error_iff rfl
  | _ => simp [numberOf?, not_escapes_ok]

/-- A value that is no number is told for a constant of the catalog. -/
theorem constantOf_escapes_iff {key : String} {value : Datum} :
    Escapes (constantOf key value) e ↔
      e = .tooLarge ∧ ∃ n, value.under "value" = .int n ∧ Binary64.ofInt? n = none := by
  have unread {place : String} {fault : Error} (failed : require place "value" value = .error fault) :
      ¬∃ n, value.under "value" = .int n ∧ Binary64.ofInt? n = none := by
    rintro ⟨n, given, -⟩
    have read : require place "value" value = .ok (.int n) := require_eq_ok_iff.mpr ⟨given, rfl⟩
    cases failed.symm.trans read
  rw [constantOf]
  split
  -- a value without fields is told as one that is no number
  next failed =>
    exact ⟨fun h => absurd h (not_escapes_error rfl), fun h => absurd h.2 (unread failed)⟩
  next fault other failed =>
    have told : ¬Escapes (.error fault : Except Error Constant) e := by
      rintro ⟨same, escapes⟩
      cases same
      exact other (require_escapes_iff.mp ⟨failed, escapes⟩).1
    exact ⟨fun h => absurd h told, fun h => absurd h.2 (unread failed)⟩
  next v given =>
    obtain ⟨rfl, some⟩ := require_eq_ok_iff.mp given
    obtain ⟨fields, rfl⟩ := Datum.exists_eq_map_of_under some
    rw [← numberOf?_escapes_iff, escapes_bind_iff]
    refine or_iff_left ?_
    rintro ⟨number, -, later⟩
    cases number with
    | none => exact not_escapes_error rfl later
    | some x => exact not_escapes_entries_map (escapes_map_iff.mp later)

theorem escapes_named_iff {known : List Constant} {key : String} {other : Except Error Float} :
    Escapes (match known.find? (·.key == key) with
      | some c => .ok c.value
      | none => other) e ↔ (∀ c ∈ known, c.key ≠ key) ∧ Escapes other e := by
  cases found : known.find? (·.key == key) with
  | some c =>
      refine ⟨fun h => absurd h not_escapes_ok, fun h => ?_⟩
      exact absurd (by simpa using List.find?_some found)
        (h.1 c (List.mem_of_find?_eq_some found))
  | none =>
      have unnamed : ∀ c ∈ known, c.key ≠ key := by simpa using found
      exact (and_iff_right unnamed).symm

theorem constantValue_escapes_iff {known : List Constant} {formula symbol : String}
    {value : Datum} :
    Escapes (constantValue known formula symbol value) e ↔ ValueFault known value e := by
  cases value with
  | bool b =>
      refine ⟨fun h => absurd h (not_escapes_error rfl), ?_⟩
      rintro (_ | ⟨number, -, -⟩)
      cases number
  | float x =>
      refine ⟨fun h => absurd h not_escapes_ok, ?_⟩
      rintro (_ | ⟨number, -, -⟩)
      cases number
  | int n =>
      simp only [constantValue]
      cases beyond : Binary64.ofInt? n with
      | some x =>
          refine ⟨fun h => absurd h not_escapes_ok, ?_⟩
          rintro (⟨none⟩ | ⟨number, -, -⟩)
          · cases beyond.symm.trans none
          · cases number
      | none =>
          refine (escapes_error_iff rfl).trans ⟨?_, ?_⟩
          · rintro rfl
            exact .tooLarge beyond
          · rintro (_ | ⟨number, -, -⟩)
            · rfl
            · cases number
  | text s =>
      refine ⟨fun h => absurd (escapes_named_iff.mp h).2 ?_, ?_⟩
      · split
        next => exact not_escapes_ok
        next => exact not_escapes_error rfl
      · rintro (_ | ⟨-, text, -⟩)
        exact absurd rfl (text s)
  | _ =>
      refine escapes_named_iff.trans ?_
      rw [escapes_error_iff rfl]
      constructor
      · rintro ⟨unnamed, rfl⟩
        exact .unnamed rfl (fun s same => by cases same) unnamed
      · rintro (_ | ⟨-, -, unnamed⟩)
        exact ⟨unnamed, rfl⟩

/-! Entries one after the other. -/

theorem entries_of_hasEntries {value : Datum} (h : value.hasEntries = true) :
    entries value = .ok value.fields := by
  cases value with
  | map fields => rfl
  | _ =>
      simp only [Datum.hasEntries] at h
      simp [entries, h, Datum.fields]

theorem hasEntries_of_mem_fields {value : Datum} {entry : String × Datum}
    (mem : entry ∈ value.fields) : value.hasEntries = true := by
  cases value with
  | map fields => rfl
  | _ => cases mem

theorem mapM_entries_escapes_iff {β : Type} {value : Datum}
    {g : String × Datum → Except Error β} :
    Escapes (entries value >>= fun given => given.mapM g) e ↔
      (e = .noEntries ∧ value.hasEntries = false) ∨
        ∃ before entry after, value.fields = before ++ entry :: after ∧
          (∀ b ∈ before, ∃ y, g b = .ok y) ∧ Escapes (g entry) e := by
  rw [escapes_bind_iff, entries_escapes_iff]
  refine or_congr_right ?_
  constructor
  · rintro ⟨given, read, failed⟩
    obtain rfl := entries_eq_ok read
    exact escapes_mapM_iff.mp failed
  · intro failed
    obtain ⟨before, entry, after, same, -⟩ := id failed
    have mem : entry ∈ value.fields := by simp [same]
    exact ⟨_, entries_of_hasEntries (hasEntries_of_mem_fields mem), escapes_mapM_iff.mpr failed⟩

theorem constantsOf_escapes_iff {known : List Constant} {formula : String} {part : Datum} :
    Escapes (constantsOf known formula part.fields) e ↔
      ConstantsFault known formula (part.under "constants") e := by
  refine mapM_entries_escapes_iff.trans ?_
  constructor
  · rintro (⟨rfl, none⟩ | ⟨before, entry, after, given, earlier, fault⟩)
    · exact .shape none
    · refine .value given (fun b mem => ?_)
        (constantValue_escapes_iff.mp (escapes_map_iff.mp fault))
      obtain ⟨_, ok⟩ := earlier b mem
      obtain ⟨x, ok, -⟩ := Except.bind_eq_ok_iff.mp ok
      exact ⟨x, ok⟩
  · rintro (none | ⟨given, earlier, fault⟩)
    · exact .inl ⟨rfl, none⟩
    · refine .inr ⟨_, _, _, given, fun b mem => ?_,
        escapes_map_iff.mpr (constantValue_escapes_iff.mpr fault)⟩
      obtain ⟨x, ok⟩ := earlier b mem
      exact ⟨_, Except.bind_eq_ok_iff.mpr ⟨x, ok, rfl⟩⟩

/-! Formulas. -/

/-- Once the constants are read, whatever is wrong with a formula is told. -/
theorem formulaOf_escapes_iff {known : List Constant} {category : String} {part : Datum} :
    Escapes (formulaOf known category part) e ↔ FormulaFault known part e := by
  rw [formulaOf, escapes_bind_iff, require_escapes_iff]
  constructor
  · rintro (⟨rfl, fieldless⟩ | ⟨d, given, later⟩)
    · exact .id fieldless
    obtain ⟨rfl, id⟩ := require_eq_ok_iff.mp given
    -- what has an id is a map, so that a fault escapes from its variables and constants only
    obtain ⟨fields, rfl⟩ := Datum.exists_eq_map_of_under id
    obtain here | ⟨vars, read, later⟩ := escapes_bind_iff.mp later
    · obtain ⟨rfl, fault⟩ := variablesOf_escapes_iff.mp here
      exact .variables id fault
    obtain here | ⟨_, opened, later⟩ := escapes_bind_iff.mp later
    · exact absurd here not_escapes_entries_map
    obtain rfl := entries_eq_ok opened
    obtain here | ⟨constants, -, later⟩ := escapes_bind_iff.mp later
    · exact .constants id read (constantsOf_escapes_iff.mp here)
    dsimp only at later
    split at later
    next =>
      obtain here | ⟨_, -, later⟩ := escapes_bind_iff.mp later
      · exact absurd here not_escapes_require_map
      · exact absurd (escapes_map_iff.mp later) not_escapes_require_map
    next => exact absurd later (not_escapes_error rfl)
  · rintro (fieldless | ⟨id, fault⟩ | ⟨id, read, fault⟩)
    · exact .inl ⟨rfl, fieldless⟩
    all_goals
      obtain ⟨fields, rfl⟩ := Datum.exists_eq_map_of_under id
      refine .inr ⟨_, require_eq_ok_iff.mpr ⟨rfl, id⟩, escapes_bind_iff.mpr ?_⟩
    · exact .inl (variablesOf_escapes_iff.mpr ⟨rfl, fault⟩)
    · refine .inr ⟨_, read, escapes_bind_iff.mpr (.inr ⟨fields, rfl, escapes_bind_iff.mpr ?_⟩)⟩
      exact .inl (constantsOf_escapes_iff.mpr fault)

theorem categoryOf_escapes_iff {known : List Constant} {name : String} {value : Datum} :
    Escapes (categoryOf known name value) e ↔ CategoryFault known name value e := by
  rw [categoryOf, escapes_bind_iff, entries_escapes_iff]
  constructor
  · rintro (⟨rfl, none⟩ | ⟨fields, opened, later⟩)
    · exact .shape none
    obtain rfl := entries_eq_ok opened
    split at later
    next => exact absurd later not_escapes_ok
    next listed given =>
      obtain here | ⟨parts, read, later⟩ := escapes_bind_iff.mp later
      · obtain ⟨rfl, bare⟩ := items_escapes_iff.mp here
        exact .formulas given bare
      · obtain ⟨before, part, after, rfl, earlier, fault⟩ := escapes_mapM_iff.mp later
        exact .formula given read earlier (formulaOf_escapes_iff.mp fault)
  · have opened {listed : Datum} (given : Datum.lookup? "formulas" value.fields = some listed) :
        entries value = .ok value.fields :=
      entries_of_hasEntries (hasEntries_of_mem_fields (Datum.mem_of_lookup? given))
    rintro (none | ⟨given, bare⟩ | ⟨given, parts, earlier, fault⟩)
    · exact .inl ⟨rfl, none⟩
    all_goals
      refine .inr ⟨_, opened given, ?_⟩
      rw [given]
      refine escapes_bind_iff.mpr ?_
    · exact .inl (items_escapes_iff.mpr ⟨rfl, bare⟩)
    · refine .inr ⟨_, parts, escapes_mapM_iff.mpr ?_⟩
      exact ⟨_, _, _, rfl, earlier, formulaOf_escapes_iff.mpr fault⟩

/-- The formulas of a document, by category. -/
def formulasIn (known : List Constant) (document : Datum) : Except Error (List (List Formula)) := do
  (← entries (document.under "categories")).mapM fun (name, value) => categoryOf known name value

theorem ofDatum_map {fields : List (String × Datum)} :
    ofDatum (.map fields) = (do
      let constants ← constantsIn (.map fields)
      let formulas ← formulasIn constants (.map fields)
      match firstRepeated? [] (formulas.flatten.map Formula.id) with
      | some id => .error (.repeatedFormula id)
      | none => .ok ⟨constants, formulas.flatten⟩) := by
  simp only [ofDatum, constantsIn, formulasIn, bind_assoc]
  rfl

theorem constantsIn_escapes_iff {document : Datum} : Escapes (constantsIn document) e ↔
    (e = .noEntries ∧ (document.under "constants").hasEntries = false) ∨
      ∃ before key value after,
        (document.under "constants").fields = before ++ (key, value) :: after ∧
        (∀ entry ∈ before, ∃ c, constantOf entry.1 entry.2 = .ok c) ∧ e = .tooLarge ∧
        ∃ n, value.under "value" = .int n ∧ Binary64.ofInt? n = none := by
  simp only [constantsIn, mapM_entries_escapes_iff, constantOf_escapes_iff, Prod.exists]

theorem formulasIn_escapes_iff {known : List Constant} {document : Datum} :
    Escapes (formulasIn known document) e ↔
      (e = .noEntries ∧ (document.under "categories").hasEntries = false) ∨
        ∃ before name value after,
          (document.under "categories").fields = before ++ (name, value) :: after ∧
          (∀ entry ∈ before, ∃ formulas, categoryOf known entry.1 entry.2 = .ok formulas) ∧
          CategoryFault known name value e := by
  simp only [formulasIn, mapM_entries_escapes_iff, categoryOf_escapes_iff, Prod.exists]

/-- A document is read to a catalog or refused with a fault of the catalog that is told, except
where a fault of the document escapes. -/
theorem ofDatum_escapes_iff (document : Datum) (e : Error) :
    (ofDatum document = .error e ∧ e.escapes = true) ↔ DocumentFault document e := by
  cases document with
  | map fields =>
      rw [ofDatum_map, ← Escapes, escapes_bind_iff, constantsIn_escapes_iff]
      constructor
      · rintro ((⟨rfl, none⟩ | ⟨before, key, value, after, given, earlier, rfl, n, number, beyond⟩) |
          ⟨known, read, later⟩)
        · exact .constants none
        · exact .constant given earlier number beyond
        obtain here | ⟨formulas, -, later⟩ := escapes_bind_iff.mp later
        · obtain ⟨rfl, none⟩ | ⟨before, name, value, after, given, earlier, fault⟩ :=
            formulasIn_escapes_iff.mp here
          · exact .categories read none
          · exact .category read given earlier fault
        · split at later
          next => exact absurd later (not_escapes_error rfl)
          next => exact absurd later not_escapes_ok
      · rintro (none | ⟨given, earlier, number, beyond⟩ | ⟨read, none⟩ |
          ⟨read, given, earlier, fault⟩)
        · exact .inl (.inl ⟨rfl, none⟩)
        · exact .inl (.inr ⟨_, _, _, _, given, earlier, rfl, _, number, beyond⟩)
        all_goals refine .inr ⟨_, read, escapes_bind_iff.mpr (.inl (formulasIn_escapes_iff.mpr ?_))⟩
        · exact .inl ⟨rfl, none⟩
        · exact .inr ⟨_, _, _, _, given, earlier, fault⟩
  | _ =>
      refine ⟨fun h => absurd h (not_escapes_error rfl), fun h => ?_⟩
      rcases h with none | ⟨given, -, -, -⟩ | ⟨-, none⟩ | ⟨-, given, -, -⟩
      · cases none
      · simp [Datum.under, Datum.fields, Datum.lookup?] at given
      · cases none
      · simp [Datum.under, Datum.fields, Datum.lookup?] at given

/-- Where the formulas of a category are nothing, the fault escapes. -/
theorem nullFormulas_escapes :
    ofDatum (.map [("categories", .map [("Test", .map [("formulas", .null)])])]) =
      .error .noItems ∧ Error.noItems.escapes = true :=
  ⟨rfl, rfl⟩

end Catalog

end Astrolabe
