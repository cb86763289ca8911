import Astrolabe.Proofs.Resolution.Warnings
import Astrolabe.Proofs.Unit.Alternatives
import Astrolabe.Service.Routes

/-!
Fields as they are offered. The service tells the units in which a variable may be typed in, with
its formula and for its unit. What is typed into such fields is converted, unless it has a degree
mark: that makes radians of it, whatever the field.
-/

namespace Astrolabe

namespace Service

/-- The units that are told under a key. -/
def toldUnits (key : String) (told : Datum) : List String :=
  (told.under key).items.map Datum.asText

/-- A unit that the service offers for a variable: one that it tells with the formula, or one that
it tells for the unit of the variable. -/
inductive Offers (s : Solver) (id : String) (v : Variable) (unit : String) : Prop
  | formula {told part : Datum} (answered : answer s none (.formula id) = .ok (.ok told))
      (among : part ∈ (told.under "variables").items)
      (symbol : part.under "symbol" = .text v.symbol) (canonical : part.under "unit" = .text v.unit)
      (offered : unit ∈ toldUnits "alternative_units" part) : Offers s id v unit
  | unit {told : Datum} (answered : answer s none (.unit v.unit) = .ok (.ok told))
      (offered : unit ∈ toldUnits "alternatives" told) : Offers s id v unit

/-- What is told about a variable with a formula. -/
def toldVariable (v : Variable) (units : List String) : Datum :=
  .map [("symbol", .text v.symbol), ("name", .text v.name), ("unit", .text v.unit),
    ("description", .text v.description), ("alternative_units", .list (units.map .text))]

theorem items_describeFormula (f : Formula) :
    ((describeFormula f).under "variables").items =
      f.vars.map fun v => toldVariable v (Unit.alternatives v.unit) :=
  rfl

/-- What is told about a unit. -/
def toldUnit (name : String) (units : List String) : Datum :=
  .map [("unit", .text name), ("alternatives", .list (units.map .text))]

theorem toldUnits_toldUnit (name : String) (units : List String) :
    toldUnits "alternatives" (toldUnit name units) = units := by
  have told : ((toldUnit name units).under "alternatives").items = units.map Datum.text := rfl
  rw [toldUnits, told, List.map_map]
  exact List.map_id units

theorem toldUnits_toldVariable (v : Variable) (units : List String) :
    toldUnits "alternative_units" (toldVariable v units) = units := by
  have told : ((toldVariable v units).under "alternative_units").items = units.map Datum.text := rfl
  rw [toldUnits, told, List.map_map]
  exact List.map_id units

theorem answer_unit (s : Solver) (name : String) :
    answer s none (.unit name) = .ok (.ok (toldUnit name (Unit.alternatives name))) :=
  rfl

theorem answer_formula {s : Solver} {id : String} {told : Datum}
    (answered : answer s none (.formula id) = .ok (.ok told)) : ∃ f, told = describeFormula f := by
  rw [answer] at answered
  split at answered
  next f found => exact ⟨f, (congrArg Response.body (Except.ok.inj answered)).symm⟩
  next => cases congrArg Response.status (Except.ok.inj answered)

/-- Whatever is offered is one of the units for the field. -/
theorem Offers.mem_alternatives {s : Solver} {id : String} {v : Variable} {unit : String}
    (h : Offers s id v unit) : unit ∈ Unit.alternatives v.unit := by
  cases h with
  | formula answered among symbol canonical offered =>
      obtain ⟨f, rfl⟩ := answer_formula answered
      rw [items_describeFormula] at among
      obtain ⟨w, -, rfl⟩ := List.mem_map.mp among
      have same : w.unit = v.unit := Datum.text.inj canonical
      rwa [toldUnits_toldVariable, same] at offered
  | unit answered offered =>
      rw [answer_unit] at answered
      have same := congrArg Response.body (Except.ok.inj answered)
      dsimp only [Response.ok] at same
      rwa [← same, toldUnits_toldUnit] at offered

/-- The units for the field are offered. -/
theorem offers_of_mem_alternatives {v : Variable} {unit : String}
    (mem : unit ∈ Unit.alternatives v.unit) (s : Solver) (id : String) : Offers s id v unit := by
  refine .unit (answer_unit s v.unit) ?_
  rwa [toldUnits_toldUnit]

end Service

namespace Unit

/-- What a unit measures, if it has a rule. -/
def measures (name : String) : Option Dimension :=
  (rule? name).map Rule.dimension

theorem radians_measures : measures "radians" = some .angle := by
  rw [measures, rule?, normalizedTable, normalize_eq_smallName]
  decide +kernel

/-- Radians convert to angles. -/
theorem isSome_convert_radians (x : Float) (unit : String) :
    (convert x "radians" unit).isSome = true ↔ measures unit = some .angle := by
  obtain ⟨r, rule, angle⟩ := Option.map_eq_some_iff.mp radians_measures
  rw [convert, convertBy]
  split
  next same =>
    rw [measures, ← rule?_of_sameName same, rule, Option.map_some, angle]
    exact iff_of_true rfl rfl
  next =>
    rw [rule, measures]
    cases rule? unit with
    | none => exact iff_of_false Bool.false_ne_true (Option.some_ne_none _ ∘ Eq.symm)
    | some t =>
        dsimp only
        by_cases alike : r.compatible t = true
        · rw [if_pos alike, Option.map_some, ← Rule.compatible_iff.mp alike, angle]
          exact iff_of_true rfl rfl
        · rw [if_neg alike, Option.map_some, Option.some.injEq]
          refine iff_of_false Bool.false_ne_true fun other => alike ?_
          rw [Rule.compatible_iff, angle, other]

/-- A value that is converted without a step on record has a conversion. -/
theorem isSome_convert_of_toCanonical {x : Float} {source canonical : String}
    (h : (toCanonical x source canonical).2 = []) : (convert x source canonical).isSome = true := by
  rw [toCanonical_eq] at h
  cases converted : convert x source canonical with
  | some y => rfl
  | none =>
      rw [converted] at h
      cases h

end Unit

/-- A field in another unit than the canonical one is one of those that were given. -/
theorem Selection.unit_of_ofInput {canonical : String} {d : Datum} {selection : Selection}
    (h : ofInput canonical d = some selection) :
    (∃ fields, d = .map fields ∧ (selection.unit, selection.entry) ∈ fields) ∨
      selection.unit = canonical := by
  by_cases several : ∃ fields, d = .map fields
  · obtain ⟨fields, rfl⟩ := several
    exact .inl ⟨fields, rfl, mem_of_ofFields h⟩
  · rw [ofInput_of_not_map several, Option.ite_none_left_eq_some] at h
    obtain ⟨-, same⟩ := h
    cases same
    exact .inr rfl

namespace Solver

open Service

/-- Inputs of which every field that is filled was offered, or is a respelling of one that was. -/
def FillsOffered (s : Solver) (id : String) (f : Formula) (inputs : List (String × Datum)) : Prop :=
  ∀ v ∈ f.vars, ∀ fields, Datum.lookup? v.symbol inputs = some (.map fields) →
    ∀ field ∈ fields, Entry.isBlank field.2 = false →
      ∃ unit, Offers s id v unit ∧ Text.Respelled unit field.1

variable {s : Solver} {id : String} {f : Formula} {inputs : List (String × Datum)}

/-- The unit of a selected field is the canonical one or a respelling of one that was offered. -/
theorem FillsOffered.selected (h : FillsOffered s id f inputs) {v : Variable}
    {selection : Selection} (mem : (v, selection) ∈ selections f inputs) :
    ∃ unit ∈ Unit.alternatives v.unit, Text.Respelled unit selection.unit := by
  obtain ⟨member, found⟩ := mem_selections_iff.mp mem
  have filled := Selection.not_isBlank_of_ofInput found
  obtain ⟨fields, given, among⟩ | canonical := Selection.unit_of_ofInput found
  · have lookup : Datum.lookup? v.symbol inputs = some (.map fields) := by
      cases entry : Datum.lookup? v.symbol inputs with
      | some d =>
          rw [entry] at given
          exact congrArg some given
      | none =>
          rw [entry] at given
          cases given
    obtain ⟨unit, offered, spelled⟩ := h v member fields lookup _ among filled
    exact ⟨unit, offered.mem_alternatives, spelled⟩
  · refine ⟨v.unit, ?_, canonical ▸ Text.Respelled.refl _⟩
    rw [Unit.alternatives_eq]
    exact List.mem_cons_self

/-- What is typed into an offered field is warned of just where it has a degree mark and its
variable is no angle. -/
theorem FillsOffered.warning?_iff (h : FillsOffered s id f inputs) {r : Reading}
    (mem : r.field ∈ selections f inputs) :
    r.warning?.isSome = true ↔ Entry.hasDegreeMark r.selection.entry = true ∧
      Unit.measures r.quantity.unit ≠ some .angle := by
  have told : r.warning?.isSome = !r.converted?.isSome := by
    rw [Reading.warning?]
    cases r.converted? <;> rfl
  rw [told, Bool.not_eq_true', Bool.eq_false_iff, Reading.converted?]
  by_cases marked : Entry.hasDegreeMark r.selection.entry = true
  · rw [sourceUnit, if_pos marked, Ne, Unit.isSome_convert_radians]
    exact (and_iff_right marked).symm
  · obtain ⟨unit, offered, spelled⟩ := h.selected mem
    rw [sourceUnit, if_neg marked]
    refine iff_of_false (fun none => none ?_) fun both => marked both.1
    exact Unit.isSome_convert_of_toCanonical (Unit.toCanonical_of_offered offered spelled _)

/-- The units for a quantity begin with its own unit, no two of them are spellings of one, and each
of them, in any spelling that differs in ASCII letter case or in the blanks around it, is taken to
the unit of the quantity without a fallback. So for a request whose fields were offered there is a
warning of a fallback just for each entry that has a degree mark and whose variable is no angle. -/
theorem resolve_offered :
    (∀ unit, (Unit.alternatives unit).head? = some unit ∧
      ((Unit.alternatives unit).map Unit.normalize).Nodup ∧
      ∀ other ∈ Unit.alternatives unit, ∀ spelled, Text.Respelled other spelled →
        ∀ x, (Unit.toCanonical x spelled unit).2 = []) ∧
    ∀ (s : Solver) (id : String) (inputs : List (String × Datum)) (f : Formula)
      (inversion : Inversion) (a : Answer) (t : Trace), s.formula id = .ok (f, inversion) →
        FillsOffered s id f inputs → (s.resolve id inputs).run.run [] = (.ok a, t) →
          ∃ readings residual, Account s id inputs a t f readings residual ∧
            ∀ r ∈ readings, r.warning?.isSome = true ↔
              Entry.hasDegreeMark r.selection.entry = true ∧
                Unit.measures r.quantity.unit ≠ some .angle := by
  refine ⟨fun unit => ⟨?_, Unit.alternatives_apart unit, ?_⟩, ?_⟩
  · rw [Unit.alternatives_eq, List.head?_cons]
  · exact fun other mem spelled spelling x => Unit.toCanonical_of_offered mem spelling x
  · intro s id inputs f inversion a t found fills run
    obtain ⟨f', inversion', readings, residual, found', account⟩ :=
      resolve_warnings s id inputs a t run
    cases found.symm.trans found'
    refine ⟨readings, residual, account, fun r mem => fills.warning?_iff ?_⟩
    rw [← account.fields]
    exact List.mem_map_of_mem mem

theorem albedo_units : ((packaged.formula "albedo").toOption.map fun found =>
    found.1.vars.all fun v => v.symbol != "F_reflected" || v.unit == "W/m²") = some true := by
  decide +kernel

theorem albedo_formula : ∃ here, packaged.formula "albedo" = .ok here := by
  obtain ⟨here, found, -⟩ := Option.map_eq_some_iff.mp albedo_units
  exact ⟨here, Except.toOption_eq_some_iff.mp found⟩

/-- A flux in another unit of its field. -/
theorem albedo_fillsOffered {f : Formula} {inversion : Inversion} {spelled : String}
    (found : packaged.formula "albedo" = .ok (f, inversion))
    (spelling : Text.Respelled "erg/(s·cm²)" spelled) (entry : Datum) :
    FillsOffered packaged "albedo" f
      [("F_reflected", .map [(spelled, entry)]), ("F_incident", .text "1")] := by
  have units := albedo_units
  have offered : "erg/(s·cm²)" ∈ Unit.alternatives "W/m²" := by
    rw [Unit.alternatives, Unit.normalizedAlternatives, Unit.normalize_eq_smallName]
    decide +kernel
  rw [found] at units
  have units := List.all_eq_true.mp (Option.some.inj units)
  intro v member fields given field among filled
  have symbol : v.symbol = "F_reflected" ∧ fields = [(spelled, entry)] := by
    simpa using Datum.mem_of_lookup? given
  obtain ⟨symbol, rfl⟩ := symbol
  have unit : v.unit = "W/m²" := by simpa [symbol] using units v member
  cases List.mem_singleton.mp among
  exact ⟨_, offers_of_mem_alternatives (unit ▸ offered) packaged "albedo", spelling⟩

/-- A flux in a unit that was offered, but for a capital and a blank. -/
theorem albedo_resolve_offered :
    ∃ f inversion a t, packaged.formula "albedo" = .ok (f, inversion) ∧
      FillsOffered packaged "albedo" f
        [("F_reflected", .map [("Erg/(s·cm²) ", .text "300")]), ("F_incident", .text "1")] ∧
      (packaged.resolve "albedo" [("F_reflected", .map [("Erg/(s·cm²) ", .text "300")]),
        ("F_incident", .text "1")]).run.run [] = (.ok a, t) ∧
      ∃ readings residual, Account packaged "albedo"
        [("F_reflected", .map [("Erg/(s·cm²) ", .text "300")]), ("F_incident", .text "1")]
          a t f readings residual ∧
        ∀ r ∈ readings, r.warning?.isSome = true ↔
          Entry.hasDegreeMark r.selection.entry = true ∧
            Unit.measures r.quantity.unit ≠ some .angle := by
  have answered : ((packaged.resolve "albedo" [("F_reflected",
      .map [("Erg/(s·cm²) ", .text "300")]),
        ("F_incident", .text "1")]).run.run []).1.toOption.map Answer.symbol = some "A" := by
    decide +kernel
  have spelling : Text.Respelled "erg/(s·cm²)" "Erg/(s·cm²) " := by
    rw [Text.Respelled]
    decide +kernel
  obtain ⟨⟨f, inversion⟩, found⟩ := albedo_formula
  obtain ⟨a, t, run, -⟩ := Except.exists_of_run answered
  have fills := albedo_fillsOffered found spelling (.text "300")
  exact ⟨f, inversion, a, t, found, fills, run,
    resolve_offered.2 packaged _ _ f inversion a t found fills run⟩

/-- Degrees typed into a field that was offered are taken for radians, which are no flux. -/
theorem albedo_offered_degrees :
    ∃ f inversion a t, packaged.formula "albedo" = .ok (f, inversion) ∧
      FillsOffered packaged "albedo" f
        [("F_reflected", .map [("erg/(s·cm²)", .text "5°")]), ("F_incident", .text "1")] ∧
      (packaged.resolve "albedo" [("F_reflected", .map [("erg/(s·cm²)", .text "5°")]),
        ("F_incident", .text "1")]).run.run [] = (.ok a, t) ∧
      a.warnings = ["No conversion from radians to W/m²; value used as entered"] := by
  have answered : ((packaged.resolve "albedo" [("F_reflected",
      .map [("erg/(s·cm²)", .text "5°")]), ("F_incident", .text "1")]).run.run []).1.toOption.map
        Answer.warnings = some ["No conversion from radians to W/m²; value used as entered"] := by
    decide +kernel
  obtain ⟨⟨f, inversion⟩, found⟩ := albedo_formula
  obtain ⟨a, t, run, warned⟩ := Except.exists_of_run answered
  exact ⟨f, inversion, a, t, found,
    albedo_fillsOffered found (Text.Respelled.refl _) (.text "5°"), run, warned⟩

end Solver

end Astrolabe
