import Astrolabe.Selection
import Astrolabe.Proofs.Except
import Astrolabe.Proofs.Number.Nearest
import Astrolabe.Proofs.Text.Lowercase

/-!
What a text in a field stands for: nothing where it is blank, and else a finite number or a refusal
that shows the whole text.
-/

namespace Astrolabe

namespace Entry

open Number

theorem numeral?_isFinite {s : String} {x : Float} (h : numeral? s = some x) :
    x.isFinite = true :=
  (Option.filter_eq_some_iff.mp h).2

theorem finiteValue_isFinite {s : String} {x : Float} (h : finiteValue s = .ok x) :
    x.isFinite = true := by
  unfold finiteValue at h
  split at h
  next =>
    split at h
    next finite => exact Except.ok.inj h ▸ finite
    next => cases h
  next => cases h

theorem quotient_isFinite {s : String} {x : Float} (h : quotient s = .ok x) :
    x.isFinite = true := by
  unfold quotient at h
  split at h
  next => cases h
  next =>
    split at h
    next => cases h
    next =>
      obtain ⟨numerator, -, h⟩ := Except.bind_eq_ok_iff.mp h
      obtain ⟨denominator, -, h⟩ := Except.bind_eq_ok_iff.mp h
      split at h
      next => cases h
      next =>
        split at h
        next finite => exact Except.ok.inj h ▸ finite
        next => cases h

/-- A number is finite, or refused with the text that is given for the whole. -/
theorem number_outcome (body whole : String) :
    (∃ x, x.isFinite = true ∧ number body whole = .ok x) ∨
      ∃ reason, number body whole = .error ⟨whole, reason⟩ := by
  unfold number
  split
  next x numeral => exact .inl ⟨x, numeral?_isFinite numeral, rfl⟩
  next =>
    split
    next x plain =>
      split at plain
      next =>
        cases result : quotient body with
        | ok y =>
            rw [result] at plain
            cases plain
            exact .inl ⟨x, quotient_isFinite result, rfl⟩
        | error r => rw [result] at plain; cases plain
      next => cases plain
    next =>
      split
      next x value => exact .inl ⟨x, finiteValue_isFinite value, rfl⟩
      next reason _ =>
        cases result : quotient body with
        | ok x => exact .inl ⟨x, quotient_isFinite result, rfl⟩
        | error r => exact .inr ⟨reason, rfl⟩

theorem mul_radiansPerDegree_isFinite {x : Float} (finite : x.isFinite = true) :
    (x * radiansPerDegree).isFinite = true := by
  have factor : (Binary64.toRat? radiansPerDegree).any (|·| ≤ 1) = true := by decide +kernel
  obtain ⟨q, value, small⟩ := (Option.any_eq_true _ _).mp factor
  exact Binary64.mul_isFinite_of_abs_le_one finite value (of_decide_eq_true small)

/-- The number of a text is finite, or the whole text is refused. -/
theorem textValue_outcome (s : String) :
    (∃ x, x.isFinite = true ∧ textValue s = .ok x) ∨
      ∃ reason, textValue s = .error ⟨Text.strip s, reason⟩ := by
  unfold textValue
  dsimp only
  split
  next => exact number_outcome _ _
  next marked _ =>
    split
    next => exact .inr ⟨.loneDegreeMark, rfl⟩
    next =>
      obtain ⟨x, finite, ok⟩ | ⟨reason, refused⟩ :=
        number_outcome (Text.strip (String.ofList marked)) (Text.strip s)
      · exact .inl ⟨_, mul_radiansPerDegree_isFinite finite, by rw [ok]; rfl⟩
      · exact .inr ⟨reason, by rw [refused]; rfl⟩

theorem read_eq (s : String) : Entry.read (.text s) =
    if isBlankText s then .ok none else ((textValue s).mapError Failure.refused).map some :=
  rfl

/-- The texts that hold no value. -/
theorem isBlankText_iff {s : String} :
    isBlankText s = true ↔
      Text.strip s = "" ∨ (Text.strip s).toList.map Char.toLower = "null".toList := by
  simp only [isBlankText, Bool.or_eq_true, beq_iff_eq, Text.lower_eq_iff (w := "null") (by decide)]

end Entry

/-- A text in a field, whatever the unit of the field, stands for nothing where it is empty but for
blanks or spells null in some letter case. Any other text stands for a finite number, or is refused
as a whole. -/
theorem Selection.read_text (unit s : String) :
    (Selection.read ⟨unit, .text s⟩ = .ok none ↔
        Text.strip s = "" ∨ (Text.strip s).toList.map Char.toLower = "null".toList) ∧
      (Selection.read ⟨unit, .text s⟩ = .ok none ∨
        (∃ x, x.isFinite = true ∧ Selection.read ⟨unit, .text s⟩ = .ok (some x)) ∨
        ∃ reason, Selection.read ⟨unit, .text s⟩ = .error (.refused ⟨Text.strip s, reason⟩)) ∧
      ∀ other, Selection.read ⟨other, .text s⟩ = Selection.read ⟨unit, .text s⟩ := by
  have read (unit : String) : Selection.read ⟨unit, .text s⟩ =
      if Entry.isBlankText s then .ok none
      else ((Entry.textValue s).mapError .refused).map some := rfl
  rw [← Entry.isBlankText_iff]
  cases blank : Entry.isBlankText s with
  | true =>
      simp only [blank, if_true] at read
      rw [read unit]
      exact ⟨iff_of_true rfl rfl, .inl rfl, read⟩
  | false =>
      obtain ⟨x, finite, ok⟩ | ⟨reason, refused⟩ := Entry.textValue_outcome s
      · simp only [blank, ok] at read
        rw [read unit]
        exact ⟨iff_of_false nofun nofun, .inr (.inl ⟨x, finite, rfl⟩), read⟩
      · simp only [blank, refused] at read
        rw [read unit]
        exact ⟨iff_of_false nofun nofun, .inr (.inr ⟨reason, rfl⟩), read⟩

end Astrolabe
