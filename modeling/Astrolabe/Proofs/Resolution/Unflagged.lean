import Astrolabe.Proofs.Relation.Consistent
import Astrolabe.Proofs.Resolution.Boundary

/-!
Solutions that no warning is given of. Values whose exact numbers satisfy a packaged
relation, and of which no terms cancel, pass its check without a residual. Where non-zero
terms cancel they leave a trace, and the check takes it for a mismatch.
-/

namespace Astrolabe.Solver

open Astrolabe.Relation

/-- The residual of a double that is on both sides is zero, or is not told. -/
theorem checked_of_residual {f : Formula} {values : String → Option Float} {d : Float}
    (residual : f.residual values = .ok (some (mismatch d d))) :
    checked f values = .ok (if d.isFinite then some 0 else none) := by
  have filtered : checked f values = .ok ((some (mismatch d d)).filter Float.isFinite) := by
    rw [checked, residual]
    rfl
  rw [filtered]
  cases finite : d.isFinite with
  | true =>
      rw [mismatch_self finite]
      rfl
  | false =>
      rw [Option.filter_some_neg (by simp [mismatch_self_isFinite, finite])]
      rfl

/-- The warnings of an answer are those of the fallbacks on record, where the residual is
not above the tolerance. -/
theorem conclude_warnings {p : Problem} {x : Float} {t t' : Trace} {a : Answer}
    (h : (conclude p x).run.run t = (.ok a, t'))
    (small : ∀ r, checked p.formula (p.completed x) = .ok (some r) → ¬r > tolerance) :
    t <+: t' ∧ (t.ofKind "unit_fallback").mapM fallbackWarning = .ok a.warnings := by
  obtain ⟨warnings, residual, told, ok, rfl, record⟩ := conclude_answer h
  refine ⟨record, told.trans (congrArg _ ?_)⟩
  cases residual with
  | none => simp [answer]
  | some r => simp [answer, small r ok]

/-- Where the two sides of a packaged relation are defined and equal over the reals, and
no non-zero terms of a sum cancel, the residual is below the tolerance, unless the value
of the sides is beyond the range of doubles; and the answer to a request that is solved
with such values has no warning but those of fallbacks. -/
theorem packaged_unflagged {f : Formula} (hf : f ∈ Catalog.packaged.formulas)
    (relation : f.relation.isEmptyLike = false) :
    ∃ sides left right, f.sides? = some sides ∧ f.checkedSides? = some (left, right) ∧
      ∀ values a y, f.Reads values a → f.sideValues? sides a = some (y, y) →
        left.Balanced (f.reals a) → right.Balanced (f.reals a) →
          (∃ q : ℚ, y = q ∧ ((Binary64.ofRat q).isFinite = true →
            ∃ r < tolerance, f.residual values = .ok (some r))) ∧
          ∀ id inputs p x, packaged.completion id inputs = .ok (p, x) → p.formula = f →
            p.completed x = values →
              ∀ t answer t', (packaged.resolve id inputs).run.run t = (.ok answer, t') →
                ∃ record : Trace, record <+: t' ∧
                  (record.ofKind "unit_fallback").mapM fallbackWarning =
                    .ok answer.warnings := by
  obtain ⟨legible, left, right, checks, consistent⟩ := Catalog.packaged_consistent hf relation
  have readable := legible
  simp only [Formula.legible, Bool.and_eq_true] at readable
  obtain ⟨sides, read⟩ := Option.isSome_iff_exists.mp readable.1.2
  refine ⟨sides, left, right, read, checks, fun values a y reads holds hl hr => ?_⟩
  have satisfied := Formula.satisfied legible read checks reads holds hl hr
  obtain ⟨q, value, residual⟩ :=
    Formula.residual_of_agree checks reads.given (consistent values a y satisfied)
  have checked := checked_of_residual residual
  refine ⟨⟨q, value, fun finite => ⟨0, by decide, ?_⟩⟩, ?_⟩
  · rw [residual, mismatch_self finite]
  rintro id inputs p x completed rfl rfl t answer t' run
  obtain ⟨p', x', record, completed', -, run⟩ := resolve_answer run
  cases completed.symm.trans completed'
  refine ⟨record, conclude_warnings run fun r told => ?_⟩
  rw [checked, Except.ok.injEq, Option.ite_none_right_eq_some, Option.some.injEq] at told
  rw [← told.2]
  decide

/-- A star of magnitude five at a hundred parsecs, of the absolute magnitude zero, is
passed without a residual. -/
theorem distanceModulus_unflagged :
    ∃ r < tolerance, Catalog.Radiation.distanceModulus.residual
      (fun symbol => if symbol = "m" then some 5 else if symbol = "M" then some 0 else some 100) =
        .ok (some r) := by
  have mem : Catalog.Radiation.distanceModulus ∈ Catalog.packaged.formulas := by
    simp [Catalog.packaged, Catalog.Radiation.all]
  obtain ⟨sides, left, right, read, checks, unflagged⟩ :=
    packaged_unflagged mem (by decide +kernel)
  have read_eq : Catalog.Radiation.distanceModulus.sides? =
      some ⟨.var "m" - .var "M", 5 * (.ln (.var "d") / .ln 10) - 5⟩ := by
    decide +kernel
  have checks_eq : Catalog.Radiation.distanceModulus.checkedSides? =
      some (.add (.name "m") (.mul (.number (-1)) (.name "M")),
        .add (.mul (.number 5) (Side.name "d").decimal) (.number (-5))) := by
    decide +kernel
  cases read.symm.trans read_eq
  cases checks.symm.trans checks_eq
  have known (symbol : String) (a : String → ℝ) :
      Catalog.Radiation.distanceModulus.withConstants a symbol = a symbol :=
    Formula.withConstants_of_not_hasConstant rfl a
  have reals (key : String) (hk : key = "m" ∨ key = "M" ∨ key = "d") (a : String → ℝ) :
      Catalog.Radiation.distanceModulus.reals a key = a key := by
    have named : Catalog.Radiation.distanceModulus.relationName? key = some (.var key) := by
      obtain rfl | rfl | rfl := hk <;> decide +kernel
    rw [Formula.reals, named]
    exact known key a
  have logs : Real.log 100 / Real.log 10 = 2 := by
    have : (100 : ℝ) = 10 ^ 2 := by norm_num
    rw [this, Real.log_pow, mul_div_cancel_right₀ _ (Real.log_pos (by norm_num)).ne',
      Nat.cast_ofNat]
  have reads : Catalog.Radiation.distanceModulus.Reads
      (fun symbol => if symbol = "m" then some 5 else if symbol = "M" then some 0 else some 100)
      (fun symbol => if symbol = "m" then 5 else if symbol = "M" then 0 else 100) := by
    intro v hv
    simp only [Catalog.Radiation.distanceModulus, List.mem_cons, List.not_mem_nil, or_false] at hv
    obtain rfl | rfl | rfl := hv
    · exact ⟨5, 5, rfl, by decide +kernel, by simp [Variable.plain]⟩
    · exact ⟨0, 0, rfl, by decide +kernel, by simp [Variable.plain]⟩
    · exact ⟨100, 100, rfl, by decide +kernel, by simp [Variable.plain]⟩
  have finite : Catalog.Radiation.distanceModulus.constantsFinite = true := rfl
  have holds : Catalog.Radiation.distanceModulus.sideValues?
      ⟨.var "m" - .var "M", 5 * (.ln (.var "d") / .ln 10) - 5⟩
      (fun symbol => if symbol = "m" then 5 else if symbol = "M" then 0 else 100) =
        some (5, 5) := by
    rw [Formula.sideValues?_eq_some_iff finite]
    have ten : (0 : ℝ) < Real.log 10 := Real.log_pos (by norm_num)
    refine ⟨?_, ?_, ?_⟩
    · simp [Sides.Defined, known, ten.ne']
    · simp [known]
    · simp [known, logs]
      norm_num
  have left_balanced : (Side.add (.name "m") (.mul (.number (-1)) (.name "M"))).Balanced
      (Catalog.Radiation.distanceModulus.reals
        fun symbol => if symbol = "m" then 5 else if symbol = "M" then 0 else 100) := by
    simp [reals]
  have right_balanced : (Side.add (.mul (.number 5) (Side.name "d").decimal)
      (.number (-5))).Balanced (Catalog.Radiation.distanceModulus.reals
        fun symbol => if symbol = "m" then 5 else if symbol = "M" then 0 else 100) := by
    have apart : 5 * (Real.log 100 * (Real.log 10)⁻¹) + -5 ≠ 0 := by
      rw [← div_eq_mul_inv, logs]
      norm_num
    simp [reals, Side.decimal, Real.rpow_neg_one, apart]
  obtain ⟨⟨q, value, small⟩, -⟩ :=
    unflagged _ _ 5 reads holds left_balanced right_balanced
  refine small ?_
  obtain rfl : q = 5 := by exact_mod_cast value.symm
  decide +kernel

/-- Equal temperatures cancel, and their difference of zero is taken for a mismatch. -/
theorem greenhouseEffect_flagged :
    ∃ r > tolerance, Catalog.Planets.greenhouseEffect.residual
      (fun symbol => if symbol = "ΔT_GH" then some 0 else some 300) = .ok (some r) := by
  have flagged : (Catalog.Planets.greenhouseEffect.residual
      (fun symbol => if symbol = "ΔT_GH" then some 0 else some 300)).toOption.join.any
        (· > tolerance) = true := by
    decide +kernel
  rw [Option.any_eq_true] at flagged
  obtain ⟨r, found, large⟩ := flagged
  rw [Option.join_eq_some_iff] at found
  refine ⟨r, of_decide_eq_true large, ?_⟩
  generalize Catalog.Planets.greenhouseEffect.residual _ = outcome at found ⊢
  cases outcome with
  | ok residual => exact congrArg Except.ok (Option.some.inj found)
  | error fault => cases found

end Astrolabe.Solver
