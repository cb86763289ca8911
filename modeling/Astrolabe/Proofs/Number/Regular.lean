import Astrolabe.Proofs.Number.Root
import Astrolabe.Proofs.Number.Sign

/-!
Functions of a double that do not fault. They have a NaN or an infinity only where they are given
one, as the square root does from zero on.
-/

namespace Astrolabe.Number.Elementary

open Binary64 Float.Model

/-! The kinds of doubles. -/

theorem isInf_eq_false {x : Float} (finite : x.isFinite = true) : x.isInf = false := by
  change x.toModel.unpack.isFinite = true at finite
  change x.toModel.unpack.isInf = false
  cases unpacked : x.toModel.unpack with
  | finite | zero => rfl
  | infinity | notANumber => rw [unpacked] at finite; cases finite

theorem isFinite_eq_false {x : Float} (nan : x.isNaN = true) : x.isFinite = false := by
  change x.toModel.unpack.isNaN = true at nan
  change x.toModel.unpack.isFinite = false
  cases unpacked : x.toModel.unpack with
  | notANumber => rfl
  | finite | zero | infinity => rw [unpacked] at nan; cases nan

theorem isFinite_eq_false_of_isInf {x : Float} (inf : x.isInf = true) : x.isFinite = false := by
  rw [← Bool.not_eq_true]
  intro finite
  rw [isInf_eq_false finite] at inf
  cases inf

theorem isFinite_of_not {x : Float} (nan : x.isNaN = false) (inf : x.isInf = false) :
    x.isFinite = true := by
  change x.toModel.unpack.isNaN = false at nan
  change x.toModel.unpack.isInf = false at inf
  change x.toModel.unpack.isFinite = true
  cases unpacked : x.toModel.unpack with
  | finite | zero => rfl
  | infinity => rw [unpacked] at inf; cases inf
  | notANumber => rw [unpacked] at nan; cases nan

/-! Regular results. -/

/-- A result that is a NaN or infinite only where its argument is. -/
structure Regular (x result : Float) : Prop where
  nan : result.isNaN = true → x.isNaN = true
  finite : x.isFinite = true → result.isFinite = true

theorem Regular.inDomain {x result : Float} (h : Regular x result) :
    inDomain x result = .ok result := by
  have nan : (result.isNaN && !x.isNaN) = false := by
    cases outside : result.isNaN with
    | false => rfl
    | true => rw [h.nan outside]; rfl
  have inf : (result.isInf && x.isFinite) = false := by
    cases finite : x.isFinite with
    | false => exact Bool.and_false _
    | true => rw [isInf_eq_false (h.finite finite)]; rfl
  rw [Elementary.inDomain, nan, inf]
  rfl

theorem regular_of_isNaN {x : Float} (nan : x.isNaN = true) (result : Float) : Regular x result :=
  ⟨fun _ => nan, fun finite => by rw [isFinite_eq_false nan] at finite; cases finite⟩

theorem regular_of_isFinite {x result : Float} (finite : result.isFinite = true) :
    Regular x result := by
  refine ⟨fun nan => ?_, fun _ => finite⟩
  rw [isFinite_eq_false nan] at finite
  cases finite

/-- The square root of what is not negative. -/
theorem regular_sqrt {x : Float} (h : ¬x < 0) : Regular x x.sqrt := by
  change ¬decide (UnpackedFloat.lt x.toModel.unpack (.zero .positive) = true) = true at h
  rw [decide_eq_true_eq] at h
  cases unpacked : x.toModel.unpack with
  | notANumber =>
      have nan : x.toModel.unpack.isNaN = true := by rw [unpacked]; rfl
      exact regular_of_isNaN nan _
  | zero s =>
      refine regular_of_isFinite (show x.sqrt.toModel.unpack.isFinite = true from ?_)
      rw [unpack_sqrt, unpacked, UnpackedFloat.sqrt, unpack_pack_zero]
      rfl
  | infinity s =>
      cases s with
      | negative => rw [unpacked] at h; exact absurd rfl h
      | positive =>
          have rooted : x.sqrt.toModel.unpack = .infinity .positive := by
            rw [unpack_sqrt, unpacked, UnpackedFloat.sqrt, unpack_pack_infinity]
          refine ⟨fun nan => ?_, fun finite => ?_⟩
          · change x.sqrt.toModel.unpack.isNaN = true at nan
            rw [rooted] at nan
            cases nan
          · change x.toModel.unpack.isFinite = true at finite
            rw [unpacked] at finite
            cases finite
  | finite s m e pos =>
      cases s with
      | positive => exact regular_of_isFinite (sqrt_isFinite unpacked)
      | negative => rw [unpacked] at h; exact absurd rfl h

end Astrolabe.Number.Elementary
