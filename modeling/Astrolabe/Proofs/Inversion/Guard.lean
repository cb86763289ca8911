import Mathlib.Analysis.SpecialFunctions.Pow.Real
import Astrolabe.Refusal
import Astrolabe.Proofs.Number.Regular

/-!
Guarded operations. The conditions of a guard cover every fault of the operation behind it, infinite
operands and NaNs included, so a call has a result or is refused. On finite operands it is refused
just where the operation on the reals is not defined or a power is too large. Division and the
square root are those of the doubles; of the functions that the platform computes only this is used
that they signal as the standard of floating-point arithmetic has it.
-/

namespace Astrolabe

namespace Inversion.Guard

open Binary64 Number

/-! What is asked of the operands. -/

namespace Call

/-- The operands are finite and have these values. -/
inductive Exact : Call Float → Call ℚ → Prop where
  | div {x y p q} (dividend : toRat? x = some p) (divisor : toRat? y = some q) :
      Exact (.div x y) (.div p q)
  | sqrt {x p} (radicand : toRat? x = some p) : Exact (.sqrt x) (.sqrt p)
  | cbrt {x p} (radicand : toRat? x = some p) : Exact (.cbrt x) (.cbrt p)
  | log10 {x p} (argument : toRat? x = some p) : Exact (.log10 x) (.log10 p)
  | ln {x p} (argument : toRat? x = some p) : Exact (.ln x) (.ln p)
  | pow {x y p q} (base : toRat? x = some p) (exponent : toRat? y = some q) :
      Exact (.pow x y) (.pow p q)

/-- The operation on the reals has no result. -/
def Undefined : Call ℚ → Prop
  | div _ y => y = 0
  | sqrt x => x < 0
  | cbrt _ => False
  | log10 x | ln x => x ≤ 0
  | pow x y => x < 0 ∧ (¬∃ n : ℤ, y = n) ∨ x = 0 ∧ y < 0

/-- How large a power is. No other call is refused for the size of its result. -/
noncomputable def magnitude : Call ℚ → ℝ
  | pow x y => |(x : ℝ)| ^ (y : ℝ)
  | _ => 0

/-- The operation behind the guard. -/
def result (f : Functions) : Call Float → Float
  | div x y => x / y
  | sqrt x => x.sqrt
  | cbrt x => f.cbrt x
  | log10 x => f.log10 x
  | ln x => f.ln x
  | pow x y => f.pow x y

/-- The guard turns the operands away once it has compared them. -/
def Outside : Call Float → Prop
  | div _ y => (y == 0) = true
  | sqrt x => x < 0
  | cbrt _ => False
  | log10 x | ln x => x ≤ 0
  | pow x y => x < 0 ∧ isInteger y = false ∨ (x == 0) = true ∧ y < 0

/-- A power of finite numbers is rounded to infinity. -/
def Overflows (f : Functions) : Call Float → Prop
  | pow x y => x.isFinite = true ∧ y.isFinite = true ∧ (f.pow x y).isInf = true
  | _ => False

end Call

/-- Functions that signal as the standard has it. The cube root, and the logarithms of positive
numbers, are infinite only at infinity. A power of finite numbers is a NaN only where it is not
real. Where it is defined it is infinite if no double comes close to it, and only if none is as
great: the rounding of what is in between is left open. -/
structure Functions.Conforms (f : Functions) : Prop where
  cbrt : ∀ x, Elementary.Regular x (f.cbrt x)
  log10 : ∀ x, 0 < x → Elementary.Regular x (f.log10 x)
  ln : ∀ x, 0 < x → Elementary.Regular x (f.ln x)
  pow_isNaN : ∀ {x y p q}, toRat? x = some p → toRat? y = some q →
    (f.pow x y).isNaN = true → p < 0 ∧ ¬∃ n : ℤ, q = n
  pow_isInf : ∀ {x y p q}, toRat? x = some p → toRat? y = some q → ¬(Call.pow p q).Undefined →
    2 ^ 1024 ≤ (Call.pow p q).magnitude → (f.pow x y).isInf = true
  lt_of_pow_isInf : ∀ {x y p q}, toRat? x = some p → toRat? y = some q →
    ¬(Call.pow p q).Undefined → (f.pow x y).isInf = true →
      (2 ^ 53 - 1) * 2 ^ 971 < (Call.pow p q).magnitude

theorem one_le_greatest : (1 : ℝ) ≤ (2 ^ 53 - 1) * 2 ^ 971 :=
  one_le_mul_of_one_le_of_one_le (by norm_num) (one_le_pow₀ one_le_two)

theorem greatest_lt_two_pow : ((2 : ℝ) ^ 53 - 1) * 2 ^ 971 < 2 ^ 1024 :=
  calc ((2 : ℝ) ^ 53 - 1) * 2 ^ 971 < 2 ^ 53 * 2 ^ 971 :=
        mul_lt_mul_of_pos_right (by norm_num) (by positivity)
    _ = 2 ^ 1024 := (pow_add 2 53 971).symm

/-- A defined power of zero is zero or one. -/
theorem magnitude_zero_le_one (q : ℚ) : (Call.pow 0 q).magnitude ≤ 1 := by
  rw [Call.magnitude, Rat.cast_zero, abs_zero]
  exact Real.zero_rpow_le_one _

/-- The comparisons of the guard tell where the operation on the reals is not defined. -/
theorem outside_iff {call : Call Float} {exact : Call ℚ} (operands : call.Exact exact) :
    call.Outside ↔ exact.Undefined := by
  cases operands with
  | div dividend divisor =>
      rw [Call.Outside, Call.Undefined, beq_zero_iff, divisor, Option.some.injEq]
  | sqrt radicand => exact lt_zero_iff radicand
  | cbrt radicand => rfl
  | log10 argument | ln argument => exact le_zero_iff argument
  | pow base exponent =>
      rw [Call.Outside, Call.Undefined, ← Bool.not_eq_true, beq_zero_iff, base, Option.some.injEq,
        lt_zero_iff base, lt_zero_iff exponent, isInteger_iff exponent]

open Classical in
/-- A power that is a NaN where it is not real, infinite from a limit on and one otherwise. -/
noncomputable def plainPower (limit : ℝ) (p q : ℚ) : Float :=
  if p < 0 ∧ ¬∃ n : ℤ, q = n then nan
  else if limit ≤ (Call.pow p q).magnitude then infinity
  else 1

/-- The simplest functions that conform. They are right at one. -/
noncomputable def Functions.plain (limit : ℝ) : Functions where
  cbrt := id
  log10 _ := 0
  ln _ := 0
  pow x y := ((toRat? x).bind fun p => (toRat? y).map fun q => plainPower limit p q).getD 1

theorem Functions.plain_pow (limit : ℝ) {x y : Float} {p q : ℚ} (base : toRat? x = some p)
    (exponent : toRat? y = some q) : (plain limit).pow x y = plainPower limit p q := by
  simp only [plain, base, exponent, Option.bind_some, Option.map_some, Option.getD_some]

theorem zero_isFinite : (0 : Float).isFinite = true := by decide +kernel

/-- They conform wherever the limit is in what is left open. -/
theorem Functions.plain_conforms {limit : ℝ} (above : (2 ^ 53 - 1) * 2 ^ 971 < limit)
    (below : limit ≤ 2 ^ 1024) : (plain limit).Conforms where
  cbrt _ := ⟨id, id⟩
  log10 _ _ := Elementary.regular_of_isFinite zero_isFinite
  ln _ _ := Elementary.regular_of_isFinite zero_isFinite
  pow_isNaN base exponent unreal := by
    rw [plain_pow limit base exponent, plainPower] at unreal
    split_ifs at unreal with complex
    · exact complex
    · exact absurd unreal (by decide +kernel)
    · exact absurd unreal (by decide +kernel)
  pow_isInf base exponent defined large := by
    rw [plain_pow limit base exponent, plainPower, if_neg fun complex => defined (.inl complex),
      if_pos (below.trans large)]
    decide +kernel
  lt_of_pow_isInf base exponent defined infinite := by
    rw [plain_pow limit base exponent, plainPower,
      if_neg fun complex => defined (.inl complex)] at infinite
    split_ifs at infinite with large
    · exact above.trans_le large
    · exact absurd infinite (by decide +kernel)

section

variable {f : Functions}

/-! The outcome of a call. -/

theorem check_refuses {outside : Bool} (h : outside = true) (reason : Reason)
    (result : Except Fault Float) : check outside reason result = .error (.refused reason) :=
  if_pos h

theorem check_inDomain {outside : Prop} [Decidable outside] (inside : ¬outside) (reason : Reason)
    {x result : Float} (regular : Elementary.Regular x result) :
    check outside reason (Elementary.inDomain x result) = .ok result := by
  rw [check, decide_eq_false inside, regular.inDomain]
  rfl

/-- A logarithm of what is not at most zero, a NaN included. -/
theorem regular_log {log : Float → Float} (positive : ∀ x, 0 < x → Elementary.Regular x (log x))
    {x : Float} (inside : ¬x ≤ 0) : Elementary.Regular x (log x) := by
  obtain nan | pos := isNaN_or_pos inside
  · exact Elementary.regular_of_isNaN nan _
  · exact positive x pos

/-- A power of finite numbers that the guard lets pass is defined. -/
theorem defined_of_inside {x y : Float} (base : x.isFinite = true) (exponent : y.isFinite = true)
    (inside : ¬(Call.pow x y).Outside) :
    ∃ p q, toRat? x = some p ∧ toRat? y = some q ∧ ¬(Call.pow p q).Undefined := by
  obtain ⟨p, hp⟩ := isFinite_iff.mp base
  obtain ⟨q, hq⟩ := isFinite_iff.mp exponent
  exact ⟨p, q, hp, hq, (outside_iff (.pow hp hq)).not.mp inside⟩

/-- Such a power has a result or is too large. -/
theorem powInDomain_eq (conforms : f.Conforms) {x y : Float} (base : x.isFinite = true)
    (exponent : y.isFinite = true) (inside : ¬(Call.pow x y).Outside) :
    Elementary.powInDomain x y (f.pow x y) =
      if (f.pow x y).isInf then .error .range else .ok (f.pow x y) := by
  obtain ⟨p, q, hp, hq, defined⟩ := defined_of_inside base exponent inside
  have number : (f.pow x y).isNaN = false :=
    Bool.eq_false_iff.mpr fun nan => defined (.inl (conforms.pow_isNaN hp hq nan))
  rw [Elementary.powInDomain, base, exponent, number]
  cases infinite : (f.pow x y).isInf with
  | false => rw [Elementary.isFinite_of_not number infinite]; rfl
  | true =>
      -- the powers of zero that are defined are not large enough
      have nonzero : (x == 0) = false := by
        refine Bool.eq_false_iff.mpr fun zero => ?_
        cases hp.symm.trans (beq_zero_iff.mp zero)
        have large := conforms.lt_of_pow_isInf hp hq defined infinite
        exact absurd (large.trans_le (magnitude_zero_le_one q)) one_le_greatest.not_gt
      rw [Elementary.isFinite_eq_false_of_isInf infinite, nonzero]
      rfl

/-- The comparisons of the guard let a power pass. -/
theorem attempt_pow {x y : Float} (inside : ¬(Call.pow x y).Outside) :
    attempt f (.pow x y) = (Elementary.powInDomain x y (f.pow x y)).mapError fun
      | .range => .refused .overflow
      | fault => .fault fault := by
  have real : (decide (x < 0) && !isInteger y) = false := by
    refine Bool.eq_false_iff.mpr fun complex => inside (.inl ?_)
    rwa [Bool.and_eq_true_iff, decide_eq_true_eq, Bool.not_eq_true'] at complex
  have regular : (x == 0 && decide (y < 0)) = false := by
    refine Bool.eq_false_iff.mpr fun pole => inside (.inr ?_)
    rwa [Bool.and_eq_true_iff, decide_eq_true_eq] at pole
  rw [attempt, real, regular]
  rfl

/-- Operands that the guard turns away are refused. -/
theorem attempt_of_outside {call : Call Float} (outside : call.Outside) :
    ∃ reason, attempt f call = .error (.refused reason) := by
  cases call with
  | div x y => exact ⟨.zeroDivision, check_refuses outside ..⟩
  | sqrt x =>
      have negative : x < 0 := outside
      exact ⟨.negativeRoot x, check_refuses (decide_eq_true negative) ..⟩
  | cbrt x => exact outside.elim
  | log10 x | ln x =>
      have low : x ≤ 0 := outside
      exact ⟨.logarithm x, check_refuses (decide_eq_true low) ..⟩
  | pow x y =>
      rw [attempt]
      by_cases complex : (decide (x < 0) && !isInteger y) = true
      · exact ⟨.complexPower x y, if_pos complex⟩
      · have pole : (x == 0 && decide (y < 0)) = true := by
          obtain ⟨negative, whole⟩ | ⟨zero, negative⟩ := outside
          · rw [whole, decide_eq_true negative] at complex
            exact absurd rfl complex
          · rw [zero, decide_eq_true negative]
            rfl
        exact ⟨.zeroDivision, by rw [if_neg complex, if_pos pole]⟩

/-- A power that is too large is refused. -/
theorem attempt_of_overflows (conforms : f.Conforms) {call : Call Float}
    (overflows : call.Overflows f) : ∃ reason, attempt f call = .error (.refused reason) := by
  by_cases outside : call.Outside
  · exact attempt_of_outside outside
  cases call with
  | pow x y =>
      obtain ⟨base, exponent, infinite⟩ := overflows
      refine ⟨.overflow, ?_⟩
      rw [attempt_pow outside, powInDomain_eq conforms base exponent outside, infinite]
      rfl
  | div | sqrt | cbrt | log10 | ln => exact overflows.elim

/-- All other operands have a result, among them infinities and NaNs. -/
theorem attempt_of_inside (conforms : f.Conforms) {call : Call Float}
    (inside : ¬call.Outside) (fits : ¬call.Overflows f) : attempt f call = .ok (call.result f) := by
  cases call with
  | div x y =>
      have nonzero : ¬(y == 0) = true := inside
      rw [attempt, check, Elementary.div, if_neg nonzero, if_neg nonzero]
      rfl
  | sqrt x =>
      have radicand : ¬x < 0 := inside
      exact check_inDomain radicand _ (Elementary.regular_sqrt radicand)
  | cbrt x => rw [attempt, (conforms.cbrt x).inDomain]; rfl
  | log10 x =>
      have argument : ¬x ≤ 0 := inside
      exact check_inDomain argument _ (regular_log conforms.log10 argument)
  | ln x =>
      have argument : ¬x ≤ 0 := inside
      exact check_inDomain argument _ (regular_log conforms.ln argument)
  | pow x y =>
      rw [attempt_pow inside]
      cases finite : x.isFinite && y.isFinite with
      | false => rw [Elementary.powInDomain, finite]; rfl
      | true =>
          obtain ⟨base, exponent⟩ := Bool.and_eq_true_iff.mp finite
          rw [powInDomain_eq conforms base exponent inside,
            if_neg fun infinite => fits ⟨base, exponent, infinite⟩]
          rfl

/-- These are the only refusals, whatever the doubles are. -/
theorem attempt_refused_iff (conforms : f.Conforms) {call : Call Float} :
    (∃ reason, attempt f call = .error (.refused reason)) ↔ call.Outside ∨ call.Overflows f := by
  constructor
  · rintro ⟨reason, refused⟩
    by_contra accepted
    rw [not_or] at accepted
    rw [attempt_of_inside conforms accepted.1 accepted.2] at refused
    cases refused
  · rintro (outside | overflows)
    · exact attempt_of_outside outside
    · exact attempt_of_overflows conforms overflows

/-- A power that overflows is greater than every double, if it is defined. -/
theorem lt_of_overflows (conforms : f.Conforms) {call : Call Float} {exact : Call ℚ}
    (operands : call.Exact exact) (overflows : call.Overflows f) (defined : ¬exact.Undefined) :
    (2 ^ 53 - 1) * 2 ^ 971 < exact.magnitude := by
  cases operands with
  | pow base exponent => exact conforms.lt_of_pow_isInf base exponent defined overflows.2.2
  | div | sqrt | cbrt | log10 | ln => exact overflows.elim

/-- A power that no double comes close to overflows, if it is defined. -/
theorem overflows_of_le (conforms : f.Conforms) {call : Call Float} {exact : Call ℚ}
    (operands : call.Exact exact) (large : 2 ^ 1024 ≤ exact.magnitude)
    (defined : ¬exact.Undefined) : call.Overflows f := by
  cases operands with
  | pow base exponent =>
      exact ⟨isFinite_iff.mpr ⟨_, base⟩, isFinite_iff.mpr ⟨_, exponent⟩,
        conforms.pow_isInf base exponent defined large⟩
  | div | sqrt | cbrt | log10 | ln => exact absurd large (not_le.mpr (by positivity))

end

end Inversion.Guard

namespace Domain

open Inversion.Guard

variable {f : Functions}

/-- The guard refuses a call, with its formula and its symbol. -/
def Refuses (d : Domain) (f : Functions) (call : Call Float) : Prop :=
  ∃ reason, d.perform f call = .error (.refused (.unsolved d.formula d.symbol reason))

theorem refuses_iff_attempt (d : Domain) {call : Call Float} :
    d.Refuses f call ↔ ∃ reason, attempt f call = .error (.refused reason) := by
  unfold Refuses perform
  constructor
  · rintro ⟨reason, refused⟩
    cases outcome : attempt f call with
    | ok x => rw [outcome] at refused; cases refused
    | error stop =>
        rw [outcome] at refused
        cases stop with
        | refused reason => exact ⟨reason, rfl⟩
        | fault => cases refused
  · rintro ⟨reason, refused⟩
    exact ⟨reason, by rw [refused]; rfl⟩

theorem refuses_iff (d : Domain) (conforms : f.Conforms) {call : Call Float} :
    d.Refuses f call ↔ call.Outside ∨ call.Overflows f :=
  d.refuses_iff_attempt.trans (attempt_refused_iff conforms)

/-- A guarded call has a result or is refused, for the formula and the symbol of the guard, whatever
the doubles are. On finite operands it is refused just where the operation on the reals is not
defined or the power overflows: it does from `2 ^ 1024` on, and not up to the greatest double. -/
theorem perform_complete (d : Domain) (conforms : f.Conforms) (call : Call Float) :
    (d.perform f call = .ok (call.result f) ∨ d.Refuses f call) ∧
      ∀ exact, call.Exact exact →
        (d.Refuses f call ↔ exact.Undefined ∨ call.Overflows f) ∧
        (2 ^ 1024 ≤ exact.magnitude → d.Refuses f call) ∧
        (d.Refuses f call → exact.Undefined ∨ (2 ^ 53 - 1) * 2 ^ 971 < exact.magnitude) := by
  have refuses : d.Refuses f call ↔ call.Outside ∨ call.Overflows f := d.refuses_iff conforms
  constructor
  · by_cases refused : call.Outside ∨ call.Overflows f
    · exact .inr (refuses.mpr refused)
    · obtain ⟨inside, fits⟩ := not_or.mp refused
      rw [perform, attempt_of_inside conforms inside fits]
      exact .inl rfl
  · intro exact operands
    rw [outside_iff operands] at refuses
    refine ⟨refuses, fun large => ?_, fun refused => ?_⟩
    · by_cases undefined : exact.Undefined
      · exact refuses.mpr (.inl undefined)
      · exact refuses.mpr (.inr (overflows_of_le conforms operands large undefined))
    · by_cases undefined : exact.Undefined
      · exact .inl undefined
      · have overflows := (refuses.mp refused).resolve_left undefined
        exact .inr (lt_of_overflows conforms operands overflows undefined)

/-- A power that is too large and one that is not real are refused. The square of one is neither. -/
theorem distanceModulus_perform_complete :
    Refuses ⟨"distance_modulus", "d"⟩ (.plain (2 ^ 1024)) (.pow 10 400) ∧
      Refuses ⟨"distance_modulus", "d"⟩ (.plain (2 ^ 1024)) (.pow (-8) 0.5) ∧
      perform ⟨"distance_modulus", "d"⟩ (.plain (2 ^ 1024)) (.pow 1 2) = .ok 1 := by
  have conforms := Functions.plain_conforms greatest_lt_two_pow le_rfl
  have complete := perform_complete ⟨"distance_modulus", "d"⟩ conforms
  refine ⟨?_, ?_, ?_⟩
  · have operands : (Call.pow 10 400).Exact (.pow 10 400) :=
      .pow (by decide +kernel) (by decide +kernel)
    refine ((complete _).2 _ operands).2.1 ?_
    have power : (Call.pow 10 400).magnitude = 10 ^ 400 := by
      rw [Call.magnitude, ← Real.rpow_natCast]
      norm_num
    calc (2 : ℝ) ^ 1024 ≤ 2 ^ 1200 := pow_le_pow_right₀ one_le_two (by decide)
      _ = (2 ^ 3) ^ 400 := pow_mul 2 3 400
      _ ≤ 10 ^ 400 := pow_le_pow_left₀ (by positivity) (by norm_num) 400
      _ = (Call.pow 10 400).magnitude := power.symm
  · have operands : (Call.pow (-8) 0.5).Exact (.pow (-8) (1 / 2)) :=
      .pow (by decide +kernel) (by decide +kernel)
    refine ((complete _).2 _ operands).1.mpr (.inl (.inl ⟨by norm_num, ?_⟩))
    rintro ⟨n, half⟩
    have whole : (1 : ℚ) = 2 * n := by linarith
    have : (1 : ℤ) = 2 * n := by exact_mod_cast whole
    omega
  · have base : Binary64.toRat? 1 = some 1 := by decide +kernel
    have exponent : Binary64.toRat? 2 = some 2 := by decide +kernel
    have power : (Call.pow 1 2).magnitude = 1 := by
      rw [Call.magnitude]
      norm_num
    have defined : ¬(Call.pow 1 2).Undefined := by
      rw [Call.Undefined]
      norm_num
    have small : ¬2 ^ 1024 ≤ (Call.pow 1 2).magnitude := by
      rw [power]
      exact (one_lt_pow₀ one_lt_two (by decide)).not_ge
    have accepted : ¬Refuses ⟨"distance_modulus", "d"⟩ (.plain (2 ^ 1024)) (.pow 1 2) := by
      intro refused
      have large := (((complete _).2 _ (.pow base exponent)).2.2 refused).resolve_left defined
      exact one_le_greatest.not_gt (power ▸ large)
    have result : (Call.pow 1 2).result (.plain (2 ^ 1024)) = 1 := by
      rw [Call.result, Functions.plain_pow _ base exponent, plainPower,
        if_neg fun complex => defined (.inl complex), if_neg small]
    exact ((complete _).1.resolve_right accepted).trans (congrArg _ result)

/-- Nothing that gets past the guard is told as a reason where the formulas use it. -/
theorem perform_native (d : Domain) (conforms : Functions.native.Conforms) (call : Call Float) :
    d.perform .native call =
      (Inversion.Guard.perform call).mapError fun reason => .refused (d.refusal reason) := by
  rw [perform, Inversion.Guard.perform]
  by_cases refused : call.Outside ∨ call.Overflows .native
  · obtain ⟨reason, outcome⟩ := (attempt_refused_iff conforms).mpr refused
    rw [outcome]
    rfl
  · obtain ⟨inside, fits⟩ := not_or.mp refused
    rw [attempt_of_inside conforms inside fits]
    rfl

end Domain

end Astrolabe
