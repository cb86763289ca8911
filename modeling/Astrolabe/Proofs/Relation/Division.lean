import Mathlib.Algebra.Order.Field.Rat
import Mathlib.Data.Rat.Lemmas
import Astrolabe.Proofs.Except
import Astrolabe.Relation.Residual

/-!
Where the evaluation of a side meets a given zero under a fraction bar. A power faults
just when its base is a given zero and its exponent a negative half of an integer; sums
and true zeros never do.
-/

namespace Astrolabe

namespace Number.Precise

theorem floorSqrt_pos {n : Nat} (hn : 0 < n) (digits : Nat) :
    0 < floorSqrt (digits + 1) n := by
  simp only [floorSqrt]
  split
  next => exact Nat.succ_pos _
  next small =>
    refine Nat.pos_of_ne_zero fun zero => small ?_
    rw [zero]
    exact hn

theorem twoPow_ne_zero (e : Int) : twoPow e ≠ 0 := by
  unfold twoPow
  split <;> simp [Rat.mkRat_eq_zero]

/-- The number whose root is taken is large. -/
theorem two_pow_mul_le_shifted {num : Nat} (hnum : num ≠ 0) (den : Nat) :
    2 ^ 200 * 2 ^ 200 * den ≤ num * 4 ^ (precision + (den.log2 - num.log2)) := by
  have upper : den < 2 ^ (den.log2 + 1) := Nat.lt_log2_self
  have lower : 2 ^ num.log2 ≤ num := Nat.log2_self_le hnum
  have exponents : 200 + (200 + (den.log2 + 1)) ≤
      num.log2 + 2 * (precision + (den.log2 - num.log2)) := by
    simp only [precision]
    omega
  calc
    2 ^ 200 * 2 ^ 200 * den ≤ 2 ^ 200 * 2 ^ 200 * 2 ^ (den.log2 + 1) :=
      Nat.mul_le_mul_left _ upper.le
    _ = 2 ^ (200 + (200 + (den.log2 + 1))) := by
      rw [Nat.pow_add 2 200, Nat.pow_add 2 200, Nat.mul_assoc]
    _ ≤ 2 ^ (num.log2 + 2 * (precision + (den.log2 - num.log2))) :=
      Nat.pow_le_pow_right (by decide) exponents
    _ = 2 ^ num.log2 * 4 ^ (precision + (den.log2 - num.log2)) := by
      rw [Nat.pow_add, Nat.pow_mul]
    _ ≤ num * 4 ^ (precision + (den.log2 - num.log2)) := Nat.mul_le_mul_right _ lower

/-- With as many digits as are kept, a positive number does not vanish. -/
theorem le_shifted {num : Nat} (hnum : num ≠ 0) (den : Nat) :
    den ≤ num * 4 ^ (precision + (den.log2 - num.log2)) :=
  (Nat.le_mul_of_pos_left den (by decide)).trans (two_pow_mul_le_shifted hnum den)

theorem sqrt_eq_zero_iff {q : Rat} (hq : 0 ≤ q) : sqrt q = 0 ↔ q = 0 := by
  constructor
  · intro zero
    by_contra nonzero
    have num : q.num.natAbs ≠ 0 := by simpa using nonzero
    have den : q.den ≠ 0 := q.den_nz
    simp only [sqrt] at zero
    split at zero
    next =>
      rw [Rat.mkRat_eq_zero (floorSqrt_pos (Nat.pos_of_ne_zero den) _).ne'] at zero
      exact (floorSqrt_pos (Nat.pos_of_ne_zero num) _).ne' (by exact_mod_cast zero)
    next =>
      rw [ofFixed, Rat.mkRat_eq_zero (Nat.two_pow_pos _).ne'] at zero
      have whole := Nat.div_pos (le_shifted num q.den) (Nat.pos_of_ne_zero den)
      exact (floorSqrt_pos whole _).ne' (by exact_mod_cast zero)
  · rintro rfl
    decide +kernel

end Number.Precise

namespace Relation

open Number

variable {f : Fault} {values : String → Option Float}

namespace Value

theorem intPow_eq_error_iff {n : Int} {v : Value} :
    v.intPow n = .error f ↔ v = real 0 ∧ n < 0 := by
  cases v with
  | unbounded | undefined => simp [intPow, real]
  | number re im =>
      cases re with
      | none => cases im <;> simp [intPow, real]
      | some x =>
          cases im with
          | none =>
              by_cases zero : x = 0 <;> by_cases negative : n < 0 <;>
                simp [intPow, real, zero, negative]
          | some y =>
              simp only [intPow]
              split <;> simp [real]

theorem realPow_eq_error_iff {x y : Rat} :
    realPow x y = .error f ↔ x = 0 ∧ y < 0 ∧ y.den ≤ 2 := by
  have sign : y.num < 0 ↔ y < 0 := Rat.num_neg
  unfold realPow
  split
  next whole =>
    by_cases zero : y = 0
    · simp [zero]
    · simp [zero, intPow_eq_error_iff, real, sign, whole]
  next fraction =>
    split
    next half =>
      by_cases negative : x < 0
      · simp [negative, negative.ne]
      · have root := Precise.sqrt_eq_zero_iff (not_lt.mp negative)
        simp [negative, intPow_eq_error_iff, real, sign, half, root]
    next =>
      have den : ¬y.den ≤ 2 := by
        have := y.den_pos
        omega
      simp only [den, and_false, iff_false]
      split
      · simp
      · split <;> simp

theorem pow_eq_error_iff {base exponent : Value} :
    pow base exponent = .error f ↔
      base = real 0 ∧ ∃ y, exponent = real y ∧ y < 0 ∧ y.den ≤ 2 := by
  cases exponent with
  | unbounded | undefined => simp [pow, real]
  | number re im =>
      cases im with
      | some z => cases re <;> simp [pow, real]
      | none =>
          cases re with
          | none => simp [pow, real]
          | some y =>
              cases base with
              | unbounded | undefined => simp [pow, real]
              | number x z =>
                  cases x <;> cases z <;> simp [pow, real, realPow_eq_error_iff]

/-- Terms that cancel leave a trace. -/
theorem part_ne_zero (t : Total) : t.part ≠ some 0 := by
  cases top : t.top with
  | none => simp [Total.part, top]
  | some e =>
      by_cases zero : t.sum = 0
      · simpa [Total.part, top, zero] using Precise.twoPow_ne_zero (e - Total.digits)
      · simp [Total.part, top, zero]

theorem add_ne_given_zero (a b : Partial) : (add a b).finish ≠ real 0 := by
  unfold add
  split
  next re im re' im' _ _ =>
    simp [Partial.finish, real, part_ne_zero]
  next =>
    split <;> simp [Partial.finish, real]

theorem ofRat_ne_given_zero (q : Rat) : ofRat q ≠ real 0 := by
  by_cases zero : q = 0 <;> simp [ofRat, Value.zero, real, zero]

theorem ofFloat_of_not_finite {x : Float} (h : Binary64.toRat? x = none) :
    ofFloat x = undefined ∨ ofFloat x = unbounded := by
  simp only [ofFloat, h]
  split
  · exact .inl rfl
  · exact .inr rfl

theorem ofFloat_eq_given_zero_iff {x : Float} :
    ofFloat x = real 0 ↔ Binary64.toRat? x = some 0 := by
  cases exact : Binary64.toRat? x with
  | some q => simp [ofFloat, exact, real]
  | none => obtain value | value := ofFloat_of_not_finite exact <;> simp [value, real]

theorem piValue_ne_zero : piValue ≠ 0 := by
  decide +kernel

theorem neg_undefined (y : Rat) : (ofRat (-1)).mul undefined ≠ real y := by
  simp [ofRat, mul, real]

/-- The negative of a given zero is truly zero, which no power faults at. -/
theorem neg_ofFloat_eq_real_iff {x : Float} {y : Rat} :
    (ofRat (-1)).mul (ofFloat x) = real y ↔
      ∃ q, Binary64.toRat? x = some q ∧ q ≠ 0 ∧ -q = y := by
  have written : ofRat (-1) = real (-1) := rfl
  rw [written]
  cases exact : Binary64.toRat? x with
  | some q =>
      by_cases nonzero : q = 0 <;>
        simp [ofFloat, exact, nonzero, mul, isZero, isGivenZero, real, zero]
  | none =>
      obtain value | value := ofFloat_of_not_finite exact <;>
        simp [value, mul, isZero, isGivenZero, real]

/-- The tangent of a given zero is truly zero and may stand under a fraction bar. -/
theorem tan_ofFloat_eq_given_zero_iff {x : Float} :
    (ofFloat x).tan = real 0 ↔
      ∃ q, Binary64.toRat? x = some q ∧ q ≠ 0 ∧ Precise.tan q = 0 := by
  cases exact : Binary64.toRat? x with
  | some q => by_cases nonzero : q = 0 <;> simp [ofFloat, exact, nonzero, tan, real, zero]
  | none => obtain value | value := ofFloat_of_not_finite exact <;> simp [value, tan, real]

end Value

namespace Side

/-! The value of a side by the values of its parts. -/

theorem value_number (q : Rat) : (number q).value values = .ok (.ofRat q) := rfl

theorem value_name (key : String) :
    (name key).value values = .ok (((values key).map Value.ofFloat).getD .undefined) := by
  rw [value, evaluate]
  cases values key <;> rfl

theorem value_add (a b : Side) :
    (add a b).value values =
      (a.evaluate values >>= fun x => b.evaluate values >>= fun y =>
        .ok (Value.add x y).finish) := by
  change (a.evaluate values >>= fun x => b.evaluate values >>= fun y =>
    .ok (Value.add x y)) >>= (fun p => .ok p.finish) = _
  cases a.evaluate values <;> cases b.evaluate values <;> rfl

theorem value_mul (a b : Side) :
    (mul a b).value values =
      (a.value values >>= fun x => b.value values >>= fun y => .ok (x.mul y)) := by
  change (a.evaluate values >>= fun x => b.evaluate values >>= fun y =>
      .ok (Value.Partial.value (x.finish.mul y.finish))) >>= (fun p => .ok p.finish) =
    (a.evaluate values >>= fun p => .ok p.finish) >>= fun x =>
      (b.evaluate values >>= fun p => .ok p.finish) >>= fun y => .ok (x.mul y)
  cases a.evaluate values <;> cases b.evaluate values <;> rfl

theorem value_log (a : Side) :
    (log a).value values = (a.value values >>= fun x => .ok x.log) := by
  change (a.evaluate values >>= fun x => .ok (Value.Partial.value x.finish.log)) >>=
      (fun p => .ok p.finish) =
    (a.evaluate values >>= fun p => .ok p.finish) >>= fun x => .ok x.log
  cases a.evaluate values <;> rfl

theorem value_tan (a : Side) :
    (tan a).value values = (a.value values >>= fun x => .ok x.tan) := by
  change (a.evaluate values >>= fun x => .ok (Value.Partial.value x.finish.tan)) >>=
      (fun p => .ok p.finish) =
    (a.evaluate values >>= fun p => .ok p.finish) >>= fun x => .ok x.tan
  cases a.evaluate values <;> rfl

theorem value_atan (a : Side) :
    (atan a).value values = (a.value values >>= fun x => .ok x.atan) := by
  change (a.evaluate values >>= fun x => .ok (Value.Partial.value x.finish.atan)) >>=
      (fun p => .ok p.finish) =
    (a.evaluate values >>= fun p => .ok p.finish) >>= fun x => .ok x.atan
  cases a.evaluate values <;> rfl

/-- Integers and one half are powers of their own. -/
def numberPower (q : Rat) (v : Value) : Except Fault Value :=
  if q.den = 1 then v.intPow q.num
  else if q = 1 / 2 then .ok v.sqrt
  else v.pow (.ofRat q)

theorem value_pow_number (base : Side) (q : Rat) :
    (pow base (number q)).value values = base.value values >>= numberPower q := by
  -- the equations of `evaluate` split on exponents, while it computes to this at once
  change (base.evaluate values >>= fun x =>
      if q.den = 1 then x.finish.intPow q.num >>= fun v => .ok (Value.Partial.value v)
      else if q = 1 / 2 then .ok (.value x.finish.sqrt)
      else x.finish.pow (.ofRat q) >>= fun v => .ok (.value v)) >>= (fun p => .ok p.finish) =
    (base.evaluate values >>= fun p => .ok p.finish) >>= numberPower q
  cases base.evaluate values with
  | error e => rfl
  | ok x =>
      change (if q.den = 1 then x.finish.intPow q.num >>= fun v => .ok (Value.Partial.value v)
          else if q = 1 / 2 then .ok (.value x.finish.sqrt)
          else x.finish.pow (.ofRat q) >>= fun v => .ok (.value v)) >>=
            (fun p => .ok p.finish) = numberPower q x.finish
      unfold numberPower
      by_cases whole : q.den = 1
      · rw [if_pos whole, if_pos whole]
        cases x.finish.intPow q.num <;> rfl
      · rw [if_neg whole, if_neg whole]
        by_cases half : q = 1 / 2
        · rw [if_pos half, if_pos half]
          rfl
        · rw [if_neg half, if_neg half]
          cases x.finish.pow (.ofRat q) <;> rfl

theorem value_pow {exponent : Side} (base : Side) (h : ∀ q, exponent ≠ number q) :
    (pow base exponent).value values =
      (base.value values >>= fun x => exponent.value values >>= fun y => x.pow y) := by
  have evaluated : (pow base exponent).evaluate values =
      (base.evaluate values >>= fun x => exponent.evaluate values >>= fun y =>
        x.finish.pow y.finish >>= fun v => .ok (.value v)) := by
    cases exponent <;> first | rfl | exact absurd rfl (h _)
  rw [value, evaluated, value, value]
  cases base.evaluate values with
  | error e => rfl
  | ok x =>
      cases exponent.evaluate values with
      | error e => rfl
      | ok y =>
          change (x.finish.pow y.finish >>= fun v => .ok (Value.Partial.value v)) >>=
            (fun p => .ok p.finish) = x.finish.pow y.finish
          cases x.finish.pow y.finish <;> rfl

/-! Where a side faults. -/

theorem value_add_eq_error_iff {a b : Side} :
    (add a b).value values = .error f ↔
      a.value values = .error f ∨ b.value values = .error f := by
  rw [value_add, value, value]
  cases a.evaluate values <;> cases b.evaluate values <;> simp [bind, Except.bind]

theorem value_mul_eq_error_iff {a b : Side} :
    (mul a b).value values = .error f ↔
      a.value values = .error f ∨ b.value values = .error f := by
  rw [value_mul]
  cases a.value values <;> cases b.value values <;> simp [bind, Except.bind]

theorem numberPower_eq_error_iff {q : Rat} {v : Value} :
    numberPower q v = .error f ↔ v = .real 0 ∧ q < 0 ∧ q.den ≤ 2 := by
  unfold numberPower
  by_cases whole : q.den = 1
  · have sign : q.num < 0 ↔ q < 0 := Rat.num_neg
    simp [whole, Value.intPow_eq_error_iff, sign]
  · by_cases half : q = 1 / 2
    · subst half
      simp
    · have nonzero : q ≠ 0 := fun zero => whole (by rw [zero]; rfl)
      have written : Value.ofRat q = .real q := if_neg nonzero
      rw [if_neg whole, if_neg half, written, Value.pow_eq_error_iff]
      simp [Value.real]

theorem value_pow_number_eq_error_iff {base : Side} {q : Rat} :
    (pow base (number q)).value values = .error f ↔
      base.value values = .error f ∨
        base.value values = .ok (.real 0) ∧ q < 0 ∧ q.den ≤ 2 := by
  rw [value_pow_number, Except.bind_eq_error_iff]
  simp only [numberPower_eq_error_iff]
  refine or_congr_right ⟨?_, ?_⟩
  · rintro ⟨v, found, rfl, rest⟩
    exact ⟨found, rest⟩
  · rintro ⟨found, rest⟩
    exact ⟨.real 0, found, rfl, rest⟩

/-- A power faults where its parts do, and where a given zero has an exponent that is a
negative half of an integer. -/
theorem value_pow_eq_error_iff {base exponent : Side} :
    (pow base exponent).value values = .error f ↔
      base.value values = .error f ∨ exponent.value values = .error f ∨
        base.value values = .ok (.real 0) ∧
          ∃ y, exponent.value values = .ok (.real y) ∧ y < 0 ∧ y.den ≤ 2 := by
  by_cases number : ∃ q, exponent = number q
  · obtain ⟨q, rfl⟩ := number
    rw [value_pow_number_eq_error_iff, value_number]
    by_cases zero : q = 0
    · simp [zero, Value.ofRat, Value.zero, Value.real]
    · simp [zero, Value.ofRat, Value.real]
  · rw [value_pow base fun q same => number ⟨q, same⟩]
    cases base.value values with
    | error e => simp [bind, Except.bind]
    | ok x =>
        cases exponent.value values with
        | error e => simp [bind, Except.bind]
        | ok y => simpa [bind, Except.bind] using Value.pow_eq_error_iff

theorem value_name_ne_error {key : String} : (name key).value values ≠ .error f := by
  simp [value_name]

theorem value_name_eq_given_zero_iff {key : String} :
    (name key).value values = .ok (.real 0) ↔
      (values key).bind Binary64.toRat? = some 0 := by
  cases given : values key with
  | none => simp [value_name, given, Value.real]
  | some x => simp [value_name, given, Value.ofFloat_eq_given_zero_iff]

/-- The names that stand by themselves under a fraction bar. -/
def divisors : Side → List String
  | number _ | unbounded | pi | name _ => []
  | pow (name key) (number q) => if q < 0 ∧ q.den ≤ 2 then [key] else []
  | add a b | mul a b | pow a b => a.divisors ++ b.divisors
  | log a | tan a | atan a => a.divisors

/-- Sides that are never a given zero. -/
def nonzero : Side → Bool
  | number _ | pi | add _ _ => true
  | log (number q) => 0 < q && Precise.ln q != 0
  | _ => false

/-- A power under a fraction bar has a name or a side that is never a given zero as its
base; other exponents are numbers or names of positive values. -/
def regular (positive : String → Bool) : Side → Bool
  | number _ | unbounded | pi | name _ | pow (name _) (number _) => true
  | pow base (number q) => base.regular positive && (q.den > 2 || 0 ≤ q || base.nonzero)
  | pow base (name key) => base.regular positive && positive key
  | pow _ _ => false
  | add a b | mul a b => a.regular positive && b.regular positive
  | log a | tan a | atan a => a.regular positive

theorem value_ne_given_zero {s : Side} (h : s.nonzero = true) :
    s.value values ≠ .ok (.real 0) := by
  intro zero
  cases s with
  | number q => exact Value.ofRat_ne_given_zero q (Except.ok.inj zero)
  | pi =>
      have zero : Value.real Value.piValue = .real 0 := Except.ok.inj zero
      simp only [Value.real, Value.number.injEq, Option.some.injEq, and_true] at zero
      exact Value.piValue_ne_zero zero
  | add a b =>
      rw [value_add] at zero
      obtain ⟨x, -, zero⟩ := Except.bind_eq_ok_iff.mp zero
      obtain ⟨y, -, zero⟩ := Except.bind_eq_ok_iff.mp zero
      exact Value.add_ne_given_zero x y (Except.ok.inj zero)
  | log a =>
      cases a with
      | number q =>
          simp only [nonzero, Bool.and_eq_true, decide_eq_true_eq, bne_iff_ne] at h
          rw [value_log, value_number] at zero
          have zero : (Value.ofRat q).log = .real 0 := Except.ok.inj zero
          simp only [Value.ofRat, h.1.ne', if_false, Value.real, Value.log,
            not_lt.mpr h.1.le, Value.number.injEq, Option.some.injEq, and_true] at zero
          exact h.2 zero
      | _ => cases h
  | _ => cases h

theorem regular_pow_number {positive : String → Bool} {base : Side} {q : Rat}
    (h : (pow base (number q)).regular positive = true) :
    (∃ key, base = name key) ∨
      (base.regular positive = true ∧ (2 < q.den ∨ 0 ≤ q ∨ base.nonzero = true)) ∧
        (pow base (number q)).divisors = base.divisors := by
  cases base with
  | name key => exact .inl ⟨key, rfl⟩
  | _ =>
      right
      simpa [regular, divisors, or_assoc] using h

/-- A given zero stands by itself under a fraction bar of a side. -/
def DividesBy (values : String → Option Float) (s : Side) : Prop :=
  ∃ key ∈ s.divisors, (values key).bind Binary64.toRat? = some 0

theorem dividesBy_append {s a b : Side} (h : s.divisors = a.divisors ++ b.divisors) :
    s.DividesBy values ↔ a.DividesBy values ∨ b.DividesBy values := by
  simp only [DividesBy, h, List.mem_append, or_and_right, exists_or]

variable {positive : String → Bool}

theorem pow_number_eq_error_iff_dividesBy {base : Side} {q : Rat}
    (regular : (pow base (number q)).regular positive = true)
    (ih : base.regular positive = true →
      (base.value values = .error f ↔ base.DividesBy values)) :
    (pow base (number q)).value values = .error f ↔
      (pow base (number q)).DividesBy values := by
  rw [value_pow_number_eq_error_iff]
  obtain ⟨key, rfl⟩ | ⟨⟨base_regular, harmless⟩, same⟩ := regular_pow_number regular
  · rw [value_name_eq_given_zero_iff]
    by_cases negative : q < 0 ∧ q.den ≤ 2 <;>
      simp [DividesBy, divisors, value_name_ne_error, negative]
  · rw [DividesBy, same, ← DividesBy, ← ih base_regular]
    refine or_iff_left fun ⟨zero, negative, whole⟩ => ?_
    obtain den | sign | nonzero := harmless
    · exact absurd whole (not_le.mpr den)
    · exact absurd negative (not_lt.mpr sign)
    · exact value_ne_given_zero nonzero zero

theorem pow_name_eq_error_iff_dividesBy {base : Side} {key : String}
    (known : ∀ key, positive key = true →
      ∃ q, (values key).bind Binary64.toRat? = some q ∧ 0 < q)
    (regular : (pow base (name key)).regular positive = true)
    (ih : base.regular positive = true →
      (base.value values = .error f ↔ base.DividesBy values)) :
    (pow base (name key)).value values = .error f ↔
      (pow base (name key)).DividesBy values := by
  have parts : base.regular positive = true ∧ positive key = true := by
    cases base <;> simpa [Side.regular] using regular
  obtain ⟨q, given, sign⟩ := known key parts.2
  have found : (name key).value values = .ok (.real q) := by
    obtain ⟨x, hx, hq⟩ := Option.bind_eq_some_iff.mp given
    simp [value_name, hx, Value.ofFloat, hq]
  have same : (pow base (name key)).divisors = base.divisors := by
    simp only [divisors, List.append_nil]
  rw [value_pow_eq_error_iff, DividesBy, same, ← DividesBy, ih parts.1, found]
  simp only [reduceCtorEq, false_or]
  refine or_iff_left fun ⟨_, y, equal, negative, _⟩ => ?_
  simp only [Except.ok.injEq, Value.real, Value.number.injEq, Option.some.injEq,
    and_true] at equal
  exact absurd (equal ▸ sign) (not_lt.mpr negative.le)

/-- A regular side faults just where it divides by a given zero. -/
theorem value_eq_error_iff_dividesBy {s : Side}
    (known : ∀ key, positive key = true →
      ∃ q, (values key).bind Binary64.toRat? = some q ∧ 0 < q)
    (regular : s.regular positive = true) :
    s.value values = .error f ↔ s.DividesBy values := by
  induction s with
  | number _ | unbounded | pi =>
      simp [value, evaluate, DividesBy, divisors, bind, Except.bind]
  | name key => simp [value_name_ne_error, DividesBy, divisors]
  | add a b iha ihb =>
      simp only [Side.regular, Bool.and_eq_true] at regular
      rw [value_add_eq_error_iff, iha regular.1, ihb regular.2]
      exact (dividesBy_append rfl).symm
  | mul a b iha ihb =>
      simp only [Side.regular, Bool.and_eq_true] at regular
      rw [value_mul_eq_error_iff, iha regular.1, ihb regular.2]
      exact (dividesBy_append rfl).symm
  | log a ih =>
      rw [value_log, Except.bind_ok_eq_error_iff]
      exact ih regular
  | tan a ih =>
      rw [value_tan, Except.bind_ok_eq_error_iff]
      exact ih regular
  | atan a ih =>
      rw [value_atan, Except.bind_ok_eq_error_iff]
      exact ih regular
  | pow base exponent ih _ =>
      -- only these exponents are regular, so the other hypothesis is not needed
      cases exponent with
      | number q => exact pow_number_eq_error_iff_dividesBy regular ih
      | name key => exact pow_name_eq_error_iff_dividesBy known regular ih
      | _ => cases base <;> cases regular

theorem value_neg_name_eq_real_iff {key : String} {y : Rat} :
    (mul (number (-1)) (name key)).value values = .ok (.real y) ↔
      ∃ q, (values key).bind Binary64.toRat? = some q ∧ q ≠ 0 ∧ -q = y := by
  have evaluated : (mul (number (-1)) (name key)).value values =
      .ok ((Value.ofRat (-1)).mul (((values key).map Value.ofFloat).getD .undefined)) := by
    rw [value_mul, value_number, value_name]
    rfl
  cases given : values key with
  | none => simp [evaluated, given, Value.neg_undefined]
  | some x => simp [evaluated, given, Value.neg_ofFloat_eq_real_iff]

/-- A power of a given zero faults at the positive halves of integers under a minus. -/
theorem value_name_pow_neg_eq_error_iff {base exponent : String} :
    (pow (name base) (mul (number (-1)) (name exponent))).value values = .error f ↔
      (values base).bind Binary64.toRat? = some 0 ∧
        ∃ q, (values exponent).bind Binary64.toRat? = some q ∧ 0 < q ∧ q.den ≤ 2 := by
  rw [value_pow_eq_error_iff, value_mul_eq_error_iff, value_name_eq_given_zero_iff]
  simp only [value_name_ne_error, value_number, reduceCtorEq, false_or,
    value_neg_name_eq_real_iff]
  refine and_congr_right fun _ => ?_
  constructor
  · rintro ⟨_, ⟨q, given, _, rfl⟩, negative, whole⟩
    exact ⟨q, given, neg_lt_zero.mp negative, by simpa using whole⟩
  · rintro ⟨q, given, positive, whole⟩
    exact ⟨-q, ⟨q, given, positive.ne', rfl⟩, neg_lt_zero.mpr positive, by simpa using whole⟩

theorem value_tan_inv_eq_error_iff {key : String} :
    (pow (tan (name key)) (number (-1))).value values = .error f ↔
      ∃ q, (values key).bind Binary64.toRat? = some q ∧ q ≠ 0 ∧ Precise.tan q = 0 := by
  have evaluated : (tan (name key)).value values =
      .ok (((values key).map Value.ofFloat).getD .undefined).tan := by
    rw [value_tan, value_name]
    rfl
  rw [value_pow_number_eq_error_iff, evaluated]
  have negative : (-1 : Rat) < 0 ∧ (-1 : Rat).den ≤ 2 := by decide
  simp only [negative, and_true]
  cases given : values key with
  | none => simp [Value.tan, Value.real]
  | some x => simp [Value.tan_ofFloat_eq_given_zero_iff]

end Side

end Relation

end Astrolabe
