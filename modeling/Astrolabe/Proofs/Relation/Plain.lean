import Astrolabe.Proofs.Relation.Evaluated

/-!
Sides of which the evaluation is near the real value. Rational sides are exact. Plain
sides are products of rational ones, pi, powers and logarithms; each part adds to the
slack of the whole.
-/

namespace Astrolabe.Relation.Side

open Number Precise

/-- The names in a side. -/
def keys : Side → List String
  | name key => [key]
  | add a b | mul a b | pow a b => a.keys ++ b.keys
  | log a | tan a | atan a => a.keys
  | number _ | unbounded | pi => []

/-- Names have finite values, of which the real numbers are the exact ones. -/
def Reads (values : String → Option Float) (ρ : String → ℝ) (key : String) : Prop :=
  ∃ x q, values key = some x ∧ Binary64.toRat? x = some q ∧ ρ key = q

/-- No sum in a side is zero but for sums of zeros. -/
@[simp] def Balanced (ρ : String → ℝ) : Side → Prop
  | number _ | unbounded | pi | name _ => True
  | add a b =>
      a.Balanced ρ ∧ b.Balanced ρ ∧ (a.real ρ + b.real ρ = 0 → a.real ρ = 0 ∧ b.real ρ = 0)
  | mul a b | pow a b => a.Balanced ρ ∧ b.Balanced ρ
  | log a | tan a | atan a => a.Balanced ρ

/-- An exponent for which integer powers and square roots suffice. -/
def smallExponent (q : ℚ) : Bool :=
  q.num ≠ 0 && q.num.natAbs ≤ 1024 && q.den ≤ 2

/-- Sums, products and integer powers of numbers and names. -/
def rational : Side → Bool
  | number _ | name _ => true
  | add a b | mul a b => a.rational && b.rational
  | pow base (number q) => base.rational && smallExponent q && q.den == 1
  | _ => false

/-- Products of rational sides, pi, and powers and logarithms. -/
def plain : Side → Bool
  | pi => true
  | mul a b => a.plain && b.plain
  | log a => a.rational
  | pow base (number q) => if smallExponent q then base.plain else 2 < q.den && base.rational
  | pow base exponent => base.rational && exponent.rational
  | s => s.rational

/-- A bound for the logarithm of the factor by which the value of a plain side is off. -/
def slack : Side → ℚ
  | pi => 1 / 2 ^ 65
  | mul a b => a.slack + b.slack
  | log _ => 1 / 2 ^ 120
  | pow base (number q) =>
    if smallExponent q then
      if q.den = 1 then q.num.natAbs * base.slack else q.num.natAbs * (base.slack + 1 / 2 ^ 100)
    else 1 / 2 ^ 100
  | pow _ _ => 1 / 2 ^ 100
  | _ => 0

/-- Powers are not near zero or infinity beyond reason, and logarithms are zero or not
small. -/
@[simp] def Moderate (ρ : String → ℝ) : Side → Prop
  | mul a b => a.Moderate ρ ∧ b.Moderate ρ
  | log a => a.real ρ = 1 ∨ 1 ≤ |Real.log (a.real ρ)|
  | pow base (number q) =>
      if smallExponent q then base.Moderate ρ else Value.PowerBounded (base.real ρ) q
  | pow base exponent =>
      Value.PowerBounded (base.real ρ) (exponent.real ρ) ∧
        ((∃ key, base = name key) ∨ base.real ρ ≠ 0 ∨ exponent.real ρ ≠ 0)
  | _ => True

variable {values : String → Option Float} {ρ : String → ℝ}

/-! The evaluation of a side by that of its parts. -/

section

variable {a b : Side} {p p' : Value.Partial}

theorem evaluate_add (ha : a.evaluate values = .ok p) (hb : b.evaluate values = .ok p') :
    (add a b).evaluate values = .ok (Value.add p p') := by
  change (a.evaluate values >>= fun x => b.evaluate values >>= fun y =>
    Except.ok (Value.add x y)) = _
  rw [ha, hb]
  rfl

theorem evaluate_mul (ha : a.evaluate values = .ok p) (hb : b.evaluate values = .ok p') :
    (mul a b).evaluate values = .ok (.value (p.finish.mul p'.finish)) := by
  change (a.evaluate values >>= fun x => b.evaluate values >>= fun y =>
    Except.ok (Value.Partial.value (x.finish.mul y.finish))) = _
  rw [ha, hb]
  rfl

theorem evaluate_log (ha : a.evaluate values = .ok p) :
    (log a).evaluate values = .ok (.value p.finish.log) := by
  change (a.evaluate values >>= fun x => Except.ok (Value.Partial.value x.finish.log)) = _
  rw [ha]
  rfl

theorem evaluate_pow_number (ha : a.evaluate values = .ok p) {q : ℚ} {v : Value}
    (hv : numberPower q p.finish = .ok v) :
    (pow a (number q)).evaluate values = .ok (.value v) := by
  change (a.evaluate values >>= fun x =>
    if q.den = 1 then x.finish.intPow q.num >>= fun v => .ok (Value.Partial.value v)
    else if q = 1 / 2 then .ok (.value x.finish.sqrt)
    else x.finish.pow (.ofRat q) >>= fun v => .ok (.value v)) = _
  rw [ha]
  change (if q.den = 1 then p.finish.intPow q.num >>= fun v => .ok (Value.Partial.value v)
    else if q = 1 / 2 then .ok (.value p.finish.sqrt)
    else p.finish.pow (.ofRat q) >>= fun v => .ok (.value v)) = _
  unfold numberPower at hv
  by_cases whole : q.den = 1
  · rw [if_pos whole] at hv
    rw [if_pos whole, hv]
    rfl
  · rw [if_neg whole] at hv
    rw [if_neg whole]
    by_cases half : q = 1 / 2
    · rw [if_pos half] at hv
      rw [if_pos half, Except.ok.inj hv]
    · rw [if_neg half] at hv
      rw [if_neg half, hv]
      rfl

theorem evaluate_pow (number_free : ∀ q, b ≠ number q) (ha : a.evaluate values = .ok p)
    (hb : b.evaluate values = .ok p') {v : Value} (hv : p.finish.pow p'.finish = .ok v) :
    (pow a b).evaluate values = .ok (.value v) := by
  have evaluated : (pow a b).evaluate values =
      (a.evaluate values >>= fun x => b.evaluate values >>= fun y =>
        x.finish.pow y.finish >>= fun v => .ok (.value v)) := by
    cases b <;> first | rfl | exact absurd rfl (number_free _)
  rw [evaluated, ha, hb]
  change (p.finish.pow p'.finish >>= fun v => Except.ok (Value.Partial.value v)) = _
  rw [hv]
  rfl

theorem evaluate_name {key : String} (h : Reads values ρ key) :
    ∃ q, (name key).evaluate values = .ok (.value (.real q)) ∧ ρ key = q := by
  obtain ⟨x, q, given, value, real⟩ := h
  refine ⟨q, ?_, real⟩
  simp only [evaluate, given, Value.ofFloat, value]

end

/-! Powers with small exponents. -/

theorem smallExponent_iff {e : ℚ} :
    smallExponent e = true ↔ e.num ≠ 0 ∧ e.num.natAbs ≤ 1024 ∧ e.den ≤ 2 := by
  simp [smallExponent, and_assoc]

theorem wholePower_of_le {q : ℚ} {n : ℤ} (hn : n ≠ 0) (h : n.natAbs ≤ 1024) :
    (if q = 0 then 0 else Value.wholePower q n) = q ^ n := by
  split
  next zero => rw [zero, zero_zpow n hn]
  next => exact if_pos h

theorem half_num : (1 / 2 : ℚ).num = 1 := by
  decide +kernel

theorem half_den : (1 / 2 : ℚ).den = 2 := by
  decide +kernel

theorem holds_numberPower {v : Value} {r e : ℚ} (hv : v.Holds r) (small : smallExponent e = true)
    (root : e.den = 2 → 0 ≤ r) (zero : r = 0 → 0 ≤ e) :
    ∃ w, numberPower e v = .ok w ∧
      w.Holds ((if e.den = 1 then r else Precise.sqrt r) ^ e.num) := by
  obtain ⟨num, bound, den⟩ := smallExponent_iff.mp small
  have nonneg (h : r = 0) : 0 ≤ e.num := Rat.num_nonneg.mpr (zero h)
  unfold numberPower
  split
  next =>
    obtain ⟨w, value, holds⟩ := hv.intPow nonneg
    rw [wholePower_of_le num bound] at holds
    exact ⟨w, value, holds⟩
  next fraction =>
    have two : e.den = 2 := by
      have := e.den_pos
      omega
    split
    next half =>
      refine ⟨_, rfl, ?_⟩
      rw [half, half_num, zpow_one]
      exact hv.sqrt (root two)
    next =>
      have nonzero : e ≠ 0 := fun none => num (by rw [none, Rat.num_zero])
      rw [Value.ofRat, if_neg nonzero]
      have power : ∃ w, (Value.real r).pow (.real e) = .ok w ∧
          w.Holds (Precise.sqrt r ^ e.num) := by
        obtain ⟨w, value, holds⟩ := (Value.holds_real (Precise.sqrt r)).intPow (n := e.num)
          fun none => nonneg ((sqrt_eq_zero_iff (root two)).mp none)
        rw [wholePower_of_le num bound] at holds
        refine ⟨w, ?_, holds⟩
        rw [← value]
        simp [Value.pow, Value.real, Value.realPow, two, not_lt.mpr (root two)]
      obtain ⟨rfl, rfl⟩ | rfl := hv
      · refine ⟨.zero, ?_, .inl ⟨rfl, ?_⟩⟩
        · simp [Value.pow, Value.zero, Value.real, not_lt.mpr (zero rfl)]
        · rw [(sqrt_eq_zero_iff le_rfl).mpr rfl, zero_zpow _ num]
      · exact power

/-! Rational sides. -/

theorem rational_pow {base exponent : Side} (h : (pow base exponent).rational = true) :
    ∃ e, exponent = number e ∧ base.rational = true ∧ smallExponent e = true ∧ e.den = 1 := by
  cases exponent <;> simp [rational, and_assoc] at h
  exact ⟨_, rfl, h⟩

/-- A rational side is exact where the terms of its sums do not cancel. -/
theorem evaluate_rational {s : Side} (rational : s.rational = true) (defined : s.Defined ρ)
    (balanced : s.Balanced ρ) (reads : ∀ key ∈ s.keys, Reads values ρ key) :
    ∃ p q, s.evaluate values = .ok p ∧ p.Holds q ∧ s.real ρ = (q : ℝ) := by
  induction s with
  | number q => exact ⟨_, q, rfl, Value.holds_ofRat q, rfl⟩
  | name key =>
      obtain ⟨q, value, real⟩ := evaluate_name (reads key (List.mem_singleton_self key))
      exact ⟨_, q, value, Value.holds_real q, real⟩
  | add a b iha ihb =>
      simp only [Side.rational, Bool.and_eq_true] at rational
      obtain ⟨p, q, hp, holds, left⟩ := iha rational.1 defined.1 balanced.1
        fun key mem => reads key (List.mem_append_left _ mem)
      obtain ⟨p', r, hp', holds', right⟩ := ihb rational.2 defined.2 balanced.2.1
        fun key mem => reads key (List.mem_append_right _ mem)
      refine ⟨_, q + r, evaluate_add hp hp', holds.add holds' fun zero => ?_, ?_⟩
      · have := balanced.2.2 (by rw [left, right]; exact_mod_cast zero)
        rw [left, right] at this
        exact_mod_cast this
      · rw [real, left, right, Rat.cast_add]
  | mul a b iha ihb =>
      simp only [Side.rational, Bool.and_eq_true] at rational
      obtain ⟨p, q, hp, holds, left⟩ := iha rational.1 defined.1 balanced.1
        fun key mem => reads key (List.mem_append_left _ mem)
      obtain ⟨p', r, hp', holds', right⟩ := ihb rational.2 defined.2 balanced.2
        fun key mem => reads key (List.mem_append_right _ mem)
      exact ⟨_, q * r, evaluate_mul hp hp', holds.finish.mul holds'.finish,
        by rw [real, left, right, Rat.cast_mul]⟩
  | pow base exponent ih _ =>
      obtain ⟨e, rfl, base_rational, small, whole⟩ := rational_pow rational
      obtain ⟨p, q, hp, holds, base_real⟩ := ih base_rational defined.1 balanced.1
        fun key mem => reads key (List.mem_append_left _ mem)
      obtain ⟨w, value, result⟩ := holds_numberPower holds.finish small (by omega) fun zero => by
        have nonneg := defined.2.2.nonneg (by rw [base_real, zero, Rat.cast_zero])
        rw [real] at nonneg
        exact_mod_cast nonneg
      rw [if_pos whole] at result
      refine ⟨_, _, evaluate_pow_number hp value, result, ?_⟩
      rw [real, real, base_real, ← Value.rpow_num_of_den_eq_one _ whole, Rat.cast_zpow]
  | _ => cases rational

/-! Plain sides. -/

section

variable {base exponent : Side} (number_free : ∀ q, exponent ≠ number q)
include number_free

theorem plain_pow :
    (pow base exponent).plain = (base.rational && exponent.rational) := by
  cases exponent <;> first | rfl | exact absurd rfl (number_free _)

theorem slack_pow : (pow base exponent).slack = 1 / 2 ^ 100 := by
  cases exponent <;> first | rfl | exact absurd rfl (number_free _)

theorem moderate_pow : (pow base exponent).Moderate ρ ↔
    Value.PowerBounded (base.real ρ) (exponent.real ρ) ∧
      ((∃ key, base = name key) ∨ base.real ρ ≠ 0 ∨ exponent.real ρ ≠ 0) := by
  cases exponent <;> first | rfl | exact absurd rfl (number_free _)

end

theorem cast_unit (n : ℕ) : ((1 / 2 ^ n : ℚ) : ℝ) = 1 / 2 ^ n := by
  push_cast
  rfl

theorem whole_of_rat {e : ℚ} {n : ℤ} (h : (e : ℝ) = n) : e.den = 1 := by
  have : e = n := by exact_mod_cast h
  rw [this, Rat.den_intCast]

/-- A power with a small exponent of a value near a real number. -/
theorem within_numberPower {k r e : ℚ} {x : ℝ} (small : smallExponent e = true)
    (near : Within k r x) (root : e.den = 2 → 0 ≤ r) :
    Within ((if e.den = 1 then e.num.natAbs * k else e.num.natAbs * (k + 1 / 2 ^ 100) : ℚ) : ℝ)
      (((if e.den = 1 then r else Precise.sqrt r) ^ e.num : ℚ) : ℝ) (x ^ (e : ℝ)) := by
  have size : ((e.num.natAbs : ℚ) : ℝ) = |(e.num : ℝ)| := by
    rw [Nat.cast_natAbs]
    push_cast
    rfl
  have slack_nonneg : (0 : ℝ) ≤ k := by
    obtain ⟨t, ht, -⟩ := near
    exact (abs_nonneg t).trans ht
  split
  next whole =>
    rw [Rat.cast_mul, size, Rat.cast_zpow, ← Value.rpow_num_of_den_eq_one _ whole]
    exact near.zpow e.num
  next fraction =>
    have two : e.den = 2 := by
      have := e.den_pos
      have := (smallExponent_iff.mp small).2.2
      omega
    have nonneg : 0 ≤ x := by
      by_contra negative
      exact absurd (root two) (not_le.mpr (by
        exact_mod_cast near.neg_iff.mpr (not_le.mp negative)))
    have half : (e : ℝ) = 1 / 2 * e.num := by
      rw [Rat.cast_def, two]
      push_cast
      ring
    rw [half, Real.rpow_mul nonneg, ← Real.sqrt_eq_rpow, Real.rpow_intCast, Rat.cast_zpow,
      Rat.cast_mul, size]
    refine (((sqrt_within (root two)).trans near.sqrt).zpow e.num).mono ?_
    refine mul_le_mul_of_nonneg_left ?_ (abs_nonneg _)
    push_cast
    linarith

/-- A side has a value, which is near the real one. -/
def EvaluatesWithin (values : String → Option Float) (ρ : String → ℝ) (k : ℝ) (s : Side) : Prop :=
  ∃ p q, s.evaluate values = .ok p ∧ p.Holds q ∧ Within k q (s.real ρ)

theorem evaluatesWithin_rational {s : Side} (rational : s.rational = true) (defined : s.Defined ρ)
    (balanced : s.Balanced ρ) (reads : ∀ key ∈ s.keys, Reads values ρ key) :
    s.EvaluatesWithin values ρ 0 := by
  obtain ⟨p, q, value, holds, real⟩ := evaluate_rational rational defined balanced reads
  exact ⟨p, q, value, holds, Within.of_eq real.symm⟩

theorem evaluatesWithin_log {a : Side} (rational : a.rational = true)
    (defined : (log a).Defined ρ) (balanced : a.Balanced ρ) (moderate : (log a).Moderate ρ)
    (reads : ∀ key ∈ a.keys, Reads values ρ key) :
    (log a).EvaluatesWithin values ρ (log a).slack := by
  obtain ⟨p, q, hp, holds, value⟩ := evaluate_rational rational defined.1 balanced reads
  have positive := defined.2
  rw [Moderate, value] at moderate
  rw [value] at positive
  obtain ⟨r, result, near⟩ := holds.finish.log (by exact_mod_cast positive)
    (moderate.imp_left fun one => by exact_mod_cast one)
  refine ⟨_, r, evaluate_log hp, result, ?_⟩
  rw [slack, cast_unit, real, value]
  exact near

/-- Integer powers and square roots are taken of the value of the base. -/
theorem evaluatesWithin_smallPower {base : Side} {e : ℚ} (small : smallExponent e = true)
    (evaluates : base.EvaluatesWithin values ρ base.slack)
    (defined : (pow base (number e)).Defined ρ) :
    (pow base (number e)).EvaluatesWithin values ρ (pow base (number e)).slack := by
  obtain ⟨p, r, hp, holds, near⟩ := evaluates
  have power := defined.2.2
  rw [real] at power
  have root (two : e.den = 2) : 0 ≤ r := by
    by_contra negative
    have : base.real ρ < 0 := near.neg_iff.mp (by exact_mod_cast not_le.mp negative)
    obtain ⟨n, hn⟩ := power.whole this
    have := whole_of_rat hn
    omega
  obtain ⟨w, value, result⟩ := holds_numberPower holds.finish small root fun zero => by
    have := power.nonneg (near.eq_zero_iff.mp (by rw [zero, Rat.cast_zero]))
    exact_mod_cast this
  refine ⟨_, _, evaluate_pow_number hp value, result, ?_⟩
  rw [slack, if_pos small, real, real]
  exact within_numberPower small near root

/-- Other powers with a number for exponent are taken of an exact base. -/
theorem evaluatesWithin_numberPower {base : Side} {e : ℚ} (small : ¬smallExponent e = true)
    (fraction : 2 < e.den) (rational : base.rational = true)
    (defined : (pow base (number e)).Defined ρ) (balanced : base.Balanced ρ)
    (bounded : Value.PowerBounded (base.real ρ) e)
    (reads : ∀ key ∈ base.keys, Reads values ρ key) :
    (pow base (number e)).EvaluatesWithin values ρ (pow base (number e)).slack := by
  obtain ⟨p, q, hp, holds, value⟩ := evaluate_rational rational defined.1 balanced reads
  have power := defined.2.2
  rw [real, value] at power
  rw [value] at bounded
  have nonzero : e ≠ 0 := fun none => by
    rw [none, Rat.den_zero] at fraction
    omega
  obtain ⟨u, r, result, holds', near⟩ := holds.finish.pow (Value.holds_ofRat e) power
    fun _ none => absurd none nonzero
  have numbered : numberPower e p.finish = .ok u := by
    rw [numberPower, if_neg (by omega), if_neg, result]
    rintro rfl
    rw [half_den] at fraction
    omega
  refine ⟨_, r, evaluate_pow_number hp numbered, holds', ?_⟩
  rw [slack, if_neg small, cast_unit, real, real, value]
  exact near bounded

theorem evaluatesWithin_pow {base exponent : Side} (number_free : ∀ q, exponent ≠ number q)
    (plain : (pow base exponent).plain = true) (defined : (pow base exponent).Defined ρ)
    (balanced : (pow base exponent).Balanced ρ) (moderate : (pow base exponent).Moderate ρ)
    (reads : ∀ key ∈ (pow base exponent).keys, Reads values ρ key) :
    (pow base exponent).EvaluatesWithin values ρ (pow base exponent).slack := by
  rw [plain_pow number_free, Bool.and_eq_true] at plain
  rw [moderate_pow number_free] at moderate
  have base_reads : ∀ key ∈ base.keys, Reads values ρ key :=
    fun key mem => reads key (List.mem_append_left _ mem)
  obtain ⟨p, q, hp, holds, value⟩ := evaluate_rational plain.1 defined.1 balanced.1 base_reads
  obtain ⟨p', y, hp', holds', value'⟩ := evaluate_rational plain.2 defined.2.1 balanced.2
    fun key mem => reads key (List.mem_append_right _ mem)
  have power := defined.2.2
  rw [value, value'] at power moderate
  -- the power zero of zero is known only for a base that was a name
  have given (zero : q = 0) (none : y = 0) : p.finish = .real 0 := by
    obtain ⟨key, rfl⟩ | nonzero | nonzero := moderate.2
    · obtain ⟨r, named, real⟩ := evaluate_name (base_reads key (List.mem_singleton_self key))
      rw [named] at hp
      cases hp
      have : r = q := by
        rw [Side.real, real] at value
        exact_mod_cast value
      rw [this, zero]
      rfl
    · exact absurd (by exact_mod_cast zero) nonzero
    · exact absurd (by exact_mod_cast none) nonzero
  obtain ⟨u, r, result, holds'', near⟩ := holds.finish.pow holds'.finish power given
  refine ⟨_, r, evaluate_pow number_free hp hp' result, holds'', ?_⟩
  rw [slack_pow number_free, cast_unit, real, value, value']
  exact near moderate.1

/-- The value of a plain side is near the real one. -/
theorem evaluate_plain {s : Side} (plain : s.plain = true) (defined : s.Defined ρ)
    (balanced : s.Balanced ρ) (moderate : s.Moderate ρ)
    (reads : ∀ key ∈ s.keys, Reads values ρ key) : s.EvaluatesWithin values ρ s.slack := by
  induction s with
  | pi =>
      refine ⟨_, _, rfl, Value.holds_real _, ?_⟩
      simpa [slack] using pi_within
  | number _ | name _ | add _ _ =>
      simpa [slack] using evaluatesWithin_rational plain defined balanced reads
  | mul a b iha ihb =>
      simp only [Side.plain, Bool.and_eq_true] at plain
      obtain ⟨p, q, hp, holds, left⟩ := iha plain.1 defined.1 balanced.1 moderate.1
        fun key mem => reads key (List.mem_append_left _ mem)
      obtain ⟨p', r, hp', holds', right⟩ := ihb plain.2 defined.2 balanced.2 moderate.2
        fun key mem => reads key (List.mem_append_right _ mem)
      refine ⟨_, q * r, evaluate_mul hp hp', holds.finish.mul holds'.finish, ?_⟩
      rw [slack, Rat.cast_add, Rat.cast_mul]
      exact left.mul right
  | log a => exact evaluatesWithin_log plain defined balanced moderate reads
  | pow base exponent ih _ =>
      by_cases numeral : ∃ e, exponent = number e
      · obtain ⟨e, rfl⟩ := numeral
        have base_reads : ∀ key ∈ base.keys, Reads values ρ key :=
          fun key mem => reads key (List.mem_append_left _ mem)
        by_cases small : smallExponent e = true
        · simp only [Side.plain, small, if_true] at plain
          simp only [Moderate, small, if_true] at moderate
          exact evaluatesWithin_smallPower small
            (ih plain defined.1 balanced.1 moderate base_reads) defined
        · simp only [Side.plain, if_neg small, Bool.and_eq_true, decide_eq_true_eq] at plain
          simp only [Moderate, if_neg small] at moderate
          exact evaluatesWithin_numberPower small plain.1 plain.2 defined balanced.1 moderate
            base_reads
      · exact evaluatesWithin_pow (fun q h => numeral ⟨q, h⟩) plain defined balanced moderate reads
  | _ => cases plain

end Astrolabe.Relation.Side
