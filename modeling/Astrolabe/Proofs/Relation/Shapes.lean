import Astrolabe.Proofs.Number.Irrational
import Astrolabe.Proofs.Relation.Agree
import Astrolabe.Proofs.Relation.Bounded

/-!
Relations whose sides agree by their shape. Where a relation would make the square of pi
or the tangent of a rational number rational, it holds for no doubles but zeros; where a
decimal logarithm is rational, it is whole; and where a power is a quotient of doubles, it
is in bounds.
-/

namespace Astrolabe.Relation

open Number Precise Binary64

variable {values : String → Option Float} {ρ : String → ℝ} {x y : ℝ}

theorem PowerDefined.log_rpow (h : PowerDefined x y) (hx : x ≠ 0) :
    x ^ y ≠ 0 ∧ Real.log (x ^ y) = y * Real.log x := by
  obtain negative | positive := hx.lt_or_gt
  · obtain ⟨n, rfl⟩ := h.whole negative
    rw [Real.rpow_intCast]
    exact ⟨zpow_ne_zero n hx, Real.log_zpow x n⟩
  · exact ⟨(Real.rpow_pos_of_pos positive y).ne', Real.log_rpow positive y⟩

namespace Side

theorem moderate_pow_name {base : Side} {key : String} (monomial : base.monomial = true)
    (weight : base.weight ≤ 4096) (reads : ∀ key ∈ base.keys, Reads values ρ key)
    (small : |ρ key| ≤ 16) (nonzero : ρ key ≠ 0) : (pow base (name key)).Moderate ρ :=
  ⟨powerBounded_of_monomial monomial weight reads small, .inr (.inr nonzero)⟩

/-- A power of what is left of one. -/
theorem moderate_remainder {key : String} {q : ℚ} (fraction : smallExponent q = false)
    (small : |q| ≤ 16) (reads : Reads values ρ key) :
    (pow (add (number 1) (mul (number (-1)) (name key))) (number q)).Moderate ρ := by
  obtain ⟨x, p, -, exact, value⟩ := reads
  have bound := abs_log_one_sub_le exact
  have base : (add (number 1) (mul (number (-1)) (name key))).real ρ = 1 - p := by
    simp only [real, value, Rat.cast_one, Rat.cast_neg]
    ring
  rw [Moderate, if_neg (by rw [fraction]; exact Bool.false_ne_true), base]
  intro _
  have small : |(q : ℝ)| ≤ 16 := by exact_mod_cast small
  refine .inr ⟨bound.trans (by norm_num), small.trans (by norm_num), ?_⟩
  rw [abs_mul]
  exact (mul_le_mul small bound (abs_nonneg _) (by norm_num)).trans (by norm_num)

end Side

namespace Satisfied

variable {s t : Side}

/-- The value of a name is a double. -/
theorem dyadic_of_name {key : String} (h : Satisfied values ρ (.name key) t y) (q : ℚ)
    (hy : y = q) (nonzero : q ≠ 0) : Dyadic q := by
  obtain ⟨x, p, -, exact, value⟩ := h.reads_left (List.mem_singleton_self key)
  have real := h.left.real_eq
  rw [Side.real, value, hy] at real
  obtain rfl : p = q := by exact_mod_cast real
  exact dyadic_of_toRat? exact nonzero

/-- The square of pi is not rational, so this holds for no doubles but zeros. -/
theorem agree_of_pi_sq {a b c : Side}
    (shape : t = .mul (.number 4) (.mul (.mul (.mul (.pow .pi (.number 2)) a) b) c))
    (h : Satisfied values ρ s t y) (left_rational : s.rational = true) (ha : a.rational = true)
    (hb : b.rational = true) (hc : c.rational = true) (plain : t.plain = true)
    (slack : t.slack ≤ 1 / 2 ^ 61) (tame : t.tame = true) : Agree values s t y := by
  refine h.agree_of_plain left_rational (fun q hy nonzero => ?_) plain slack
    (Side.moderate_of_tame tame fun key => h.reads_right)
  subst shape
  obtain ⟨⟨-, ⟨⟨-, a_defined⟩, b_defined⟩, c_defined⟩, real⟩ := h.right
  obtain ⟨-, ⟨⟨-, a_balanced⟩, b_balanced⟩, c_balanced⟩ := h.right_balanced
  obtain ⟨_, q₁, -, -, h₁⟩ := Side.evaluate_rational ha a_defined a_balanced
    fun key mem => h.reads_right (by simp [Side.keys, mem])
  obtain ⟨_, q₂, -, -, h₂⟩ := Side.evaluate_rational hb b_defined b_balanced
    fun key mem => h.reads_right (by simp [Side.keys, mem])
  obtain ⟨_, q₃, -, -, h₃⟩ := Side.evaluate_rational hc c_defined c_balanced
    fun key mem => h.reads_right (by simp [Side.keys, mem])
  have product : Real.pi ^ 2 * ((4 * q₁ * q₂ * q₃ : ℚ) : ℝ) = q := by
    rw [← hy, ← real]
    simp only [Side.real, h₁, h₂, h₃, Rat.cast_ofNat, Real.rpow_ofNat]
    push_cast
    ring
  have factor : 4 * q₁ * q₂ * q₃ ≠ 0 := fun zero => nonzero (by
    rw [zero, Rat.cast_zero, mul_zero] at product
    exact_mod_cast product.symm)
  refine absurd ?_ (pi_sq_ne (q / (4 * q₁ * q₂ * q₃)))
  rw [Rat.cast_div, eq_div_iff (by exact_mod_cast factor)]
  exact product

/-- The tangent of a rational number is not rational, so this holds for no doubles. -/
theorem not_inverse_tangent {d k p : String} (nonzero : ρ k ≠ 0) :
    ¬Satisfied values ρ (.name d) (.mul (.name k) (.pow (.tan (.name p)) (.number (-1)))) y := by
  intro h
  obtain ⟨⟨-, ⟨-, cosine⟩, -, power⟩, right⟩ := h.right
  have left := h.left.real_eq
  obtain ⟨_, q, -, -, hq⟩ := h.reads_left (List.mem_singleton_self d)
  obtain ⟨_, u, -, -, hu⟩ : Side.Reads values ρ k := h.reads_right (by simp [Side.keys])
  obtain ⟨_, r, -, -, hr⟩ : Side.Reads values ρ p := h.reads_right (by simp [Side.keys])
  simp only [Side.real, Rat.cast_neg, Rat.cast_one, Real.rpow_neg_one] at cosine power left right
  rw [hr] at cosine power right
  have tangent : Real.tan r ≠ 0 := fun zero => by
    have := power.nonneg zero
    norm_num at this
  have angle : r ≠ 0 := fun zero => tangent (by rw [zero, Rat.cast_zero, Real.tan_zero])
  refine tan_ne angle cosine (u / q) ?_
  rw [hq] at left
  rw [hu] at nonzero right
  have value : (u : ℝ) = q * Real.tan r := by
    rw [left, ← right, inv_mul_cancel_right₀ tangent]
  have quotient : (q : ℝ) ≠ 0 := fun zero => nonzero (by rw [value, zero, zero_mul])
  rw [Rat.cast_div, value, mul_div_cancel_left₀ _ quotient]

/-- Half a whole number and a double: one is not small beside the sum. -/
theorem agree_of_halves {a b : Side} (h : Satisfied values ρ s (.add a b) y)
    (left_rational : s.rational = true) (dyadic : ∀ q : ℚ, y = q → q ≠ 0 → Dyadic q)
    (plain : a.plain = true) (slack : a.slack ≤ 1 / 2 ^ 118) (moderate : a.Moderate ρ)
    (rational : b.rational = true) {n : ℤ} (ha : a.real ρ = ((n : ℚ) / 2 : ℚ))
    (hn : |(n : ℚ)| ≤ 2 ^ 54) {c : ℚ} (hb : b.real ρ = c) (hc : c ≠ 0 → Dyadic c) :
    Agree values s (.add a b) y := by
  refine h.agree_of_sum rfl left_rational dyadic plain slack moderate rational ?_
  have sum := h.right.real_eq
  rw [Side.real, ha, hb, ← Rat.cast_add] at sum
  have bound : |(n : ℚ) / 2| ≤ 2 ^ 54 * |(n : ℚ) / 2 + c| := by
    by_cases zero : (n : ℚ) / 2 + c = 0
    · have parts := h.right_balanced.2.2
      rw [ha, hb, ← Rat.cast_add, zero] at parts
      have none : (n : ℚ) / 2 = 0 := by exact_mod_cast (parts Rat.cast_zero).1
      rw [none, abs_zero]
      positivity
    · exact half_abs_le_of_add hc hn zero
  rw [ha, ← sum]
  exact_mod_cast bound

/-! Magnitudes. -/

/-- A difference of magnitudes is a multiple of a decimal logarithm. -/
theorem agree_of_ratio {a : Side} (shape : t = .mul (.number (-5 / 2)) a.decimal)
    (h : Satisfied values ρ s t y) (left_rational : s.rational = true)
    (monomial : a.monomial = true) (weight : a.weight ≤ 4096) (plain : t.plain = true)
    (slack : t.slack ≤ 1 / 2 ^ 61) : Agree values s t y := by
  subst shape
  obtain ⟨⟨-, ⟨-, positive⟩, -⟩, right⟩ := h.right
  obtain ⟨q, rfl, -⟩ := h.left_value left_rational
  rw [Side.real, Side.real] at right
  obtain ⟨k, value, most, moderate⟩ := Side.decimal_spec monomial weight
    (fun key mem => h.reads_right (by simp [Side.keys, Side.decimal, mem])) positive
    (p := -5 / 2) (c := 0) (q := q) (by norm_num) (by rw [right, Rat.cast_zero, add_zero])
  have half : q = (-5 * k : ℤ) / 2 := by
    have cast : ((-5 / 2 * k : ℚ) : ℝ) = q := by
      rw [← right, value, Rat.cast_mul, Rat.cast_intCast]
    rw [← Rat.cast_injective cast]
    push_cast
    ring
  refine h.agree_of_plain left_rational (fun r hr nonzero => ?_) plain slack ⟨trivial, moderate⟩
  obtain rfl : q = r := by exact_mod_cast hr
  rw [half]
  refine dyadic_half (fun none => nonzero (by rw [half, none, Int.cast_zero, zero_div])) ?_
  rw [abs_le] at most
  rw [abs_lt]
  omega

/-- A distance modulus is a multiple of a decimal logarithm, less that of ten parsecs. -/
theorem agree_of_modulus {a : Side}
    (h : Satisfied values ρ s (.add (.mul (.number 5) a.decimal) (.number (-5))) y)
    (left_rational : s.rational = true) (monomial : a.monomial = true)
    (weight : a.weight ≤ 4096) (plain : (Side.mul (.number 5) a.decimal).plain = true)
    (slack : (Side.mul (.number 5) a.decimal).slack ≤ 1 / 2 ^ 118) :
    Agree values s (.add (.mul (.number 5) a.decimal) (.number (-5))) y := by
  obtain ⟨⟨⟨-, ⟨-, positive⟩, -⟩, -⟩, right⟩ := h.right
  obtain ⟨q, rfl, -⟩ := h.left_value left_rational
  simp only [Side.real] at right
  obtain ⟨k, value, most, moderate⟩ := Side.decimal_spec monomial weight
    (fun key mem => h.reads_right (by simp [Side.keys, Side.decimal, mem])) positive
    (p := 5) (c := -5) (by norm_num) right
  rw [abs_le] at most
  have term : (Side.mul (.number 5) a.decimal).real ρ = (((10 * k : ℤ) : ℚ) / 2 : ℚ) := by
    rw [Side.real, Side.real, value]
    push_cast
    ring
  have half : q = (10 * k - 10 : ℤ) / 2 := by
    have cast : ((5 * k + -5 : ℚ) : ℝ) = q := by
      rw [← right, value]
      push_cast
      rfl
    rw [← Rat.cast_injective cast]
    push_cast
    ring
  refine h.agree_of_halves left_rational (fun r hr nonzero => ?_) plain slack
    ⟨trivial, moderate⟩ rfl term ?_ rfl fun _ => ?_
  · obtain rfl : q = r := by exact_mod_cast hr
    rw [half]
    refine dyadic_half (fun none => nonzero (by rw [half, none, Int.cast_zero, zero_div])) ?_
    rw [abs_lt]
    omega
  · have : |10 * k| ≤ 2 ^ 54 := by
      rw [abs_le]
      omega
    exact_mod_cast this
  · have five : Dyadic (((-10 : ℤ) : ℚ) / 2) := dyadic_half (by decide) (by decide)
    norm_num at five
    exact five

/-- A magnitude is a multiple of a decimal logarithm and a double. -/
theorem agree_of_magnitude {a : Side} {m factor c : String} (hfactor : ρ factor = (-5 / 2 : ℚ))
    (h : Satisfied values ρ (.name m)
      (.add (.mul (.mul (.name factor) (.log a)) (.pow (.log (.number 10)) (.number (-1))))
        (.name c)) y)
    (monomial : a.monomial = true) (weight : a.weight ≤ 4096)
    (plain : (Side.mul (.mul (.name factor) (.log a))
      (.pow (.log (.number 10)) (.number (-1)))).plain = true)
    (slack : (Side.mul (.mul (.name factor) (.log a))
      (.pow (.log (.number 10)) (.number (-1)))).slack ≤ 1 / 2 ^ 118) :
    Agree values (.name m)
      (.add (.mul (.mul (.name factor) (.log a)) (.pow (.log (.number 10)) (.number (-1))))
        (.name c)) y := by
  obtain ⟨⟨⟨⟨-, -, positive⟩, -⟩, -⟩, right⟩ := h.right
  obtain ⟨q, rfl, -⟩ := h.left_value rfl
  obtain ⟨x, r, -, exact, hc⟩ : Side.Reads values ρ c := h.reads_right (by simp [Side.keys])
  have product : (Side.mul (.mul (.name factor) (.log a))
      (.pow (.log (.number 10)) (.number (-1)))).real ρ =
        (-5 / 2 : ℚ) * a.decimal.real ρ := by
    rw [← hfactor]
    simp only [Side.decimal, Side.real, mul_assoc]
  rw [Side.real, product, Side.real, hc] at right
  obtain ⟨k, value, most, logs, ten⟩ := Side.decimal_spec monomial weight
    (fun key mem => h.reads_right (by simp [Side.keys, mem])) positive (by norm_num) right
  rw [abs_le] at most
  have term : (-5 / 2 : ℚ) * a.decimal.real ρ = (((-5 * k : ℤ) : ℚ) / 2 : ℚ) := by
    rw [value]
    push_cast
    ring
  refine h.agree_of_halves rfl h.dyadic_of_name plain slack ⟨⟨trivial, logs⟩, ten⟩ rfl
    (product.trans term) ?_ hc (dyadic_of_toRat? exact)
  have : |-5 * k| ≤ 2 ^ 54 := by
    rw [abs_le]
    omega
  exact_mod_cast this

/-- A power law of doubles. The power is a quotient of doubles, unless both are zero. -/
theorem agree_of_powerLaw {n k e p : String}
    (h : Satisfied values ρ (.name n)
      (.mul (.name k) (.pow (.name e) (.mul (.number (-1)) (.name p)))) y) :
    Agree values (.name n)
      (.mul (.name k) (.pow (.name e) (.mul (.number (-1)) (.name p)))) y := by
  obtain ⟨⟨-, -, -, power⟩, right⟩ := h.right
  have number_free (q : ℚ) : Side.mul (.number (-1)) (.name p) ≠ .number q := nofun
  have reads_k : Side.Reads values ρ k := h.reads_right (by simp [Side.keys])
  have reads_e : Side.Reads values ρ e := h.reads_right (by simp [Side.keys])
  have reads_p : Side.Reads values ρ p := h.reads_right (by simp [Side.keys])
  by_cases zero : ρ k = 0
  · -- no bounds on the power are known, and none are needed
    obtain ⟨q, hq, value⟩ := Side.evaluate_name reads_k
    obtain ⟨b, hb, base⟩ := Side.evaluate_name reads_e
    obtain ⟨r, hr, exponent⟩ := Side.evaluate_name reads_p
    have minus : (Side.number (-1)).evaluate values = .ok (.value (.ofRat (-1))) := rfl
    have product := Side.evaluate_mul minus hr
    have holds : (Value.Partial.value ((Value.ofRat (-1)).mul (Value.real r))).Holds (-1 * r) :=
      (Value.holds_ofRat (-1)).mul (Value.holds_real r)
    have real : PowerDefined (b : ℝ) ((-1 * r : ℚ) : ℝ) := by
      simp only [Side.real, base, exponent] at power
      push_cast at power ⊢
      exact power
    obtain ⟨u, v, result, holds', -⟩ := (Value.holds_real b).pow holds.finish real
      fun zero _ => by rw [zero]
    have none : q = 0 := by
      rw [value] at zero
      exact_mod_cast zero
    refine h.agree_of_near rfl h.dyadic_of_name
      (Side.evaluate_mul hq (Side.evaluate_pow number_free hb product result))
      ((Value.holds_real q).mul holds') ?_
    rw [← right, Side.real, Side.real, zero, none]
    simp
  · refine h.agree_of_plain rfl h.dyadic_of_name rfl ?_ ⟨trivial, ?_⟩
    · rw [Side.slack, Side.slack_pow number_free]
      norm_num [Side.slack]
    rw [Side.moderate_pow number_free]
    refine ⟨Value.powerBounded_iff.mpr fun nonzero => ?_, .inl ⟨e, rfl⟩⟩
    simp only [Side.real, Rat.cast_neg, Rat.cast_one, neg_one_mul] at power right nonzero ⊢
    have log_k := Side.log_le_of_reads reads_k
    have log_e := Side.log_le_of_reads reads_e
    have log_n := Side.log_le_of_reads (h.reads_left (List.mem_singleton_self n))
    rw [show ρ n = y from h.left.real_eq, ← right] at log_n
    obtain ⟨power_ne, log_power⟩ := power.log_rpow nonzero
    rw [Real.log_mul zero power_ne, log_power] at log_n
    have product : |-ρ p * Real.log (ρ e)| ≤ 1492 := by
      rw [abs_le] at log_k log_n ⊢
      constructor <;> linarith [log_k.1, log_k.2, log_n.1, log_n.2]
    obtain ⟨x, b, -, exact, base⟩ := reads_e
    by_cases one : |ρ e| = 1
    · exact .inl one
    rw [base] at nonzero one product log_e ⊢
    have far := le_abs_log exact (by exact_mod_cast nonzero) (by exact_mod_cast one)
    refine .inr ⟨log_e.trans (by norm_num), ?_, product.trans (by norm_num)⟩
    rw [abs_mul] at product
    have := mul_le_mul_of_nonneg_left far (abs_nonneg (-ρ p))
    linarith

end Satisfied

end Astrolabe.Relation
