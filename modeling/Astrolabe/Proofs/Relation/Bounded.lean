import Astrolabe.Proofs.Number.Logarithms
import Astrolabe.Proofs.Relation.Plain

/-!
Sides of which the powers and logarithms are in bounds whatever doubles the names have.
Products and powers of doubles have bounded logarithms, and a rational decimal logarithm
is a whole number.
-/

namespace Astrolabe.Relation.Side

open Number Precise

variable {values : String → Option Float} {ρ : String → ℝ}

theorem log_le_of_reads {key : String} (reads : Reads values ρ key) :
    |Real.log (ρ key)| ≤ 746 := by
  obtain ⟨x, q, -, exact, value⟩ := reads
  rw [value]
  exact Binary64.abs_log_le exact

/-- Products and integer powers of names. -/
def monomial : Side → Bool
  | name _ => true
  | mul a b => a.monomial && b.monomial
  | pow base (number q) => base.monomial && q.den == 1
  | _ => false

/-- A bound for the logarithm of a monomial. -/
def weight : Side → ℚ
  | name _ => 746
  | mul a b => a.weight + b.weight
  | pow base (number q) => |q| * base.weight
  | _ => 0

theorem monomial_pow {base exponent : Side} (h : (pow base exponent).monomial = true) :
    ∃ q, exponent = number q ∧ base.monomial = true ∧ q.den = 1 := by
  cases exponent <;> simp [monomial] at h
  exact ⟨_, rfl, h⟩

theorem monomial_spec {s : Side} (monomial : s.monomial = true)
    (reads : ∀ key ∈ s.keys, Reads values ρ key) :
    (∃ q : ℚ, s.real ρ = q) ∧ |Real.log (s.real ρ)| ≤ s.weight := by
  induction s with
  | name key =>
      have given := reads key (List.mem_singleton_self key)
      refine ⟨?_, by simpa [weight] using log_le_of_reads given⟩
      obtain ⟨_, q, -, -, value⟩ := given
      exact ⟨q, value⟩
  | mul a b iha ihb =>
      simp only [Side.monomial, Bool.and_eq_true] at monomial
      obtain ⟨⟨p, hp⟩, left⟩ := iha monomial.1 fun key mem => reads key (List.mem_append_left _ mem)
      obtain ⟨q, hq⟩ := (ihb monomial.2 fun key mem => reads key (List.mem_append_right _ mem)).1
      have right := (ihb monomial.2 fun key mem => reads key (List.mem_append_right _ mem)).2
      refine ⟨⟨p * q, by rw [real, hp, hq, Rat.cast_mul]⟩, ?_⟩
      rw [real, weight, Rat.cast_add]
      -- the logarithm of zero is zero
      by_cases first : a.real ρ = 0
      · rw [first, zero_mul, Real.log_zero, abs_zero]
        exact add_nonneg ((abs_nonneg _).trans left) ((abs_nonneg _).trans right)
      by_cases second : b.real ρ = 0
      · rw [second, mul_zero, Real.log_zero, abs_zero]
        exact add_nonneg ((abs_nonneg _).trans left) ((abs_nonneg _).trans right)
      rw [Real.log_mul first second]
      exact (abs_add_le _ _).trans (add_le_add left right)
  | pow base exponent ih _ =>
      obtain ⟨q, rfl, base_monomial, whole⟩ := monomial_pow monomial
      obtain ⟨⟨p, hp⟩, bound⟩ := ih base_monomial fun key mem =>
        reads key (List.mem_append_left _ mem)
      have power : (pow base (number q)).real ρ = base.real ρ ^ q.num :=
        (Value.rpow_num_of_den_eq_one _ whole).symm
      refine ⟨⟨p ^ q.num, by rw [power, hp, Rat.cast_zpow]⟩, ?_⟩
      have num : (q.num : ℝ) = q := by
        rw [← Rat.cast_intCast, Rat.coe_int_num_of_den_eq_one whole]
      rw [power, Real.log_zpow, abs_mul, num, weight, Rat.cast_mul, Rat.cast_abs]
      exact mul_le_mul_of_nonneg_left bound (abs_nonneg _)
  | _ => cases monomial

/-- A power of a monomial, with an exponent that is not great. -/
theorem powerBounded_of_monomial {base : Side} (monomial : base.monomial = true)
    (weight : base.weight ≤ 4096) (reads : ∀ key ∈ base.keys, Reads values ρ key) {y : ℝ}
    (hy : |y| ≤ 16) : Value.PowerBounded (base.real ρ) y := by
  refine Value.powerBounded_iff.mpr fun _ => ?_
  have bound := (monomial_spec monomial reads).2.trans (Rat.cast_le.mpr weight)
  push_cast at bound
  refine .inr ⟨bound, hy.trans (by norm_num), ?_⟩
  rw [abs_mul]
  exact (mul_le_mul hy bound (abs_nonneg _) (by norm_num)).trans (by norm_num)

/-- No logarithms, and powers with small exponents, or of monomials. -/
def tame : Side → Bool
  | mul a b => a.tame && b.tame
  | log _ => false
  | pow base (number q) =>
    if smallExponent q then base.tame else base.monomial && base.weight ≤ 4096 && |q| ≤ 16
  | pow _ _ => false
  | _ => true

theorem moderate_of_tame {s : Side} (tame : s.tame = true)
    (reads : ∀ key ∈ s.keys, Reads values ρ key) : s.Moderate ρ := by
  induction s with
  | mul a b iha ihb =>
      simp only [Side.tame, Bool.and_eq_true] at tame
      exact ⟨iha tame.1 fun key mem => reads key (List.mem_append_left _ mem),
        ihb tame.2 fun key mem => reads key (List.mem_append_right _ mem)⟩
  | log => cases tame
  | pow base exponent ih _ =>
      have base_reads : ∀ key ∈ base.keys, Reads values ρ key :=
        fun key mem => reads key (List.mem_append_left _ mem)
      cases exponent with
      | number q =>
          simp only [Side.tame] at tame
          simp only [Moderate]
          split at tame
          next small =>
            rw [if_pos small]
            exact ih tame base_reads
          next great =>
            simp only [Bool.and_eq_true, decide_eq_true_eq] at tame
            rw [if_neg great]
            refine powerBounded_of_monomial tame.1.1 tame.1.2 base_reads ?_
            exact_mod_cast tame.2
      | _ => cases tame
  | _ => trivial

/-! Decimal logarithms. -/

theorem one_le_log_ten : 1 ≤ Real.log 10 := by
  rw [Real.le_log_iff_exp_le (by norm_num)]
  exact Real.exp_one_lt_d9.le.trans (by norm_num)

/-- A decimal logarithm, by its natural one. -/
def decimal (a : Side) : Side :=
  mul (log a) (pow (log (number 10)) (number (-1)))

theorem real_decimal (a : Side) : a.decimal.real ρ = Real.log (a.real ρ) / Real.log 10 := by
  simp [decimal, Real.rpow_neg_one, div_eq_mul_inv]

/-- A decimal logarithm in a linear equation with rational numbers is whole, and not
great. -/
theorem decimal_spec {a : Side} (monomial : a.monomial = true) (weight : a.weight ≤ 4096)
    (reads : ∀ key ∈ a.keys, Reads values ρ key) (positive : 0 < a.real ρ) {p c q : ℚ}
    (hp : p ≠ 0) (h : p * a.decimal.real ρ + c = q) :
    ∃ k : ℤ, a.decimal.real ρ = k ∧ |k| ≤ 4096 ∧ a.decimal.Moderate ρ := by
  obtain ⟨⟨x, value⟩, bound⟩ := monomial_spec monomial reads
  have ten := one_le_log_ten
  have rational : a.decimal.real ρ = ((q - c) / p : ℚ) := by
    push_cast
    rw [eq_div_iff (by exact_mod_cast hp), ← h]
    ring
  have scaled := rational
  rw [real_decimal, div_eq_iff (by linarith)] at scaled
  have whole : (q - c) / p = padicValRat 2 x :=
    eq_padicValRat_of_log (by rw [value] at positive; exact_mod_cast positive) (value ▸ scaled)
  generalize padicValRat 2 x = k at whole
  rw [whole, Rat.cast_intCast] at rational scaled
  have size : |(k : ℝ)| ≤ |Real.log (a.real ρ)| := by
    rw [scaled, abs_mul, abs_of_pos (by linarith : 0 < Real.log 10)]
    exact le_mul_of_one_le_right (abs_nonneg _) ten
  refine ⟨k, rational, ?_, ⟨?_, ?_⟩⟩
  · have most : (a.weight : ℝ) ≤ (4096 : ℚ) := Rat.cast_le.mpr weight
    have cast : ((|k| : ℤ) : ℝ) ≤ (4096 : ℤ) := by
      push_cast at most ⊢
      exact size.trans (bound.trans most)
    exact Int.cast_le.mp cast
  · by_cases none : k = 0
    · rw [none, Int.cast_zero, zero_mul] at scaled
      exact .inl (Real.eq_one_of_pos_of_log_eq_zero positive scaled)
    · exact .inr (le_trans (by exact_mod_cast Int.one_le_abs none) size)
  · have small : smallExponent (-1) = true := by decide
    rw [Moderate, if_pos small]
    exact .inr (by simpa using ten.trans (le_abs_self _))

end Astrolabe.Relation.Side
