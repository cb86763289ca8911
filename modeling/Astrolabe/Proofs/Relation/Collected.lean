import Mathlib.Algebra.BigOperators.Group.List.Basic
import Astrolabe.Proofs.Exact.Relation

/-!
The collected form of an expression has the value of the expression. Collecting may drop
a condition, as where equal factors above and below a fraction bar go away, and never
adds one: the collected side is defined wherever the expression is.
-/

namespace Astrolabe.Relation

/-- No numeral of an expression has a point or an exponent. -/
def wholeNumerals : Expr → Bool
  | .decimal _ => false
  | .binary _ left right => wholeNumerals left && wholeNumerals right
  | .unary _ operand => wholeNumerals operand
  | .call _ [argument] _ => wholeNumerals argument
  | .call _ [argument, base] _ => wholeNumerals argument && wholeNumerals base
  | _ => true

/-- A power of real numbers that is a real number. -/
structure PowerDefined (x y : ℝ) : Prop where
  whole : x < 0 → ∃ n : ℤ, y = n
  nonneg : x = 0 → 0 ≤ y

namespace PowerDefined

variable {x y z : ℝ}

theorem intCast {n : ℤ} (h : x = 0 → 0 ≤ n) : PowerDefined x n :=
  ⟨fun _ => ⟨n, rfl⟩, fun zero => by exact_mod_cast h zero⟩

theorem one (x : ℝ) : PowerDefined x 1 :=
  ⟨fun _ => ⟨1, by simp⟩, fun _ => zero_le_one⟩

theorem add (hy : PowerDefined x y) (hz : PowerDefined x z) : PowerDefined x (y + z) := by
  refine ⟨fun negative => ?_, fun zero => add_nonneg (hy.nonneg zero) (hz.nonneg zero)⟩
  obtain ⟨n, rfl⟩ := hy.whole negative
  obtain ⟨m, rfl⟩ := hz.whole negative
  exact ⟨n + m, by push_cast; rfl⟩

theorem rpow_add (hy : PowerDefined x y) (hz : PowerDefined x z) :
    x ^ (y + z) = x ^ y * x ^ z := by
  obtain negative | rfl | positive := lt_trichotomy x 0
  · obtain ⟨n, rfl⟩ := hy.whole negative
    obtain ⟨m, rfl⟩ := hz.whole negative
    rw [← Int.cast_add, Real.rpow_intCast, Real.rpow_intCast, Real.rpow_intCast,
      zpow_add₀ negative.ne]
  · exact Real.rpow_add_of_nonneg le_rfl (hy.nonneg rfl) (hz.nonneg rfl)
  · exact Real.rpow_add positive y z

theorem mul_int {n : ℤ} (hy : PowerDefined x y) (h : x ^ y = 0 → 0 ≤ n) :
    PowerDefined x (y * n) := by
  constructor
  · intro negative
    obtain ⟨m, rfl⟩ := hy.whole negative
    exact ⟨m * n, by push_cast; rfl⟩
  · rintro rfl
    obtain rfl | positive := (hy.nonneg rfl).eq_or_lt
    · rw [zero_mul]
    · have := h (Real.zero_rpow positive.ne')
      have : (0 : ℝ) ≤ n := by exact_mod_cast this
      positivity

theorem rpow_mul_int {n : ℤ} (hy : PowerDefined x y) : x ^ (y * n) = (x ^ y) ^ n := by
  obtain negative | nonneg := lt_or_ge x 0
  · obtain ⟨m, rfl⟩ := hy.whole negative
    rw [← Int.cast_mul, Real.rpow_intCast, Real.rpow_intCast, zpow_mul]
  · rw [Real.rpow_mul nonneg, Real.rpow_intCast]

end PowerDefined

namespace Side

variable {ρ : String → ℝ} {x y : ℝ}

/-- The value of a side over the real numbers. -/
@[simp] noncomputable def real (ρ : String → ℝ) : Side → ℝ
  | number q => q
  | unbounded => 0
  | pi => Real.pi
  | name key => ρ key
  | add a b => a.real ρ + b.real ρ
  | mul a b => a.real ρ * b.real ρ
  | pow base exponent => base.real ρ ^ exponent.real ρ
  | log a => Real.log (a.real ρ)
  | tan a => Real.tan (a.real ρ)
  | atan a => Real.arctan (a.real ρ)

/-- All operations of a side are defined over the real numbers. -/
@[simp] def Defined (ρ : String → ℝ) : Side → Prop
  | number _ | pi | name _ => True
  | unbounded => False
  | add a b | mul a b => a.Defined ρ ∧ b.Defined ρ
  | pow base exponent =>
      base.Defined ρ ∧ exponent.Defined ρ ∧ PowerDefined (base.real ρ) (exponent.real ρ)
  | log a => a.Defined ρ ∧ 0 < a.real ρ
  | tan a => a.Defined ρ ∧ Real.cos (a.real ρ) ≠ 0
  | atan a => a.Defined ρ

/-- A side is defined and has a value. -/
structure Denotes (ρ : String → ℝ) (s : Side) (x : ℝ) : Prop where
  defined : s.Defined ρ
  real_eq : s.real ρ = x

theorem Defined.denotes {s : Side} (h : s.Defined ρ) : s.Denotes ρ (s.real ρ) :=
  ⟨h, rfl⟩

theorem denotes_number (q : ℚ) : (number q).Denotes ρ q :=
  ⟨trivial, rfl⟩

/-! Sums. -/

/-- The sum of terms with their coefficients. -/
noncomputable def total (ρ : String → ℝ) (all : List (Side × ℚ)) : ℝ :=
  (all.map fun term => (term.2 : ℝ) * term.1.real ρ).sum

theorem terms_spec {s : Side} (h : s.Defined ρ) :
    (∀ term ∈ s.terms, term.1.Defined ρ) ∧ total ρ s.terms = s.real ρ := by
  induction s with
  | number q => simp [terms, total]
  | add a b iha ihb =>
      obtain ⟨defined, value⟩ := iha h.1
      obtain ⟨defined', value'⟩ := ihb h.2
      rw [total] at value value'
      refine ⟨fun term mem => ?_, by simp [terms, total, value, value']⟩
      exact (List.mem_append.mp mem).elim (defined term) (defined' term)
  | mul a b =>
      cases a with
      | number q => simp [terms, total, h.2]
      | _ => exact ⟨fun t mem => List.mem_singleton.mp mem ▸ h, by simp [terms, total]⟩
  | _ => exact ⟨fun t mem => List.mem_singleton.mp mem ▸ h, by simp [terms, total]⟩

theorem addTerm_spec {all : List (Side × ℚ)} {term : Side × ℚ}
    (h : ∀ t ∈ all, t.1.Defined ρ) (ht : term.1.Defined ρ) :
    (∀ t ∈ addTerm all term, t.1.Defined ρ) ∧
      total ρ (addTerm all term) = total ρ all + term.2 * term.1.real ρ := by
  induction all with
  | nil => simp [addTerm, total, ht]
  | cons first rest ih =>
      rw [List.forall_mem_cons] at h
      simp only [addTerm]
      split
      next like =>
        refine ⟨List.forall_mem_cons.mpr h, ?_⟩
        simp only [total, List.map_cons, List.sum_cons, ← like]
        push_cast
        ring
      next =>
        obtain ⟨defined, value⟩ := ih h.2
        refine ⟨List.forall_mem_cons.mpr ⟨h.1, defined⟩, ?_⟩
        simp only [total, List.map_cons, List.sum_cons] at value ⊢
        rw [value]
        ring

theorem foldl_addTerm_spec {all others : List (Side × ℚ)} (h : ∀ t ∈ all, t.1.Defined ρ)
    (ho : ∀ t ∈ others, t.1.Defined ρ) :
    (∀ t ∈ all.foldl addTerm others, t.1.Defined ρ) ∧
      total ρ (all.foldl addTerm others) = total ρ others + total ρ all := by
  induction all generalizing others with
  | nil => exact ⟨ho, by simp [total]⟩
  | cons first rest ih =>
      rw [List.forall_mem_cons] at h
      obtain ⟨defined, value⟩ := addTerm_spec ho h.1
      obtain ⟨defined', value'⟩ := ih h.2 defined
      refine ⟨defined', ?_⟩
      rw [List.foldl_cons, value', value]
      simp only [total, List.map_cons, List.sum_cons]
      ring

theorem denotes_ofTerm {term : Side × ℚ} (h : term.1.Defined ρ) :
    (ofTerm term).Denotes ρ (term.2 * term.1.real ρ) := by
  unfold ofTerm
  split
  next one => exact ⟨trivial, by simp [one]⟩
  next =>
    split
    next one => exact ⟨h, by simp [one]⟩
    next => exact ⟨⟨trivial, h⟩, rfl⟩

theorem denotes_foldl_add {all : List Side} {s : Side} (hs : s.Denotes ρ x)
    (h : ∀ a ∈ all, a.Defined ρ) :
    (all.foldl add s).Denotes ρ (x + (all.map (real ρ)).sum) := by
  induction all generalizing s x with
  | nil => simpa using hs
  | cons first rest ih =>
      rw [List.forall_mem_cons] at h
      have next : (add s first).Denotes ρ (x + first.real ρ) :=
        ⟨⟨hs.defined, h.1⟩, by rw [real, hs.real_eq]⟩
      rw [List.foldl_cons, List.map_cons, List.sum_cons, ← add_assoc]
      exact ih next h.2

theorem total_filter {all : List (Side × ℚ)} {keep : Side × ℚ → Bool}
    (h : ∀ t ∈ all, keep t = false → t.2 = 0) : total ρ (all.filter keep) = total ρ all := by
  induction all with
  | nil => rfl
  | cons first rest ih =>
      rw [List.forall_mem_cons] at h
      have value := ih h.2
      simp only [total] at value ⊢
      cases kept : keep first with
      | true => simp [kept, value]
      | false => simp [kept, value, h.1 kept]

theorem denotes_ofTerms {all : List (Side × ℚ)} (h : ∀ t ∈ all, t.1.Defined ρ) :
    (ofTerms all).Denotes ρ (total ρ all) := by
  have kept : total ρ (all.filter fun term => term.2 ≠ 0 ∨ term.1 = unbounded) = total ρ all :=
    total_filter fun t _ dropped => by
      by_contra nonzero
      simp [nonzero] at dropped
  have terms : ∀ t ∈ all.filter (fun term => term.2 ≠ 0 ∨ term.1 = unbounded),
      (ofTerm t).Denotes ρ (t.2 * t.1.real ρ) :=
    fun t mem => denotes_ofTerm (h t (List.mem_of_mem_filter mem))
  rw [← kept, ofTerms]
  generalize all.filter (fun term => term.2 ≠ 0 ∨ term.1 = unbounded) = chosen at terms ⊢
  cases chosen with
  | nil => exact ⟨trivial, by simp [total]⟩
  | cons first rest =>
      rw [List.forall_mem_cons] at terms
      have sums : (rest.map ofTerm).map (real ρ) = rest.map fun t => (t.2 : ℝ) * t.1.real ρ := by
        rw [List.map_map]
        exact List.map_congr_left fun t mem => (terms.2 t mem).real_eq
      have parts : ∀ a ∈ rest.map ofTerm, a.Defined ρ :=
        List.forall_mem_map.mpr fun t mem => (terms.2 t mem).defined
      have folded := denotes_foldl_add terms.1 parts
      rw [sums] at folded
      exact folded

theorem denotes_plus {a b : Side} (ha : a.Denotes ρ x) (hb : b.Denotes ρ y) :
    (plus a b).Denotes ρ (x + y) := by
  obtain ⟨defined, value⟩ := terms_spec ha.defined
  obtain ⟨defined', value'⟩ := terms_spec hb.defined
  have both : ∀ t ∈ a.terms ++ b.terms, t.1.Defined ρ :=
    fun t mem => (List.mem_append.mp mem).elim (defined t) (defined' t)
  obtain ⟨collected, sum⟩ := foldl_addTerm_spec both (List.forall_mem_nil _)
  have split : total ρ (a.terms ++ b.terms) = x + y := by
    rw [← ha.real_eq, ← hb.real_eq, ← value, ← value']
    simp [total]
  have folded := denotes_ofTerms collected
  rw [sum, split, total, List.map_nil, List.sum_nil, zero_add] at folded
  exact folded

/-! Products. -/

/-- The power that a factor stands for is defined. -/
structure FactorDefined (ρ : String → ℝ) (factor : Side × Side) : Prop where
  base : factor.1.Defined ρ
  exponent : factor.2.Defined ρ
  power : PowerDefined (factor.1.real ρ) (factor.2.real ρ)

/-- The product of powers. -/
noncomputable def product (ρ : String → ℝ) (all : List (Side × Side)) : ℝ :=
  (all.map fun factor => factor.1.real ρ ^ factor.2.real ρ).prod

theorem factorDefined_one {s : Side} (h : s.Defined ρ) : FactorDefined ρ (s, number 1) :=
  ⟨h, trivial, by simpa using PowerDefined.one (s.real ρ)⟩

theorem factors_spec {s : Side} (h : s.Defined ρ) :
    (∀ factor ∈ s.factors.2, FactorDefined ρ factor) ∧
      s.factors.1 * product ρ s.factors.2 = s.real ρ := by
  induction s with
  | number q => simp [factors, product]
  | unbounded => exact h.elim
  | mul a b iha ihb =>
      obtain ⟨defined, value⟩ := iha h.1
      obtain ⟨defined', value'⟩ := ihb h.2
      refine ⟨fun factor mem => ?_, ?_⟩
      · exact (List.mem_append.mp mem).elim (defined factor) (defined' factor)
      · simp only [product] at value value'
        simp only [factors, product, List.map_append, List.prod_append, real, ← value, ← value']
        push_cast
        ring
  | pow base exponent =>
      refine ⟨fun factor mem => ?_, by simp [factors, product]⟩
      obtain rfl := List.mem_singleton.mp mem
      exact ⟨h.1, h.2.1, h.2.2⟩
  | _ =>
      refine ⟨fun factor mem => ?_, by simp [factors, product]⟩
      obtain rfl := List.mem_singleton.mp mem
      exact factorDefined_one h

theorem addFactor_spec {all : List (Side × Side)} {factor : Side × Side}
    (h : ∀ f ∈ all, FactorDefined ρ f) (hf : FactorDefined ρ factor) :
    (∀ f ∈ addFactor all factor, FactorDefined ρ f) ∧
      product ρ (addFactor all factor) =
        product ρ all * factor.1.real ρ ^ factor.2.real ρ := by
  induction all with
  | nil => simp [addFactor, product, hf]
  | cons first rest ih =>
      rw [List.forall_mem_cons] at h
      simp only [addFactor]
      split
      next like =>
        have power := hf.power
        rw [← like] at power
        have sum := denotes_plus h.1.exponent.denotes hf.exponent.denotes
        refine ⟨List.forall_mem_cons.mpr ⟨⟨h.1.base, sum.defined, ?_⟩, h.2⟩, ?_⟩
        · rw [sum.real_eq]
          exact h.1.power.add power
        · simp only [product, List.map_cons, List.prod_cons, sum.real_eq, ← like,
            h.1.power.rpow_add power]
          ring
      next =>
        obtain ⟨defined, value⟩ := ih h.2
        refine ⟨List.forall_mem_cons.mpr ⟨h.1, defined⟩, ?_⟩
        simp only [product, List.map_cons, List.prod_cons] at value ⊢
        rw [value]
        ring

theorem foldl_addFactor_spec {all others : List (Side × Side)}
    (h : ∀ f ∈ all, FactorDefined ρ f) (ho : ∀ f ∈ others, FactorDefined ρ f) :
    (∀ f ∈ all.foldl addFactor others, FactorDefined ρ f) ∧
      product ρ (all.foldl addFactor others) = product ρ others * product ρ all := by
  induction all generalizing others with
  | nil => exact ⟨ho, by simp [product]⟩
  | cons first rest ih =>
      rw [List.forall_mem_cons] at h
      obtain ⟨defined, value⟩ := addFactor_spec ho h.1
      obtain ⟨defined', value'⟩ := ih h.2 defined
      refine ⟨defined', ?_⟩
      rw [List.foldl_cons, value', value]
      simp only [product, List.map_cons, List.prod_cons]
      ring

theorem denotes_numberPow {q : ℚ} {n : ℤ} (h : q = 0 → 0 ≤ n) :
    (numberPow q n).Denotes ρ ((q : ℝ) ^ n) := by
  unfold numberPow
  split
  next zero =>
    simp only [Bool.and_eq_true, beq_iff_eq, decide_eq_true_eq] at zero
    exact absurd (h zero.1) (not_le.mpr zero.2)
  next => exact ⟨trivial, by simp⟩

theorem num_of_isInteger {q : ℚ} (h : isInteger q = true) : (q.num : ℚ) = q :=
  Rat.coe_int_num_of_den_eq_one (by simpa [isInteger] using h)

theorem denotes_ofFactor {factor : Side × Side} (h : FactorDefined ρ factor) :
    (ofFactor factor).Denotes ρ (factor.1.real ρ ^ factor.2.real ρ) := by
  unfold ofFactor
  split
  next => exact ⟨h.base, by simp⟩
  next => exact ⟨trivial, by simp⟩
  next q e _ _ =>
    split
    next whole =>
      simp only [Bool.and_eq_true] at whole
      have value := num_of_isInteger whole.1
      have power : (q : ℝ) ^ (e : ℝ) = (q : ℝ) ^ e.num := by
        rw [← Real.rpow_intCast, ← value, Rat.num_intCast, Rat.cast_intCast]
      simp only [real, power]
      refine denotes_numberPow fun zero => ?_
      have := h.power.nonneg (by simpa using zero)
      simpa using this
    next => exact ⟨⟨h.base, h.exponent, h.power⟩, rfl⟩
  next => exact ⟨⟨h.base, h.exponent, h.power⟩, rfl⟩

/-- The coefficient of a product takes its numbers. -/
def coefficient (q : ℚ) (all : List Side) : ℚ :=
  all.foldl (fun q a => match a with | number p => q * p | _ => q) q

def isNumber : Side → Bool
  | number _ => true
  | _ => false

theorem coefficient_spec (q : ℚ) (all : List Side) :
    q * (all.map (real ρ)).prod =
      coefficient q all * ((all.filter (!·.isNumber)).map (real ρ)).prod := by
  induction all generalizing q with
  | nil => rfl
  | cons first rest ih =>
      have next := ih (coefficient q [first])
      change _ = (coefficient q (first :: rest) : ℝ) * _ at next
      cases first with
      | number p =>
          rw [List.map_cons, List.prod_cons, ← mul_assoc]
          rw [coefficient, List.foldl_cons, List.foldl_nil] at next
          push_cast at next
          exact next
      | _ =>
          rw [List.map_cons, List.prod_cons, mul_left_comm]
          rw [coefficient, List.foldl_cons, List.foldl_nil] at next
          rw [next]
          simp only [isNumber, List.filter_cons, Bool.not_false, if_true, List.map_cons,
            List.prod_cons]
          ring

theorem denotes_foldl_mul {all : List Side} {s : Side} (hs : s.Denotes ρ x)
    (h : ∀ a ∈ all, a.Defined ρ) :
    (all.foldl mul s).Denotes ρ (x * (all.map (real ρ)).prod) := by
  induction all generalizing s x with
  | nil => simpa using hs
  | cons first rest ih =>
      rw [List.forall_mem_cons] at h
      have next : (mul s first).Denotes ρ (x * first.real ρ) :=
        ⟨⟨hs.defined, h.1⟩, by rw [real, hs.real_eq]⟩
      rw [List.foldl_cons, List.map_cons, List.prod_cons, ← mul_assoc]
      exact ih next h.2

/-- The product of a coefficient and of factors that are no numbers. -/
def scaledBy (q : ℚ) : List Side → Side
  | [] => number q
  | [a] => ofTerms ((terms a).map fun (b, p) => (b, p * q))
  | first :: rest =>
    if q = 1 then rest.foldl mul first else mul (number q) (rest.foldl mul first)

theorem ofFactors_eq (q : ℚ) (all : List Side) :
    ofFactors q all =
      if coefficient q all = 0 ∧ unbounded ∉ all.filter (!·.isNumber) then number 0
      else scaledBy (coefficient q all) (all.filter (!·.isNumber)) := by
  rw [ofFactors, List.filter_congr (q := fun a : Side => !a.isNumber)
    fun a _ => by cases a <;> rfl]
  rfl

theorem denotes_ofFactors (q : ℚ) {all : List Side} (h : ∀ a ∈ all, a.Defined ρ) :
    (ofFactors q all).Denotes ρ (q * (all.map (real ρ)).prod) := by
  have others : ∀ a ∈ all.filter (!·.isNumber), a.Defined ρ :=
    fun a mem => h a (List.mem_of_mem_filter mem)
  rw [coefficient_spec, ofFactors_eq]
  generalize coefficient q all = p
  generalize all.filter (!·.isNumber) = chosen at others ⊢
  split
  next zero => exact ⟨trivial, by simp [zero.1]⟩
  next =>
    unfold scaledBy
    split
    next => exact ⟨trivial, by simp⟩
    next a _ =>
      obtain ⟨defined, value⟩ := terms_spec (others a (List.mem_singleton_self a))
      have scaled : total ρ ((terms a).map fun (b, r) => (b, r * p)) = p * a.real ρ := by
        rw [← value, total, total, List.map_map, ← List.sum_map_mul_left]
        congr 1
        refine List.map_congr_left fun t _ => ?_
        simp only [Function.comp_apply]
        push_cast
        ring
      have parts : ∀ t ∈ (terms a).map fun (b, r) => (b, r * p), t.1.Defined ρ :=
        List.forall_mem_map.mpr fun t mem => defined t mem
      have sum := denotes_ofTerms parts
      rw [scaled] at sum
      simpa using sum
    next _ first rest _ =>
      rw [List.forall_mem_cons] at others
      have folded := denotes_foldl_mul others.1.denotes others.2
      split
      next one => exact ⟨folded.defined, by simp [one, folded.real_eq]⟩
      next => exact ⟨⟨trivial, folded.defined⟩, by simp [folded.real_eq]⟩

theorem denotes_times {a b : Side} (ha : a.Denotes ρ x) (hb : b.Denotes ρ y) :
    (times a b).Denotes ρ (x * y) := by
  obtain ⟨defined, value⟩ := factors_spec ha.defined
  obtain ⟨defined', value'⟩ := factors_spec hb.defined
  have both : ∀ f ∈ a.factors.2 ++ b.factors.2, FactorDefined ρ f :=
    fun f mem => (List.mem_append.mp mem).elim (defined f) (defined' f)
  obtain ⟨collected, powers⟩ := foldl_addFactor_spec both (List.forall_mem_nil _)
  have factors (f : Side × Side) (mem : f ∈ (a.factors.2 ++ b.factors.2).foldl addFactor []) :=
    denotes_ofFactor (collected f mem)
  have parts : ∀ s ∈ ((a.factors.2 ++ b.factors.2).foldl addFactor []).map ofFactor,
      s.Defined ρ :=
    List.forall_mem_map.mpr fun f mem => (factors f mem).defined
  have denoted := denotes_ofFactors (a.factors.1 * b.factors.1) parts
  have values : (((a.factors.2 ++ b.factors.2).foldl addFactor []).map ofFactor).map (real ρ) =
      ((a.factors.2 ++ b.factors.2).foldl addFactor []).map fun f =>
        f.1.real ρ ^ f.2.real ρ := by
    rw [List.map_map]
    exact List.map_congr_left fun f mem => (factors f mem).real_eq
  have result : ((a.factors.1 * b.factors.1 : ℚ) : ℝ) *
      ((((a.factors.2 ++ b.factors.2).foldl addFactor []).map ofFactor).map (real ρ)).prod =
        x * y := by
    rw [values]
    change _ * product ρ _ = _
    rw [powers, ← ha.real_eq, ← hb.real_eq, ← value, ← value']
    simp only [product, List.map_nil, List.prod_nil, List.map_append, List.prod_append]
    push_cast
    ring
  rw [result] at denoted
  exact denoted

/-! Powers and functions. -/

theorem denotes_ofFactor_intCast {n : ℤ} {a : Side} (ha : a.Denotes ρ x)
    (h : x = 0 → 0 ≤ n) : (ofFactor (a, number n)).Denotes ρ (x ^ n) := by
  obtain ⟨defined, rfl⟩ := ha
  have value : ((n : ℚ) : ℝ) = n := by norm_cast
  have factor : FactorDefined ρ (a, number n) :=
    ⟨defined, trivial, by simpa [value] using PowerDefined.intCast h⟩
  have denoted := denotes_ofFactor factor
  simp only [real, value, Real.rpow_intCast] at denoted
  exact denoted

theorem denotes_intPower {n : ℤ} {a : Side} (ha : a.Denotes ρ x) (h : x = 0 → 0 ≤ n) :
    (intPower n a).Denotes ρ (x ^ n) := by
  induction a generalizing x with
  | unbounded => exact ha.defined.elim
  | mul a b iha ihb =>
      obtain ⟨defined, rfl⟩ := ha
      rw [real, mul_zpow]
      exact denotes_times (iha defined.1.denotes fun zero => h (by rw [real, zero, zero_mul]))
        (ihb defined.2.denotes fun zero => h (by rw [real, zero, mul_zero]))
  | pow base exponent =>
      obtain ⟨⟨hb, he, power⟩, rfl⟩ := ha
      have product := denotes_times he.denotes (denotes_number (ρ := ρ) n)
      have value : ((n : ℚ) : ℝ) = n := by norm_cast
      rw [value] at product
      have factor : FactorDefined ρ (base, times exponent (number n)) :=
        ⟨hb, product.defined, by rw [product.real_eq]; exact power.mul_int h⟩
      have denoted := denotes_ofFactor factor
      rw [product.real_eq, power.rpow_mul_int] at denoted
      exact denoted
  | _ => exact denotes_ofFactor_intCast ha h

theorem denotes_power {base exponent : Side} (hb : base.Denotes ρ x) (he : exponent.Denotes ρ y)
    (h : PowerDefined x y) : (power base exponent).Denotes ρ (x ^ y) := by
  obtain ⟨defined, rfl⟩ := hb
  obtain ⟨defined', rfl⟩ := he
  unfold power
  split
  next => exact ⟨trivial, by simp⟩
  next _ q =>
    split
    next zero => exact ⟨trivial, by simp [zero]⟩
    next nonzero =>
      have nonneg := h.nonneg (by simp)
      simp only [real] at nonneg
      rw [if_neg (not_lt.mpr (by exact_mod_cast nonneg))]
      refine ⟨trivial, ?_⟩
      have : (q : ℝ) ≠ 0 := by exact_mod_cast nonzero
      simp [Real.zero_rpow this]
  next q _ _ =>
    split
    next whole =>
      have value := num_of_isInteger whole
      have power : (q : ℝ) = q.num := by
        conv_lhs => rw [← value]
        norm_cast
      simp only [real, power, Real.rpow_intCast]
      refine denotes_intPower defined.denotes fun zero => ?_
      have := h.nonneg zero
      rw [real, power] at this
      exact_mod_cast this
    next => exact ⟨⟨defined, defined', h⟩, rfl⟩
  next => exact ⟨⟨defined, defined', h⟩, rfl⟩

theorem denotes_negate {a : Side} (ha : a.Denotes ρ x) : (negate a).Denotes ρ (-x) := by
  have product := denotes_times (denotes_number (ρ := ρ) (-1)) ha
  rw [Rat.cast_neg, Rat.cast_one, neg_one_mul] at product
  exact product

theorem denotes_divide {a b : Side} (ha : a.Denotes ρ x) (hb : b.Denotes ρ y) (hy : y ≠ 0) :
    (divide a b).Denotes ρ (x / y) := by
  have inverse := denotes_power hb (denotes_number (ρ := ρ) (-1))
    ⟨fun _ => ⟨-1, by norm_num⟩, fun zero => absurd zero hy⟩
  rw [Rat.cast_neg, Rat.cast_one, Real.rpow_neg_one] at inverse
  rw [div_eq_mul_inv]
  exact denotes_times ha inverse

theorem denotes_squareRoot {a : Side} (ha : a.Denotes ρ x) (hx : 0 ≤ x) :
    (squareRoot a).Denotes ρ √x := by
  have root := denotes_power ha (denotes_number (ρ := ρ) (1 / 2))
    ⟨fun negative => absurd hx (not_le.mpr negative), fun _ => by norm_num⟩
  rw [Rat.cast_div, Rat.cast_one, Rat.cast_ofNat, ← Real.sqrt_eq_rpow] at root
  exact root

theorem denotes_logarithm {a : Side} (ha : a.Denotes ρ x) (hx : 0 < x) :
    (logarithm a).Denotes ρ (Real.log x) := by
  obtain ⟨defined, rfl⟩ := ha
  unfold logarithm
  split
  next => exact ⟨trivial, by simp⟩
  next => simp at hx
  next => exact ⟨⟨defined, hx⟩, rfl⟩

theorem denotes_tangent {a : Side} (ha : a.Denotes ρ x) (hx : Real.cos x ≠ 0) :
    (tangent a).Denotes ρ (Real.tan x) := by
  obtain ⟨defined, rfl⟩ := ha
  unfold tangent
  split
  next => exact ⟨trivial, by simp⟩
  next => exact ⟨⟨defined, hx⟩, rfl⟩

theorem denotes_arctangent {a : Side} (ha : a.Denotes ρ x) :
    (arctangent a).Denotes ρ (Real.arctan x) := by
  obtain ⟨defined, rfl⟩ := ha
  unfold arctangent
  split
  next => exact ⟨trivial, by simp⟩
  next =>
    have half_turn : pi.Denotes ρ Real.pi := ⟨trivial, rfl⟩
    have quarter := denotes_times half_turn (denotes_number (1 / 4))
    rw [Rat.cast_div, Rat.cast_one, Rat.cast_ofNat, mul_one_div] at quarter
    have one : Real.arctan ((1 : ℚ) : ℝ) = Real.pi / 4 := by rw [Rat.cast_one, Real.arctan_one]
    rw [← one] at quarter
    exact quarter
  next => exact ⟨defined, rfl⟩

/-! Reading. -/

open Inversion

variable {declared : List String} {names : String → Option Term} {ρ a : String → ℝ}

theorem ofExpr?_call {id : String} {e : Expr} {s : Side} :
    ofExpr? declared (.call (.name id) [e] []) = some s →
      ∃ b, ofExpr? declared e = some b ∧
        (match id with
          | "sqrt" => some (squareRoot b)
          | "log" => some (logarithm b)
          | "tan" => some (tangent b)
          | "atan" => some (arctangent b)
          | _ => none) = some s := by
  intro h
  simp only [ofExpr?, Option.ite_none_left_eq_some, Option.bind_eq_bind,
    Option.bind_eq_some_iff] at h
  exact h.2

/-- Reading an expression as a side and as a term comes to the same number. -/
theorem denotes_ofExpr?
    (named : ∀ id t s, names id = some t → ofExpr? declared (.name id) = some s →
      s.Denotes ρ (t.real a))
    {e : Expr} (whole : wholeNumerals e = true) {t : Term} (ht : Term.ofExpr? names e = some t)
    (defined : t.Defined a) {s : Side} (hs : ofExpr? declared e = some s) :
    s.Denotes ρ (t.real a) := by
  fun_induction Term.ofExpr? names e generalizing s t with
  | case1 n =>
      cases ht
      obtain ⟨-, hs⟩ := Option.ite_none_left_eq_some.mp hs
      cases hs
      exact ⟨trivial, by simp⟩
  | case2 d => cases whole
  | case3 id => exact named id t s ht hs
  | case4 e ih => exact ih whole ht defined hs
  | case5 e ih =>
      obtain ⟨u, hu, rfl⟩ := Option.map_eq_some_iff.mp ht
      obtain ⟨b, hb, rfl⟩ := Option.map_eq_some_iff.mp hs
      exact denotes_negate (ih whole hu defined hb)
  | case6 base n ih =>
      simp only [wholeNumerals, Bool.and_true] at whole
      obtain ⟨u, hu, rfl⟩ := Option.map_eq_some_iff.mp ht
      simp only [ofExpr?, Option.bind_eq_bind, Option.bind_eq_some_iff,
        Option.ite_none_left_eq_some, Option.some.injEq] at hs
      obtain ⟨b, hb, -, ⟨-, rfl⟩, rfl⟩ := hs
      have power := denotes_power (ih whole hu defined hb) (denotes_number (ρ := ρ) n)
        ⟨fun _ => ⟨n, by simp⟩, fun _ => by simp⟩
      rw [Rat.cast_natCast, Real.rpow_natCast] at power
      exact power
  | case7 op left right _ ihl ihr =>
      simp only [wholeNumerals, Bool.and_eq_true] at whole
      simp only [Option.bind_eq_bind, Option.bind_eq_some_iff] at ht
      simp only [ofExpr?, Option.bind_eq_bind, Option.bind_eq_some_iff] at hs
      obtain ⟨u, hu, v, hv, ht⟩ := ht
      obtain ⟨b, hb, c, hc, hs⟩ := hs
      cases op with
      | add =>
          cases ht
          cases hs
          exact denotes_plus (ihl whole.1 hu defined.1 hb) (ihr whole.2 hv defined.2 hc)
      | sub =>
          cases ht
          cases hs
          rw [Term.sub_eq, Term.real, sub_eq_add_neg]
          exact denotes_plus (ihl whole.1 hu defined.1 hb)
            (denotes_negate (ihr whole.2 hv defined.2 hc))
      | mul =>
          cases ht
          cases hs
          exact denotes_times (ihl whole.1 hu defined.1 hb) (ihr whole.2 hv defined.2 hc)
      | div =>
          cases ht
          cases hs
          exact denotes_divide (ihl whole.1 hu defined.1 hb) (ihr whole.2 hv defined.2.1 hc)
            defined.2.2
      | pow =>
          cases ht
          cases hs
          exact denotes_power (ihl whole.1 hu defined.1 hb) (ihr whole.2 hv defined.2.1 hc)
            ⟨defined.2.2.1, defined.2.2.2⟩
      | _ => cases ht
  | case8 e ih =>
      obtain ⟨u, hu, rfl⟩ := Option.map_eq_some_iff.mp ht
      obtain ⟨b, hb, hs⟩ := ofExpr?_call hs
      cases hs
      exact denotes_squareRoot (ih whole hu defined.1 hb) defined.2
  | case9 e ih =>
      obtain ⟨u, hu, rfl⟩ := Option.map_eq_some_iff.mp ht
      obtain ⟨b, hb, hs⟩ := ofExpr?_call hs
      cases hs
      exact denotes_logarithm (ih whole hu defined.1 hb) defined.2
  | case10 e ih =>
      obtain ⟨u, hu, rfl⟩ := Option.map_eq_some_iff.mp ht
      obtain ⟨b, hb, hs⟩ := ofExpr?_call hs
      cases hs
      exact denotes_tangent (ih whole hu defined.1 hb) defined.2
  | case11 e ih =>
      obtain ⟨u, hu, rfl⟩ := Option.map_eq_some_iff.mp ht
      obtain ⟨b, hb, hs⟩ := ofExpr?_call hs
      cases hs
      exact denotes_arctangent (ih whole hu defined hb)
  | case12 e base ihe ihb =>
      simp only [wholeNumerals, Bool.and_eq_true] at whole
      simp only [Option.bind_eq_bind, Option.bind_eq_some_iff] at ht
      obtain ⟨u, hu, v, hv, ht⟩ := ht
      simp only [ofExpr?, Option.ite_none_left_eq_some, Option.bind_eq_bind,
        Option.bind_eq_some_iff] at hs
      obtain ⟨-, b, hb, c, hc, hs⟩ := hs
      cases ht
      cases hs
      exact denotes_divide (denotes_logarithm (ihe whole.1 hu defined.1.1 hb) defined.1.2)
        (denotes_logarithm (ihb whole.2 hv defined.2.1.1 hc) defined.2.1.2) defined.2.2
  | case13 => cases ht

end Side

end Astrolabe.Relation
