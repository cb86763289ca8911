import Mathlib
import Astrolabe.Proofs.Exact.Solver

/-!
Relations between products of powers. Where all values are positive, the logarithm of a
product of powers is a linear form in the logarithms of its factors, so a solution can be
compared with its relation by comparing exponents. Most relations are of this kind.
-/

namespace Astrolabe.Inversion

/-- A product of powers of terms. -/
abbrev Monomial := List (Term × ℚ)

namespace Monomial

def scale (q : ℚ) (m : Monomial) : Monomial :=
  m.map fun (t, e) => (t, q * e)

def exponent (t : Term) : Monomial → ℚ
  | [] => 0
  | (s, e) :: m => (if s = t then e else 0) + exponent t m

def cancels (m : Monomial) : Bool :=
  m.all fun (t, _) => exponent t m == 0

/-- The logarithm of a product at positive values. -/
noncomputable def log (a : String → ℝ) : Monomial → ℝ
  | [] => 0
  | (t, e) :: m => e * Real.log (t.real a) + log a m

variable (a : String → ℝ)

theorem log_append (m n : Monomial) : log a (m ++ n) = log a m + log a n := by
  induction m with
  | nil => simp [log]
  | cons p m ih => simp [log, ih, add_assoc]

theorem log_scale (q : ℚ) (m : Monomial) : log a (m.scale q) = q * log a m := by
  induction m with
  | nil => simp [scale, log]
  | cons p m ih =>
      have ih : log a (List.map (fun (t, e) => (t, q * e)) m) = q * log a m := ih
      simp only [scale, List.map_cons, log, ih]
      push_cast
      ring

theorem log_eq_sum (m : Monomial) (factors : Finset Term)
    (h : ∀ p ∈ m, p.1 ∈ factors) :
    log a m = ∑ t ∈ factors, (exponent t m : ℝ) * Real.log (t.real a) := by
  induction m with
  | nil => simp [log, exponent]
  | cons p m ih =>
      -- the set stays the same, so that the rest is summed over the same factors
      have rest := ih fun q hq => h q (List.mem_cons_of_mem _ hq)
      have head : p.1 ∈ factors := h p (List.mem_cons_self ..)
      have split (t : Term) : (exponent t (p :: m) : ℝ) * Real.log (t.real a) =
          (if p.1 = t then (p.2 : ℝ) * Real.log (t.real a) else 0) +
            (exponent t m : ℝ) * Real.log (t.real a) := by
        by_cases same : p.1 = t <;> simp [exponent, same, add_mul]
      simp only [split, Finset.sum_add_distrib, Finset.sum_ite_eq, if_pos head, log, rest]

theorem log_eq_zero {m : Monomial} (h : m.cancels = true) : log a m = 0 := by
  rw [log_eq_sum a m (m.map Prod.fst).toFinset fun p hp => by simpa using ⟨p.2, hp⟩]
  refine Finset.sum_eq_zero fun t ht => ?_
  obtain ⟨p, hp, rfl⟩ := List.mem_map.mp (List.mem_toFinset.mp ht)
  have none : exponent p.1 m = 0 := by simpa using List.all_eq_true.mp h p hp
  simp [none]

end Monomial

namespace Term

/-- The number that a term stands for, given the values of constants. -/
def number? (constant? : String → Option ℚ) : Term → Option ℚ
  | var symbol => constant? symbol
  | literal d => some (d.digits * 10 ^ d.exponent)
  | neg t => (t.number? constant?).map (- ·)
  | div s t => do
    let p ← s.number? constant?
    let q ← t.number? constant?
    if q = 0 then none else some (p / q)
  | _ => none

/-- A term as a product of powers, where it is one. Exponents have to be numbers. -/
def monomial? (constant? : String → Option ℚ) : Term → Option Monomial
  | var symbol => some [(var symbol, 1)]
  | pi => some [(pi, 1)]
  | literal d =>
    if d = ⟨1, 0⟩ then some [] else if d.digits = 0 then none else some [(literal d, 1)]
  | mul s t => do
    let m ← s.monomial? constant?
    let n ← t.monomial? constant?
    some (m ++ n)
  | div s t => do
    let m ← s.monomial? constant?
    let n ← t.monomial? constant?
    some (m ++ n.scale (-1))
  | natPow s n => (s.monomial? constant?).map (Monomial.scale n)
  | sqrt s => (s.monomial? constant?).map (Monomial.scale 2⁻¹)
  | cbrt s => (s.monomial? constant?).map (Monomial.scale 3⁻¹)
  | pow s t => do
    let m ← s.monomial? constant?
    let q ← t.number? constant?
    some (m.scale q)
  | _ => none

variable {f : Formula} {a : String → ℝ}

theorem number?_spec (fits : f.Fits a) {t : Term} {q : ℚ}
    (h : t.number? f.constant? = some q) : t.Defined a ∧ t.real a = q := by
  induction t generalizing q with
  | var symbol => exact ⟨trivial, fits.eq h⟩
  | literal d =>
      cases h
      exact ⟨trivial, by simp⟩
  | neg t ih =>
      obtain ⟨p, hp, rfl⟩ := Option.map_eq_some_iff.mp h
      exact ⟨(ih hp).1, by simp [(ih hp).2]⟩
  | div s t ihs iht =>
      obtain ⟨p, hp, h⟩ := Option.bind_eq_some_iff.mp h
      obtain ⟨r, hr, h⟩ := Option.bind_eq_some_iff.mp h
      split at h
      next => cases h
      next nonzero =>
        cases h
        have denominator : t.real a ≠ 0 := by
          rw [(iht hr).2]
          exact_mod_cast nonzero
        exact ⟨⟨(ihs hp).1, (iht hr).1, denominator⟩, by simp [(ihs hp).2, (iht hr).2]⟩
  | _ => cases h

/-- A product of powers of positive values is defined and positive. -/
theorem monomial?_spec (fits : f.Fits a) {t : Term} {m : Monomial}
    (h : t.monomial? f.constant? = some m) (positive : ∀ s ∈ t.symbols, 0 < a s) :
    t.Defined a ∧ 0 < t.real a ∧ Real.log (t.real a) = m.log a := by
  induction t generalizing m with
  | var symbol =>
      cases h
      exact ⟨trivial, positive symbol (by simp), by simp [Monomial.log]⟩
  | pi =>
      cases h
      exact ⟨trivial, Real.pi_pos, by simp [Monomial.log]⟩
  | literal d =>
      refine ⟨trivial, ?_⟩
      rw [monomial?] at h
      split at h
      next one =>
        cases h
        simp [one, Monomial.log]
      next =>
        split at h
        next => cases h
        next nonzero =>
          cases h
          have digits : (0 : ℝ) < d.digits := by
            exact_mod_cast Nat.pos_of_ne_zero nonzero
          exact ⟨mul_pos digits (by positivity), by simp [Monomial.log]⟩
  | mul s t ihs iht =>
      obtain ⟨n, hn, h⟩ := Option.bind_eq_some_iff.mp h
      obtain ⟨k, hk, h⟩ := Option.bind_eq_some_iff.mp h
      cases h
      obtain ⟨ds, ps, ls⟩ := ihs hn fun x hx => positive x (List.mem_append_left _ hx)
      obtain ⟨dt, pt, lt⟩ := iht hk fun x hx => positive x (List.mem_append_right _ hx)
      refine ⟨⟨ds, dt⟩, mul_pos ps pt, ?_⟩
      rw [real, Real.log_mul ps.ne' pt.ne', ls, lt, Monomial.log_append]
  | div s t ihs iht =>
      obtain ⟨n, hn, h⟩ := Option.bind_eq_some_iff.mp h
      obtain ⟨k, hk, h⟩ := Option.bind_eq_some_iff.mp h
      cases h
      obtain ⟨ds, ps, ls⟩ := ihs hn fun x hx => positive x (List.mem_append_left _ hx)
      obtain ⟨dt, pt, lt⟩ := iht hk fun x hx => positive x (List.mem_append_right _ hx)
      refine ⟨⟨ds, dt, pt.ne'⟩, div_pos ps pt, ?_⟩
      rw [real, Real.log_div ps.ne' pt.ne', ls, lt, Monomial.log_append,
        Monomial.log_scale]
      push_cast
      ring
  | natPow s n ih =>
      obtain ⟨k, hk, rfl⟩ := Option.map_eq_some_iff.mp h
      obtain ⟨ds, ps, ls⟩ := ih hk positive
      refine ⟨ds, pow_pos ps n, ?_⟩
      rw [real, Real.log_pow, ls, Monomial.log_scale]
      push_cast
      rfl
  | sqrt s ih =>
      obtain ⟨k, hk, rfl⟩ := Option.map_eq_some_iff.mp h
      obtain ⟨ds, ps, ls⟩ := ih hk positive
      refine ⟨⟨ds, ps.le⟩, Real.sqrt_pos.mpr ps, ?_⟩
      rw [real, Real.log_sqrt ps.le, ls, Monomial.log_scale]
      push_cast
      ring
  | cbrt s ih =>
      obtain ⟨k, hk, rfl⟩ := Option.map_eq_some_iff.mp h
      obtain ⟨ds, ps, ls⟩ := ih hk positive
      refine ⟨ds, realCbrt_pos ps, ?_⟩
      rw [real, realCbrt, if_neg (not_lt.mpr ps.le), Real.log_rpow ps, ls,
        Monomial.log_scale]
      push_cast
      rfl
  | pow s t ihs =>
      obtain ⟨k, hk, h⟩ := Option.bind_eq_some_iff.mp h
      obtain ⟨q, hq, h⟩ := Option.bind_eq_some_iff.mp h
      cases h
      obtain ⟨ds, ps, ls⟩ := ihs hk fun x hx => positive x (List.mem_append_left _ hx)
      obtain ⟨dt, value⟩ := number?_spec fits hq
      refine ⟨⟨ds, dt, fun h => absurd h (not_lt.mpr ps.le), fun h => absurd h ps.ne'⟩,
        Real.rpow_pos_of_pos ps _, ?_⟩
      rw [real, value, Real.log_rpow ps, ls, Monomial.log_scale]
  | _ => cases h

/-- Whether a term is the power of the quotient of the sides that is the variable. -/
def isPower (constant? : String → Option ℚ) (sides : Sides) (symbol : String)
    (t : Term) : Bool :=
  match sides.left.monomial? constant?, sides.right.monomial? constant?,
    t.monomial? constant? with
  | some l, some r, some m =>
    let quotient := l ++ Monomial.scale (-1) r
    let e := Monomial.exponent (var symbol) quotient
    e != 0 &&
      Monomial.cancels (Monomial.scale e (m ++ [(var symbol, -1)]) ++ quotient)
  | _, _, _ => false

theorem pos_of_isPower (fits : f.Fits a) {sides : Sides} {symbol : String} {t : Term}
    (h : t.isPower f.constant? sides symbol = true)
    (positive : ∀ s ∈ t.symbols, 0 < a s) : 0 < t.real a := by
  unfold isPower at h
  split at h
  next hm => exact (monomial?_spec fits hm positive).2.1
  next => cases h

/-- Such a term has the value of the variable just where the sides are equal. -/
theorem isPower_iff (fits : f.Fits a) {sides : Sides} {symbol : String} {t : Term}
    (h : t.isPower f.constant? sides symbol = true) (value : 0 < a symbol)
    (left : ∀ s ∈ sides.left.symbols, 0 < a s)
    (right : ∀ s ∈ sides.right.symbols, 0 < a s) (solution : ∀ s ∈ t.symbols, 0 < a s) :
    t.Defined a ∧ (t.real a = a symbol ↔ sides.Hold a) := by
  unfold isPower at h
  split at h
  next l r m hl hr hm =>
    simp only [Bool.and_eq_true, bne_iff_ne] at h
    obtain ⟨nonzero, cancels⟩ := h
    obtain ⟨-, pl, ll⟩ := monomial?_spec fits hl left
    obtain ⟨-, pr, lr⟩ := monomial?_spec fits hr right
    obtain ⟨dt, pt, lt⟩ := monomial?_spec fits hm solution
    -- e times the distance from solution to variable makes up for that of the sides
    have balance := Monomial.log_eq_zero a cancels
    simp only [Monomial.log_append, Monomial.log_scale, Monomial.log, ← ll, ← lr, ← lt,
      real] at balance
    generalize Monomial.exponent (var symbol) (l ++ Monomial.scale (-1) r) = e at *
    have nonzero : (e : ℝ) ≠ 0 := by exact_mod_cast nonzero
    push_cast at balance
    refine ⟨dt, ?_⟩
    rw [← Real.log_injOn_pos.eq_iff pt value, Sides.Hold,
      ← Real.log_injOn_pos.eq_iff pl pr]
    constructor
    · intro same
      rw [same] at balance
      linarith
    · intro same
      rw [same] at balance
      have : (e : ℝ) * (Real.log (t.real a) - Real.log (a symbol)) = 0 := by linarith
      have := (mul_eq_zero.mp this).resolve_left nonzero
      linarith
  next => cases h

end Term

end Astrolabe.Inversion

namespace Astrolabe

open Inversion

/-- Whether a term reads nothing but variables and positive constants. -/
def Formula.readsPositive (f : Formula) (t : Term) : Bool :=
  t.symbols.all fun s => decide (s ∈ f.symbols) || (f.constant? s).any (0 < ·)

theorem Formula.pos_of_readsPositive {f : Formula} {a : String → ℝ} (fits : f.Fits a)
    {t : Term} (h : f.readsPositive t = true) {s : String} (hs : s ∈ t.symbols)
    (given : s ∈ f.symbols → 0 < a s) : 0 < a s := by
  have read := List.all_eq_true.mp h s hs
  rw [Bool.or_eq_true, decide_eq_true_eq] at read
  exact read.elim given fits.pos

namespace Inversion

/-- A solution of a relation between products of positive quantities. -/
structure Term.SolvesProduct (f : Formula) (sides : Sides) (symbol : String) (t : Term) :
    Prop where
  decisive : (f.id, symbol) ∉ Formula.exponents.map fun e => (e.1, e.2.1)
  unsigned : ∀ s ∈ f.symbols, s ∈ f.unsigned
  left : f.readsPositive sides.left = true
  right : f.readsPositive sides.right = true
  reads : f.readsPositive t = true
  member : symbol ∈ f.symbols
  free : symbol ∉ t.symbols
  power : t.isPower f.constant? sides symbol = true

namespace Term.SolvesProduct

variable {f : Formula} {sides : Sides} {symbol : String} {t : Term}

theorem decisive_iff : (f.id, symbol) ∉ Formula.exponents.map (fun e => (e.1, e.2.1)) ↔
    ∀ e ∈ Formula.exponents, e.1 = f.id → e.2.1 ≠ symbol := by
  simp only [List.mem_map, Prod.mk.injEq, not_exists, not_and]

instance : Decidable (t.SolvesProduct f sides symbol) :=
  decidable_of_iff
    ((∀ e ∈ Formula.exponents, e.1 = f.id → e.2.1 ≠ symbol) ∧
      (∀ s ∈ f.symbols, s ∈ f.unsigned) ∧
      f.readsPositive sides.left = true ∧ f.readsPositive sides.right = true ∧
      f.readsPositive t = true ∧ symbol ∈ f.symbols ∧ symbol ∉ t.symbols ∧
      t.isPower f.constant? sides symbol = true)
    ⟨fun ⟨h₁, h₂, h₃, h₄, h₅, h₆, h₇, h₈⟩ =>
      ⟨decisive_iff.mpr h₁, h₂, h₃, h₄, h₅, h₆, h₇, h₈⟩,
      fun ⟨h₁, h₂, h₃, h₄, h₅, h₆, h₇, h₈⟩ =>
        ⟨decisive_iff.mp h₁, h₂, h₃, h₄, h₅, h₆, h₇, h₈⟩⟩

theorem value_iff (h : t.SolvesProduct f sides symbol) {a : String → ℝ} (fits : f.Fits a)
    (positive : ∀ s ∈ f.symbols, 0 < a s) :
    t.Defined a ∧ (t.real a = a symbol ↔ sides.Hold a) :=
  isPower_iff fits h.power (positive symbol h.member)
    (fun s hs => Formula.pos_of_readsPositive fits h.left hs (positive s))
    (fun s hs => Formula.pos_of_readsPositive fits h.right hs (positive s))
    fun s hs => Formula.pos_of_readsPositive fits h.reads hs (positive s)

theorem soundFor (h : t.SolvesProduct f sides symbol) : t.SoundFor f sides symbol := by
  intro a fits given _ value _
  have others (s : String) (hs : s ∈ f.symbols) (other : s ≠ symbol) : 0 < a s :=
    given.pos (List.mem_filter.mpr ⟨h.unsigned s hs, by simpa using other⟩)
  have solved : 0 < t.real a := pos_of_isPower fits h.power fun s hs =>
    Formula.pos_of_readsPositive fits h.reads hs fun mem =>
      others s mem fun same => h.free (same ▸ hs)
  refine (h.value_iff fits fun s hs => ?_).2.mp value.symm
  by_cases same : s = symbol
  · rwa [same, value]
  · exact others s hs same

theorem recovers (h : t.SolvesProduct f sides symbol) : t.Recovers f sides symbol := by
  refine recovers_of_decisive h.decisive fun a fits admissible _ hold => ?_
  obtain ⟨defined, iff⟩ := h.value_iff fits fun s hs => admissible.pos (h.unsigned s hs)
  exact ⟨defined, iff.mpr hold⟩

end Term.SolvesProduct

def solvesProducts (inversion : Inversion) (f : Formula) (sides : Sides) : Bool :=
  inversion.solutions.all fun (symbol, solution) =>
    match solution with
    | .term t => decide (t.SolvesProduct f sides symbol)
    | .proportionOnly => false

theorem solvesProduct_of_lookup {inversion : Inversion} {f : Formula} {sides : Sides}
    (h : inversion.solvesProducts f sides = true) {symbol : String} {t : Term}
    (lookup : inversion.solutions.lookup symbol = some (.term t)) :
    t.SolvesProduct f sides symbol := by
  obtain ⟨before, after, split, -⟩ := List.lookup_eq_some_iff.mp lookup
  have check := List.all_eq_true.mp h (symbol, .term t) (by simp [split])
  exact of_decide_eq_true check

end Inversion

/-- Whether a relation is one between products, with a solution for each variable. -/
def Formula.relatesProducts (f : Formula) : Bool :=
  f.sides?.any fun sides =>
    (Inversion.packaged.lookup f.id).any (·.solvesProducts f sides)

theorem Formula.faithful_of_relatesProducts {f : Formula} (h : f.relatesProducts = true) :
    f.Faithful := by
  obtain ⟨sides, hs, h⟩ := (Option.any_eq_true _ _).mp h
  obtain ⟨inversion, lookup, products⟩ := (Option.any_eq_true _ _).mp h
  exact ⟨sides, inversion, hs, lookup,
    fun _ _ h => (solvesProduct_of_lookup products h).soundFor,
    fun _ _ h => (solvesProduct_of_lookup products h).recovers⟩

end Astrolabe
