import Mathlib.Data.Prod.Basic
import Astrolabe.Proofs.Expression.Renamed
import Astrolabe.Proofs.Relation.Collected

/-!
Collecting does not look at names. Sides are compared to join like terms and like factors, and other
names that stay apart make no difference there: with other names, the collected form of an
expression is its collected form with other names, and has the same value.
-/

namespace Astrolabe.Relation

namespace Side

/-- A side with other names. -/
def rename (σ : String → String) : Side → Side
  | number q => number q
  | unbounded => unbounded
  | pi => pi
  | name key => name (σ key)
  | add a b => add (a.rename σ) (b.rename σ)
  | mul a b => mul (a.rename σ) (b.rename σ)
  | pow base exponent => pow (base.rename σ) (exponent.rename σ)
  | log a => log (a.rename σ)
  | tan a => tan (a.rename σ)
  | atan a => atan (a.rename σ)

section Rename

variable {σ : String → String}

@[simp]
theorem rename_eq_number {a : Side} {q : Rat} : a.rename σ = number q ↔ a = number q := by
  cases a <;> simp [rename]

@[simp]
theorem rename_eq_unbounded {a : Side} : a.rename σ = unbounded ↔ a = unbounded := by
  cases a <;> simp [rename]

theorem rename_injective (h : Function.Injective σ) : Function.Injective (rename σ) := by
  intro a b same
  induction a generalizing b with
  | name key =>
      cases b <;> simp [rename] at same
      rw [h same]
  | number | unbounded | pi => cases b <;> simp_all [rename]
  | add _ _ ih ih' | mul _ _ ih ih' | pow _ _ ih ih' =>
      cases b <;> simp [rename] at same
      rw [ih same.1, ih' same.2]
  | log _ ih | tan _ ih | atan _ ih =>
      cases b <;> simp [rename] at same
      rw [ih same]

/-! Sums -/

theorem terms_rename (a : Side) : terms (a.rename σ) = (terms a).map (Prod.map (rename σ) id) := by
  induction a with
  | add _ _ ih ih' => rw [rename, terms, terms, ih, ih', List.map_append]
  | mul a b _ _ => cases a <;> rfl
  | _ => rfl

variable (h : Function.Injective σ)
include h

theorem addTerm_rename (others : List (Side × Rat)) (term : Side × Rat) :
    addTerm (others.map (Prod.map (rename σ) id)) (Prod.map (rename σ) id term) =
      (addTerm others term).map (Prod.map (rename σ) id) := by
  induction others with
  | nil => rfl
  | cons first rest ih =>
      simp only [List.map_cons, addTerm, Prod.map_fst, Prod.map_snd, id,
        (rename_injective h).eq_iff]
      split
      next => rfl
      next => rw [ih]; rfl

omit h in
theorem ofTerm_rename (term : Side × Rat) :
    ofTerm (Prod.map (rename σ) id term) = (ofTerm term).rename σ := by
  simp only [ofTerm, Prod.map_fst, Prod.map_snd, id, rename_eq_number]
  split
  next => rfl
  next => split <;> rfl

omit h in
theorem ofTerms_rename (all : List (Side × Rat)) :
    ofTerms (all.map (Prod.map (rename σ) id)) = (ofTerms all).rename σ := by
  have kept : ((all.map (Prod.map (rename σ) id)).filter fun term =>
      term.2 ≠ 0 ∨ term.1 = unbounded).map ofTerm =
        ((all.filter fun term => term.2 ≠ 0 ∨ term.1 = unbounded).map ofTerm).map (rename σ) := by
    rw [List.filter_map, List.map_map, List.map_map]
    simp only [Function.comp_def, ofTerm_rename, Prod.map_fst, Prod.map_snd, id,
      rename_eq_unbounded]
  rw [ofTerms, ofTerms, kept]
  cases (all.filter fun term => term.2 ≠ 0 ∨ term.1 = unbounded).map ofTerm with
  | nil => rfl
  | cons first rest =>
      rw [List.map_cons]
      change (rest.map (rename σ)).foldl add (first.rename σ) = _
      rw [List.foldl_map]
      exact List.foldl_hom (rename σ) fun _ _ => rfl

theorem plus_rename (a b : Side) : plus (a.rename σ) (b.rename σ) = (plus a b).rename σ := by
  have joined (all : List (Side × Rat)) :
      (all.map (Prod.map (rename σ) id)).foldl addTerm (List.map (Prod.map (rename σ) id) []) =
        (all.foldl addTerm []).map (Prod.map (rename σ) id) := by
    rw [List.foldl_map]
    exact List.foldl_hom _ (addTerm_rename h)
  rw [plus, plus, terms_rename, terms_rename, ← List.map_append, ← ofTerms_rename]
  exact congrArg ofTerms (joined _)

/-! Products -/

omit h in
theorem factors_rename (a : Side) :
    factors (a.rename σ) = ((factors a).1, (factors a).2.map (Prod.map (rename σ) (rename σ))) := by
  induction a with
  | mul a b ih ih' => simp only [rename, factors, ih, ih', List.map_append]
  | _ => rfl

theorem addFactor_rename (others : List (Side × Side)) (factor : Side × Side) :
    addFactor (others.map (Prod.map (rename σ) (rename σ)))
        (Prod.map (rename σ) (rename σ) factor) =
      (addFactor others factor).map (Prod.map (rename σ) (rename σ)) := by
  induction others with
  | nil => rfl
  | cons first rest ih =>
      simp only [List.map_cons, addFactor, Prod.map_fst, Prod.map_snd, (rename_injective h).eq_iff]
      split
      next => rw [plus_rename h]; rfl
      next => rw [ih]; rfl

omit h in
theorem numberPow_rename (q : Rat) (n : ℤ) : (numberPow q n).rename σ = numberPow q n := by
  unfold numberPow
  split <;> rfl

omit h in
theorem ofFactor_rename (factor : Side × Side) :
    ofFactor (Prod.map (rename σ) (rename σ) factor) = (ofFactor factor).rename σ := by
  rw [ofFactor.eq_def factor]
  split
  next base => exact ofFactor.eq_1 _
  next base => exact ofFactor.eq_2 _
  next q e notOne notZero =>
    refine (ofFactor.eq_3 q e notOne notZero).trans ?_
    split
    next => exact (numberPow_rename q e.num).symm
    next => rfl
  next base exponent notOne notZero notNumbers =>
    refine ofFactor.eq_4 _ _ (fun same => notOne (rename_eq_number.mp same))
      (fun same => notZero (rename_eq_number.mp same)) fun q e left right => ?_
    exact notNumbers q e (rename_eq_number.mp left) (rename_eq_number.mp right)

omit h in
theorem coefficient_rename (q : Rat) (all : List Side) :
    coefficient q (all.map (rename σ)) = coefficient q all := by
  rw [coefficient, coefficient, List.foldl_map]
  congr 1
  funext q a
  cases a <;> rfl

omit h in
theorem filter_isNumber_rename (all : List Side) :
    (all.map (rename σ)).filter (!·.isNumber) = (all.filter (!·.isNumber)).map (rename σ) := by
  rw [List.filter_map]
  congr 2
  funext a
  cases a <;> rfl

omit h in
theorem scaledBy_rename (q : Rat) (all : List Side) :
    scaledBy q (all.map (rename σ)) = (scaledBy q all).rename σ := by
  cases all with
  | nil => rfl
  | cons first rest =>
      cases rest with
      | nil =>
          change ofTerms ((terms (first.rename σ)).map fun term => (term.1, term.2 * q)) = _
          rw [terms_rename, List.map_map, scaledBy, ← ofTerms_rename, List.map_map]
          rfl
      | cons second rest =>
          have product : (List.map (rename σ) (second :: rest)).foldl mul (first.rename σ) =
              ((second :: rest).foldl mul first).rename σ := by
            rw [List.foldl_map]
            exact List.foldl_hom (rename σ) fun _ _ => rfl
          rw [List.map_cons] at product
          rw [List.map_cons, List.map_cons, scaledBy, scaledBy, product]
          · split <;> rfl
          · exact List.cons_ne_nil _ _
          · exact List.cons_ne_nil _ _

omit h in
theorem ofFactors_rename (q : Rat) (all : List Side) :
    ofFactors q (all.map (rename σ)) = (ofFactors q all).rename σ := by
  have free (others : List Side) : unbounded ∉ others.map (rename σ) ↔ unbounded ∉ others := by
    simp [List.mem_map]
  rw [ofFactors_eq, ofFactors_eq, coefficient_rename, filter_isNumber_rename, scaledBy_rename]
  simp only [free]
  split <;> rfl

theorem times_rename (a b : Side) : times (a.rename σ) (b.rename σ) = (times a b).rename σ := by
  have joined (all : List (Side × Side)) :
      (all.map (Prod.map (rename σ) (rename σ))).foldl addFactor
          (List.map (Prod.map (rename σ) (rename σ)) []) =
        (all.foldl addFactor []).map (Prod.map (rename σ) (rename σ)) := by
    rw [List.foldl_map]
    exact List.foldl_hom _ (addFactor_rename h)
  simp only [times, factors_rename, ← List.map_append]
  rw [← ofFactors_rename]
  refine congrArg (ofFactors _) ?_
  refine (congrArg (List.map ofFactor) (joined _)).trans ?_
  rw [List.map_map, List.map_map]
  exact List.map_congr_left fun factor _ => ofFactor_rename factor

/-! Powers -/

theorem intPower_rename (n : ℤ) (a : Side) :
    intPower n (a.rename σ) = (intPower n a).rename σ := by
  induction a with
  | mul _ _ ih ih' => rw [rename, intPower, intPower, ih, ih', times_rename h]
  | pow base exponent _ _ =>
      rw [rename, intPower, intPower, ← ofFactor_rename, Prod.map_apply, ← times_rename h]
      rfl
  | unbounded =>
      rw [rename, intPower]
      split <;> rfl
  | _ => exact ofFactor_rename (_, number n)

theorem power_rename (a b : Side) : power (a.rename σ) (b.rename σ) = (power a b).rename σ := by
  rw [power.eq_def a b]
  split
  next exponent => exact power.eq_1 _
  next q =>
    refine (power.eq_2 q).trans ?_
    split
    next => rfl
    next => split <;> rfl
  next base q notOne notZero =>
    refine (power.eq_3 _ q (fun same => notOne (rename_eq_number.mp same))
      fun same => notZero (rename_eq_number.mp same)).trans ?_
    split
    next => exact intPower_rename h q.num _
    next => rfl
  next base exponent notOne notNumber notZero =>
    exact power.eq_4 _ _ (fun same => notOne (rename_eq_number.mp same))
      (fun q same => notNumber q (rename_eq_number.mp same))
      fun q left right => notZero q (rename_eq_number.mp left) (rename_eq_number.mp right)

/-! Functions -/

theorem squareRoot_rename (a : Side) : squareRoot (a.rename σ) = (squareRoot a).rename σ :=
  power_rename h a (number (1 / 2))

omit h in
theorem logarithm_rename (a : Side) : logarithm (a.rename σ) = (logarithm a).rename σ := by
  rw [logarithm.eq_def a]
  split
  next => rfl
  next => rfl
  next notOne notZero =>
    exact logarithm.eq_3 _ (fun same => notOne (rename_eq_number.mp same))
      fun same => notZero (rename_eq_number.mp same)

omit h in
theorem tangent_rename (a : Side) : tangent (a.rename σ) = (tangent a).rename σ := by
  rw [tangent.eq_def a]
  split
  next => rfl
  next notZero => exact tangent.eq_2 _ fun same => notZero (rename_eq_number.mp same)

theorem arctangent_rename (a : Side) : arctangent (a.rename σ) = (arctangent a).rename σ := by
  rw [arctangent.eq_def a]
  split
  next => rfl
  next => exact times_rename h pi (number (1 / 4))
  next notZero notOne =>
    exact arctangent.eq_3 _ (fun same => notZero (rename_eq_number.mp same))
      fun same => notOne (rename_eq_number.mp same)

theorem negate_rename (a : Side) : negate (a.rename σ) = (negate a).rename σ :=
  times_rename h (number (-1)) a

theorem divide_rename (a b : Side) : divide (a.rename σ) (b.rename σ) = (divide a b).rename σ := by
  rw [divide, divide, ← times_rename h, ← power_rename h]
  rfl

end Rename

/-! Values -/

/-- A name and the one that is written for it, over other declared names: an undeclared name stays
as it is, and is still undeclared. -/
structure Stands (σ : String → String) (declared declared' : List String) (id id' : String) :
    Prop where
  renamed : id' = σ id
  known : declared'.contains id' = declared.contains id
  builtin : declared.contains id = false → id' = id

section Calls

variable {σ : String → String} (h : Function.Injective σ) {declared declared' : List String}
  {id id' : String} (stands : Stands σ declared declared' id id') {e e' : Expr}
  (argument : ofExpr? declared' e' = (ofExpr? declared e).map (rename σ))

include h stands argument

theorem ofExpr?_call_renamed :
    ofExpr? declared' (.call (.name id') [e'] []) =
      (ofExpr? declared (.call (.name id) [e] [])).map (rename σ) := by
  rw [ofExpr?, ofExpr?, stands.known]
  cases known : declared.contains id with
  | true => rfl
  | false =>
      obtain rfl := stands.builtin known
      rw [argument]
      cases ofExpr? declared e with
      | none => rfl
      | some a =>
          simp only [Bool.false_eq_true, if_false, Option.map_some, bind, Option.bind_some]
          split
          next => exact congrArg some (squareRoot_rename h a)
          next => exact congrArg some (logarithm_rename a)
          next => exact congrArg some (tangent_rename a)
          next => exact congrArg some (arctangent_rename h a)
          next => rfl

theorem ofExpr?_log_renamed {base base' : Expr}
    (second : ofExpr? declared' base' = (ofExpr? declared base).map (rename σ)) :
    ofExpr? declared' (.call (.name id') [e', base'] []) =
      (ofExpr? declared (.call (.name id) [e, base] [])).map (rename σ) := by
  rw [ofExpr?, ofExpr?, stands.known]
  cases known : declared.contains id with
  | true => rfl
  | false =>
      obtain rfl := stands.builtin known
      rw [argument, second]
      split
      next => rfl
      next =>
        cases ofExpr? declared e with
        | none => rfl
        | some a =>
            cases ofExpr? declared base with
            | none => rfl
            | some b =>
                simp only [Option.map_some, bind, Option.bind_some]
                rw [logarithm_rename, logarithm_rename, divide_rename h]

end Calls

/-- An expression with other names is read as the side with other names. -/
theorem ofExpr?_renamed {σ : String → String} (h : Function.Injective σ)
    {declared declared' : List String} {numbers : Prop}
    (whole : numbers → declared'.contains wholeReader = declared.contains wholeReader) {e e' : Expr}
    (renamed : e.Renamed ⟨Stands σ declared declared', numbers⟩ e') :
    ofExpr? declared' e' = (ofExpr? declared e).map (rename σ) := by
  induction renamed using @Expr.Renamed.rec _ _ fun es es' _ =>
      List.Forall₂ (fun e e' => ofExpr? declared' e' = (ofExpr? declared e).map (rename σ))
        es es' with
  | whole written n =>
      rw [ofExpr?, ofExpr?, whole written]
      split <;> rfl
  | @name id id' stands =>
      rw [ofExpr?, ofExpr?, stands.known]
      cases known : declared.contains id with
      | true =>
          rw [if_pos rfl, if_pos rfl, stands.renamed]
          rfl
      | false =>
          obtain rfl := stands.builtin known
          simp only [Bool.false_eq_true, if_false]
          split
          next => rfl
          next =>
            split
            next => rfl
            next =>
              rw [Option.map_some, rename, ← stands.renamed]
  | unary op _ ih =>
      cases op with
      | plus => rw [ofExpr?, ofExpr?, ih]
      | minus =>
          rw [ofExpr?, ofExpr?, ih, Option.map_map, Option.map_map]
          exact congrArg (Option.map · _) (funext (negate_rename h))
      | _ => rfl
  | @binary op l r _ _ _ _ ihl ihr =>
      rw [ofExpr?, ofExpr?, ihl, ihr]
      cases ofExpr? declared l with
      | none => rfl
      | some a =>
          cases ofExpr? declared r with
          | none => rfl
          | some b =>
              cases op with
              | add => exact congrArg some (plus_rename h a b)
              | sub =>
                  refine congrArg some ?_
                  rw [negate_rename h, plus_rename h]
              | mul => exact congrArg some (times_rename h a b)
              | div => exact congrArg some (divide_rename h a b)
              | pow => exact congrArg some (power_rename h a b)
              | _ => rfl
  | @call f f' es es' callee _ _ ihs =>
      cases callee with
      | @name id id' stands =>
          cases ihs with
          | nil => rfl
          | @cons x x' xs xs' first others =>
              cases others with
              | nil => exact ofExpr?_call_renamed h stands first
              | @cons y y' ys ys' second more =>
                  cases more with
                  | nil => exact ofExpr?_log_renamed h stands first second
                  | cons => rfl
      | _ => rfl
  | nil => exact .nil
  | cons _ _ first others => exact .cons first others

end Side

end Astrolabe.Relation
