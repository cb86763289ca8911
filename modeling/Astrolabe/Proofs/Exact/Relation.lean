import Astrolabe.Expression.Value
import Astrolabe.Proofs.Exact.Term
import Astrolabe.Proofs.Solver.Coverage
import Astrolabe.Relation.Residual

/-!
Relations over the real numbers. The expressions of a relation are those that the check
of a residual starts from, before it collects terms; here each is read as a term as it
stands. The numbers behind names are exact: a constant is the rational number that its
double stands for.
-/

namespace Astrolabe

open Inversion

namespace Relation

def tree? (text : List Char) : Option Expr :=
  Expr.ofText? (String.ofList (Expression.expandCarets text))

/-- The expressions on the two sides of a relation. -/
def trees? (text : String) : Option (Expr × Expr) :=
  match text.toList.span (· != '=') with
  | (left, _ :: right) =>
    if right.contains '=' then none
    else do
      let a ← tree? left
      let b ← tree? right
      some (a, b)
  | (_, []) => none

theorem side_ofText?_eq (declared : List String) (text : List Char) :
    Side.ofText? declared text = (tree? text).bind (Side.ofExpr? declared) := by
  simp only [Side.ofText?, tree?, Expression.expandCarets, Option.bind_eq_bind]

/-- The sides of a check are the two expressions in collected form. -/
theorem sides_eq_ok_iff (declared : List String) (text : String) (a b : Side) :
    sides declared text = .ok (a, b) ↔
      ∃ left right, trees? text = some (left, right) ∧
        Side.ofExpr? declared left = some a ∧ Side.ofExpr? declared right = some b := by
  simp only [sides, trees?, side_ofText?_eq]
  generalize text.toList.span (· != '=') = parts
  obtain ⟨left, _ | ⟨mark, right⟩⟩ := parts
  · simp
  · by_cases more : '=' ∈ right
    · simp [more]
    · cases hl : tree? left with
      | none => simp [more, hl]
      | some l =>
          cases hr : tree? right with
          | none => simp [more, hl, hr]
          | some r =>
              cases sl : Side.ofExpr? declared l <;> cases sr : Side.ofExpr? declared r <;>
                simp [more, hl, hr, sl, sr]

end Relation

namespace Inversion.Term

/-- The term that an expression stands for, given what its names stand for. -/
def ofExpr? (names : String → Option Term) : Expr → Option Term
  | .whole n => some (literal ⟨n, 0⟩)
  | .decimal d => some (literal d)
  | .name id => names id
  | .unary .plus e => ofExpr? names e
  | .unary .minus e => (ofExpr? names e).map neg
  | .binary .pow base (.whole n) => (ofExpr? names base).map (natPow · n)
  | .binary op left right => do
    let a ← ofExpr? names left
    let b ← ofExpr? names right
    match op with
    | .add => some (a + b)
    | .sub => some (a - b)
    | .mul => some (a * b)
    | .div => some (a / b)
    | .pow => some (pow a b)
    | _ => none
  | .call (.name "sqrt") [e] [] => (ofExpr? names e).map sqrt
  | .call (.name "log") [e] [] => (ofExpr? names e).map ln
  | .call (.name "tan") [e] [] => (ofExpr? names e).map tan
  | .call (.name "atan") [e] [] => (ofExpr? names e).map atan
  | .call (.name "log") [e, base] [] => do
    let a ← ofExpr? names e
    let b ← ofExpr? names base
    some (ln a / ln b)
  | _ => none

end Inversion.Term

structure Sides where
  left : Inversion.Term
  right : Inversion.Term
deriving DecidableEq

namespace Sides

def Defined (sides : Sides) (a : String → ℝ) : Prop :=
  sides.left.Defined a ∧ sides.right.Defined a

def Hold (sides : Sides) (a : String → ℝ) : Prop :=
  sides.left.real a = sides.right.real a

end Sides

namespace Formula

/-- What a name in a relation stands for: a constant, a variable by its key, or pi. -/
def relationName? (f : Formula) (id : String) : Option Term :=
  if f.hasConstant id then some (.var id)
  else
    match f.vars.find? (·.key == id) with
    | some v => some (.var v.symbol)
    | none => if id == "pi" then some .pi else none

/-- The sides of a relation over the symbols of variables and constants. -/
def sides? (f : Formula) : Option Sides :=
  match f.relation with
  | .text text => do
    let (left, right) ← Relation.trees? text
    let lhs ← Term.ofExpr? f.relationName? left
    let rhs ← Term.ofExpr? f.relationName? right
    some ⟨lhs, rhs⟩
  | _ => none

/-- The sides of a relation, as they are read off its text. -/
structure Reading (f : Formula) extends Sides where
  read : f.sides? = some toSides

/-- What is known over the reals; constants take precedence and are exact. -/
noncomputable def exactValues (f : Formula) (known : String → Option ℝ)
    (symbol : String) : Option ℝ :=
  match f.constants.lookup symbol with
  | some x => (Binary64.toRat? x).map fun q => (q : ℝ)
  | none => known symbol

/-- An assignment with the constants of a formula put in. -/
noncomputable def withConstants (f : Formula) (a : String → ℝ) (symbol : String) : ℝ :=
  match f.constants.lookup symbol with
  | some x => ((Binary64.toRat? x).getD 0 : ℚ)
  | none => a symbol

/-- An assignment has the constants of a formula at their exact values. -/
def Fits (f : Formula) (a : String → ℝ) : Prop :=
  ∀ symbol x, f.constants.lookup symbol = some x →
    ∃ q, Binary64.toRat? x = some q ∧ a symbol = q

theorem Fits.eq {f : Formula} {a : String → ℝ} (fits : f.Fits a) {symbol : String}
    {q : ℚ} (h : f.constant? symbol = some q) : a symbol = q := by
  obtain ⟨x, hx, hq⟩ := Option.bind_eq_some_iff.mp h
  obtain ⟨p, hp, value⟩ := fits symbol x hx
  rw [value, Option.some.inj (hp.symm.trans hq)]

theorem Fits.pos {f : Formula} {a : String → ℝ} (fits : f.Fits a) {symbol : String}
    (h : (f.constant? symbol).any (0 < ·) = true) : 0 < a symbol := by
  obtain ⟨q, hq, positive⟩ := (Option.any_eq_true _ _).mp h
  rw [fits.eq hq]
  exact_mod_cast of_decide_eq_true positive

theorem Fits.neg {f : Formula} {a : String → ℝ} (fits : f.Fits a) {symbol : String}
    (h : (f.constant? symbol).any (· < 0) = true) : a symbol < 0 := by
  obtain ⟨q, hq, negative⟩ := (Option.any_eq_true _ _).mp h
  rw [fits.eq hq]
  exact_mod_cast of_decide_eq_true negative

end Formula

end Astrolabe
