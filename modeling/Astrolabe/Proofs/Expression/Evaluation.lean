import Astrolabe.Expression.Value
import Astrolabe.Proofs.Except

/-!
Which expressions have values. `Arithmetic` lists the constructs that may have one, `HasValue` has a
rule for the value of each of them, and `Fails` tells where an operation has no result though its
operands have values. An expression has the value that the rules give it and no other; an arithmetic
one without a value has a part that fails.
-/

namespace Astrolabe

namespace Expression

open Number

/-- The names of constants, in lower case. -/
def constantNames : List String := ["pi", "π", "e"]

/-- The names of functions, in lower case. -/
def functionNames : List String :=
  ["sin", "cos", "tan", "asin", "acos", "atan", "sqrt", "exp", "ln", "log", "pow"]

theorem constantNamed?_isSome_iff {s : String} :
    (constantNamed? s).isSome = true ↔ s ∈ constantNames := by
  unfold constantNamed?
  split <;> simp_all [constantNames]

theorem Function.named?_isSome_iff {s : String} :
    (Function.named? s).isSome = true ↔ s ∈ functionNames := by
  unfold Function.named?
  split <;> simp_all [functionNames]

/-- Whether a function takes a number of arguments. -/
def Function.takes : Function → Nat → Bool
  | ln, count => count == 1 || count == 2
  | pow, count => count == 2
  | _, count => count == 1

theorem ofFault_eq_error_iff {x : Except Fault Float} {e : Error} :
    ofFault x = .error e ↔ ∃ fault, x = .error fault ∧ e = .fault fault := by
  cases x <;> simp [ofFault, eq_comm]

theorem ofFault_eq_ok_iff {x : Except Fault Float} {z : Float} :
    ofFault x = .ok z ↔ x = .ok z := by
  cases x <;> simp [ofFault]

theorem Function.apply_of_not_takes {f : Function} {xs : List Float}
    (refused : f.takes xs.length = false) : f.apply xs = .error .argumentCount := by
  rcases xs with _ | ⟨x, _ | ⟨y, _ | ⟨z, xs⟩⟩⟩ <;> cases f <;> first | rfl | cases refused

/-- The number that an arithmetic operator gives. -/
inductive BinaryOp.Gives (x y : Float) : BinaryOp → Float → Prop
  | add : Gives x y .add (x + y)
  | sub : Gives x y .sub (x - y)
  | mul : Gives x y .mul (x * y)
  | div (nonzero : (y == 0) = false) : Gives x y .div (x / y)
  | pow {z : Float} (h : Elementary.pow x y = .ok z) : Gives x y .pow z

/-- Where an arithmetic operator gives no number. -/
inductive BinaryOp.Faults (x y : Float) : BinaryOp → Fault → Prop
  | div (zero : (y == 0) = true) : Faults x y .div .zeroDivision
  | pow {fault : Fault} (h : Elementary.pow x y = .error fault) : Faults x y .pow fault

theorem BinaryOp.isArithmetic_iff {op : BinaryOp} :
    op.isArithmetic = true ↔ op ∈ [.add, .sub, .mul, .div, .pow] := by
  cases op <;> decide

theorem BinaryOp.Gives.isArithmetic {op : BinaryOp} {x y z : Float} (h : op.Gives x y z) :
    op.isArithmetic = true := by
  cases h <;> rfl

theorem BinaryOp.apply_eq_ok_iff {op : BinaryOp} {x y z : Float} :
    op.apply x y = .ok z ↔ op.Gives x y z := by
  constructor
  · intro ok
    cases op <;>
      simp only [apply, Except.ok.injEq, ofFault_eq_ok_iff, reduceCtorEq, Elementary.div] at ok
    case add => exact ok ▸ .add
    case sub => exact ok ▸ .sub
    case mul => exact ok ▸ .mul
    case div =>
      split at ok
      · cases ok
      · rename_i nonzero
        exact Except.ok.inj ok ▸ .div (by simpa using nonzero)
    case pow => exact .pow ok
  · intro h
    cases h with
    | add | sub | mul => rfl
    | div nonzero => simp [apply, Elementary.div, nonzero, ofFault]
    | pow h => simp [apply, h, ofFault]

theorem BinaryOp.Faults.isArithmetic {op : BinaryOp} {x y : Float} {fault : Fault}
    (h : op.Faults x y fault) : op.isArithmetic = true := by
  cases h <;> rfl

theorem BinaryOp.apply_eq_error_iff {op : BinaryOp} {x y : Float} {e : Error}
    (arithmetic : op.isArithmetic = true) :
    op.apply x y = .error e ↔ ∃ fault, op.Faults x y fault ∧ e = .fault fault := by
  constructor
  · intro error
    cases op <;>
      simp only [apply, ofFault_eq_error_iff, reduceCtorEq, Elementary.div] at error
    case div =>
      obtain ⟨fault, error, rfl⟩ := error
      split at error
      · cases error
        exact ⟨_, .div ‹_›, rfl⟩
      · cases error
    case pow =>
      obtain ⟨fault, error, rfl⟩ := error
      exact ⟨fault, .pow error, rfl⟩
    all_goals simp [isArithmetic] at arithmetic
  · rintro ⟨fault, h, rfl⟩
    cases h with
    | div zero => simp [apply, Elementary.div, zero, ofFault]
    | pow h => simp [apply, h, ofFault]

end Expression

namespace Expr

open Expression Number

/-- Numbers, constants, arithmetic operators and signs, and calls of known functions by their bare
names and without named arguments. -/
inductive Arithmetic : Expr → Prop
  | whole (n : Nat) : Arithmetic (.whole n)
  | decimal (d : Decimal) : Arithmetic (.decimal d)
  | name {id : String} (known : Text.lower id ∈ constantNames) : Arithmetic (.name id)
  | binary {op : BinaryOp} {left right : Expr} (arithmetic : op ∈ [.add, .sub, .mul, .div, .pow])
      (hl : Arithmetic left) (hr : Arithmetic right) : Arithmetic (.binary op left right)
  | unary {op : UnaryOp} {operand : Expr} (sign : op ∈ [.plus, .minus])
      (h : Arithmetic operand) : Arithmetic (.unary op operand)
  | call {id : String} {arguments : List Expr} (known : Text.lower id ∈ functionNames)
      (h : ∀ e ∈ arguments, Arithmetic e) : Arithmetic (.call (.name id) arguments [])

/-- The value of an expression, from the values of its parts. -/
inductive HasValue : Expr → Float → Prop
  | whole {n : Nat} {x : Float} (h : Binary64.ofNat? n = some x) : HasValue (.whole n) x
  | decimal (d : Decimal) : HasValue (.decimal d) d.toFloat
  | name {id : String} {x : Float} (h : constantNamed? (Text.lower id) = some x) :
      HasValue (.name id) x
  | binary {op : BinaryOp} {left right : Expr} {x y z : Float} (hl : HasValue left x)
      (hr : HasValue right y) (h : op.Gives x y z) : HasValue (.binary op left right) z
  | plus {operand : Expr} {x : Float} (h : HasValue operand x) : HasValue (.unary .plus operand) x
  | minus {operand : Expr} {x : Float} (h : HasValue operand x) :
      HasValue (.unary .minus operand) (-x)
  | call {id : String} {f : Function} {arguments : List Expr} {xs : List Float} {z : Float}
      (known : Function.named? (Text.lower id) = some f)
      (h : List.Forall₂ HasValue arguments xs) (result : f.apply xs = .ok z) :
      HasValue (.call (.name id) arguments []) z

/-- An expression that has no value, although its parts have values: a number, a division, a power
or a call. -/
inductive Fails : Expr → Error → Prop
  | whole {n : Nat} (large : Binary64.ofNat? n = none) : Fails (.whole n) .wholeNumberTooLarge
  | binary {op : BinaryOp} {left right : Expr} {x y : Float} {fault : Fault}
      (hl : HasValue left x) (hr : HasValue right y) (h : op.Faults x y fault) :
      Fails (.binary op left right) (.fault fault)
  | call {id : String} {f : Function} {arguments : List Expr} {xs : List Float} {fault : Fault}
      (known : Function.named? (Text.lower id) = some f)
      (h : List.Forall₂ HasValue arguments xs) (result : f.apply xs = .error (.fault fault)) :
      Fails (.call (.name id) arguments []) (.fault fault)
  | count {id : String} {f : Function} {arguments : List Expr} {xs : List Float}
      (known : Function.named? (Text.lower id) = some f)
      (h : List.Forall₂ HasValue arguments xs) (refused : f.takes arguments.length = false) :
      Fails (.call (.name id) arguments []) .argumentCount

/-- The parts of an expression that are evaluated for it, and the expression itself. -/
inductive PartOf (part : Expr) : Expr → Prop
  | self : PartOf part part
  | left {op : BinaryOp} {left right : Expr} (h : PartOf part left) :
      PartOf part (.binary op left right)
  | right {op : BinaryOp} {left right : Expr} (h : PartOf part right) :
      PartOf part (.binary op left right)
  | operand {op : UnaryOp} {operand : Expr} (h : PartOf part operand) :
      PartOf part (.unary op operand)
  | argument {function argument : Expr} {arguments : List Expr}
      {named : List (Option String × Expr)} (mem : argument ∈ arguments)
      (h : PartOf part argument) : PartOf part (.call function arguments named)

/-- Induction over the parts that are evaluated. -/
@[elab_as_elim]
theorem evaluated_induction {P : Expr → Prop} (e : Expr) (whole : ∀ n, P (.whole n))
    (decimal : ∀ d, P (.decimal d)) (constant : ∀ c, P (.constant c)) (name : ∀ id, P (.name id))
    (binary : ∀ op left right, P left → P right → P (.binary op left right))
    (unary : ∀ op operand, P operand → P (.unary op operand))
    (call : ∀ function arguments named, (∀ e ∈ arguments, P e) →
      P (.call function arguments named))
    (form : ∀ kind parts, P (.form kind parts)) : P e :=
  @Expr.rec P (fun es => ∀ e ∈ es, P e) (fun _ => True) (fun _ => True) whole decimal constant
    name binary unary (fun function arguments named _ h _ => call function arguments named h)
    (fun kind parts _ => form kind parts) (List.forall_mem_nil P)
    (fun _ _ first rest => List.forall_mem_cons.mpr ⟨first, rest⟩) trivial
    (fun _ _ _ _ => trivial) (fun _ _ _ => trivial) e

theorem values_eq (es : List Expr) : Expr.values es = es.mapM Expr.value := by
  induction es with
  | nil => rfl
  | cons e rest ih =>
      rw [Expr.values, ih, List.mapM_cons]
      rfl

theorem values_eq_ok_iff {es : List Expr} {xs : List Float}
    (h : ∀ e ∈ es, ∀ x, e.value = .ok x ↔ e.HasValue x) :
    Expr.values es = .ok xs ↔ List.Forall₂ HasValue es xs := by
  rw [values_eq, Except.mapM_eq_ok_iff]
  constructor
  · intro all
    exact ((List.forall₂_and_left _ _).mpr ⟨h, all⟩).imp fun e x ⟨same, ok⟩ => (same x).mp ok
  · intro all
    exact ((List.forall₂_and_left _ _).mpr ⟨h, all⟩).imp fun e x ⟨same, ok⟩ => (same x).mpr ok

/-- A call has a value where it is one of a known function, without named arguments. -/
theorem value_call_eq_ok_iff {function : Expr} {arguments : List Expr}
    {named : List (Option String × Expr)} {x : Float} :
    (call function arguments named).value = .ok x ↔
      ∃ id f xs, function = .name id ∧ named = [] ∧ Function.named? (Text.lower id) = some f ∧
        Expr.values arguments = .ok xs ∧ f.apply xs = .ok x := by
  cases function <;> simp only [Expr.value, reduceCtorEq, false_and, exists_false]
  case name id =>
    constructor
    · intro ok
      split at ok
      · cases ok
      · rename_i f known
        split at ok
        · obtain ⟨xs, values, result⟩ := Except.bind_eq_ok_iff.mp ok
          exact ⟨id, f, xs, rfl, List.isEmpty_iff.mp ‹_›, known, values, result⟩
        · cases ok
    · rintro ⟨_, f, xs, ⟨⟩, rfl, known, values, result⟩
      simp [known, values, result, bind, Except.bind]

/-- An expression has the value that the rules give it, and no other. -/
theorem value_eq_ok_iff {e : Expr} {x : Float} : e.value = .ok x ↔ e.HasValue x := by
  induction e using evaluated_induction generalizing x with
  | whole n =>
      rw [Expr.value]
      constructor
      · intro ok
        split at ok
        · exact .whole (by simp_all)
        · cases ok
      · rintro ⟨⟩
        simp [*]
  | decimal d =>
      rw [Expr.value, Except.ok.injEq]
      exact ⟨fun same => same ▸ .decimal d, fun | .decimal _ => rfl⟩
  | constant c =>
      rw [Expr.value]
      exact ⟨nofun, nofun⟩
  | name id =>
      rw [Expr.value]
      constructor
      · intro ok
        split at ok
        · exact .name (by simp_all)
        · cases ok
      · rintro ⟨⟩
        simp [*]
  | binary op left right hl hr =>
      rw [Expr.value]
      constructor
      · intro ok
        split at ok
        · obtain ⟨y, okl, ok⟩ := Except.bind_eq_ok_iff.mp ok
          obtain ⟨z, okr, ok⟩ := Except.bind_eq_ok_iff.mp ok
          exact .binary (hl.mp okl) (hr.mp okr) (BinaryOp.apply_eq_ok_iff.mp ok)
        · cases ok
      · rintro (_ | _ | _ | @⟨_, _, _, y, z, _, hy, hz, h⟩)
        rw [if_pos h.isArithmetic, hl.mpr hy, hr.mpr hz]
        exact BinaryOp.apply_eq_ok_iff.mpr h
  | unary op operand ih =>
      cases op <;> simp only [Expr.value, reduceCtorEq, false_iff]
      case plus => exact ih.trans ⟨.plus, fun | .plus h => h⟩
      case minus =>
        rw [Except.bind_eq_ok_iff]
        constructor
        · rintro ⟨y, ok, same⟩
          exact Except.ok.inj same ▸ .minus (ih.mp ok)
        · rintro (_ | _ | _ | _ | _ | ⟨h⟩)
          exact ⟨_, ih.mpr h, rfl⟩
      case invert => exact nofun
      case not => exact nofun
  | call function arguments named ih =>
      have values {xs : List Float} :
          Expr.values arguments = .ok xs ↔ List.Forall₂ HasValue arguments xs :=
        values_eq_ok_iff fun e mem x => ih e mem
      rw [value_call_eq_ok_iff]
      constructor
      · rintro ⟨id, f, xs, rfl, rfl, known, ok, result⟩
        exact .call known (values.mp ok) result
      · rintro (_ | _ | _ | _ | _ | _ | ⟨known, h, result⟩)
        exact ⟨_, _, _, rfl, rfl, known, values.mpr h, result⟩
  | form kind parts =>
      rw [Expr.value]
      exact ⟨nofun, nofun⟩

theorem hasValue_of_mem {es : List Expr} {xs : List Float} (h : List.Forall₂ HasValue es xs)
    {e : Expr} (mem : e ∈ es) : ∃ x, e.HasValue x := by
  induction h with
  | nil => cases mem
  | cons here _ ih =>
      obtain rfl | later := List.mem_cons.mp mem
      · exact ⟨_, here⟩
      · exact ih later

theorem HasValue.arithmetic {e : Expr} {x : Float} (h : e.HasValue x) : e.Arithmetic := by
  induction e using evaluated_induction generalizing x with
  | whole n => exact .whole n
  | decimal d => exact .decimal d
  | constant c => cases h
  | name id =>
      obtain _ | _ | ⟨known⟩ := h
      exact .name (constantNamed?_isSome_iff.mp (Option.isSome_of_eq_some known))
  | binary op left right hl hr =>
      obtain _ | _ | _ | ⟨vl, vr, result⟩ := h
      exact .binary (BinaryOp.isArithmetic_iff.mp result.isArithmetic) (hl vl) (hr vr)
  | unary op operand ih =>
      cases h with
      | plus h => exact .unary (by simp) (ih h)
      | minus h => exact .unary (by simp) (ih h)
  | call function arguments named ih =>
      obtain _ | _ | _ | _ | _ | _ | ⟨known, values, _⟩ := h
      refine .call (Function.named?_isSome_iff.mp (Option.isSome_of_eq_some known)) fun e mem => ?_
      obtain ⟨y, value⟩ := hasValue_of_mem values mem
      exact ih e mem value
  | form kind parts => cases h

/-- An expression has a value only where all its parts have values. -/
theorem HasValue.part {e part : Expr} {x : Float} (h : e.HasValue x) (inside : PartOf part e) :
    ∃ y, part.HasValue y := by
  induction inside generalizing x with
  | self => exact ⟨x, h⟩
  | left _ ih =>
      obtain _ | _ | _ | ⟨vl, _, _⟩ := h
      exact ih vl
  | right _ ih =>
      obtain _ | _ | _ | ⟨_, vr, _⟩ := h
      exact ih vr
  | operand _ ih =>
      cases h with
      | plus h => exact ih h
      | minus h => exact ih h
  | argument mem _ ih =>
      obtain _ | _ | _ | _ | _ | _ | ⟨_, values, _⟩ := h
      obtain ⟨y, value⟩ := hasValue_of_mem values mem
      exact ih value

theorem Fails.value {e : Expr} {error : Error} (h : e.Fails error) : e.value = .error error := by
  cases h with
  | whole large => simp [Expr.value, large]
  | binary hl hr fault =>
      have arithmetic := fault.isArithmetic
      rw [Expr.value, if_pos arithmetic, value_eq_ok_iff.mpr hl, value_eq_ok_iff.mpr hr]
      exact (BinaryOp.apply_eq_error_iff arithmetic).mpr ⟨_, fault, rfl⟩
  | call known values result =>
      have ok := (values_eq_ok_iff fun e mem x => value_eq_ok_iff).mpr values
      simp [Expr.value, known, ok, result, bind, Except.bind]
  | count known values refused =>
      have ok := (values_eq_ok_iff fun e mem x => value_eq_ok_iff).mpr values
      have error := Function.apply_of_not_takes (values.length_eq ▸ refused)
      simp [Expr.value, known, ok, error, bind, Except.bind]

end Expr

end Astrolabe
