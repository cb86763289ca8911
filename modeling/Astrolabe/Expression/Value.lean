import Astrolabe.Expression.Parser
import Astrolabe.Number.Elementary
import Astrolabe.Text.Lowercase

/-!
The value of an expression. Numbers, the constants pi and e, the arithmetic operators, and calls of
known functions have values; every other construct is refused by name. Operands are taken from left
to right, and the first refusal or fault ends the evaluation.
-/

namespace Astrolabe.Expression

open Number

/-- Why a text has no value. -/
inductive Error where
  | notAnExpression
  | unsupportedLiteral (c : Constant)
  | unsupportedOperator (op : BinaryOp)
  | unsupportedSign (op : UnaryOp)
  | unsupportedCall
  | unsupportedFunction (id : String)
  | namedArguments
  | unknownName (id : String)
  | unsupportedSyntax (kind : Form)
  | wholeNumberTooLarge
  | argumentCount
  | fault (f : Fault)

/-- The wording of an error; for a text that is no expression and for a wrong number of arguments it
is the name of the class of error. -/
def Error.message : Error → String
  | notAnExpression => "<SyntaxError>"
  | unsupportedLiteral c => "Unsupported literal: " ++ c.literal
  | unsupportedOperator op => "Unsupported operator: " ++ op.label
  | unsupportedSign op => "Unsupported unary operator: " ++ op.label
  | unsupportedCall => "Unsupported call."
  | unsupportedFunction id => "Unsupported function: " ++ id
  | namedArguments => "Keyword arguments are not allowed."
  | unknownName id => "Unknown name: " ++ id
  | unsupportedSyntax kind => "Unsupported syntax: " ++ kind.label
  | wholeNumberTooLarge => "int too large to convert to float"
  | argumentCount => "<TypeError>"
  | fault .domain => "math domain error"
  | fault .range => "math range error"
  | fault .zeroDivision => "float division by zero"

/-- A fault as an error. -/
def ofFault {α : Type} : Except Fault α → Except Error α
  | .ok x => .ok x
  | .error f => .error (.fault f)

/-- The functions that may be called. -/
inductive Function where
  | sin | cos | tan | asin | acos | atan | sqrt | exp | ln | log | pow
deriving DecidableEq, Repr

/-- A function by its name in lower case. -/
def Function.named? : String → Option Function
  | "sin" => some .sin
  | "cos" => some .cos
  | "tan" => some .tan
  | "asin" => some .asin
  | "acos" => some .acos
  | "atan" => some .atan
  | "sqrt" => some .sqrt
  | "exp" => some .exp
  | "ln" => some .ln
  | "log" => some .log
  | "pow" => some .pow
  | _ => none

/-- The value of a function. `log` is the logarithm to base 10; `ln` takes a base as its second
argument and is natural without one. -/
def Function.apply (f : Function) (arguments : List Float) : Except Error Float :=
  match f, arguments with
  | sin, [x] => ofFault (Elementary.sin x)
  | cos, [x] => ofFault (Elementary.cos x)
  | tan, [x] => ofFault (Elementary.tan x)
  | asin, [x] => ofFault (Elementary.asin x)
  | acos, [x] => ofFault (Elementary.acos x)
  | atan, [x] => ofFault (Elementary.atan x)
  | sqrt, [x] => ofFault (Elementary.sqrt x)
  | exp, [x] => ofFault (Elementary.exp x)
  | ln, [x] => ofFault (Elementary.ln x)
  | ln, [x, base] => ofFault (Elementary.logBase x base)
  | log, [x] => ofFault (Elementary.log10 x)
  | pow, [x, y] => ofFault (Elementary.pow x y)
  | _, _ => .error .argumentCount

/-- A constant by its name in lower case. -/
def constantNamed? : String → Option Float
  | "pi" | "π" => some Elementary.pi
  | "e" => some Elementary.euler
  | _ => none

/-- The value of an operator between two numbers. -/
def BinaryOp.apply (op : BinaryOp) (x y : Float) : Except Error Float :=
  match op with
  | add => .ok (x + y)
  | sub => .ok (x - y)
  | mul => .ok (x * y)
  | div => ofFault (Elementary.div x y)
  | pow => ofFault (Elementary.pow x y)
  | op => .error (.unsupportedOperator op)

/-- Whether an operator is arithmetic. -/
def BinaryOp.isArithmetic : BinaryOp → Bool
  | add | sub | mul | div | pow => true
  | _ => false

end Astrolabe.Expression

namespace Astrolabe

open Expression Number

mutual

/-- The value of an expression. -/
def Expr.value : Expr → Except Error Float
  | .whole n =>
    match Binary64.ofNat? n with
    | some x => .ok x
    | none => .error .wholeNumberTooLarge
  | .decimal d => .ok d.toFloat
  | .constant c => .error (.unsupportedLiteral c)
  | .name id =>
    match constantNamed? (Text.lower id) with
    | some x => .ok x
    | none => .error (.unknownName id)
  | .binary op left right =>
    if op.isArithmetic then do
      let x ← left.value
      let y ← right.value
      op.apply x y
    else .error (.unsupportedOperator op)
  | .unary .plus e => e.value
  | .unary .minus e => do
    let x ← e.value
    .ok (-x)
  | .unary op _ => .error (.unsupportedSign op)
  | .call (.name id) arguments named =>
    match Function.named? (Text.lower id) with
    | none => .error (.unsupportedFunction id)
    | some f =>
      if named.isEmpty then do
        let xs ← Expr.values arguments
        f.apply xs
      else .error .namedArguments
  | .call _ _ _ => .error .unsupportedCall
  | .form kind _ => .error (.unsupportedSyntax kind)

/-- The values of expressions, from left to right. -/
def Expr.values : List Expr → Except Error (List Float)
  | [] => .ok []
  | e :: rest => do
    let x ← e.value
    let xs ← Expr.values rest
    .ok (x :: xs)

end

/-- A caret as the power operator. -/
def Expression.expandCarets (s : List Char) : List Char :=
  s.flatMap fun c => if c == '^' then ['*', '*'] else [c]

/-- The tree of a text, blanks around it dropped; a caret is a power. -/
def Expression.tree? (text : String) : Option Expr :=
  Expr.ofText? (String.ofList (expandCarets (Text.strip text).toList))

/-- The value of a text. -/
def Expression.evaluate (text : String) : Except Error Float :=
  match tree? text with
  | some e => e.value
  | none => .error .notAnExpression

end Astrolabe
