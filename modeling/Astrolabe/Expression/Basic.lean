import Astrolabe.Number.Numeral
import Astrolabe.Number.Shortest
import Astrolabe.Text.Quoted

/-!
Expression trees. The notation of entries is part of a larger notation that also has texts,
comparisons, functions and collections. Trees have all of it, so that an expression outside the
arithmetic part can be named for what it is; only arithmetic has a value.
-/

namespace Astrolabe

namespace Expression

/-- Literals other than whole and decimal numbers. -/
inductive Constant where
  | truth (b : Bool)
  | nothing
  | ellipsis
  | imaginary (d : Number.Decimal)
  | text (s : String)
  | bytes (values : List Nat)

/-- A literal as it is named in a message. -/
def Constant.literal : Constant → String
  | truth true => "True"
  | truth false => "False"
  | nothing => "None"
  | ellipsis => "Ellipsis"
  | imaginary d => Number.shortestWith "" d.toFloat ++ "j"
  | text s => Text.quoted s
  | bytes values => Text.quotedBytes values

/-- Operators between two operands. The first five are arithmetic. -/
inductive BinaryOp where
  | add | sub | mul | div | pow
  | floorDiv | mod | matMul | shiftLeft | shiftRight | bitAnd | bitOr
deriving DecidableEq, Repr

/-- The name of an operator in a message. -/
def BinaryOp.label : BinaryOp → String
  | add => "Add"
  | sub => "Sub"
  | mul => "Mult"
  | div => "Div"
  | pow => "Pow"
  | floorDiv => "FloorDiv"
  | mod => "Mod"
  | matMul => "MatMult"
  | shiftLeft => "LShift"
  | shiftRight => "RShift"
  | bitAnd => "BitAnd"
  | bitOr => "BitOr"

/-- Operators before one operand. The first two are arithmetic. -/
inductive UnaryOp where
  | plus | minus
  | invert | not
deriving DecidableEq, Repr

/-- The name of an operator in a message. -/
def UnaryOp.label : UnaryOp → String
  | plus => "UAdd"
  | minus => "USub"
  | invert => "Invert"
  | not => "Not"

/-- Constructs that are no arithmetic. -/
inductive Form where
  | tuple | list | set | dict
  | listComprehension | setComprehension | dictComprehension | generator
  | lambda | comparison | boolean | conditional
  | member | subscript | slice | starred
  | assignment | yield | yieldFrom | await | template
deriving DecidableEq, Repr

/-- The name of a construct in a message. -/
def Form.label : Form → String
  | tuple => "Tuple"
  | list => "List"
  | set => "Set"
  | dict => "Dict"
  | listComprehension => "ListComp"
  | setComprehension => "SetComp"
  | dictComprehension => "DictComp"
  | generator => "GeneratorExp"
  | lambda => "Lambda"
  | comparison => "Compare"
  | boolean => "BoolOp"
  | conditional => "IfExp"
  | member => "Attribute"
  | subscript => "Subscript"
  | slice => "Slice"
  | starred => "Starred"
  | assignment => "NamedExpr"
  | yield => "Yield"
  | yieldFrom => "YieldFrom"
  | await => "Await"
  | template => "JoinedStr"

end Expression

open Expression in
/-- Expressions. A call has its function, its positional arguments and its named ones; the name is
absent where a whole map is spread into the arguments. -/
inductive Expr where
  | whole (n : Nat)
  | decimal (d : Number.Decimal)
  | constant (c : Constant)
  | name (id : String)
  | binary (op : BinaryOp) (left right : Expr)
  | unary (op : UnaryOp) (operand : Expr)
  | call (function : Expr) (arguments : List Expr) (named : List (Option String × Expr))
  | form (kind : Form) (parts : List Expr)
deriving Inhabited

end Astrolabe
