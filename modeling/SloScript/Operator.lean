/-!
# Binary operators

The operators of the language, their spelling, and the name each has in a program dump.
-/

namespace SloScript

/-- A binary operator: five of arithmetic, six of comparison. -/
inductive Operator where
  | add
  | sub
  | mul
  | div
  | mod
  | eq
  | ne
  | lt
  | le
  | gt
  | ge
  deriving DecidableEq, Repr

namespace Operator

/-- Every operator once. -/
def all : List Operator := [add, sub, mul, div, mod, eq, ne, lt, le, gt, ge]

theorem mem_all (op : Operator) : op ∈ all := by
  cases op <;> decide

/-- How an operator is written. -/
def symbol : Operator → String
  | add => "+"
  | sub => "-"
  | mul => "*"
  | div => "/"
  | mod => "%"
  | eq => "=="
  | ne => "!="
  | lt => "<"
  | le => "<="
  | gt => ">"
  | ge => ">="

/-- The name of an operator in a program dump. -/
def name : Operator → String
  | add => "Add"
  | sub => "Sub"
  | mul => "Mul"
  | div => "Div"
  | mod => "Mod"
  | eq => "Eq"
  | ne => "Ne"
  | lt => "Lt"
  | le => "Le"
  | gt => "Gt"
  | ge => "Ge"

/-- The operator with a given spelling. -/
def ofSymbol? (s : String) : Option Operator :=
  all.find? fun op => op.symbol == s

theorem ofSymbol?_symbol (op : Operator) : ofSymbol? op.symbol = some op := by
  cases op <;> decide

/-- Whether an operator binds as tightly as multiplication. -/
def isMultiplicative : Operator → Bool
  | mul | div | mod => true
  | _ => false

/-- Whether an operator is a sum or a difference. -/
def isSum : Operator → Bool
  | add | sub => true
  | _ => false

end Operator

end SloScript
