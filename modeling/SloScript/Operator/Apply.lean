import SloScript.Number.Binary
import SloScript.Value

/-!
# What operators do

Equality compares any two values. The other comparisons order two numbers, two texts, two truth
values, or null with itself; with an undefined number every one of them is false. A sum adds numbers
and joins texts, the remaining arithmetic takes numbers only, and division and remainder refuse a
zero of either sign on the right.
-/

namespace SloScript

namespace Value

/-- The order of two numbers, of which an undefined one takes no part. -/
def orderNumbers (a b : Float) : Option Ordering :=
  if a < b then some .lt else if a == b then some .eq else if b < a then some .gt else none

/-- The order of two values of one ordered type: the inner option is empty when a number is
undefined, the outer one when the types have no order. -/
def order? : Value → Value → Option (Option Ordering)
  | number a, number b => some (orderNumbers a b)
  | bool a, bool b => some (some (compare a.toNat b.toNat))
  | string a, string b => some (some (if a < b then .lt else if a = b then .eq else .gt))
  | null, null => some (some .eq)
  | _, _ => none

end Value

namespace Operator

/-- Whether an ordering satisfies a comparison. -/
def holds : Operator → Ordering → Bool
  | lt, o => o == .lt
  | le, o => o != .gt
  | gt, o => o == .gt
  | ge, o => o != .lt
  | _, _ => false

/-- The result of arithmetic on two numbers. -/
def compute : Operator → Float → Float → Except EvalFault Float
  | add, a, b => .ok (a + b)
  | sub, a, b => .ok (a - b)
  | mul, a, b => .ok (a * b)
  | div, a, b => if b == 0 then .error .divisionByZero else .ok (a / b)
  | mod, a, b => if b == 0 then .error .moduloByZero else .ok (Binary.remainder a b)
  | op, _, _ => .error (.invalidOperands op .number .number)

/-- The result of an operator on two values. -/
def apply (op : Operator) (a b : Value) : Except EvalFault Value :=
  let refused := Except.error (.invalidOperands op a.type b.type)
  match op with
  | eq => .ok (.bool (a.same b))
  | ne => .ok (.bool (!a.same b))
  | lt | le | gt | ge =>
    match a.order? b with
    | some order => .ok (.bool (order.any op.holds))
    | none => refused
  | add =>
    match a, b with
    | .number x, .number y => (compute op x y).map .number
    | .string x, .string y => .ok (.string (x ++ y))
    | _, _ => refused
  | sub | mul | div | mod =>
    match a, b with
    | .number x, .number y => (compute op x y).map .number
    | _, _ => refused

end Operator

end SloScript
