import SloScript.Host
import SloScript.Number.Binary

/-!
# Built-in functions

Printing, the clock, a little arithmetic and random whole numbers. Apart from printing they take
numbers and say which argument is not one; surplus arguments are ignored, since the number of
arguments is checked where a function is called.
-/

namespace SloScript

namespace Builtin

/-- The name under which a built-in function is known. -/
def name : Builtin → String
  | print => "izpisi"
  | clock => "cas"
  | square => "Kvadrat"
  | cube => "Kub"
  | factorial => "Faktorial"
  | root => "Koren"
  | round => "Zaokrozi"
  | sine => "Sin"
  | cosine => "Cos"
  | tangent => "Tan"
  | random => "NakljucnoStevilo"

/-- The number of arguments; printing takes any number. -/
def arity : Builtin → Option Nat
  | print => none
  | clock => some 0
  | random => some 2
  | _ => some 1

/-- Every built-in function once. -/
def all : List Builtin :=
  [print, clock, square, cube, factorial, root, round, sine, cosine, tangent, random]

/-- The built-in function with a given name. -/
def ofName? (s : String) : Option Builtin :=
  all.find? fun b => b.name == s

/-- The argument at a place, which must be a number. -/
def numberArg (b : Builtin) (args : List Value) (index : Nat) : Except EvalFault Float :=
  match args[index]? with
  | some (.number x) => .ok x
  | some other =>
    .error (.nativeArgument b.name
      ("argument " ++ toString (index + 1) ++ " must be a number, got " ++ other.type.name))
  | none => .error (.nativeArgument b.name ("missing argument " ++ toString (index + 1)))

/-- The largest whole number whose factorial is finite. -/
def maxFactorial : Nat := 170

/-- The product of the whole numbers from one to `n`, multiplied in that order. -/
def product (n : Nat) : Float :=
  (List.range (n - 1)).foldl (fun product (i : Nat) => product * Binary.ofInt (Int.ofNat (i + 2))) 1

/-- The factorial of the whole part of a number: one below two, infinite above the limit. -/
def factorialOf (x : Float) : Float :=
  match Binary.ofFloat x with
  | .nan => x
  | .infinite negative => if negative then 1 else x
  | .finite negative m e =>
    let n := Binary.wholePart m e
    if negative then 1 else if maxFactorial < n then 1 / 0 else product n

/-- The nearest integer that 64 bits with a sign can hold. -/
def saturate (n : Int) : Int := max (-9223372036854775808) (min n 9223372036854775807)

/-- The whole number between two bounds, both included, that a raw draw stands for. -/
def between (low high : Int) (raw : Nat) : Int :=
  low + (raw % (high - low + 1).toNat : Nat)

/-- Checks the bounds of a random number: the whole parts of two finite numbers, the first not
above the second. -/
def bounds (low high : Float) : Except EvalFault (Int × Int) :=
  let refused (message : String) := Except.error (.nativeArgument random.name message)
  match Binary.toInt? low, Binary.toInt? high with
  | some l, some h =>
    if h < l then
      refused ("min (" ++ Value.numberLayout.write (Binary.trunc low) ++
        ") is greater than max (" ++ Value.numberLayout.write (Binary.trunc high) ++ ")")
    else .ok (l, h)
  | _, _ => refused "bounds must be finite"

/-- The random number between two whole numbers that a raw draw stands for. Bounds beyond 64 bits
are cut off, and the result is rounded to the nearest number of the language. -/
def randomBetween (low high : Int) (raw : Nat) : Float :=
  Binary.ofInt (between (saturate low) (saturate high) raw)

/-- The result of a function of one number. -/
def ofNumber : Builtin → Float → Option Float
  | square, x => some (x * x)
  | cube, x => some (x * x * x)
  | factorial, x => some (factorialOf x)
  | root, x => some x.sqrt
  | round, x => some (Binary.round x)
  | sine, x => some x.sin
  | cosine, x => some x.cos
  | tangent, x => some x.tan
  | _, _ => none

/-- Runs a built-in function on evaluated arguments. -/
def run (host : Host) (b : Builtin) (args : List Value) (span : Span) : Action Value :=
  match b with
  | print => do
    let texts ← Action.read fun s => args.map fun v => v.display s.objects
    let i ← Action.request
    Action.settle span (host.writes i)
    Action.printLine (String.join texts)
    pure .null
  | clock => do
    let i ← Action.request
    pure (.string (host.clock i).text)
  | random => do
    let low ← Action.settle span (random.numberArg args 0)
    let high ← Action.settle span (random.numberArg args 1)
    let (l, h) ← Action.settle span (bounds low high)
    let i ← Action.request
    pure (.number (randomBetween l h (host.draw i)))
  | b => do
    let x ← Action.settle span (b.numberArg args 0)
    pure (.number ((b.ofNumber x).getD x))

end Builtin

end SloScript
