import SloScript.Fault
import SloScript.Program
import SloScript.Table

/-!
# Values

Numbers, texts, truth values and null are what they are. Objects, functions and natives have an
identity: an object is only a reference to a place in a store, a function and a native carry the
number they were given when they were made. Two values are the *same* in the sense of the language's
own equality when both are equal plain values or carry one identity.
-/

namespace SloScript

/-- The place of an object in a store. -/
structure ObjectId where
  index : Nat
  deriving DecidableEq, Repr

/-- The place of a scope in a store. -/
structure ScopeId where
  index : Nat
  deriving DecidableEq, Repr

/-- A function together with the scope it was declared in. -/
structure Closure where
  /-- The number that tells this function from every other. -/
  id : Nat
  name : String
  params : List String
  body : List Stmt
  scope : ScopeId

/-- The functions that the language itself brings along. -/
inductive Builtin where
  | print
  | clock
  | square
  | cube
  | factorial
  | root
  | round
  | sine
  | cosine
  | tangent
  | random
  deriving DecidableEq, Repr

/-- What a native does: something built in, or one of the functions of the host. -/
inductive Behaviour where
  | builtin (b : Builtin)
  /-- Prints where nobody reads. -/
  | muted
  | hosted (slot : Nat)
  deriving DecidableEq, Repr

/-- A function that is not written in the language. -/
structure Native where
  /-- The number that tells this native from every other. -/
  id : Nat
  name : String
  /-- The exact number of arguments; without one, any number is accepted. -/
  arity : Option Nat
  behaviour : Behaviour
  deriving DecidableEq, Repr

/-- A value of the language. -/
inductive Value where
  | null
  | bool (b : Bool)
  | number (x : Float)
  | string (s : String)
  | object (id : ObjectId)
  | function (c : Closure)
  | native (n : Native)

instance : Inhabited Value := ⟨.null⟩

/-- The properties of every object, by its place. -/
abbrev Objects := Array (Table Value)

namespace Value

/-- The type of a value. -/
def type : Value → ValueType
  | null => .null
  | bool _ => .boolean
  | number _ => .number
  | string _ => .string
  | object _ => .object
  | function _ => .function
  | native _ => .native

/-- Equality as the language sees it: plain values by what they are, all others by identity, and
never across types. An undefined number differs from itself, and the two zeros are alike. -/
def same : Value → Value → Bool
  | null, null => true
  | bool a, bool b => a == b
  | number a, number b => a == b
  | string a, string b => a == b
  | object a, object b => a == b
  | function a, function b => a.id == b.id
  | native a, native b => a.id == b.id
  | _, _ => false

end Value

end SloScript
