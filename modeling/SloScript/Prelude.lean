import SloScript.Evaluator

/-!
# The prelude

The names that every program starts with, all of them constants: the two truth values and null,
which have no literal of their own, the circle number, and the built-in functions. They either seed
a new scope or are added to an existing one; the latter is refused as a whole if one of the names is
taken.
-/

namespace SloScript

namespace Prelude

/-- The entry of a built-in function, waiting for its identity. -/
def native (b : Builtin) : String × (Nat → Value) :=
  (b.name, fun id => .native ⟨id, b.name, b.arity, .builtin b⟩)

/-- Every name in order, with its value once a number is given for its identity. -/
def entries : List (String × (Nat → Value)) :=
  [("true", fun _ => .bool true), ("false", fun _ => .bool false), ("null", fun _ => .null),
    native .print, native .clock, ("Pi", fun _ => .number 3.141592653589793), native .square,
    native .cube, native .factorial, native .root, native .round, native .sine, native .cosine,
    native .tangent, native .random]

/-- The names of the prelude in order. -/
def names : List String := entries.map Prod.fst

/-- The values of the prelude, given the first of as many fresh identities as it has names. -/
def values (first : Nat) : List (String × Value) :=
  entries.zipIdx.map fun ((name, make), i) => (name, make (first + i))

/-- Adds a scope without a parent that holds the prelude. -/
def seed (s : Store) : ScopeId × Store :=
  let (first, s) := s.mint entries.length
  s.addScope none (.ofList ((values first).map fun (name, value) => (name, ⟨value, true⟩)))

/-- A new scope that holds the prelude. -/
def createScope : Action ScopeId := do
  let scope ← Action.change seed
  Action.record .preludeCreated
  pure scope

/-- Mutes the print function of a prelude scope. A function that is declared there prints where
nobody reads, wherever it is called from. -/
def muffle (scope : ScopeId) : Action Unit :=
  Action.change fun s =>
    let (id, s) := s.mint 1
    let printer : Native := ⟨id, Builtin.print.name, Builtin.print.arity, .muted⟩
    ((), s.bindIn scope printer.name ⟨.native printer, true⟩)

/-- Declares names as constants, one after the other. -/
def declareAll (scope : ScopeId) : List (String × Value) → Action Unit
  | [] => pure ()
  | (name, value) :: rest => do
    let _ ← Action.declare scope name value true
    declareAll scope rest

/-- Adds the prelude to a scope. If the scope itself binds one of the names, the first such name is
reported and nothing is declared. -/
def install (scope : ScopeId) : Action Unit := do
  match ← Action.read fun s => names.find? fun name => s.binds scope name with
  | some name => Action.fail (.alreadyDeclared name) Span.nowhere
  | none =>
    let first ← Action.change fun s => s.mint entries.length
    declareAll scope (values first)
    Action.record .preludeInstalled

end Prelude

end SloScript
