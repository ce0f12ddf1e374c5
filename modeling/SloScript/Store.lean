import SloScript.Value.Display

/-!
# Stores

A store holds every scope and every object of a session. A scope binds names and has a parent, which
is older than itself; a name that a scope does not bind is looked for in its parent, so that it
stands for the nearest binding on the *chain* of scopes. A binding remembers whether it is constant.
What may be declared or assigned is decided apart from doing it.
-/

namespace SloScript

/-- What a name stands for in one scope. -/
structure Binding where
  value : Value
  constant : Bool

/-- A set of bindings inside another scope. -/
structure Scope where
  parent : Option ScopeId
  bindings : Table Binding

/-- Every scope and every object, and how many functions have been given an identity. -/
structure Store where
  scopes : Array Scope
  objects : Objects
  minted : Nat

namespace Store

/-- The store of nothing. -/
def empty : Store := ⟨#[], #[], 0⟩

instance : Inhabited Store := ⟨empty⟩

/-! ## Scopes -/

/-- A scope, then its parent, and so on outward. -/
def chain (s : Store) (id : ScopeId) : List ScopeId :=
  match s.scopes[id.index]? with
  | none => []
  | some scope =>
    id ::
      match scope.parent with
      | none => []
      | some parent => if parent.index < id.index then chain s parent else []
termination_by id.index

/-- What a name stands for in one scope, its ancestors left aside. -/
def binding? (s : Store) (id : ScopeId) (name : String) : Option Binding :=
  (s.scopes[id.index]?).bind fun scope => scope.bindings.get? name

/-- Whether a scope itself binds a name. -/
def binds (s : Store) (id : ScopeId) (name : String) : Bool := (s.binding? id name).isSome

/-- Whether a scope itself binds a name as a constant. -/
def isConstant (s : Store) (id : ScopeId) (name : String) : Bool :=
  (s.binding? id name).any Binding.constant

/-- The names that a scope itself binds, in increasing order. -/
def names (s : Store) (id : ScopeId) : List String :=
  match s.scopes[id.index]? with
  | none => []
  | some scope => scope.bindings.keys

/-- Whether a scope lies inside another one. -/
def hasParent (s : Store) (id : ScopeId) : Bool :=
  (s.scopes[id.index]?).any fun scope => scope.parent.isSome

/-- The nearest scope on the chain that binds a name. -/
def resolve (s : Store) (id : ScopeId) (name : String) : Option ScopeId :=
  (s.chain id).find? fun owner => s.binds owner name

/-- The value of a name. -/
def lookup (s : Store) (id : ScopeId) (name : String) : Except EvalFault Value :=
  match (s.resolve id name).bind fun owner => s.binding? owner name with
  | some b => .ok b.value
  | none => .error (.undefinedVariable name)

/-- The store in which one scope binds a name as given. -/
def bindIn (s : Store) (id : ScopeId) (name : String) (b : Binding) : Store :=
  { s with scopes := s.scopes.modify id.index fun scope =>
      { scope with bindings := scope.bindings.insert name b } }

/-- The scope that a declaration of a name binds it in: the given one, unless it binds the name
already. A binding further out does not matter. -/
def declaringScope (s : Store) (id : ScopeId) (name : String) : Except EvalFault ScopeId :=
  if s.binds id name then .error (.alreadyDeclared name) else .ok id

/-- The scope that an assignment to a name binds it anew in: the nearest one that binds it, unless
it is a constant there. -/
def assigningScope (s : Store) (id : ScopeId) (name : String) : Except EvalFault ScopeId :=
  match s.resolve id name with
  | none => .error (.undefinedVariable name)
  | some owner =>
    if s.isConstant owner name then .error (.constantAssignment name) else .ok owner

/-- Adds a scope with the given parent and bindings. -/
def addScope (s : Store) (parent : Option ScopeId) (bindings : Table Binding) : ScopeId × Store :=
  (⟨s.scopes.size⟩, { s with scopes := s.scopes.push ⟨parent, bindings⟩ })

/-- A scope as a text for inspection. -/
def inspectScope (s : Store) (id : ScopeId) : String :=
  "Environment \x7b names: " ++ Value.quotedList (s.names id) ++ ", has_parent: " ++
    (if s.hasParent id then "true" else "false") ++ " \x7d"

/-! ## Objects -/

/-- The properties of an object. -/
def properties (s : Store) (id : ObjectId) : Table Value := s.objects.getD id.index .empty

/-- The value of a property; one that an object does not have reads as null. -/
def property (s : Store) (id : ObjectId) (key : String) : Value :=
  ((s.properties id).get? key).getD .null

/-- The store in which an object has a property with the given value. -/
def setProperty (s : Store) (id : ObjectId) (key : String) (value : Value) : Store :=
  { s with objects := s.objects.modify id.index fun table => table.insert key value }

/-- Adds an object with the given properties. -/
def addObject (s : Store) (properties : Table Value) : ObjectId × Store :=
  (⟨s.objects.size⟩, { s with objects := s.objects.push properties })

/-! ## Functions -/

/-- Gives out as many identities of functions as asked for, and says the first one. -/
def mint (s : Store) (count : Nat) : Nat × Store :=
  (s.minted, { s with minted := s.minted + count })

end Store

end SloScript
