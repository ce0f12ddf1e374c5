import SloScript.Journal
import SloScript.Store

/-!
# Actions

Running a program is a chain of actions on a *state*: the store, the text printed so far, the
journal, how often the host has been asked for something, and what the host's functions keep for
themselves. An action yields a value or stops with an error, and in either case leaves a
state behind: what was done before an error stays done.
-/

namespace SloScript

/-- Everything that a run changes. -/
structure State where
  store : Store
  /-- What has been printed. -/
  output : String
  /-- What has been noted, latest first. -/
  journal : List Event
  /-- How many requests to the host have been answered: for time, randomness, or to write a line. -/
  requests : Nat
  /-- What the functions of the host remember from one call to the next. Programs cannot see it. -/
  memory : List Value

namespace State

/-- The state in which nothing has happened. -/
def initial : State := ⟨.empty, "", [], 0, []⟩

instance : Inhabited State := ⟨initial⟩

end State

/-- Something done to a state that yields a value or stops with an error. -/
def Action (α : Type) := State → Except EvalError α × State

namespace Action

variable {α β : Type}

instance : Monad Action where
  pure a := fun st => (.ok a, st)
  bind m f := fun st =>
    match m st with
    | (.ok a, st) => f a st
    | (.error e, st) => (.error e, st)

theorem pure_run (a : α) (st : State) : (pure a : Action α) st = (.ok a, st) := rfl

theorem bind_run (m : Action α) (f : α → Action β) (st : State) :
    (m >>= f) st =
      match m st with
      | (.ok a, st) => f a st
      | (.error e, st) => (.error e, st) := rfl

/-- Stops with an error. -/
def fail (fault : EvalFault) (span : Span) : Action α := fun st => (.error ⟨fault, span⟩, st)

/-- Yields a result, or stops with its fault at the given place. -/
def settle (span : Span) : Except EvalFault α → Action α
  | .ok a => pure a
  | .error fault => fail fault span

/-- Gives a place to an error that an action stops with, if it has none. -/
def locate (m : Action α) (span : Span) : Action α := fun st =>
  match m st with
  | (.ok a, st) => (.ok a, st)
  | (.error e, st) => (.error (e.orAt span), st)

/-- Something read off the store. -/
def read (f : Store → α) : Action α := fun st => (.ok (f st.store), st)

/-- Notes an event. -/
def record (e : Event) : Action Unit := fun st => (.ok (), { st with journal := e :: st.journal })

/-- A change of the store that also yields something. -/
def change (f : Store → α × Store) : Action α := fun st =>
  match st with
  | ⟨store, output, journal, requests, memory⟩ =>
    let (a, store) := f store
    (.ok a, ⟨store, output, journal, requests, memory⟩)

/-- Binds a name in the scope that the store decides on, and notes the event. A refusal changes
nothing and has no place yet. -/
def bindIn (place : Store → Except EvalFault ScopeId) (name : String) (b : Binding) (e : Event) :
    Action Value := fun st =>
  match place st.store with
  | .error fault => (.error ⟨fault, Span.nowhere⟩, st)
  | .ok owner =>
    match st with
    | ⟨store, output, journal, requests, memory⟩ =>
      (.ok b.value, ⟨store.bindIn owner name b, output, e :: journal, requests, memory⟩)

/-- The value of a name. -/
def lookup (scope : ScopeId) (name : String) : Action Value := fun st =>
  match st.store.lookup scope name with
  | .ok v => (.ok v, st)
  | .error fault => (.error ⟨fault, Span.nowhere⟩, st)

/-- Binds a name in a scope and yields its value. -/
def declare (scope : ScopeId) (name : String) (value : Value) (constant : Bool) : Action Value :=
  bindIn (fun s => s.declaringScope scope name) name ⟨value, constant⟩ (.declared name constant)

/-- Gives a name a new value and yields it. -/
def assign (scope : ScopeId) (name : String) (value : Value) : Action Value :=
  bindIn (fun s => s.assigningScope scope name) name ⟨value, false⟩ (.assigned name)

/-- An empty scope inside the given one. -/
def newScope (parent : ScopeId) : Action ScopeId :=
  change fun s => s.addScope (some parent) .empty

/-- A new object with the given properties. -/
def newObject (properties : Table Value) : Action Value :=
  change fun s =>
    let (id, s) := s.addObject properties
    (.object id, s)

/-- Sets a property and yields its value. -/
def setProperty (id : ObjectId) (key : String) (value : Value) : Action Value := do
  record (.propertySet key)
  change fun s => (value, s.setProperty id key value)

/-- Prints a line that can be written. What is printed is kept in the state. -/
def printLine (line : String) : Action Unit := fun st =>
  match st with
  | ⟨store, output, journal, requests, memory⟩ =>
    (.ok (), ⟨store, output ++ line ++ "\n", journal, requests, memory⟩)

/-- The number of the next request to the host. -/
def request : Action Nat := fun st =>
  (.ok st.requests, { st with requests := st.requests + 1 })

end Action

end SloScript
