import SloScript.Prelude
import SloScript.Program.Parser

/-!
# Sessions

A session keeps one state and one global scope. Source texts are run in it one after the other, and
what one declares the next one sees; an error ends the text it occurs in and nothing else. The host
may call functions by their names and add functions of its own.
-/

namespace SloScript

namespace State

/-- Notes an event. -/
def record (st : State) (e : Event) : State := { st with journal := e :: st.journal }

/-- Reads a source text and runs it in a scope. -/
def evalSource (host : Host) (scope : ScopeId) (source : String) (st : State) :
    Except Error Value × State :=
  match tokenize source with
  | .error e => (.error (.parse ⟨.lexical e.cause, e.span⟩), st)
  | .ok tokens =>
    let st := st.record (.tokensProduced tokens.length)
    match parseTokens tokens with
    | .error e => (.error (.parse e), st)
    | .ok program =>
      let st := st.record (.statementsParsed program.length)
      match Program.eval host scope program st with
      | (.ok v, st) => (.ok v, st)
      | (.error e, st) => (.error (.eval e), st)

/-- Runs a source text in a new prelude scope of its own, whose names nobody else sees. Values it
yields live in the same store. What it notes is dropped, and nobody reads what it prints; this
holds for its functions also when they are called later. -/
def evalApart (host : Host) (source : String) (st : State) : Except Error Value × State :=
  let secluded : Action ScopeId := do
    let scope ← Prelude.createScope
    Prelude.muffle scope
    pure scope
  match secluded st with
  | (.error e, st) => (.error (.eval e), st)
  | (.ok scope, inner) =>
    let (result, inner) := evalSource host scope source inner
    (result, { inner with journal := st.journal })

/-- Forgets what has been printed, and yields it. -/
def takeOutput (st : State) : String × State := (st.output, { st with output := "" })

/-- Forgets what has been noted, and yields it from the first note on. -/
def takeJournal (st : State) : List Event × State := (st.journal.reverse, { st with journal := [] })

end State

/-- A state with a global scope, and the host it runs in. -/
structure Session where
  host : Host
  state : State
  globals : ScopeId

namespace Session

/-- Makes a new prelude scope the global one. Values that are held elsewhere stay as they are. -/
def renewGlobals (s : Session) : Session :=
  match Prelude.createScope s.state with
  | (.ok scope, st) => { s with state := st, globals := scope }
  | (.error _, st) => { s with state := st }

/-- A session in which nothing but the prelude is declared. -/
def start (host : Host) : Session :=
  renewGlobals ⟨host, .initial, ⟨0⟩⟩

/-- Runs an action on the state of a session. -/
def perform {α : Type} (s : Session) (action : Action α) : Except Error α × Session :=
  match action s.state with
  | (.ok a, st) => (.ok a, { s with state := st })
  | (.error e, st) => (.error (.eval e), { s with state := st })

/-- Runs a source text in the global scope. -/
def eval (s : Session) (source : String) : Except Error Value × Session :=
  let (result, st) := s.state.evalSource s.host s.globals source
  (result, { s with state := st })

/-- Runs a source text that was read from a file, or reports why it could not be read. -/
def evalFile (s : Session) (path : String) (content : Except String String) :
    Except Error Value × Session :=
  let s := { s with state := s.state.record (.loading path) }
  match content with
  | .error reason => (.error (.unreadable path reason), s)
  | .ok source => s.eval source

/-- Calls a global function by its name. -/
def call (s : Session) (name : String) (args : List Value) : Except Error Value × Session :=
  s.perform do
    let callee ← Action.lookup s.globals name
    callValue s.host callee args s.globals Span.nowhere

/-- Declares a function of the host under a global name. -/
def provide (s : Session) (name : String) (arity : Option Nat) (constant : Bool)
    (f : HostFunction) : Except Error Value × Session :=
  let slot := s.host.callbacks.size
  let s := { s with host := { s.host with callbacks := s.host.callbacks.push f } }
  s.perform do
    let id ← Action.change fun store => store.mint 1
    Action.declare s.globals name (.native ⟨id, name, arity, .hosted slot⟩) constant

/-- Declares a function of the host that only looks under a global name. -/
def define (s : Session) (name : String) (arity : Option Nat) (constant : Bool)
    (callback : Callback) : Except Error Value × Session :=
  s.provide name arity constant callback.toFunction

/-- The names declared globally, in increasing order. -/
def names (s : Session) : List String := s.state.store.names s.globals

end Session

end SloScript
