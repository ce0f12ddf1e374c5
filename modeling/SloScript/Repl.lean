import SloScript.Diagnostic
import SloScript.Session
import SloScript.Text.Blank

/-!
# The interactive dialogue

Lines are run one after the other in one session. A failing line is answered with a diagnostic and
changes nothing that was declared before; what it did before it failed stays. An empty line or the
word `koncaj` ends the dialogue. The names a user declared can be listed, and forgotten.
-/

namespace SloScript

/-- A dialogue is a session. -/
structure Repl where
  session : Session

namespace Repl

/-- The line shown when a dialogue starts. -/
def banner : String := "SLO++ v0.1.0"

/-- What is shown before each line. -/
def prompt : String := ">>> "

/-- The word that ends a dialogue. -/
def exitWord : String := "koncaj"

/-- Whether a line ends the dialogue. -/
def isExit (line : String) : Bool :=
  let word := Text.trim line
  word.isEmpty || word == exitWord

/-- The name under which lines are reported. -/
def file : String := "<repl>"

/-- A new dialogue. It has the prelude and no functions of the host, and its globals are made anew
once its output is known. -/
def start (host : Host) : Repl := ⟨(Session.start { host with callbacks := #[] }).renewGlobals⟩

/-- What a line is answered with. -/
abbrev Answer := Except Diagnostic Value

/-- Runs a line. -/
def evalLine (r : Repl) (line : String) : Answer × Repl :=
  match r.session.eval line with
  | (.ok v, session) => (.ok v, ⟨session⟩)
  | (.error e, session) =>
    (.error { Diagnostic.ofError e line with file := file },
      ⟨{ session with state := session.state.record (.lineFailed e.message) }⟩)

/-- Forgets everything the user declared. What has been printed and noted stays. -/
def reset (r : Repl) : Repl :=
  let old := r.session.state
  let fresh := (start r.session.host).session
  ⟨{ fresh with state :=
      { fresh.state with
        output := old.output, journal := fresh.state.journal ++ old.journal,
        requests := old.requests } }⟩

/-- A name the user declared, with the text of its value. -/
structure Variable where
  name : String
  constant : Bool
  value : String
  deriving DecidableEq, Repr

/-- The names the user declared, in increasing order. -/
def declared (r : Repl) : List Variable :=
  let store := r.session.state.store
  let globals := r.session.globals
  (store.names globals).filterMap fun name =>
    if Prelude.names.contains name then none
    else
      (store.binding? globals name).map fun b => ⟨name, b.constant, b.value.display store.objects⟩

end Repl

end SloScript
