import SloScript.Text.Blank

/-!
# The journal

What a run does is noted down as it happens: tokens produced, names declared, functions called.
Each note has a level, and the command line shows those up to the level asked for, one line a note
with its level and the part of the program that made it.
-/

namespace SloScript

/-- How much is reported; `off` reports nothing. -/
inductive Level where
  | off
  | error
  | warn
  | info
  | debug
  | trace
  deriving DecidableEq, Repr

namespace Level

/-- Every level once, from the quietest on. -/
def all : List Level := [off, error, warn, info, debug, trace]

/-- The place of a level among all. -/
def rank : Level → Nat
  | off => 0
  | error => 1
  | warn => 2
  | info => 3
  | debug => 4
  | trace => 5

/-- The name of a level in capitals. -/
def name : Level → String
  | off => "OFF"
  | error => "ERROR"
  | warn => "WARN"
  | info => "INFO"
  | debug => "DEBUG"
  | trace => "TRACE"

/-- The level with a given name, in capitals or not. -/
def ofName? (s : String) : Option Level :=
  all.find? fun level => Text.foldAscii level.name == Text.foldAscii s

end Level

/-- Something worth a note. -/
inductive Event where
  | tokensProduced (count : Nat)
  | statementsParsed (count : Nat)
  | evaluating (count : Nat)
  | declared (name : String) (constant : Bool)
  | assigned (name : String)
  | propertySet (key : String)
  /-- A function is entered; `depth` functions are active then, this one included. -/
  | called (name : String) (depth : Nat)
  | nativeCalled (name : String)
  | preludeCreated
  | preludeInstalled
  | loading (path : String)
  | lineFailed (message : String)
  | running (path : String)
  | finished (value : String)
  | inputPiped
  | terminalUnsupported
  | historyDamaged (line : String)
  | historyUnsaved (reason : String)
  deriving DecidableEq, Repr

namespace Event

/-- The level of a note. -/
def level : Event → Level
  | declared _ _ | assigned _ | propertySet _ | called _ _ | nativeCalled _ => .trace
  | running _ => .info
  | historyDamaged _ | historyUnsaved _ => .warn
  | _ => .debug

/-- The part of the program that makes a note. -/
def target : Event → String
  | tokensProduced _ => "slopp::lexer"
  | statementsParsed _ => "slopp::parser"
  | evaluating _ | propertySet _ | called _ _ | nativeCalled _ => "slopp::interpreter"
  | declared _ _ | assigned _ => "slopp::env"
  | preludeCreated | preludeInstalled => "slopp::stdlib"
  | loading _ => "slopp::runtime"
  | lineFailed _ => "slopp::repl"
  | running _ | finished _ | historyUnsaved _ => "slopp::cli"
  | inputPiped | terminalUnsupported | historyDamaged _ => "rustyline"

/-- The wording of a note. -/
def message : Event → String
  | tokensProduced count => "produced " ++ toString count ++ " tokens"
  | statementsParsed count => "parsed " ++ toString count ++ " top-level statements"
  | evaluating count => "evaluating " ++ toString count ++ " statements"
  | declared name constant =>
    "declare " ++ name ++ " (constant: " ++ (if constant then "true" else "false") ++ ")"
  | assigned name => "assign " ++ name
  | propertySet key => "set property " ++ key
  | called name depth => "call " ++ name ++ " (depth " ++ toString depth ++ ")"
  | nativeCalled name => "call native " ++ name
  | preludeCreated => "prelude scope created"
  | preludeInstalled => "prelude installed"
  | loading path => "loading " ++ path
  | lineFailed message => "line failed: " ++ message
  | running path => "running " ++ path
  | finished value => "program finished with " ++ value
  | inputPiped => "stdin is not a tty"
  | terminalUnsupported => "unsupported terminal"
  | historyDamaged line => "bad escaped line: " ++ line
  | historyUnsaved reason => "could not save history: " ++ reason

/-- Whether a note is shown when `threshold` is asked for. -/
def shownAt (threshold : Level) (e : Event) : Bool := e.level.rank ≤ threshold.rank

/-- The line that shows a note. -/
def line (e : Event) : String :=
  "[" ++ e.level.name ++ " " ++ e.target ++ "] " ++ e.message ++ "\n"

end Event

end SloScript
