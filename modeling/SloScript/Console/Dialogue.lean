import SloScript.Console
import SloScript.Console.History
import SloScript.Repl
import SloScript.Text.Erasure

/-!
# The dialogue on the command line

Lines are read until one ends the dialogue or there are no more. A line is a command of the dialogue
itself, or it is run and answered with its value or a diagnostic. The lines that were run are added
to a history, which is read at the start and saved at the end, unless the user does not want one.
-/

namespace SloScript

/-- What a line asks for. -/
inductive Instruction where
  | leave
  | help
  | reset
  | list
  | eval (line : String)
  deriving DecidableEq, Repr

namespace Instruction

/-- What a line asks for; blanks around a command of the dialogue do not count. -/
def ofLine (line : String) : Instruction :=
  if Repl.isExit line then leave
  else
    let word := Text.trim line
    if word = ":help" || word = ":h" then help
    else if word = ":reset" then reset
    else if word = ":vars" || word = ":v" then list
    else eval line

end Instruction

/-- A dialogue under way. -/
structure Dialogue where
  console : Console
  repl : Repl
  history : History

namespace Dialogue

/-- What is written when a dialogue is left. -/
def farewell : String := "Nasvidenje\n"

/-- The help on the dialogue. -/
def helpText : String :=
  "SLO++ REPL Commands:\n" ++
  "  koncaj            Exit the REPL (an empty line also exits)\n" ++
  "  :reset            Clear all variables and functions\n" ++
  "  :vars, :v         List defined variables\n" ++
  "  :help, :h         Show this help message\n" ++
  "\n" ++
  "Examples:\n" ++
  "  >>> rezerviraj x = 42;\n" ++
  "  >>> funkcija podvoji(n) \x7b n * 2 \x7d\n" ++
  "  >>> izpisi(podvoji(x))\n"

/-- Something written by the dialogue: texts for the two streams. -/
structure Reply where
  stdout : String
  stderr : String
  deriving DecidableEq, Repr

instance : Append Reply where
  append r s := ⟨r.stdout ++ s.stdout, r.stderr ++ s.stderr⟩

/-- The dialogue with its output and journal handed over, texts added behind them. -/
def reply (d : Dialogue) (stdout stderr : String) : Reply × Dialogue :=
  let (output, state) := d.repl.session.state.takeOutput
  let (events, state) := state.takeJournal
  (⟨output ++ stdout, d.console.journal events ++ stderr⟩,
    { d with repl := ⟨{ d.repl.session with state := state }⟩ })

/-- A new dialogue, which goes on with the history in a text if there is one. -/
def start (c : Console) (historyText : Option String) : Reply × Dialogue :=
  let (history, damaged) := History.ofText (historyText.getD "")
  reply ⟨c, .start c.host, history⟩ (Repl.banner ++ "\n")
    (c.journal (damaged.map Event.historyDamaged))

/-- What is written before a line is read. A terminal gets a prompt, and the journal a note if a
line cannot be edited. -/
def await (d : Dialogue) : Reply :=
  match d.console.lineInput with
  | .terminal => ⟨Repl.prompt, ""⟩
  | .plainTerminal => ⟨Repl.prompt, d.console.journal [.terminalUnsupported]⟩
  | .pipe => ⟨"", d.console.journal [.inputPiped]⟩

/-- The lines that a user means by what was typed. -/
def linesOf (typed : String) : List String := (Text.lines typed).map Text.erased

/-- A declared name with its value. -/
def variableLine (colour : Bool) (v : Repl.Variable) : String :=
  let keyword := if v.constant then "konstanta" else "rezerviraj"
  Text.Style.faint.paint colour keyword ++ " " ++ Text.Style.strong.paint colour v.name ++ " = " ++
    v.value ++ "\n"

/-- The declared names with their values. -/
def variableListing (d : Dialogue) : String :=
  match d.repl.declared with
  | [] => "No variables defined\n"
  | declared => String.join (declared.map (variableLine d.console.colour))

/-- Runs a line and answers it. -/
def evalLine (d : Dialogue) (line : String) : Reply × Dialogue :=
  let (answer, repl) := d.repl.evalLine line
  let d : Dialogue := { d with repl := repl, history := d.history.add line }
  match answer with
  | .ok value => d.reply (value.display repl.session.state.store.objects ++ "\n") ""
  | .error diagnostic => d.reply "" (diagnostic.painted d.console.colour)

/-- Answers a line; without a dialogue to go on with, it is over. -/
def answer (d : Dialogue) (line : String) : Reply × Option Dialogue :=
  let goOn := fun (r : Reply × Dialogue) => (r.1, some r.2)
  match Instruction.ofLine line with
  | .leave => (⟨farewell, ""⟩, none)
  | .help => goOn (d.reply helpText "")
  | .reset => goOn ({ d with repl := d.repl.reset }.reply "REPL state reset\n" "")
  | .list => goOn (d.reply d.variableListing "")
  | .eval line => goOn (d.evalLine line)

/-- Reads and answers lines until one ends the dialogue or there are no more, and yields the history
with the lines that have been run. -/
def converse (d : Dialogue) : List String → Reply × History
  | [] => (d.await ++ ⟨farewell, ""⟩, d.history)
  | line :: rest =>
    match d.answer line with
    | (r, none) => (d.await ++ r, d.history)
    | (r, some next) =>
      let (later, history) := converse next rest
      (d.await ++ r ++ later, history)

/-- The note on a history that could not be saved. -/
def historyNote (c : Console) (fault : Option String) : String :=
  match fault with
  | none => ""
  | some reason => c.journal [.historyUnsaved reason]

end Dialogue

end SloScript
