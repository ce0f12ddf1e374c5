import SloScript.Console.Dialogue
import SloScript.Console.FileTree
import SloScript.Text.Lines

/-!
# Whole runs of the command line

The report on the words after the program's name, given the files, the variables of the environment
and everything that will be read from the user.
-/

namespace SloScript

/-- What a run of the command line depends on. -/
structure Surroundings where
  files : FileTree
  /-- The values of the variables of the environment. -/
  lookup : String → Option String
  /-- Everything that can be read from the user. -/
  stdin : String
  /-- Whether that is typed at a terminal. -/
  fromTerminal : Bool
  /-- Whether what is written goes to a terminal. -/
  toTerminal : Bool
  host : Host

namespace Surroundings

/-- Why a history cannot be saved, if so. One to which nothing was added is not saved. -/
def historyFault? (w : Surroundings) (path : String) (h : History) : Option FileFault :=
  if h.changed then (w.files.save path h.text.toUTF8).1 else none

/-- Holds a whole dialogue. -/
def converse (w : Surroundings) (c : Console) (s : Settings) (noHistory : Bool) : Report :=
  let path := s.historyPath? noHistory
  let (first, dialogue) := Dialogue.start c (path.bind fun path => (w.files.read path).toOption)
  let (rest, history) := dialogue.converse (Dialogue.linesOf w.stdin)
  let fault := path.bind fun path => w.historyFault? path history
  let all := first ++ rest
  ⟨all.stdout, all.stderr ++ Dialogue.historyNote c (fault.map FileFault.message), 0⟩

/-- The report on a run. -/
def run (w : Surroundings) (words : List String) : Report :=
  match Request.ofWords words with
  | .error fault => .ofUsage fault
  | .ok (.version verb) => .ofVersion verb
  | .ok (.perform verbosity command) =>
    let settings := Settings.ofLookup w.lookup
    let c := Console.ofSettings settings w.host verbosity w.fromTerminal w.toTerminal
    match command with
    | .repl noHistory => w.converse c settings noHistory
    | .onFile task path =>
      c.perform task path ((w.files.read path).mapError FileFault.message)

end Surroundings

end SloScript
