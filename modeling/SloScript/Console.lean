import SloScript.Console.Request
import SloScript.Diagnostic
import SloScript.Program.Dump
import SloScript.Session
import SloScript.Settings

/-!
# The command line

What each command writes to its two streams and the code it ends with. Notes of the journal come
first on the second stream, then the diagnostic of a failure and a line that names the command's
part in it. A file is read before a command starts, so that a command is a function of its content.
-/

namespace SloScript

/-- What a command writes, and the code it ends with. -/
structure Report where
  stdout : String
  stderr : String
  code : Nat
  deriving DecidableEq, Repr

namespace Report

/-- The report of a command that failed to understand its words. -/
def ofUsage (fault : UsageFault) : Report := ⟨"", fault.message, 2⟩

/-- The report that tells the version. -/
def ofVersion (verb : Option Verb) : Report := ⟨Request.versionLine verb, "", 0⟩

end Report

/-- How commands run and write. -/
structure Console where
  host : Host
  /-- The level up to which the journal is shown. -/
  level : Level
  /-- Whether texts are painted. -/
  colour : Bool
  /-- How the lines of a dialogue are read. -/
  lineInput : LineInput
  /-- Whether diagnostics of a program that is run are documents in any case. -/
  jsonDiagnostics : Bool

namespace Console

/-- The console that settings ask for, given whether its input comes from a terminal and whether
its output goes to one. -/
def ofSettings (s : Settings) (host : Host) (verbosity : Nat) (fromTerminal toTerminal : Bool) :
    Console where
  host := { host with limit := s.callLimit }
  level := s.level verbosity
  colour := s.colour toTerminal
  lineInput := s.lineInput fromTerminal
  jsonDiagnostics := s.jsonDiagnostics

/-- The shown notes of a journal, given from the first note on. -/
def journal (c : Console) (events : List Event) : String :=
  String.join ((events.filter (Event.shownAt c.level)).map Event.line)

/-- A diagnostic as a document or as text. -/
def diagnostic (c : Console) (json : Bool) (d : Diagnostic) : String :=
  if json then d.toJson.pretty ++ "\n" else d.painted c.colour

/-- The report of a failed command. -/
def failure (c : Console) (json : Bool) (stdout : String) (events : List Event) (d : Diagnostic)
    (reason : String) : Report :=
  ⟨stdout, c.journal events ++ c.diagnostic json d ++ "Error: " ++ reason ++ "\n", 1⟩

/-- The report of a command that succeeded. -/
def success (c : Console) (stdout : String) (events : List Event) : Report :=
  ⟨stdout, c.journal events, 0⟩

/-- The diagnostic of an error in a file. -/
def fileDiagnostic (path source : String) (e : Error) : Diagnostic :=
  { Diagnostic.ofError e source with file := path }

/-- The report on a file that could not be read. -/
def unreadable (c : Console) (json : Bool) (path reason : String) : Report :=
  c.failure json "" [] (fileDiagnostic path "" (.unreadable path reason))
    ("Failed to read source file: " ++ path)

/-- Runs a source text. Its value is not printed. -/
def runSource (c : Console) (json : Bool) (path source : String) : Report :=
  let (result, session) := (Session.start c.host).eval source
  let events := .running path :: session.state.journal.reverse
  match result with
  | .ok value =>
    c.success session.state.output
      (events ++ [.finished (value.display session.state.store.objects)])
  | .error e =>
    c.failure json session.state.output events (fileDiagnostic path source e)
      "Failed to execute program"

/-- The tokens of a source text, one a line or as a document. -/
def tokenListing (json : Bool) (tokens : List Token) : String :=
  if json then (Json.array (tokens.map Token.toJson)).pretty ++ "\n"
  else String.join (tokens.map Token.listing)

/-- Lists the tokens of a source text. -/
def listTokens (c : Console) (json : Bool) (path source : String) : Report :=
  match tokenize source with
  | .ok tokens => c.success (tokenListing json tokens) [.tokensProduced tokens.length]
  | .error e => c.failure json "" [] (fileDiagnostic path source (.lex e)) "Lexer errors"

/-- Dumps the tree of a source text. -/
def dumpProgram (c : Console) (json : Bool) (path source : String) : Report :=
  match tokenize source with
  | .error e =>
    c.failure json "" [] (fileDiagnostic path source (.parse ⟨.lexical e.cause, e.span⟩))
      "Parse errors"
  | .ok tokens =>
    let tokensNote := Event.tokensProduced tokens.length
    match parseTokens tokens with
    | .error e =>
      c.failure json "" [tokensNote] (fileDiagnostic path source (.parse e)) "Parse errors"
    | .ok program =>
      c.success (Program.dump program ++ "\n") [tokensNote, .statementsParsed program.length]

/-- Whether a task reports a failure as a document. -/
def reportsJson (c : Console) : Task → Bool
  | .run json => json || c.jsonDiagnostics
  | .tokens json => json
  | .ast => true

/-- Performs a task on the content of a file, or reports why there is none. -/
def perform (c : Console) (task : Task) (path : String) (content : Except String String) : Report :=
  let json := c.reportsJson task
  match content with
  | .error reason => c.unreadable json path reason
  | .ok source =>
    match task with
    | .run _ => c.runSource json path source
    | .tokens _ => c.listTokens json path source
    | .ast => c.dumpProgram json path source

end Console

end SloScript
