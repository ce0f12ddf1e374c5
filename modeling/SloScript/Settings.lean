import SloScript.Host
import SloScript.Journal
import SloScript.Number.Power
import SloScript.Text.Blank

/-!
# Settings

What the environment asks for: the form of diagnostics, colours, the history of the dialogue, how
much of the journal is shown, and the limit on nested calls. A setting that cannot be understood is
taken as not given.
-/

namespace SloScript

/-- How the lines of a dialogue are read. -/
inductive LineInput where
  | terminal
  /-- A terminal on which a line cannot be edited. -/
  | plainTerminal
  | pipe
  deriving DecidableEq, Repr

/-- The wishes found in the environment. -/
structure Settings where
  /-- Diagnostics of a program that is run are documents. -/
  jsonDiagnostics : Bool
  /-- Nothing is painted. -/
  noColour : Bool
  /-- Everything is painted, also away from a terminal. -/
  forceColour : Bool
  /-- A terminal is painted. -/
  terminalColour : Bool
  /-- Where the history of the dialogue is kept. -/
  historyFile : Option String
  noHistory : Bool
  /-- The folder of the user. -/
  home : Option String
  /-- The name of the level up to which the journal is shown. -/
  logLevel : Option String
  /-- The name of the terminal. -/
  terminal : Option String
  /-- How many functions may be active at once. -/
  callLimit : Nat
  deriving DecidableEq, Repr

namespace Settings

/-- The variables that are looked at. -/
def keys : List String :=
  ["SLOPP_DIAGNOSTICS", "SLOPP_NO_COLOR", "NO_COLOR", "CLICOLOR_FORCE", "CLICOLOR",
    "SLOPP_HISTORY_FILE", "SLOPP_NO_HISTORY", "HOME", "SLOPP_LOG", "TERM",
    "SLOPP_MAX_CALL_DEPTH"]

/-- The whole number written with decimal digits. -/
def digits? (cs : List Char) : Option Nat :=
  if cs.isEmpty || !cs.all Char.isDigit then none
  else some (cs.foldl (fun n c => 10 * n + (c.toNat - '0'.toNat)) 0)

/-- A positive number of 64 bits, with blanks around it and one plus sign before it allowed. -/
def readLimit? (s : String) : Option Nat :=
  let written :=
    match Text.trimChars s.toList with
    | '+' :: cs => cs
    | cs => cs
  (digits? written).filter fun n => 0 < n && n < twoTo 64

/-- The settings of an environment, given the values of its variables. -/
def ofLookup (lookup : String → Option String) : Settings where
  jsonDiagnostics := (lookup "SLOPP_DIAGNOSTICS").any fun s => Text.foldAscii s == "json"
  noColour := (lookup "SLOPP_NO_COLOR").isSome || (lookup "NO_COLOR").isSome
  forceColour := (lookup "CLICOLOR_FORCE").any (· != "0")
  terminalColour := (lookup "CLICOLOR").all (· != "0")
  historyFile := lookup "SLOPP_HISTORY_FILE"
  noHistory := (lookup "SLOPP_NO_HISTORY").isSome
  home := (lookup "HOME").filter fun s => !s.isEmpty
  logLevel := lookup "SLOPP_LOG"
  terminal := lookup "TERM"
  callLimit := ((lookup "SLOPP_MAX_CALL_DEPTH").bind readLimit?).getD Host.defaultLimit

/-- The level up to which the journal is shown. Asking for it when the program is called counts more
than the environment; without any wish it is the level of warnings. -/
def level (s : Settings) (verbosity : Nat) : Level :=
  match verbosity with
  | 0 => (s.logLevel.bind Level.ofName?).getD .warn
  | 1 => .info
  | 2 => .debug
  | _ => .trace

/-- Whether texts are painted. -/
def colour (s : Settings) (toTerminal : Bool) : Bool :=
  !s.noColour && (s.forceColour || (s.terminalColour && toTerminal))

/-- The terminals on which a line cannot be edited. -/
def plainTerminals : List String := ["dumb", "cons25", "emacs"]

/-- How the lines of a dialogue are read. The name of a plain terminal counts also when the input
does not come from a terminal. -/
def lineInput (s : Settings) (fromTerminal : Bool) : LineInput :=
  if s.terminal.any fun name => plainTerminals.contains (Text.foldAscii name) then .plainTerminal
  else if fromTerminal then .terminal
  else .pipe

/-- The path of something inside a folder. -/
def inFolder (folder name : String) : String :=
  if folder.endsWith "/" then folder ++ name else folder ++ "/" ++ name

/-- The file in which the history of the dialogue is kept, if there is one. Not keeping any may be
asked for when the program is called, too. -/
def historyPath? (s : Settings) (noHistory : Bool) : Option String :=
  if noHistory || s.noHistory then none
  else
    match s.historyFile with
    | some path => some path
    | none => s.home.map fun home => inFolder home ".slopp/history"

end Settings

end SloScript
