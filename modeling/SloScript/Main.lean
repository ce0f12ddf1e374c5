import SloScript.Console.Dialogue
import SloScript.Console.FileTree
import Std.Time.Zoned

/-!
# The program

Takes words, files, variables, lines and the clock from the system, hands them to the console and
writes what it is given back. Nothing is decided here.
-/

namespace SloScript

/-- The fault that an answer of the system stands for. Codes come with either sign. -/
def FileFault.ofSystem : IO.Error → FileFault
  | .noFileOrDirectory _ _ _ => .absent
  | .inappropriateType _ code _ => if code = 20 || code = 0 - 20 then .throughFile else .directory
  | .invalidArgument _ code details =>
    if code = 36 || code = 0 - 36 then .nameTooLong else .refused details
  | e => .refused e.toString

/-- The text of a file. -/
def readSource (path : String) : IO (Except FileFault String) := do
  try
    return decodeText (← IO.FS.readBinFile path)
  catch e => return .error (.ofSystem e)

/-- The moment that the clock shows. -/
def currentMoment : IO Moment := do
  let now ← Std.Time.PlainDateTime.now
  return ⟨now.hour.toInt.toNat, now.minute.toInt.toNat, now.second.toInt.toNat,
    now.day.toInt.toNat, now.month.toInt.toNat, now.year.toInt.toNat⟩

/-- A host that answers with the present moment and with numbers drawn from a fresh seed. -/
def systemHost : IO Host := do
  let moment ← currentMoment
  let seed := (← IO.getRandomBytes 8).foldl (fun n b => 256 * n + b.toUInt64) 0
  return {
    limit := Host.defaultLimit
    clock := fun _ => moment
    draw := fun i => (mixHash seed (UInt64.ofNat i)).toNat
    callbacks := #[] }

/-- The settings of the environment. -/
def readSettings : IO Settings := do
  let found ← Settings.keys.filterMapM fun name => do
    return (← IO.getEnv name).map fun value => (name, value)
  return Settings.ofLookup (Table.ofList found).get?

/-- Writes a report and yields its code. -/
def emit (r : Report) : IO UInt32 := do
  IO.print r.stdout
  IO.eprint r.stderr
  return UInt32.ofNat r.code

/-- Writes a reply. -/
def emitReply (r : Dialogue.Reply) : IO Unit := do
  IO.print r.stdout
  (← IO.getStdout).flush
  IO.eprint r.stderr

/-- Reads and answers lines until the dialogue is over, and yields the history with the lines that
were run. -/
partial def converseWith (input : IO.FS.Stream) (d : Dialogue) : IO History := do
  emitReply d.await
  let line ← input.getLine
  if line.isEmpty then
    IO.print Dialogue.farewell
    return d.history
  let (r, next) := d.answer ((Dialogue.linesOf line).headD "")
  emitReply r
  match next with
  | none => return d.history
  | some d => converseWith input d

/-- Makes the folder that a file lies in, if that is possible. -/
def makeParent (path : String) : IO Unit := do
  let folder := String.intercalate "/" (FileTree.parentParts path)
  try
    unless folder.isEmpty do
      IO.FS.createDirAll (if path.startsWith "/" then "/" ++ folder else folder)
  catch _ => return

/-- Saves a text, and says why that is not possible. -/
def saveText (path text : String) : IO (Option FileFault) := do
  makeParent path
  try
    IO.FS.writeFile path text
    return none
  catch e => return some (.ofSystem e)

/-- Holds a dialogue with the user. -/
def holdDialogue (c : Console) (s : Settings) (noHistory : Bool) : IO UInt32 := do
  let path := s.historyPath? noHistory
  let historyText ← path.bindM fun path => return (← readSource path).toOption
  let (first, d) := Dialogue.start c historyText
  emitReply first
  let history ← converseWith (← IO.getStdin) d
  if let some path := path then
    if history.changed then
      let fault ← saveText path history.text
      IO.eprint (Dialogue.historyNote c (fault.map FileFault.message))
  return 0

/-- Does what the words after the program's name ask for. -/
def serve (words : List String) : IO UInt32 := do
  match Request.ofWords words with
  | .error fault => emit (.ofUsage fault)
  | .ok (.version verb) => emit (.ofVersion verb)
  | .ok (.perform verbosity command) =>
    let settings ← readSettings
    let c := Console.ofSettings settings (← systemHost) verbosity (← (← IO.getStdin).isTty)
      (← (← IO.getStdout).isTty)
    match command with
    | .repl noHistory => holdDialogue c settings noHistory
    | .onFile task path =>
      emit (c.perform task path ((← readSource path).mapError FileFault.message))

end SloScript

/-- The program. -/
def main (words : List String) : IO UInt32 := SloScript.serve words
