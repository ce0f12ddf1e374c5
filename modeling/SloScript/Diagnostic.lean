import SloScript.Fault
import SloScript.Json
import SloScript.Text.Lines
import SloScript.Text.Style

/-!
# Diagnostics

An error as it is reported: a stable code, the message, the place with the line of source it stands
in, and for some errors a hint. A diagnostic is shown as text, with the offending stretch underlined
and perhaps in colour, or as a JSON document. A place that is nowhere shows no source, and a line
that the source does not have shows its number only.
-/

namespace SloScript

namespace Error

/-- The code of a lexical fault. -/
def lexCode : LexFault → String
  | .unexpectedCharacter _ => "SL1001"
  | .unterminatedString => "SL1002"

/-- The code of a fault in the order of tokens. -/
def parseCode : ParseFault → String
  | .lexical fault => lexCode fault
  | .unexpectedToken _ _ => "SL2001"
  | .expectedExpression _ _ => "SL2002"
  | .invalidParameter => "SL2003"
  | .invalidMemberAccess _ => "SL2004"
  | .constWithoutInitializer _ => "SL2005"
  | .invalidNumber _ => "SL2006"
  | .duplicateParameter _ => "SL2007"

/-- The code of a fault met while running. -/
def evalCode : EvalFault → String
  | .undefinedVariable _ => "SL0001"
  | .alreadyDeclared _ => "SL0002"
  | .constantAssignment _ => "SL0003"
  | .invalidAssignmentTarget => "SL0004"
  | .divisionByZero => "SL0005"
  | .moduloByZero => "SL0006"
  | .invalidOperands _ _ _ => "SL0007"
  | .notCallable _ => "SL0008"
  | .arityMismatch _ _ _ => "SL0009"
  | .notAnObject _ _ => "SL0010"
  | .invalidKey _ => "SL0011"
  | .stackOverflow _ => "SL0012"
  | .nativeArgument _ _ => "SL0013"
  | .outputFailed _ => "SL0014"

/-- The code of an error. -/
def code : Error → String
  | lex e => lexCode e.cause
  | parse e => parseCode e.cause
  | eval e => evalCode e.cause
  | unreadable _ _ => "SL9001"

/-- The hint for a lexical fault. -/
def lexHelp? : LexFault → Option String
  | .unterminatedString => some "close the string with a matching '\"'"
  | .unexpectedCharacter _ => none

/-- The hint for a fault in the order of tokens. -/
def parseHelp? : ParseFault → Option String
  | .lexical fault => lexHelp? fault
  | .constWithoutInitializer _ => some "give the constant a value: konstanta ime = vrednost;"
  | .invalidParameter =>
    some "parameters are names only, e.g. funkcija f(a, b) \x7b ... \x7d"
  | _ => none

/-- The hint for a fault met while running. -/
def evalHelp? : EvalFault → Option String
  | .undefinedVariable _ => some "declare it first with 'rezerviraj'"
  | .alreadyDeclared _ => some "assign without 'rezerviraj' to change an existing variable"
  | .constantAssignment _ =>
    some "declare it with 'rezerviraj' instead of 'konstanta' to allow reassignment"
  | .stackOverflow _ => some "check that recursive functions have a reachable base case"
  | _ => none

/-- The hint for an error. -/
def help? : Error → Option String
  | lex e => lexHelp? e.cause
  | parse e => parseHelp? e.cause
  | eval e => evalHelp? e.cause
  | unreadable _ _ => none

end Error

/-- An error ready to be shown. -/
structure Diagnostic where
  code : String
  message : String
  /-- The name of the source. -/
  file : String
  /-- The line of the place, zero if there is none. -/
  line : Nat
  column : Nat
  /-- How many characters of the snippet are underlined. -/
  length : Nat
  /-- The line of source that the place stands in. -/
  snippet : String
  help : Option String
  deriving DecidableEq, Repr

namespace Diagnostic

/-- The version of the document's shape. -/
def version : Nat := 1

/-- A diagnostic without a place. -/
def unplaced (code message : String) : Diagnostic :=
  ⟨code, message, "<input>", 0, 0, 0, "", none⟩

/-- The diagnostic of an error in a source. The underlined stretch is cut at the end of its line but
is never empty. -/
def ofError (e : Error) (source : String) : Diagnostic :=
  let span := e.span
  let base := { unplaced e.code e.message with help := e.help? }
  if span.isNowhere then base
  else
    let placed := { base with line := span.line, column := span.column }
    match (Text.lines source)[span.line - 1]? with
    | none => placed
    | some line =>
      let remaining := line.length - (span.column - 1)
      { placed with snippet := line, length := max 1 (min span.length (max remaining 1)) }

/-- The place in the source's name. -/
def location (d : Diagnostic) : String :=
  if d.line = 0 then d.file
  else d.file ++ ":" ++ toString d.line ++ ":" ++ toString d.column

/-- The snippet with its line number in the margin and the underlined stretch below it. -/
def excerpt (d : Diagnostic) : String :=
  if d.snippet.isEmpty then ""
  else
    let margin := Text.copies (toString d.line).length ' '
    let underline :=
      if d.length = 0 then ""
      else margin ++ " | " ++ Text.copies (d.column - 1) ' ' ++ Text.copies d.length '^' ++ "\n"
    margin ++ " |\n" ++ toString d.line ++ " | " ++ d.snippet ++ "\n" ++ underline

/-- A diagnostic as text. -/
def human (d : Diagnostic) : String :=
  "error[" ++ d.code ++ "]: " ++ d.message ++ "\n" ++ "  --> " ++ d.location ++ "\n" ++ d.excerpt ++
    match d.help with
    | none => ""
    | some help => "  = help: " ++ help ++ "\n"

/-- The first line of a diagnostic: up to its first colon it is an alarm, after that its message is
strong. -/
def paintedHeader (colour : Bool) (header : String) : String :=
  match header.splitOn ": " with
  | code :: part :: parts =>
    Text.Style.alarm.paint colour code ++ ": " ++
      Text.Style.strong.paint colour (String.intercalate ": " (part :: parts))
  | _ => Text.Style.alarm.paint colour header

/-- A diagnostic as text, with its first line in colour if asked for. -/
def painted (colour : Bool) (d : Diagnostic) : String :=
  match d.human.splitOn "\n" with
  | header :: rest => paintedHeader colour header ++ "\n" ++ String.intercalate "\n" rest
  | [] => ""

/-- A diagnostic as a document; a missing hint is left out. -/
def toJson (d : Diagnostic) : Json :=
  .object <|
    [("diag_version", .nat version), ("code", .string d.code), ("message", .string d.message),
      ("file", .string d.file), ("line", .nat d.line), ("column", .nat d.column),
      ("length", .nat d.length), ("snippet", .string d.snippet)] ++
    match d.help with
    | none => []
    | some help => [("help", .string help)]

end Diagnostic

end SloScript
