/-!
# Requests

What the words after the program's name ask for: one of four commands with its options, or the
version. The option `-v`, which may stand anywhere and may be repeated, asks for more of the
journal. A word that cannot be understood is a fault of its own; the first one counts.
-/

namespace SloScript

/-- What can be done with a source text. -/
inductive Task where
  /-- Runs it; diagnostics may be documents. -/
  | run (json : Bool)
  /-- Lists its tokens, perhaps as a document. -/
  | tokens (json : Bool)
  /-- Dumps its tree. -/
  | ast
  deriving DecidableEq, Repr

/-- What the program can do: a task on a file, or the dialogue. -/
inductive Command where
  | onFile (task : Task) (path : String)
  | repl (noHistory : Bool)
  deriving DecidableEq, Repr

/-- The words that name a command. -/
inductive Verb where
  | run
  | tokens
  | ast
  | repl
  deriving DecidableEq, Repr

namespace Verb

/-- The name of a command. -/
def name : Verb → String
  | run => "run"
  | tokens => "tokens"
  | ast => "ast"
  | repl => "repl"

/-- The command that a word names. -/
def ofWord? (word : String) : Option Verb :=
  if word = "run" || word = "r" then some run
  else if word = "tokens" then some tokens
  else if word = "ast" then some ast
  else if word = "repl" then some repl
  else none

/-- Whether a command takes an option. -/
def takes (verb : Verb) (option : String) : Bool :=
  match verb with
  | run | tokens => option == "--json"
  | repl => option == "--no-history"
  | ast => false

/-- Whether a command works on a file. -/
def needsFile : Verb → Bool
  | repl => false
  | _ => true

end Verb

/-- What the words ask for. -/
inductive Request where
  /-- The version, perhaps of one command. -/
  | version (verb : Option Verb)
  | perform (verbosity : Nat) (command : Command)
  deriving DecidableEq, Repr

/-- Why the words cannot be understood. -/
inductive UsageFault where
  | missingCommand
  | missingFile
  | unexpected (word : String)
  deriving DecidableEq, Repr

namespace UsageFault

/-- The wording of a fault. -/
def message : UsageFault → String
  | missingCommand => "error: a command is required\n"
  | missingFile => "error: a file is required\n"
  | unexpected word => "error: unexpected argument '" ++ word ++ "'\n"

end UsageFault

namespace Request

/-- The name of the program. -/
def program : String := "slopp"

/-- The version of the program. -/
def programVersion : String := "0.1.0"

/-- The line that tells the version. -/
def versionLine (verb : Option Verb) : String :=
  program ++ (match verb with
    | none => ""
    | some verb => "-" ++ verb.name) ++ " " ++ programVersion ++ "\n"

/-- The words read so far. -/
structure Draft where
  verb : Option Verb
  verbosity : Nat
  /-- Whether the command's own option was given. -/
  flag : Bool
  path : Option String

namespace Draft

/-- Nothing read yet. -/
def initial : Draft := ⟨none, 0, false, none⟩

/-- The request of a complete draft. -/
def finish (d : Draft) : Except UsageFault Request :=
  match d.verb, d.path with
  | none, _ => .error .missingCommand
  | some .repl, _ => .ok (.perform d.verbosity (.repl d.flag))
  | some _, none => .error .missingFile
  | some .run, some path => .ok (.perform d.verbosity (.onFile (.run d.flag) path))
  | some .tokens, some path => .ok (.perform d.verbosity (.onFile (.tokens d.flag) path))
  | some .ast, some path => .ok (.perform d.verbosity (.onFile .ast path))

/-- Reads a word that is no option: the command first, then its file. -/
def plainWord (d : Draft) (word : String) : Except UsageFault Draft :=
  match d.verb with
  | none =>
    match Verb.ofWord? word with
    | some verb => .ok { d with verb := some verb }
    | none => .error (.unexpected word)
  | some verb =>
    if verb.needsFile && d.path.isNone then .ok { d with path := some word }
    else .error (.unexpected word)

/-- Reads the letters behind a single dash. A letter may end the reading at once. -/
def letters (d : Draft) (word : String) : List Char → Except UsageFault (Draft ⊕ Request)
  | [] => .ok (.inl d)
  | 'v' :: rest => letters { d with verbosity := d.verbosity + 1 } word rest
  | 'V' :: _ => .ok (.inr (.version d.verb))
  | _ :: _ => .error (.unexpected word)

/-- Reads an option behind two dashes. -/
def longOption (d : Draft) (word : String) : Except UsageFault (Draft ⊕ Request) :=
  if word = "--version" then .ok (.inr (.version d.verb))
  else if word = "--verbose" then .ok (.inl { d with verbosity := d.verbosity + 1 })
  else if !d.flag && d.verb.any fun verb => verb.takes word then .ok (.inl { d with flag := true })
  else .error (.unexpected word)

/-- Reads a word. -/
def word (d : Draft) (word : String) : Except UsageFault (Draft ⊕ Request) :=
  match word.toList with
  | '-' :: '-' :: _ => d.longOption word
  | '-' :: c :: rest => d.letters word (c :: rest)
  | _ => (d.plainWord word).map .inl

/-- Reads words after which no option is expected any more. -/
def plainWords (d : Draft) : List String → Except UsageFault Request
  | [] => d.finish
  | word :: rest => do
    let d ← d.plainWord word
    plainWords d rest

/-- Reads words; two dashes alone end the options. -/
def words (d : Draft) : List String → Except UsageFault Request
  | [] => d.finish
  | word :: rest =>
    if word = "--" then d.plainWords rest
    else
      match d.word word with
      | .error fault => .error fault
      | .ok (.inr request) => .ok request
      | .ok (.inl d) => words d rest

end Draft

/-- What the words after the program's name ask for. -/
def ofWords (words : List String) : Except UsageFault Request := Draft.initial.words words

end Request

end SloScript
