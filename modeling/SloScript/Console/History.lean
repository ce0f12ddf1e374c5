import SloScript.Text.Lines

/-!
# The history of the dialogue

The lines that have been run, kept in a file between dialogues. In the file every line takes up one
line: a line break or a backslash inside it is written with a backslash before it. A first line of
its own marks that form; a file without the mark holds its lines as they are. A line in the file
that has a backslash before anything else is damaged. It is kept as it stands, and reported.
-/

namespace SloScript

/-- Lines that have been run. -/
structure History where
  /-- The lines, latest first. -/
  entries : List String
  /-- Whether a line has been added since the history was read. -/
  changed : Bool
  deriving DecidableEq, Repr

namespace History

/-- The history of nothing. -/
def empty : History := ⟨[], false⟩

/-- How many lines are kept. -/
def capacity : Nat := 100

/-- Adds a line, unless it is empty or repeats the latest one. The oldest lines give way. -/
def add (h : History) (line : String) : History :=
  if line.isEmpty || h.entries.head? = some line then h
  else ⟨(line :: h.entries).take capacity, true⟩

/-! ## The written form -/

/-- The first line of a file whose lines are escaped. -/
def mark : String := "#V2"

/-- The written form of a line. -/
def escape : List Char → List Char
  | [] => []
  | c :: rest =>
    if c = '\\' then '\\' :: '\\' :: escape rest
    else if c = '\n' then '\\' :: 'n' :: escape rest
    else c :: escape rest

/-- The line with a written form, unless that is damaged. -/
def unescape : List Char → Option (List Char)
  | [] => some []
  | '\\' :: 'n' :: rest => (unescape rest).map ('\n' :: ·)
  | '\\' :: '\\' :: rest => (unescape rest).map ('\\' :: ·)
  | c :: rest => if c = '\\' then none else (unescape rest).map (c :: ·)

theorem unescape_escape (line : List Char) : unescape (escape line) = some line := by
  induction line with
  | nil => rfl
  | cons c rest ih =>
    by_cases slash : c = '\\'
    · simp [escape, unescape, slash, ih]
    · by_cases feed : c = '\n' <;> simp [escape, unescape, slash, feed, ih]

/-- Whether a written line is damaged. -/
def isDamaged (written : String) : Bool := (unescape written.toList).isNone

/-- The line that a written line stands for; a damaged one stands for itself. -/
def restore (written : String) : String :=
  match unescape written.toList with
  | some line => String.ofList line
  | none => written

/-- The history with the given lines, from the first on. -/
def ofLines (lines : List String) : History := ⟨(lines.foldl add empty).entries, false⟩

/-- The history that a text holds, and the damaged lines of that text. -/
def ofText (text : String) : History × List String :=
  match Text.lines text with
  | [] => (empty, [])
  | first :: rest =>
    if first = mark then (ofLines (rest.map restore), rest.filter isDamaged)
    else (ofLines (first :: rest), [])

/-- The text that holds a history. -/
def text (h : History) : String :=
  String.join (((mark :: h.entries.reverse.map fun line => String.ofList (escape line.toList))).map
    (· ++ "\n"))

end History

end SloScript
