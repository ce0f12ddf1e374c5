/-!
# Source locations

A place in a text is counted in characters: an offset from the start, and a line and a column that
both begin at one. A *span* is a stretch of text together with the line and column of its first
character. The span whose line is zero stands for "nowhere": it belongs to what was not written in
any text, such as a function supplied by the host.
-/

namespace SloScript

/-- A place between two characters of a text. Lines and columns are counted without a bound; a
program that keeps them in 32 bits agrees for texts of fewer than 2^32 characters. -/
structure Position where
  /-- The number of characters before this place. -/
  offset : Nat
  /-- One more than the number of line feeds before this place. -/
  line : Nat
  /-- One more than the number of characters since the last line feed. -/
  column : Nat
  deriving DecidableEq, Repr

namespace Position

/-- The start of a text. -/
def origin : Position := ⟨0, 1, 1⟩

/-- The place after one more character; a line feed starts a new line. -/
def step (p : Position) (c : Char) : Position :=
  if c = '\n' then ⟨p.offset + 1, p.line + 1, 1⟩ else ⟨p.offset + 1, p.line, p.column + 1⟩

/-- The place after a stretch of characters. -/
def advance (p : Position) (cs : List Char) : Position :=
  cs.foldl step p

@[simp]
theorem advance_nil (p : Position) : p.advance [] = p := rfl

@[simp]
theorem advance_cons (p : Position) (c : Char) (cs : List Char) :
    p.advance (c :: cs) = (p.step c).advance cs := rfl

theorem advance_append (p : Position) (cs ds : List Char) :
    p.advance (cs ++ ds) = (p.advance cs).advance ds := by
  simp [advance]

end Position

/-- A stretch of source text, `start` included and `stop` excluded, with the line and column of its
first character, which are counted without a bound as well. -/
structure Span where
  start : Nat
  stop : Nat
  line : Nat
  column : Nat
  deriving DecidableEq, Repr

namespace Span

/-- The span of what was not written in any text. -/
def nowhere : Span := ⟨0, 0, 0, 0⟩

instance : Inhabited Span := ⟨nowhere⟩

/-- Whether a span stands for no place; every real line has a positive number. -/
def isNowhere (s : Span) : Bool := s.line == 0

/-- The stretch of `length` characters that begins at `p`. -/
def ofPosition (p : Position) (length : Nat) : Span :=
  ⟨p.offset, p.offset + length, p.line, p.column⟩

/-- The number of characters covered. -/
def length (s : Span) : Nat := s.stop - s.start

/-- Whether a span covers no character. -/
def isEmpty (s : Span) : Bool := s.length == 0

/-- The smallest span that covers both arguments. It is located where the earlier one starts, and a
span that is nowhere adds nothing. -/
def merge (a b : Span) : Span :=
  if b.isNowhere then a
  else if a.isNowhere then b
  else
    let first := if a.start ≤ b.start then a else b
    ⟨first.start, max a.stop b.stop, first.line, first.column⟩

end Span

end SloScript
