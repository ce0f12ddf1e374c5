import SloScript.Fault

/-!
# Reading tokens

A *cursor* is what is left of a token list, together with the span of the token read last. A reading
step either yields a value or fails, and in both cases says where the cursor stands afterwards, so
that reading can go on from there. A step carries the proof that it moved forward: `Step k c α`
consumes at least `k` tokens of `c` when it succeeds and never moves back. That is what makes
every loop over tokens end.
-/

namespace SloScript

/-- What is left of a token list. -/
structure Cursor where
  /-- The span of the token read last. -/
  last : Span
  /-- The tokens not read yet. -/
  rest : List Token
  /-- The token that stands for the end of the input. -/
  finish : Token

namespace Cursor

/-- The number of tokens not read yet. -/
def size (c : Cursor) : Nat := c.rest.length

/-- The token that comes next; at the end it is the final one again and again. -/
def peek (c : Cursor) : Token :=
  match c.rest with
  | [] => c.finish
  | t :: _ => t

/-- Whether the next token is of the given kind. -/
def sees (c : Cursor) (kind : Kind) : Bool := c.peek.kind = kind

/-- Whether every token is read. -/
def atEnd (c : Cursor) : Bool := c.rest.isEmpty

/-- The span from `start` through the token read last. -/
def spanFrom (c : Cursor) (start : Span) : Span := start.merge c.last

/-- The final token of a list that has none: an empty stretch right after the last token. -/
def missingFinish (tokens : List Token) : Token :=
  Token.finish <|
    match tokens.getLast? with
    | none => Span.nowhere
    | some t => ⟨t.span.stop, t.span.stop, t.span.line, t.span.column⟩

/-- The cursor at the start of a token list. The list counts up to its first final token, and one is
supplied if it is missing. -/
def ofTokens (tokens : List Token) : Cursor where
  last := Span.nowhere
  rest := tokens.takeWhile (·.kind ≠ .endOfFile)
  finish := ((tokens.dropWhile (·.kind ≠ .endOfFile)).head?).getD (missingFinish tokens)

end Cursor

/-- How a reading step ends, and where the cursor stands then. -/
inductive Outcome (α : Type) where
  | ok (value : α) (next : Cursor)
  | fail (error : ParseError) (next : Cursor)

namespace Outcome

/-- A step that began at `c` used up at least `k` tokens if it succeeded, and took none back. -/
def Within {α : Type} (k : Nat) (c : Cursor) : Outcome α → Prop
  | ok _ next => next.size + k ≤ c.size
  | fail _ next => next.size ≤ c.size

/-- Goes on from a success; a failure stays. -/
def bind {α β : Type} (o : Outcome α) (f : α → Cursor → Outcome β) : Outcome β :=
  match o with
  | ok a d => f a d
  | fail e d => fail e d

end Outcome

/-- A reading step from `c` that consumes at least `k` tokens when it succeeds. -/
abbrev Step (k : Nat) (c : Cursor) (α : Type) := { o : Outcome α // o.Within k c }

namespace Step

variable {α β : Type} {c : Cursor} {i k : Nat}

/-- Yields a value without reading. -/
def done (a : α) (c : Cursor) : Step 0 c α := ⟨.ok a c, Nat.le_refl _⟩

/-- Fails where the cursor stands. -/
def fail (fault : ParseFault) (span : Span) (c : Cursor) : Step k c α :=
  ⟨.fail ⟨fault, span⟩ c, Nat.le_refl _⟩

/-- One step after the other. The second may use that the first moved the cursor forward, and the
tokens that the first consumed are what the whole is known to consume. -/
def andThen (s : Step k c α) (f : (a : α) → (d : Cursor) → d.size + k ≤ c.size → Step 0 d β)
    (enough : i ≤ k := by omega) : Step i c β :=
  match s with
  | ⟨.fail e d, h⟩ => ⟨.fail e d, h⟩
  | ⟨.ok a d, h⟩ =>
    match f a d h with
    | ⟨.ok b e, g⟩ => ⟨.ok b e, by
        have first : d.size + k ≤ c.size := h
        have second : e.size ≤ d.size := g
        show e.size + i ≤ c.size
        omega⟩
    | ⟨.fail e r, g⟩ => ⟨.fail e r, by
        have first : d.size + k ≤ c.size := h
        have second : r.size ≤ d.size := g
        show r.size ≤ c.size
        omega⟩

/-- Without the proofs, one step after the other is plain continuation. -/
theorem andThen_val (s : Step k c α)
    (f : (a : α) → (d : Cursor) → d.size + k ≤ c.size → Step 0 d β) (enough : i ≤ k)
    (g : α → Cursor → Outcome β) (same : ∀ a d h, (f a d h).val = g a d) :
    (s.andThen f enough).val = s.val.bind g := by
  obtain ⟨o, h⟩ := s
  cases o with
  | fail e d => rfl
  | ok a d =>
    have inner := same a d h
    simp only [andThen, Outcome.bind]
    rw [← inner]
    rcases f a d h with ⟨o, _⟩
    cases o <;> rfl

/-- Reads one token of the given kind. -/
def expect (kind : Kind) (c : Cursor) : Step 1 c Token :=
  match h : c.rest with
  | [] => fail (.unexpectedToken kind c.finish.kind) c.finish.span c
  | t :: rest =>
    if t.kind = kind then
      ⟨.ok t ⟨t.span, rest, c.finish⟩, by
        show rest.length + 1 ≤ c.rest.length
        rw [h]
        simp⟩
    else fail (.unexpectedToken kind t.kind) t.span c

/-- Reads the next token, whatever it is. -/
def take (c : Cursor) : Step 1 c Token := expect c.peek.kind c

end Step

end SloScript
