import SloScript.Fault
import SloScript.Text.Letter

/-!
# Cutting a text into tokens

A text is read from left to right. Blank characters separate tokens and are skipped; everything else
begins a *lexeme*, the longest stretch that one token can take: a run of letters, a digit with the
digits and dots that follow it, a text between double quotes, or a sign. What a lexeme is depends
only on the characters from its start on; where it stands is computed from the characters read, so
that kinds and texts never depend on positions.
-/

namespace SloScript

namespace Token

/-- The characters that separate tokens. -/
def isSeparator (c : Char) : Bool :=
  c == ' ' || c == '\t' || c == '\n' || c == '\r' || c.toNat == 0

/-- The characters that may follow the first digit of a number. -/
def isNumeral (c : Char) : Bool := c.isDigit || c == '.'

/-- A stretch of source text that makes one token, with the text that comes after it. -/
structure Lexeme where
  kind : Kind
  /-- The characters as they are written, quotes included. -/
  raw : List Char
  /-- The text the token carries. -/
  text : String
  /-- What follows. -/
  rest : List Char

/-- The kind of a sign that is one character long and no start of a longer one. -/
def signKind? (c : Char) : Option Kind :=
  if c = '(' then some .openParen
  else if c = ')' then some .closeParen
  else if c = '\x7b' then some .openBrace
  else if c = '\x7d' then some .closeBrace
  else if c = '[' then some .openBracket
  else if c = ']' then some .closeBracket
  else if c = ',' then some .comma
  else if c = '.' then some .dot
  else if c = ':' then some .colon
  else if c = ';' then some .semicolon
  else if c = '+' || c = '-' || c = '*' || c = '/' || c = '%' then some .binaryOperator
  else none

/-- The kinds of a sign that an equality sign may extend: alone, and extended. -/
def extensibleKinds? (c : Char) : Option (Kind × Kind) :=
  if c = '=' then some (.equals, .equalEquals)
  else if c = '!' then some (.bang, .bangEquals)
  else if c = '<' then some (.less, .lessEquals)
  else if c = '>' then some (.greater, .greaterEquals)
  else none

/-- The lexeme made of the first character and the longest run of `p` after it. -/
def Lexeme.run (kind : String → Kind) (p : Char → Bool) (c : Char) (cs : List Char) : Lexeme :=
  let word := String.ofList (c :: cs.takeWhile p)
  ⟨kind word, c :: cs.takeWhile p, word, cs.dropWhile p⟩

/-- The lexeme at the start of a text that begins with `c`, a character that separates nothing. -/
def Lexeme.first (c : Char) (cs : List Char) : Except LexFault Lexeme :=
  match signKind? c with
  | some kind => .ok ⟨kind, [c], c.toString, cs⟩
  | none =>
    match extensibleKinds? c with
    | some (alone, extended) =>
      match cs with
      | '=' :: rest => .ok ⟨extended, [c, '='], String.ofList [c, '='], rest⟩
      | _ => .ok ⟨alone, [c], c.toString, cs⟩
    | none =>
      if c = '"' then
        match cs.dropWhile (· != '"') with
        | [] => .error .unterminatedString
        | quote :: rest =>
          let inner := cs.takeWhile (· != '"')
          .ok ⟨.string, c :: (inner ++ [quote]), String.ofList inner, rest⟩
      else if c.isDigit then .ok (.run (fun _ => .number) isNumeral c cs)
      else if Text.isLetter c then
        .ok (.run (fun word => (Kind.ofKeyword? word).getD .identifier) Text.isLetter c cs)
      else .error (.unexpectedCharacter c)

/-- A lexeme and what follows it make up the text it was read from. -/
theorem Lexeme.raw_append_rest {c : Char} {cs : List Char} {l : Lexeme}
    (h : Lexeme.first c cs = .ok l) : l.raw ++ l.rest = c :: cs := by
  unfold Lexeme.first at h
  split at h
  · cases h; rfl
  · split at h
    · split at h <;> (cases h; rfl)
    · split at h
      · split at h
        · cases h
        · rename_i quote rest found
          cases h
          have whole := List.takeWhile_append_dropWhile (p := fun x : Char => x != '"') (l := cs)
          rw [found] at whole
          simp [whole]
      · split at h
        · cases h; simp [Lexeme.run, List.takeWhile_append_dropWhile]
        · split at h
          · cases h; simp [Lexeme.run, List.takeWhile_append_dropWhile]
          · cases h

/-- Every lexeme takes at least one character. -/
theorem Lexeme.raw_ne_nil {c : Char} {cs : List Char} {l : Lexeme}
    (h : Lexeme.first c cs = .ok l) : l.raw ≠ [] := by
  unfold Lexeme.first at h
  split at h
  · cases h; simp
  · split at h
    · split at h <;> (cases h; simp)
    · split at h
      · split at h
        · cases h
        · cases h; simp
      · split at h
        · cases h; simp [Lexeme.run]
        · split at h
          · cases h; simp [Lexeme.run]
          · cases h

/-- What follows a lexeme is shorter than what it began. -/
theorem Lexeme.rest_length_lt {c : Char} {cs : List Char} {l : Lexeme}
    (h : Lexeme.first c cs = .ok l) : l.rest.length < (c :: cs).length := by
  have whole := congrArg List.length (raw_append_rest h)
  have positive : 0 < l.raw.length := List.length_pos_iff.2 (raw_ne_nil h)
  simp only [List.length_append] at whole
  omega

/-- The span at which a lexical fault is reported: the offending character, or everything from the
opening quote to the end of the text. -/
def faultSpan (p : Position) (remaining : Nat) : LexFault → Span
  | .unexpectedCharacter _ => Span.ofPosition p 1
  | .unterminatedString => Span.ofPosition p remaining

/-- The tokens of the characters that stand at position `p`. -/
def scan (p : Position) : List Char → Except LexError (List Token)
  | [] => .ok [Token.finish (Span.ofPosition p 0)]
  | c :: cs =>
    if isSeparator c then scan (p.step c) cs
    else
      match h : Lexeme.first c cs with
      | .error fault => .error ⟨fault, faultSpan p (c :: cs).length fault⟩
      | .ok l =>
        have : l.rest.length < cs.length + 1 := Lexeme.rest_length_lt h
        match scan (p.advance l.raw) l.rest with
        | .error e => .error e
        | .ok tokens => .ok (⟨l.kind, l.text, Span.ofPosition p l.raw.length⟩ :: tokens)
termination_by cs => cs.length

end Token

/-- The tokens of a source text, the last of which marks the end of the input. -/
def tokenize (source : String) : Except LexError (List Token) :=
  Token.scan Position.origin source.toList

end SloScript
