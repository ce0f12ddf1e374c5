import SloScript.Diagnostic
import SloScript.Proofs.FaultSites
import SloScript.Proofs.Origins

/-!
# What a diagnostic underlines

A diagnostic shows the line of source that an error is in, with the offending stretch underlined. It
finds the line by splitting the source anew and taking the line whose number the span tells, and the
stretch by the column of the span; neither was counted by the one who splits. Here the two are tied
together: the line that is shown is the one that contains the first character of the span, and what
is underlined begins at that character and ends within the line.

`Text.IsLine` says what a line is, without splitting. `Span.Marks` says where errors are: at the end
of the text, or at a character that separates nothing, which is never part of the ending of a line.

Results:
1. `Text.IsLine.getElem?`: the splitting finds the lines of a text in their order.
2. `Error.Arises.marks`: every error is at a place of that sort, whichever stage it comes from.
3. `Diagnostic.ofError_underlines`: its diagnostic underlines the offending text.
-/

namespace SloScript

/-! ## Lines -/

namespace Text

/-- What comes behind a line: nothing, or its ending and the rest of the text. A carriage return
right before the line feed belongs to the ending. -/
def Closes (line tail : List Char) : Prop :=
  tail = [] ∨ (∃ rest, tail = '\n' :: rest ∧ line.getLast? ≠ some '\r') ∨
    ∃ rest, tail = '\r' :: '\n' :: rest

/-- A line begins behind these characters. -/
def Starts (before : List Char) : Prop := before = [] ∨ before.getLast? = some '\n'

/-- The text has this line, its ending left out, behind the characters `before`. -/
structure IsLine (text before line : List Char) : Prop where
  starts : Starts before
  unbroken : '\n' ∉ line
  ends : ∃ tail, text = before ++ (line ++ tail) ∧ Closes line tail

/-- A character that is not part of an ending belongs to the line it is in. -/
theorem lineChars_ordinary {c : Char} {cs : List Char} (feed : c ≠ '\n')
    (ending : c = '\r' → cs.head? ≠ some '\n') :
    lineChars (c :: cs) =
      match lineChars cs with
      | [] => [[c]]
      | line :: lines => (c :: line) :: lines := by
  conv_lhs => unfold lineChars
  split
  · next empty => cases empty
  · next fed =>
    obtain ⟨rfl, -⟩ := List.cons.inj fed
    exact absurd rfl feed
  · next ended =>
    obtain ⟨rfl, rfl⟩ := List.cons.inj ended
    exact absurd rfl (ending rfl)
  · next same =>
    obtain ⟨rfl, rfl⟩ := List.cons.inj same
    rfl

/-- A line feed opens a new line, and no other character does. -/
theorem drop_lineChars_cons (n : Nat) (c : Char) (cs : List Char) :
    (lineChars (c :: cs)).drop (n + 1) =
      if c = '\n' then (lineChars cs).drop n else (lineChars cs).drop (n + 1) := by
  by_cases feed : c = '\n'
  · subst feed
    simp [lineChars]
  · rw [if_neg feed]
    -- A carriage return before a line feed is dropped with it, but it does not end the line itself.
    by_cases ending : c = '\r' ∧ cs.head? = some '\n'
    · obtain ⟨rfl, first⟩ := ending
      obtain ⟨rest, rfl⟩ := List.head?_eq_some_iff.1 first
      simp [lineChars]
    · rw [lineChars_ordinary feed (not_and.1 ending)]
      cases lineChars cs <;> simp

/-- As many lines as there are line feeds come before what follows the last of them. -/
theorem drop_lineChars (before rest : List Char) :
    (lineChars (before ++ '\n' :: rest)).drop (before.count '\n' + 1) = lineChars rest := by
  induction before with
  | nil => exact drop_lineChars_cons 0 '\n' rest
  | cons c before ih =>
    rw [List.cons_append, drop_lineChars_cons]
    split
    · next feed => rwa [feed, List.count_cons_self]
    · next other => rwa [List.count_cons_of_ne other]

theorem Starts.drop_lineChars {before : List Char} (h : Starts before) (rest : List Char) :
    (lineChars (before ++ rest)).drop (before.count '\n') = lineChars rest := by
  rcases h with rfl | last
  · simp
  · obtain ⟨lines, rfl⟩ := List.getLast?_eq_some_iff.1 last
    rw [List.append_assoc, List.count_append]
    exact Text.drop_lineChars lines rest

/-- Characters in front of a line that is not empty do not change how it ends. -/
theorem closes_append_iff {line : List Char} (some : line ≠ []) (front tail : List Char) :
    Closes (front ++ line) tail ↔ Closes line tail := by
  rw [Closes, Closes, List.getLast?_append_of_ne_nil _ some]

/-- The first line of what is left of a text, if anything is left. -/
theorem head_lineChars {line tail : List Char} (unbroken : '\n' ∉ line) (closes : Closes line tail)
    (left : line ++ tail ≠ []) : (lineChars (line ++ tail)).head? = some line := by
  induction line with
  | nil =>
    rcases closes with rfl | ⟨rest, rfl, -⟩ | ⟨rest, rfl⟩
    · exact absurd rfl left
    · simp [lineChars]
    · simp [lineChars]
  | cons c line ih =>
    obtain ⟨feed, unbroken⟩ := List.ne_and_not_mem_of_not_mem_cons unbroken
    cases line with
    | nil =>
      rcases closes with rfl | ⟨rest, rfl, last⟩ | ⟨rest, rfl⟩
      · rw [List.append_nil, lineChars_ordinary (Ne.symm feed) fun _ => by simp]
        simp [lineChars]
      · have ordinary : c ≠ '\r' := by simpa using last
        rw [List.cons_append, lineChars_ordinary (Ne.symm feed) fun same => absurd same ordinary]
        simp [lineChars]
      · rw [List.cons_append, lineChars_ordinary (Ne.symm feed) fun _ => by simp]
        simp [lineChars]
    | cons d line =>
      have closes := (closes_append_iff (List.cons_ne_nil d line) [c] tail).1 closes
      have inner : d ≠ '\n' := fun same => unbroken (same ▸ List.mem_cons_self)
      have next := ih unbroken closes (by simp)
      obtain ⟨lines, found⟩ := List.head?_eq_some_iff.1 next
      rw [List.cons_append, lineChars_ordinary (Ne.symm feed) fun _ => by simpa using inner, found]
      rfl

/-- The splitting finds the lines of a text in their order. -/
theorem IsLine.getElem? {text before line : List Char} (h : IsLine text before line)
    (left : before.length < text.length) :
    (lineChars text)[before.count '\n']? = some line := by
  obtain ⟨starts, unbroken, tail, rfl, closes⟩ := h
  have some : line ++ tail ≠ [] := by
    intro none
    simp [none] at left
  rw [← List.head?_drop, starts.drop_lineChars, head_lineChars unbroken closes some]

/-- No line begins behind the last line feed if nothing is left there. -/
theorem Starts.getElem?_eq_none {before : List Char} (h : Starts before) :
    (lineChars before)[before.count '\n']? = none := by
  have all := h.drop_lineChars []
  rw [List.append_nil] at all
  rw [← List.head?_drop, all]
  rfl

theorem exists_starts (before : List Char) :
    ∃ earlier front, before = earlier ++ front ∧ Starts earlier ∧ '\n' ∉ front := by
  induction before with
  | nil => exact ⟨[], [], rfl, .inl rfl, List.not_mem_nil⟩
  | cons c before ih =>
    obtain ⟨earlier, front, rfl, starts, unbroken⟩ := ih
    rcases starts with rfl | last
    · by_cases feed : c = '\n'
      · exact ⟨[c], front, rfl, .inr (by simp [feed]), unbroken⟩
      · have unbroken := List.not_mem_cons_of_ne_of_not_mem (Ne.symm feed) unbroken
        exact ⟨[], c :: front, rfl, .inl rfl, unbroken⟩
    · exact ⟨c :: earlier, front, rfl, .inr (by simp [List.getLast?_cons, last]), unbroken⟩

/-- Behind a character that is not part of an ending, its line goes on and ends. -/
theorem exists_closes (c : Char) (cs : List Char) (ordinary : c = '\r' → cs.head? ≠ some '\n') :
    ∃ after tail, cs = after ++ tail ∧ '\n' ∉ after ∧ Closes (c :: after) tail := by
  induction cs generalizing c with
  | nil => exact ⟨[], [], rfl, List.not_mem_nil, .inl rfl⟩
  | cons d cs ih =>
    by_cases feed : d = '\n'
    · subst feed
      refine ⟨[], _, rfl, List.not_mem_nil, .inr (.inl ⟨cs, rfl, ?_⟩)⟩
      intro last
      exact ordinary (by simpa using last) rfl
    · by_cases ending : d = '\r' ∧ cs.head? = some '\n'
      · obtain ⟨rfl, first⟩ := ending
        obtain ⟨rest, rfl⟩ := List.head?_eq_some_iff.1 first
        exact ⟨[], _, rfl, List.not_mem_nil, .inr (.inr ⟨rest, rfl⟩)⟩
      · obtain ⟨after, tail, rfl, unbroken, closes⟩ := ih d (not_and.1 ending)
        exact ⟨d :: after, tail, rfl, List.not_mem_cons_of_ne_of_not_mem (Ne.symm feed) unbroken,
          (closes_append_iff (List.cons_ne_nil d after) [c] tail).2 closes⟩

/-- The line of a place before which a line has begun, and behind which no ending has. It consists
of what stands before and behind the place. -/
theorem exists_isLine {earlier front rest : List Char} (starts : Starts earlier)
    (unbroken : '\n' ∉ front) (ordinary : ∀ c ∈ rest.head?, Token.isSeparator c = false) :
    ∃ after tail, rest = after ++ tail ∧ (rest ≠ [] → after ≠ []) ∧
      IsLine ((earlier ++ front) ++ rest) earlier (front ++ after) := by
  cases rest with
  | nil => exact ⟨[], [], rfl, id, starts, by simpa using unbroken, [], by simp, .inl rfl⟩
  | cons c rest =>
    have proper := ordinary c rfl
    have noFeed : c ≠ '\n' := by rintro rfl; cases proper
    have noReturn : c ≠ '\r' := by rintro rfl; cases proper
    obtain ⟨after, tail, rfl, unbroken', closes⟩ :=
      exists_closes c rest fun same => absurd same noReturn
    refine ⟨c :: after, tail, rfl, fun _ => List.cons_ne_nil c after, starts, ?_, tail, by simp, ?_⟩
    · simp [unbroken, unbroken', Ne.symm noFeed]
    · exact (closes_append_iff (List.cons_ne_nil c after) front tail).2 closes

end Text

/-! ## Places in a text -/

/-- A span on the line that begins behind `earlier`. -/
theorem Span.ofPosition_behind {earlier front : List Char} (starts : Text.Starts earlier)
    (unbroken : '\n' ∉ front) (length : Nat) :
    Span.ofPosition (.behind (earlier ++ front)) length =
      ⟨earlier.length + front.length, earlier.length + front.length + length,
        1 + earlier.count '\n', 1 + front.length⟩ := by
  have ordinary : ∀ c ∈ front.reverse, decide (c ≠ '\n') = true := by
    intro c member
    exact decide_eq_true fun same => unbroken (same ▸ List.mem_reverse.1 member)
  have stops : earlier.reverse.takeWhile (· ≠ '\n') = [] := by
    rcases starts with rfl | last
    · rfl
    · obtain ⟨lines, rfl⟩ := List.getLast?_eq_some_iff.1 last
      simp
  rw [ofPosition, Position.behind, List.reverse_append, List.takeWhile_append_of_pos ordinary,
    stops, List.count_append, List.count_eq_zero_of_not_mem unbroken]
  simp

/-- The span begins at the end of the text, or at a character of it that separates nothing, and its
line and column are counted from what comes before. -/
def Span.Marks (text : List Char) (span : Span) : Prop :=
  ∃ before rest length, text = before ++ rest ∧ span = .ofPosition (.behind before) length ∧
    ∀ c ∈ rest.head?, Token.isSeparator c = false

theorem Span.Marks.bounds {text : List Char} {span : Span} (h : span.Marks text) :
    (1 ≤ span.line ∧ 1 ≤ span.column) ∧ span.start ≤ span.stop ∧ span.start ≤ text.length := by
  obtain ⟨before, rest, length, rfl, rfl, -⟩ := h
  simp [ofPosition, Position.behind]

/-- A span that reaches from one such place to another one. -/
theorem Span.Marks.of_over {text : List Char} {ts : List Token} {span : Span}
    (covers : span.Over ts) (inOrder : InOrder ts) (marks : ∀ t ∈ ts, t.span.Marks text) :
    span.Marks text := by
  obtain ⟨first, last, isFirst, isLast, rfl⟩ := covers
  obtain ⟨before, rest, length, rfl, place, lead⟩ := marks first (List.mem_of_mem_head? isFirst)
  have starts := inOrder.head_start_le isFirst (List.mem_of_getLast? isLast)
  have proper := inOrder.proper last (List.mem_of_getLast? isLast)
  refine ⟨before, rest, last.span.stop - first.span.start, rfl, ?_, lead⟩
  rw [place] at starts ⊢
  simp only [ofPosition, Span.mk.injEq, true_and, and_true] at starts ⊢
  omega

namespace Token

/-- Whether a text is cut into tokens or not, what comes out is at such places. -/
def Marked (text : List Char) : Except LexError (List Token) → Prop
  | .ok tokens => ∀ t ∈ tokens, t.span.Marks text
  | .error e => e.span.Marks text

theorem scan_marked (before cs : List Char) :
    Marked (before ++ cs) (scan (.behind before) cs) := by
  generalize hp : Position.behind before = p
  fun_induction scan p cs generalizing before with
  | case1 p =>
    subst hp
    intro t member
    rw [List.mem_singleton.1 member]
    exact ⟨before, [], 0, rfl, rfl, by simp⟩
  | case2 p c cs separator ih =>
    subst hp
    rw [List.append_cons]
    exact ih _ (Position.step_behind before c).symm
  | case3 p c cs proper fault failed =>
    subst hp
    have lead : ∀ d ∈ (c :: cs).head?, isSeparator d = false := by simpa using proper
    cases fault with
    | unexpectedCharacter => exact ⟨before, c :: cs, _, rfl, rfl, lead⟩
    | unterminatedString => exact ⟨before, c :: cs, _, rfl, rfl, lead⟩
  | case4 p c cs proper l found shorter e failed ih =>
    subst hp
    have next := ih _ (Position.advance_behind before l.raw).symm
    rw [List.append_assoc, Lexeme.raw_append_rest found, failed] at next
    exact next
  | case5 p c cs proper l found shorter tokens done ih =>
    subst hp
    have next := ih _ (Position.advance_behind before l.raw).symm
    rw [List.append_assoc, Lexeme.raw_append_rest found, done] at next
    intro t member
    rcases List.mem_cons.1 member with rfl | later
    · exact ⟨before, c :: cs, l.raw.length, rfl, rfl, by simpa using proper⟩
    · exact next t later

end Token

/-! ## Errors -/

/-- The tokens of a source, all stretches of them and the end of the input are at such places. -/
theorem Cursor.Sited.of_tokenize {source : String} {words : List Token} {finish : Token}
    (cut : tokenize source = .ok (words ++ [finish])) :
    (⟨.nowhere, words, finish⟩ : Cursor).Sited (Span.Marks source.toList) := by
  have inOrder := (Token.tiling_of_tokenize cut).inOrder
  have marked : ∀ t ∈ words ++ [finish], t.span.Marks source.toList := by
    have all := Token.scan_marked [] source.toList
    rw [Position.behind_nil, ← tokenize, cut] at all
    exact all
  refine ⟨.of_tokenize cut .nowhere, inOrder, marked finish (by simp), fun part covers => ?_⟩
  exact .of_over covers (inOrder.sublist part) fun t member =>
    marked t (List.mem_append_left _ (part.subset member))

/-- A text that cannot be read fails at such a place. -/
theorem marks_of_parse_error {source : String} {e : ParseError} (h : parse source = .error e) :
    e.span.Marks source.toList := by
  cases cut : tokenize source with
  | error fault =>
    rw [parse, cut] at h
    cases h
    have all := Token.scan_marked [] source.toList
    rw [Position.behind_nil, ← tokenize, cut] at all
    exact all
  | ok ts =>
    obtain ⟨words, finish, rfl, ended, proper⟩ := Token.scan_ends cut
    have sited := Parser.program_blamed (B := .places _) (Cursor.Sited.of_tokenize cut)
    rw [parse_eq_result cut ended proper, Cursor.parse] at h
    generalize (Parser.program ⟨.nowhere, words, finish⟩).val = outcome at h sited
    cases outcome with
    | ok p d => cases h
    | fail e' d =>
      cases h
      exact sited

/-- The errors that a source gives rise to: when it is cut into tokens, when it is read, and when it
is run in a new session in which the host has added nothing to the prelude. -/
inductive Error.Arises (source : String) : Error → Prop
  | lex {e : LexError} : tokenize source = .error e → Arises source (.lex e)
  | parse {e : ParseError} : SloScript.parse source = .error e → Arises source (.parse e)
  | eval {host : Host} {e : Error} :
      host.callbacks = #[] → ((Session.start host).eval source).1 = .error e → Arises source e

/-- A run that fails fails to read its source, or while the program runs. -/
theorem State.evalSource_error {host : Host} {scope : ScopeId} {source : String} {st : State}
    {e : Error} (h : (st.evalSource host scope source).1 = .error e) :
    (∃ fault, e = .parse fault ∧ parse source = .error fault) ∨ ∃ fault, e = .eval fault := by
  unfold evalSource at h
  cases cut : tokenize source with
  | error fault =>
    rw [cut] at h
    cases h
    exact .inl ⟨_, rfl, by rw [parse, cut]⟩
  | ok tokens =>
    rw [cut] at h
    cases read : parseTokens tokens with
    | error fault =>
      simp only [read] at h
      cases h
      exact .inl ⟨fault, rfl, by rw [parse, cut]; exact read⟩
    | ok p =>
      simp only [read] at h
      generalize p.eval host scope _ = result at h
      obtain ⟨fault | v, after⟩ := result
      · cases h
        exact .inr ⟨fault, rfl⟩
      · cases h

/-- What has failed is written in the text: the text cannot be read there, or it is a node of the
program that was read from the text. -/
def Error.WrittenIn (e : Error) (text : String) : Prop :=
  (∃ fault, SloScript.parse text = .error fault ∧ fault.span = e.span) ∨
    ∃ p, SloScript.parse text = .ok p ∧ ∃ n, p.HasPart n ∧ n.span = e.span

theorem Error.WrittenIn.marks {e : Error} {text : String} (h : e.WrittenIn text) :
    e.span.Marks text.toList := by
  rcases h with ⟨fault, unread, same⟩ | ⟨p, read, n, has, same⟩
  · exact same ▸ marks_of_parse_error unread
  · obtain ⟨words, finish, cut, -, row⟩ := row_of_parse read
    obtain ⟨us, part, covers, -⟩ := (row.of_hasPart has).tight
    exact same ▸ (Cursor.Sited.of_tokenize cut).stretch part covers

namespace Session

/-- Without functions of the host there is nobody else to blame: an error is written in the text, or
in one of the texts before it. -/
theorem Sound.exists_writtenIn {sources : List String} {s : Session}
    (h : s.Sound sources fun _ => False) (none : s.host.callbacks = #[]) {source : String}
    {e : Error} (failed : (s.eval source).1 = .error e) :
    ∃ text ∈ source :: sources, e.WrittenIn text := by
  rcases State.evalSource_error failed with ⟨fault, rfl, unread⟩ | ⟨fault, rfl⟩
  · exact ⟨source, List.mem_cons_self, .inl ⟨fault, unread, rfl⟩⟩
  · have stays := State.evalSource_stays h.callbacks h.functions s.globals source
    obtain ⟨p, read, placed | ⟨-, f, member, -⟩⟩ := stays.2 fault failed
    · obtain ⟨n, here | ⟨c, known, below⟩, same⟩ := placed
      · exact ⟨source, List.mem_cons_self, .inr ⟨p, read, n, here, same⟩⟩
      · obtain ⟨outer, ⟨text, member, q, read', declared⟩ | ⟨⟨⟩⟩, within⟩ := known.origin below
        exact ⟨text, .tail _ member, .inr ⟨q, read', n, declared.hasPart within, same⟩⟩
    · rw [none] at member
      cases Array.not_mem_empty _ member

end Session

namespace Error.Arises

variable {source : String} {e : Error}

/-- An error comes from reading the source, or it is at a node of the program. -/
theorem origin (h : e.Arises source) : e.WrittenIn source := by
  cases h with
  | @lex fault failed =>
    exact .inl ⟨⟨.lexical fault.cause, fault.span⟩, by rw [SloScript.parse, failed], rfl⟩
  | @parse fault failed => exact .inl ⟨fault, failed, rfl⟩
  | @eval host _ none failed =>
    -- A new session has no earlier texts.
    obtain ⟨text, member, written⟩ := (Session.Sound.start none).exists_writtenIn
      (by rw [Session.start_host, none]) failed
    exact List.mem_singleton.1 member ▸ written

theorem marks (h : e.Arises source) : e.span.Marks source.toList := h.origin.marks

/-- Nothing can go wrong in an empty text. -/
theorem ne_empty (h : e.Arises source) : source.toList ≠ [] := by
  intro empty
  obtain rfl : source = "" := String.toList_eq_nil_iff.1 empty
  have nothing : (SloScript.parse "").map List.isEmpty = .ok true := by decide +kernel
  rcases h.origin with ⟨fault, unread, -⟩ | ⟨p, read, n, ⟨s, member, -⟩, -⟩
  · rw [unread] at nothing
    cases nothing
  · rw [read] at nothing
    rw [List.isEmpty_iff.1 (Except.ok.inj nothing)] at member
    cases member

end Error.Arises

/-! ## Diagnostics -/

namespace Diagnostic

/-- The diagnostic tells the place of the character at offset `p` and shows the line that this
character is in, without its ending. The underlined stretch begins at the character, is not empty
and ends within the line. -/
structure Points (d : Diagnostic) (text : List Char) (p : Nat) : Prop where
  line : d.line = 1 + (text.take p).count '\n'
  column : d.column = 1 + ((text.take p).reverse.takeWhile (· ≠ '\n')).length
  snippet : ∃ before, Text.IsLine text before d.snippet.toList ∧
    before.length ≤ p ∧ p < before.length + d.snippet.length
  character : d.snippet.toList[d.column - 1]? = text[p]?
  nonempty : 1 ≤ d.length
  fits : d.column - 1 + d.length ≤ d.snippet.length

/-- A diagnostic of an error at the given span underlines the offending text. Nothing is subtracted
from something smaller. If the span begins within the text, the diagnostic points at its first
character. If it begins at the end of the text, either the text ends in a line feed and no line is
shown, or the last line is shown and one place behind it is underlined. -/
structure Underlines (d : Diagnostic) (text : List Char) (span : Span) : Prop where
  positive : 1 ≤ span.line ∧ 1 ≤ span.column
  forward : span.start ≤ span.stop
  bounded : span.start ≤ text.length
  inside : span.start < text.length → d.Points text span.start
  behind : span.start = text.length →
    (text.getLast? = some '\n' ∧ d.snippet = "" ∧ d.length = 0) ∨
      ∃ before, text = before ++ d.snippet.toList ∧ Text.IsLine text before d.snippet.toList ∧
        d.length = 1 ∧ d.column = d.snippet.length + 1

/-- The line that an error is shown with is the one that its span tells the number of. -/
theorem ofError_lines {e : Error} (source : String) {k : Nat} (number : e.span.line = 1 + k) :
    let d := ofError e source
    d.line = e.span.line ∧ d.column = e.span.column ∧
      match (Text.lineChars source.toList)[k]? with
      | none => d.snippet = "" ∧ d.length = 0
      | some line =>
        d.snippet = .ofList line ∧
          d.length = max 1 (min e.span.length (max (line.length - (e.span.column - 1)) 1)) := by
  have somewhere : e.span.isNowhere = false := by simp [Span.isNowhere, number]
  have lines : (Text.lines source)[e.span.line - 1]? =
      ((Text.lineChars source.toList)[k]?).map String.ofList := by
    rw [number, Nat.add_sub_cancel_left, Text.lines, List.getElem?_map]
  unfold ofError
  simp only [somewhere, lines, Bool.false_eq_true, if_false]
  cases (Text.lineChars source.toList)[k]? <;> simp [unplaced]

/-- A span that begins at a character that separates nothing. -/
theorem ofError_points {e : Error} {source : String} {before rest : List Char} {c : Char}
    {length : Nat} (text : source.toList = before ++ c :: rest)
    (place : e.span = .ofPosition (.behind before) length)
    (ordinary : Token.isSeparator c = false) :
    (ofError e source).Points source.toList e.span.start := by
  have lead : ∀ d ∈ (c :: rest).head?, Token.isSeparator d = false := by simpa using ordinary
  obtain ⟨earlier, front, rfl, starts, unbroken⟩ := Text.exists_starts before
  obtain ⟨line, tail, split, filled, isLine⟩ := Text.exists_isLine starts unbroken lead
  obtain ⟨d, after, rfl⟩ := List.exists_cons_of_ne_nil (filled (List.cons_ne_nil c rest))
  obtain ⟨rfl, rfl⟩ := List.cons.inj split
  rw [← text] at isLine
  have span := place.trans (Span.ofPosition_behind starts unbroken length)
  have start : e.span.start = earlier.length + front.length := congrArg Span.start span
  have column : e.span.column = 1 + front.length := congrArg Span.column span
  have taken : source.toList.take e.span.start = earlier ++ front := by
    rw [start, text, ← List.length_append, List.take_left]
  have left : earlier.length < source.toList.length := by
    rw [text, List.length_append, List.length_append, List.length_cons]
    omega
  have shown := ofError_lines source (congrArg Span.line span)
  rw [isLine.getElem? left] at shown
  obtain ⟨sameLine, sameColumn, snippet, width⟩ := shown
  rw [List.length_append, List.length_cons] at width
  have extent : (ofError e source).snippet.length = front.length + (after.length + 1) := by
    rw [snippet, String.length_ofList, List.length_append, List.length_cons]
  refine ⟨?_, ?_, ⟨earlier, ?_, ?_, ?_⟩, ?_, ?_, ?_⟩
  · rw [sameLine, taken, place]
    rfl
  · rw [sameColumn, taken, place]
    rfl
  · rwa [snippet, String.toList_ofList]
  · rw [start]
    exact Nat.le_add_right _ _
  · omega
  · rw [sameColumn, column, start, snippet, String.toList_ofList, text]
    simp
  · rw [width]
    exact Nat.le_max_left 1 _
  · omega

/-- A span that begins at the end of a text. -/
theorem ofError_behind {e : Error} {source : String} {length : Nat}
    (filled : source.toList ≠ []) (place : e.span = .ofPosition (.behind source.toList) length) :
    let d := ofError e source
    (source.toList.getLast? = some '\n' ∧ d.snippet = "" ∧ d.length = 0) ∨
      ∃ before, source.toList = before ++ d.snippet.toList ∧
        Text.IsLine source.toList before d.snippet.toList ∧
        d.length = 1 ∧ d.column = d.snippet.length + 1 := by
  obtain ⟨earlier, front, text, starts, unbroken⟩ := Text.exists_starts source.toList
  rw [text] at place
  have span := place.trans (Span.ofPosition_behind starts unbroken length)
  have column : e.span.column = 1 + front.length := congrArg Span.column span
  have shown := ofError_lines source (congrArg Span.line span)
  cases front with
  | nil =>
    -- The text ends in a line feed, behind which the splitting finds no line.
    rw [List.append_nil] at text
    rw [text, starts.getElem?_eq_none] at shown
    rw [text] at filled
    exact .inl ⟨text ▸ starts.resolve_left filled, shown.2.2⟩
  | cons c after =>
    have isLine : Text.IsLine source.toList earlier (c :: after) :=
      ⟨starts, unbroken, [], by rw [text, List.append_nil], .inl rfl⟩
    rw [isLine.getElem? (by simp [text])] at shown
    obtain ⟨-, sameColumn, snippet, width⟩ := shown
    refine .inr ⟨earlier, ?_, ?_, ?_, ?_⟩
    · rwa [snippet, String.toList_ofList]
    · rwa [snippet, String.toList_ofList]
    · omega
    · rw [sameColumn, column, snippet, String.length_ofList, Nat.add_comm]

/-- Diagnostics underline the offending text, for every source and every error that it gives rise
to, whether it cannot be cut into tokens, cannot be read, or fails when it is run. -/
theorem ofError_underlines {source : String} {e : Error} (h : e.Arises source) :
    (ofError e source).Underlines source.toList e.span := by
  obtain ⟨positive, forward, bounded⟩ := h.marks.bounds
  obtain ⟨before, rest, length, text, place, lead⟩ := h.marks
  have start : e.span.start = before.length := congrArg Span.start place
  refine ⟨positive, forward, bounded, fun inside => ?_, fun behind => ?_⟩
  · cases rest with
    | nil => simp [text, start] at inside
    | cons c rest => exact ofError_points text place (lead c rfl)
  · cases rest with
    | nil =>
      rw [List.append_nil] at text
      exact ofError_behind h.ne_empty (text ▸ place)
    | cons c rest => simp [text, start] at behind

/-- A parenthesis that closes nothing, on the second line of a text whose lines end in a carriage
return and a line feed. -/
theorem ofError_underlines_second_line :
    let source := "a;\r\n  b + );\r\n"
    let e : Error := .parse ⟨.expectedExpression .closeParen ")", ⟨10, 11, 2, 7⟩⟩
    let d := ofError e source
    e.Arises source ∧ d.snippet = "  b + );" ∧ d.length = 1 ∧
      d.Underlines source.toList e.span := by
  intro source e d
  have failed : (parse source).map (fun _ => ()) =
      .error ⟨.expectedExpression .closeParen ")", ⟨10, 11, 2, 7⟩⟩ := by decide +kernel
  have arises : e.Arises source := by
    cases read : parse source with
    | ok p =>
      rw [read] at failed
      cases failed
    | error fault =>
      rw [read] at failed
      cases failed
      exact .parse read
  exact ⟨arises, by decide +kernel, by decide +kernel, ofError_underlines arises⟩

end Diagnostic

end SloScript
