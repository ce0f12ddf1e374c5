import SloScript.Proofs.Layout
import SloScript.Proofs.ParserSoundness
import SloScript.Proofs.Tiling

/-!
# Texts one after the other

Two texts that are joined by a line feed are cut into the tokens of the first one, which stay where
they were, and those of the second one. Where the first text ends in a semicolon, the parser makes
no difference between this place and the end of the input, so the joined text is read as the
statements of both. Without the semicolon an expression could go on behind the line feed.

Results:
1. `scan_append`: the tokens of joined texts.
2. `program_append`: the statements of joined token lists.
3. `parse_append`: the program of joined texts.
-/

namespace SloScript

namespace Token

/-! ## Tokens -/

/-- A run of characters ends where one of another sort comes. -/
theorem takeWhile_append_of_stops {p : Char → Bool} {cs rest : List Char}
    (run : ∀ c ∈ cs, p c = true) (stops : ∀ c ∈ rest.head?, p c = false) :
    (cs ++ rest).takeWhile p = cs ∧ (cs ++ rest).dropWhile p = rest := by
  rw [List.takeWhile_append_of_pos run, List.dropWhile_append_of_pos run]
  cases rest with
  | nil => simp
  | cons c rest => simp [stops c rfl]

/-- No run of letters or numerals goes on with the character, and it extends no sign. -/
structure Parts (c : Char) : Prop where
  sign : c ≠ '='
  numeral : isNumeral c = false
  letter : Text.isLetter c = false

theorem parts_feed : Parts '\n' := ⟨by decide, by decide, by decide⟩

/-- What follows begins as before, or with a character that parts it from what precedes, or there is
nothing. -/
def FollowsLike (before after : List Char) : Prop :=
  ∀ c ∈ after.head?, before.head? = some c ∨ Parts c

theorem FollowsLike.append {cs : List Char} {stop : Char} (parts : Parts stop)
    (rest : List Char) : FollowsLike cs (cs ++ stop :: rest) := by
  intro c first
  cases cs with
  | nil =>
    obtain rfl := Option.some.inj first
    exact .inr parts
  | cons d cs => exact .inl first

theorem FollowsLike.of_append (cs rest : List Char) : FollowsLike (cs ++ rest) cs := by
  intro c first
  obtain ⟨tail, rfl⟩ := List.head?_eq_some_iff.1 first
  exact .inl rfl

/-- A run of characters stays the same before what follows like before. -/
theorem FollowsLike.run {p : Char → Bool} (hp : ∀ c, Parts c → p c = false) {cs rest : List Char}
    (follows : FollowsLike (cs.dropWhile p) rest) :
    (cs.takeWhile p ++ rest).takeWhile p = cs.takeWhile p ∧
      (cs.takeWhile p ++ rest).dropWhile p = rest := by
  refine takeWhile_append_of_stops (fun c => List.mem_takeWhile_imp) fun c first => ?_
  rcases follows c first with same | parts
  · have stopped := List.head?_dropWhile_not p cs
    rw [same] at stopped
    simpa using stopped
  · exact hp c parts

/-- The same characters make the same lexeme before what follows like before. -/
theorem Lexeme.first_of_follows {c : Char} {cs : List Char} {l : Lexeme}
    (h : Lexeme.first c cs = .ok l) {rest : List Char} (follows : FollowsLike l.rest rest) :
    ∃ ds, c :: ds = l.raw ++ rest ∧ Lexeme.first c ds = .ok { l with rest := rest } := by
  unfold Lexeme.first at h ⊢
  split at h
  · cases h
    exact ⟨rest, rfl, rfl⟩
  · split at h
    · next alone extended _ =>
      split at h
      · cases h
        exact ⟨'=' :: rest, rfl, rfl⟩
      · next other =>
        cases h
        refine ⟨rest, rfl, ?_⟩
        dsimp only
        split
        · next tail =>
          -- An equality sign would have been taken along before.
          rcases follows '=' rfl with same | parts
          · obtain ⟨tail', rfl⟩ := List.head?_eq_some_iff.1 same
            exact absurd rfl (other tail')
          · exact absurd rfl parts.sign
        · rfl
    · split at h
      · next quoted =>
        split at h
        · cases h
        · next quote tail found =>
          cases h
          refine ⟨cs.takeWhile (· != '"') ++ quote :: rest, by simp, ?_⟩
          have closing : (quote != '"') = false := by
            have stopped := List.head?_dropWhile_not (· != '"') cs
            rw [found] at stopped
            simpa using stopped
          have stops : ∀ c ∈ (quote :: rest).head?, (c != '"') = false := by simpa using closing
          obtain ⟨inner, dropped⟩ :=
            takeWhile_append_of_stops (fun c => List.mem_takeWhile_imp (l := cs)) stops
          rw [if_pos quoted, inner, dropped]
      · next unquoted =>
        split at h
        · next digit =>
          cases h
          obtain ⟨taken, dropped⟩ := FollowsLike.run (fun _ => Parts.numeral) follows
          refine ⟨cs.takeWhile isNumeral ++ rest, rfl, ?_⟩
          rw [if_neg unquoted, if_pos digit, Lexeme.run, Lexeme.run, taken, dropped]
        · next other =>
          split at h
          · next letter =>
            cases h
            obtain ⟨taken, dropped⟩ := FollowsLike.run (fun _ => Parts.letter) follows
            refine ⟨cs.takeWhile Text.isLetter ++ rest, rfl, ?_⟩
            rw [if_neg unquoted, if_neg other, if_pos letter, Lexeme.run, Lexeme.run, taken,
              dropped]
          · cases h

theorem scan_lexeme {c : Char} {cs : List Char} {l : Lexeme} (proper : isSeparator c = false)
    (h : Lexeme.first c cs = .ok l) (p : Position) :
    scan p (c :: cs) = (scan (p.advance l.raw) l.rest).map
      (⟨l.kind, l.text, Span.ofPosition p l.raw.length⟩ :: ·) := by
  rw [scan, if_neg (by rw [proper]; decide)]
  split
  · next fault => cases h.symm.trans fault
  · next l' found =>
    cases h.symm.trans found
    cases scan (p.advance l.raw) l.rest <;> rfl

theorem Lexeme.kind_ne {c : Char} {cs : List Char} {l : Lexeme} (h : Lexeme.first c cs = .ok l) :
    l.kind ≠ .endOfFile := by
  intro ended
  refine raw_ne_nil h ?_
  rw [raw_eq_written h, ended]
  rfl

/-- The end of the input comes last, and nowhere else. -/
theorem scan_ends {p : Position} {cs : List Char} {ts : List Token} (h : scan p cs = .ok ts) :
    ∃ words finish, ts = words ++ [finish] ∧ finish.kind = .endOfFile ∧
      ∀ t ∈ words, t.kind ≠ .endOfFile := by
  fun_induction scan p cs generalizing ts with
  | case1 p =>
    cases h
    exact ⟨[], _, rfl, rfl, by simp⟩
  | case2 p c cs separates ih => exact ih h
  | case3 => cases h
  | case4 => cases h
  | case5 p c cs _ l found _ tokens more ih =>
    cases h
    obtain ⟨words, finish, rfl, ended, proper⟩ := ih more
    exact ⟨_ :: words, finish, rfl, ended, List.forall_mem_cons.2 ⟨Lexeme.kind_ne found, proper⟩⟩

/-- The tokens of a text stay what they are, and where they are, when a character that parts comes
behind it, with whatever follows. -/
theorem scan_append_of_parts {p : Position} {cs : List Char} {ts : List Token}
    (h : scan p cs = .ok ts) {stop : Char} (parts : Parts stop) (rest : List Char) :
    scan p (cs ++ stop :: rest) =
      (scan (p.advance cs) (stop :: rest)).map (ts.dropLast ++ ·) := by
  fun_induction scan p cs generalizing ts with
  | case1 p =>
    cases h
    rw [List.nil_append, Position.advance_nil]
    cases scan p (stop :: rest) <;> rfl
  | case2 p c cs separates ih =>
    rw [List.cons_append, scan, if_pos separates, ih h]
    rfl
  | case3 => cases h
  | case4 => cases h
  | case5 p c cs proper l found _ tokens more ih =>
    cases h
    have proper : isSeparator c = false := Bool.eq_false_iff.2 proper
    obtain ⟨_, _, rfl, -, -⟩ := scan_ends more
    obtain ⟨ds, whole, again⟩ := Lexeme.first_of_follows found (.append parts rest)
    rw [← List.append_assoc, Lexeme.raw_append_rest found] at whole
    have same : ds = cs ++ stop :: rest := (List.cons.inj whole).2
    rw [same] at again
    rw [List.cons_append, scan_lexeme proper again, ih more,
      List.dropLast_cons_of_ne_nil (by simp), ← Lexeme.raw_append_rest found,
      Position.advance_append]
    cases scan _ (stop :: rest) <;> rfl

/-- A line feed parts a text from another one. -/
theorem scan_append {p : Position} {cs : List Char} {ts : List Token} (h : scan p cs = .ok ts)
    (rest : List Char) :
    scan p (cs ++ '\n' :: rest) =
      (scan ((p.advance cs).step '\n') rest).map (ts.dropLast ++ ·) := by
  rw [scan_append_of_parts h parts_feed, scan, if_pos (by decide)]

/-- What the tokens of a text say does not depend on where the text stands. -/
theorem scan_content {p : Position} {cs : List Char} {ts : List Token} (h : scan p cs = .ok ts)
    (p' : Position) : ∃ ts', scan p' cs = .ok ts' ∧ ts'.map content = ts.map content := by
  fun_induction scan p cs generalizing ts p' with
  | case1 p =>
    cases h
    exact ⟨_, scan.eq_1 p', rfl⟩
  | case2 p c cs separates ih =>
    rw [scan, if_pos separates]
    exact ih h _
  | case3 => cases h
  | case4 => cases h
  | case5 p c cs proper l found _ tokens more ih =>
    cases h
    obtain ⟨tokens', more', same⟩ := ih more (p'.advance l.raw)
    rw [scan_lexeme (Bool.eq_false_iff.2 proper) found, more']
    refine ⟨_, rfl, ?_⟩
    rw [List.map_cons, List.map_cons, same]
    rfl

end Token

/-! ## Statements that end in a semicolon -/

theorem Operator.WrittenAs.kind_ne {op : Operator} {t : Token} (h : op.WrittenAs t) :
    t.kind ≠ .semicolon := by
  rw [h.1]
  cases op <;> decide

/-- An expression has no semicolon in it. -/
theorem Yields.kind_ne_semicolon {ts : List Token} {ph : Phrase} (h : Yields ts ph) :
    ∀ t ∈ ts, t.kind ≠ .semicolon := by
  induction h with
  | product _ _ written _ iha ihb | sum _ _ written _ iha ihb =>
    have := written.kind_ne
    simp_all [or_imp]
  | _ => simp_all [or_imp]

/-- The last token is a closing brace. -/
def EndInBrace (ts : List Token) : Prop := ∃ us z, ts = us ++ [z] ∧ z.kind = .closeBrace

theorem EndInBrace.append {us : List Token} (h : EndInBrace us) (ts : List Token) :
    EndInBrace (ts ++ us) := by
  obtain ⟨vs, z, rfl, hz⟩ := h
  exact ⟨ts ++ vs, z, by simp, hz⟩

/-- What has a block at its end ends in the closing brace. -/
def Clause.EndsInBrace (ts : List Token) : Clause → Prop
  | .stmt (.function ..) | .stmt (.branch ..) => EndInBrace ts
  | .alternative _ => ts = [] ∨ EndInBrace ts
  | _ => True

theorem Derives.endsInBrace {loose : Bool} {ts : List Token} {cl : Clause}
    (h : Derives loose ts cl) : cl.EndsInBrace ts := by
  induction h with
  | @function w t l r o z ps ts _ _ _ _ _ _ _ _ _ _ hz =>
    exact ⟨w :: t :: l :: (ps ++ r :: o :: ts), z, by simp, hz⟩
  | @branch w l r o z ts us vs _ _ _ _ _ _ _ _ _ hz _ _ ih =>
    have split : w :: l :: (ts ++ r :: o :: (us ++ z :: vs)) =
        (w :: l :: (ts ++ r :: o :: (us ++ [z]))) ++ vs := by simp
    rw [split]
    rcases ih with rfl | ends
    · exact ⟨w :: l :: (ts ++ r :: o :: us), z, by simp, hz⟩
    · exact ends.append _
  | noElse => exact .inl rfl
  | @elseIf w _ _ _ _ _ _ _ ih => exact .inr (ih.append [w])
  | @elseBlock w o z ts _ _ _ _ hz => exact .inr ⟨w :: o :: ts, z, by simp, hz⟩
  | _ => trivial

/-- A statement that ends in a semicolon has the strict form. -/
theorem Derives.strict_of_semicolon {ts : List Token} {s : Stmt} {z : Token}
    (h : Derives true ts (.stmt s)) (last : ts.getLast? = some z) (hz : z.kind = .semicolon) :
    Derives false ts (.stmt s) := by
  have unbraced : ¬EndInBrace ts := by
    rintro ⟨us, y, rfl, hy⟩
    obtain rfl : y = z := by simpa using last
    cases hy.symm.trans hz
  have ends := h.endsInBrace
  cases h with
  | letBare hw ht hz => exact .letBare hw ht hz
  | letInit hw ht hq y hz => exact .letInit hw ht hq y hz
  | letConst hw ht hq y hz => exact .letConst hw ht hq y hz
  | function => exact absurd ends unbraced
  | branch => exact absurd ends unbraced
  | expr y hz => exact .expr y hz
  | exprOpen _ y => exact absurd hz (y.kind_ne_semicolon z (List.mem_of_getLast? last))

namespace Outcome

variable {α β γ : Type}

theorem bind_ok (o : Outcome α) : o.bind .ok = o := by
  cases o <;> rfl

theorem bind_bind (o : Outcome α) (f : α → Cursor → Outcome β) (g : β → Cursor → Outcome γ) :
    (o.bind f).bind g = o.bind fun a d => (f a d).bind g := by
  cases o <;> rfl

end Outcome

namespace Parser

theorem program_of_statement {c d : Cursor} {stmt : Stmt} (h : (statement c).val = .ok stmt d) :
    (program c).val = (program d).val.bind fun stmts e => .ok (stmt :: stmts) e := by
  have moved := (statement c).property
  rw [h] at moved
  have more : ¬c.atEnd = true := by
    intro ended
    have none : c.size = 0 := by
      rw [Cursor.size, List.isEmpty_iff.1 ended]
      rfl
    exact absurd moved (by simp [Outcome.Within, none])
  rw [program, if_neg more]
  refine Step.andThen_of_ok h fun _ => ?_
  exact Step.andThen_val _ _ _ _ fun _ _ _ => rfl

/-- A statement is read in the same way when more tokens follow, unless it ends where the tokens do
and no semicolon says that it is complete. -/
theorem statement_append {c d : Cursor} {stmt : Stmt} (spelled : c.Spelled)
    (read : (statement c).val = .ok stmt d)
    (closed : ∀ t, c.rest.getLast? = some t → t.kind = .semicolon) {us : List Token}
    {finish : Token} (noElse : (⟨d.last, us, finish⟩ : Cursor).sees .elseWord = false) :
    (statement ⟨c.last, c.rest ++ us, finish⟩).val = .ok stmt ⟨d.last, d.rest ++ us, finish⟩ := by
  by_cases more : 0 < d.size
  · have whole : c.rest = c.rest ++ [] := (List.append_nil _).symm
    obtain ⟨vs, -, left, next⟩ := statement_of_shared whole read more us finish
    rwa [left, List.append_nil]
  · have ended : d.rest = [] := List.eq_nil_of_length_eq_zero (Nat.eq_zero_of_not_pos more)
    obtain ⟨ts, reads, derives⟩ := statement_sound spelled read
    have all : c.rest = ts := by rw [reads.rest, ended, List.append_nil]
    have some : ts ≠ [] := by
      obtain ⟨t, us, rfl, -⟩ : (Clause.stmt stmt).StartsIn ts := derives.startsIn
      exact List.cons_ne_nil t us
    have last := List.getLast?_eq_some_getLast some
    have strict := derives.strict_of_semicolon last (closed _ (all ▸ last))
    refine strict.readFrom _ _ ⟨?_, reads.last, rfl⟩ ?_
    · rw [all, ended, List.nil_append]
    · rw [ended]
      exact noElse

/-- Behind statements that end in a semicolon, reading goes on as it does from the start. -/
theorem program_append {c d : Cursor} {p : Program} (spelled : c.Spelled)
    (read : (program c).val = .ok p d)
    (closed : ∀ t, c.rest.getLast? = some t → t.kind = .semicolon) {us : List Token}
    {finish : Token}
    (noElse : (⟨lastSpan c.last c.rest, us, finish⟩ : Cursor).sees .elseWord = false) :
    (program ⟨c.last, c.rest ++ us, finish⟩).val =
      (program ⟨lastSpan c.last c.rest, us, finish⟩).val.bind fun q e => .ok (p ++ q) e := by
  rw [program] at read
  split at read
  · next ended =>
    cases read
    rw [List.isEmpty_iff.1 ended]
    exact (Outcome.bind_ok _).symm
  · obtain ⟨stmt, d, shorter, first, read⟩ := Step.of_andThen_ok read
    obtain ⟨stmts, e, -, rest, read⟩ := Step.of_andThen_ok read
    cases read
    obtain ⟨ts, reads, -⟩ := statement_sound spelled first
    have next := statement_append spelled first closed noElse
    have later : lastSpan d.last d.rest = lastSpan c.last c.rest := by
      rw [reads.last, reads.rest, lastSpan_append]
    have closed' : ∀ t, d.rest.getLast? = some t → t.kind = .semicolon := by
      intro t last
      refine closed t ?_
      rw [reads.rest, List.getLast?_append, last]
      rfl
    have onward := program_append (spelled.of_reads reads) rest closed' (later.symm ▸ noElse)
    rw [program_of_statement next, onward, later, Outcome.bind_bind]
    rfl
termination_by c.size
decreasing_by omega

end Parser

/-! ## Programs -/

/-- Nothing counts behind the end of the input. -/
theorem Cursor.ofTokens_append {words : List Token} {finish : Token}
    (proper : ∀ t ∈ words, t.kind ≠ .endOfFile) (ended : finish.kind = .endOfFile)
    (later : List Token) : ofTokens (words ++ finish :: later) = ⟨.nowhere, words, finish⟩ := by
  have all : ∀ t ∈ words, decide (t.kind ≠ .endOfFile) = true := fun t ht => by simp [proper t ht]
  unfold ofTokens
  rw [List.takeWhile_append_of_pos all, List.dropWhile_append_of_pos all]
  simp [ended]

theorem Outcome.result_eq_ok {α : Type} {o : Outcome α} {a : α} :
    o.result = .ok a ↔ ∃ d, o = .ok a d := by
  cases o <;> simp [result]

/-- The program of a text is read from the tokens before the end of the input. -/
theorem parse_eq_result {source : String} {words : List Token} {finish : Token}
    (cut : tokenize source = .ok (words ++ [finish])) (ended : finish.kind = .endOfFile)
    (proper : ∀ t ∈ words, t.kind ≠ .endOfFile) :
    parse source = (Cursor.parse ⟨.nowhere, words, finish⟩).result := by
  rw [← Cursor.ofTokens_append proper ended [], ← parseTokens_eq, parse, cut]

theorem parse_eq_ok {source : String} {p : Program} (h : parse source = .ok p) :
    ∃ words finish d, tokenize source = .ok (words ++ [finish]) ∧ finish.kind = .endOfFile ∧
      (∀ t ∈ words, t.kind ≠ .endOfFile) ∧
      (Parser.program ⟨.nowhere, words, finish⟩).val = .ok p d := by
  cases cut : tokenize source with
  | error e =>
    rw [parse, cut] at h
    cases h
  | ok ts =>
    obtain ⟨words, finish, rfl, ended, proper⟩ := Token.scan_ends cut
    rw [parse_eq_result cut ended proper] at h
    obtain ⟨d, read⟩ := Outcome.result_eq_ok.1 h
    exact ⟨words, finish, d, rfl, ended, proper, read⟩

/-- Where a program begins, no alternative does. -/
theorem Parser.sees_else_of_program {c d : Cursor} {p : Program} (spelled : c.Spelled)
    (ended : c.finish.kind = .endOfFile) (read : (program c).val = .ok p d) :
    c.sees .elseWord = false := by
  have starts : ∀ t ∈ c.rest.head?, t.kind ∈ Kind.starters := (program_sound spelled read).startsIn
  obtain ⟨last, rest, finish⟩ := c
  refine decide_eq_false fun seen => ?_
  cases rest with
  | nil => cases ended.symm.trans seen
  | cons t ts =>
    have start := starts t rfl
    rw [show t.kind = .elseWord from seen] at start
    exact absurd start (by decide)

theorem Cursor.Spelled.of_tokenize {source : String} {words : List Token} {finish : Token}
    (cut : tokenize source = .ok (words ++ [finish])) (last : Span) :
    (⟨last, words, finish⟩ : Cursor).Spelled :=
  fun _ ht => Token.spells_of_mem_scan cut (List.mem_append_left _ ht)

/-- The tokens of joined texts: those of the first, and those of the second in another place. -/
theorem tokenize_append {first second : String} {words others : List Token} {finish finish' : Token}
    (cut : tokenize first = .ok (words ++ [finish]))
    (cut' : tokenize second = .ok (others ++ [finish'])) :
    ∃ moved last, tokenize (first ++ "\n" ++ second) = .ok (words ++ moved ++ [last]) ∧
      last.kind = .endOfFile ∧ (∀ t ∈ moved, t.kind ≠ .endOfFile) ∧
      moved.map (Token.relocate .erase) = others.map (Token.relocate .erase) ∧
      last.relocate .erase = finish'.relocate .erase := by
  let behind := (Position.origin.advance first.toList).step '\n'
  obtain ⟨_, again, same⟩ := Token.scan_content cut' behind
  obtain ⟨moved, last, rfl, ended, proper⟩ := Token.scan_ends again
  have erased := map_erase_of_content same
  rw [List.map_append, List.map_append] at erased
  obtain ⟨left, right⟩ := List.append_inj' erased rfl
  refine ⟨moved, last, ?_, ended, proper, left, (List.cons.inj right).1⟩
  have text : (first ++ "\n" ++ second).toList = first.toList ++ '\n' :: second.toList := by simp
  rw [tokenize, text, Token.scan_append cut, again, List.dropLast_concat, List.append_assoc]
  rfl

/-- Texts that are joined by a line feed are read as the statements of both, up to the spans of the
second ones, if the first text ends in a semicolon or has no tokens. -/
theorem parse_append {first second : String} {p q : Program} (read : parse first = .ok p)
    (closed : ∀ ts, tokenize first = .ok ts → ∀ t, ts.dropLast.getLast? = some t →
      t.kind = .semicolon)
    (read' : parse second = .ok q) :
    ∃ q', parse (first ++ "\n" ++ second) = .ok (p ++ q') ∧ bareBody q' = bareBody q := by
  obtain ⟨words, finish, d, cut, -, proper, reads⟩ := parse_eq_ok read
  obtain ⟨others, finish', d', cut', ended', -, reads'⟩ := parse_eq_ok read'
  obtain ⟨moved, last, whole, ended, proper', erased, finished⟩ := tokenize_append cut cut'
  let here : Cursor := ⟨lastSpan .nowhere words, moved, last⟩
  let there : Cursor := ⟨.nowhere, others, finish'⟩
  have alike : here.relocate .erase = there.relocate .erase :=
    Cursor.mk.injEq .. ▸ ⟨rfl, erased, finished⟩
  have noElse : here.sees .elseWord = false := by
    have seen (c : Cursor) : (c.relocate .erase).sees .elseWord = c.sees .elseWord :=
      Tracking.sees (T := .image .erase) rfl .elseWord
    rw [← seen, alike, seen]
    exact Parser.sees_else_of_program (.of_tokenize cut' _) ended' reads'
  have closed' : ∀ t, words.getLast? = some t → t.kind = .semicolon := by
    have behind := closed _ cut
    rwa [List.dropLast_concat] at behind
  have joined := Parser.program_append (.of_tokenize cut .nowhere) reads closed' noElse
  have results : bareProgram here.parse.result = .ok (bareBody q) := by
    rw [bareProgram_parse, alike, ← bareProgram_parse, Cursor.parse, reads']
    rfl
  rw [parse_eq_result whole ended (List.forall_mem_append.2 ⟨proper, proper'⟩), Cursor.parse,
    joined]
  unfold Cursor.parse at results
  cases read₂ : (Parser.program here).val with
  | ok q' e =>
    rw [read₂] at results
    exact ⟨q', rfl, Except.ok.inj results⟩
  | fail error e =>
    rw [read₂] at results
    cases results

end SloScript
