import SloScript.Proofs.Spelling

/-!
# Tokens tile their text

A text that can be cut into tokens is cut without loss: token after token, with nothing but
separators between them, and the end of the input after the last one. Where each token stands is
found by counting along the way, line feeds inside of quotes included; here the place is counted
anew from the characters before the token as a whole (`Position.behind`), and the two agree.

`Laid before rest tokens` lays tokens along a text of which `before` has been read already.
Scanning does just that (`scan_laid`), and what a reader of the tokens wants to know follows from
it by one induction each: how the tokens end, where they start, that they do not overlap, what they
leave out and what each of them covers. `tokenize_tiles` puts these together.
-/

namespace SloScript

/-! ## Places counted from the text before them -/

namespace Position

/-- The place behind the given characters: the line feeds among them start new lines, and those
after the last line feed are the ones before it on its own line. -/
def behind (before : List Char) : Position where
  offset := before.length
  line := 1 + before.count '\n'
  column := 1 + (before.reverse.takeWhile (· ≠ '\n')).length

theorem behind_nil : behind [] = origin := rfl

theorem step_behind (before : List Char) (c : Char) :
    (behind before).step c = behind (before ++ [c]) := by
  unfold step
  split
  · next feed =>
    subst feed
    simp [behind, Nat.add_assoc]
  · next other => simp [behind, other, Nat.add_comm]

/-- Counting along a text gives the same place as counting the text as a whole. -/
theorem advance_behind (before cs : List Char) :
    (behind before).advance cs = behind (before ++ cs) := by
  induction cs generalizing before with
  | nil => simp
  | cons c cs ih => rw [advance_cons, step_behind, ih, List.append_assoc, List.singleton_append]

end Position

/-! ## How tokens are written -/

/-- The characters that a token of this kind and text is written with. Only a text in quotes is
written differently from what the token carries, and the end of the input is not written at all. -/
def Kind.written : Kind → String → List Char
  | .string, text => '"' :: (text.toList ++ ['"'])
  | .endOfFile, _ => []
  | _, text => text.toList

/-- A kind whose tokens are written as the text they carry. -/
def Kind.Plain (kind : Kind) : Prop := ∀ text, kind.written text = text.toList

/-- The stretch of a text that a span covers. -/
def Span.slice (span : Span) (text : List Char) : List Char :=
  (text.drop span.start).take span.length

namespace Token

/-- The characters that a token is written with. -/
def written (t : Token) : List Char := t.kind.written t.text

theorem plain_of_signKind? {c : Char} {kind : Kind} (h : signKind? c = some kind) : kind.Plain := by
  unfold signKind? at h
  iterate 11
    rcases Kind.ite_some_eq_some h with ⟨_, rfl⟩ | h
    · exact fun _ => rfl
  cases h

theorem plain_of_extensibleKinds? {c : Char} {alone extended : Kind}
    (h : extensibleKinds? c = some (alone, extended)) : alone.Plain ∧ extended.Plain := by
  unfold extensibleKinds? at h
  iterate 4
    rcases Kind.ite_some_eq_some h with ⟨_, he⟩ | h
    · cases he
      exact ⟨fun _ => rfl, fun _ => rfl⟩
  cases h

theorem plain_word (word : String) : ((Kind.ofKeyword? word).getD .identifier).Plain := by
  cases hk : Kind.ofKeyword? word with
  | none => exact fun _ => rfl
  | some kind =>
    unfold Kind.ofKeyword? at hk
    iterate 5
      rcases Kind.ite_some_eq_some hk with ⟨_, rfl⟩ | hk
      · exact fun _ => rfl
    cases hk

/-- A lexeme takes up just the characters that its token is written with. -/
theorem Lexeme.raw_eq_written {c : Char} {cs : List Char} {l : Lexeme}
    (h : Lexeme.first c cs = .ok l) : l.raw = l.kind.written l.text := by
  unfold Lexeme.first at h
  split at h
  · next kind hk =>
    cases h
    simp [plain_of_signKind? hk _]
  · split at h
    · next alone extended hk =>
      obtain ⟨ha, he⟩ := plain_of_extensibleKinds? hk
      split at h
      · cases h
        simp [he _]
      · cases h
        simp [ha _]
    · split at h
      · next hq =>
        subst hq
        split at h
        · cases h
        · next quote rest hd =>
          cases h
          -- What stopped the run before the closing quote is a quote.
          have closing : quote = '"' := by
            have := List.head?_dropWhile_not (fun x : Char => x != '"') cs
            simpa [hd] using this
          simp [Kind.written, closing]
      · split at h
        · cases h
          simp [Lexeme.run, Kind.written]
        · split at h
          · cases h
            simp [Lexeme.run, plain_word _ _]
          · cases h

/-! ## Tokens along a text -/

/-- Tokens laid along a text of which `before` has been read and `rest` has not: a separator belongs
to no token, and every other stretch is what one token is written with, at the place behind all that
precedes it. -/
inductive Laid : (before rest : List Char) → List Token → Prop
  | finish (before : List Char) :
      Laid before [] [Token.finish (Span.ofPosition (.behind before) 0)]
  | skip {before rest : List Char} {c : Char} {tokens : List Token} :
      isSeparator c = true → Laid (before ++ [c]) rest tokens → Laid before (c :: rest) tokens
  | token {before rest : List Char} {kind : Kind} {text : String} {tokens : List Token} :
      kind.written text ≠ [] → Laid (before ++ kind.written text) rest tokens →
      Laid before (kind.written text ++ rest)
        (⟨kind, text, Span.ofPosition (.behind before) (kind.written text).length⟩ :: tokens)

/-- Scanning lays tokens along the text. -/
theorem scan_laid {before cs : List Char} {tokens : List Token}
    (h : scan (.behind before) cs = .ok tokens) : Laid before cs tokens := by
  generalize hp : Position.behind before = p at h
  fun_induction scan p cs generalizing before tokens with
  | case1 p =>
    cases h
    subst hp
    exact .finish before
  | case2 p c cs hs ih =>
    subst hp
    exact .skip hs (ih (Position.step_behind before c).symm h)
  | case3 => cases h
  | case4 => cases h
  | case5 p c cs hs l hl hlt rest hr ih =>
    cases h
    subst hp
    have raw := Lexeme.raw_eq_written hl
    have nonempty := Lexeme.raw_ne_nil hl
    have next := ih (Position.advance_behind before l.raw).symm hr
    rw [← Lexeme.raw_append_rest hl]
    rw [raw] at nonempty next ⊢
    exact .token nonempty next

namespace Laid

variable {before rest : List Char} {tokens : List Token}

/-- The end of the input is marked at the end, and every token before it is written with
something. -/
theorem ends (h : Laid before rest tokens) :
    ∃ words, tokens = words ++ [.finish (Span.ofPosition (.behind (before ++ rest)) 0)] ∧
      ∀ t ∈ words, t.written ≠ [] := by
  induction h with
  | finish before => exact ⟨[], by simp, by simp⟩
  | skip _ _ ih =>
    rw [List.append_cons]
    exact ih
  | token nonempty _ ih =>
    obtain ⟨words, rfl, proper⟩ := ih
    rw [← List.append_assoc]
    refine ⟨_ :: words, rfl, fun t ht => ?_⟩
    rcases List.mem_cons.1 ht with rfl | ht
    · exact nonempty
    · exact proper t ht

/-- Tokens start where reading has come to, or later. -/
theorem start_le (h : Laid before rest tokens) : ∀ t ∈ tokens, before.length ≤ t.span.start := by
  induction h with
  | finish before =>
    intro t ht
    rw [List.mem_singleton.1 ht]
    exact Nat.le_refl _
  | skip _ _ ih =>
    intro t ht
    have later := ih t ht
    rw [List.length_append] at later
    omega
  | token _ _ ih =>
    intro t ht
    rcases List.mem_cons.1 ht with rfl | ht
    · exact Nat.le_refl _
    · have later := ih t ht
      rw [List.length_append] at later
      omega

/-- A token ends before the next one starts. -/
theorem ordered (h : Laid before rest tokens) :
    tokens.Pairwise fun t u => t.span.stop ≤ u.span.start := by
  induction h with
  | finish => exact List.pairwise_singleton _ _
  | skip _ _ ih => exact ih
  | token _ laid ih =>
    refine List.pairwise_cons.2 ⟨fun u hu => ?_, ih⟩
    have later := laid.start_le u hu
    rwa [List.length_append] at later

/-- What is left to read belongs to a token or separates tokens. -/
theorem covers (h : Laid before rest tokens) {i : Nat} {c : Char} (hi : before.length ≤ i)
    (hc : (before ++ rest)[i]? = some c) :
    isSeparator c = true ∨ ∃ t ∈ tokens, t.span.start ≤ i ∧ i < t.span.stop := by
  induction h with
  | finish before =>
    rw [List.append_nil, List.getElem?_eq_none hi] at hc
    cases hc
  | @skip before rest d tokens hd _ ih =>
    by_cases here : i = before.length
    · subst here
      obtain rfl : d = c := by simpa using hc
      exact .inl hd
    · refine ih ?_ (by rwa [List.append_cons] at hc)
      rw [List.length_append, List.length_singleton]
      omega
  | @token before rest kind text tokens _ _ ih =>
    by_cases here : i < before.length + (kind.written text).length
    · exact .inr ⟨_, List.mem_cons_self, hi, here⟩
    · rw [← List.append_assoc] at hc
      rcases ih (by rw [List.length_append]; omega) hc with separator | ⟨t, ht, within⟩
      · exact .inl separator
      · exact .inr ⟨t, List.mem_cons_of_mem _ ht, within⟩

end Laid

/-! ## Tokens and the text they stand in -/

/-- A token stands in a text where its span says: the span covers what the token is written with,
and its line and column are counted from the text before it. -/
structure StandsIn (text : List Char) (t : Token) : Prop where
  inside : t.span.start ≤ t.span.stop ∧ t.span.stop ≤ text.length
  slice : t.span.slice text = t.written
  line : t.span.line = 1 + (text.take t.span.start).count '\n'
  column : t.span.column = 1 + ((text.take t.span.start).reverse.takeWhile (· ≠ '\n')).length

theorem standsIn_append (before rest : List Char) (kind : Kind) (text : String) :
    StandsIn (before ++ (kind.written text ++ rest))
      ⟨kind, text, Span.ofPosition (.behind before) (kind.written text).length⟩ where
  inside := by simp [Span.ofPosition, Position.behind]
  slice := by simp [Span.slice, Span.length, Span.ofPosition, Position.behind, written]
  line := by simp [Span.ofPosition, Position.behind]
  column := by simp [Span.ofPosition, Position.behind]

theorem Laid.stands {before rest : List Char} {tokens : List Token}
    (h : Laid before rest tokens) : ∀ t ∈ tokens, t.StandsIn (before ++ rest) := by
  induction h with
  | finish before =>
    intro t ht
    rw [List.mem_singleton.1 ht]
    exact standsIn_append before [] .endOfFile endText
  | skip _ _ ih =>
    rwa [List.append_cons]
  | @token before rest kind text tokens _ _ ih =>
    intro t ht
    rcases List.mem_cons.1 ht with rfl | ht
    · exact standsIn_append before rest kind text
    · rw [← List.append_assoc]
      exact ih t ht

/-- The token of a stretch that is not empty covers at least one character. -/
theorem StandsIn.start_lt_stop {text : List Char} {t : Token} (h : t.StandsIn text)
    (nonempty : t.written ≠ []) : t.span.start < t.span.stop := by
  refine Nat.lt_of_not_le fun le => nonempty ?_
  rw [← h.slice]
  simp [Span.slice, Span.length, Nat.sub_eq_zero_of_le le]

theorem mem_of_isSeparator {c : Char} (h : isSeparator c = true) :
    c ∈ [' ', '\t', '\n', '\r', '\x00'] := by
  simp only [isSeparator, Bool.or_eq_true, beq_iff_eq] at h
  rcases h with (((rfl | rfl) | rfl) | rfl) | zero
  · decide
  · decide
  · decide
  · decide
  · obtain rfl : c = '\x00' := Char.toNat_inj.1 zero
    decide

/-- Tokens tile a text: proper tokens in order, nothing but separators between them, and the end of
the input last. -/
structure Tiling (text : List Char) (words : List Token) (finish : Token) : Prop where
  ends : finish.kind = .endOfFile ∧ finish.text = "EndOfFile" ∧
    finish.span.start = text.length ∧ finish.span.stop = text.length
  proper : ∀ t ∈ words, t.kind ≠ .endOfFile ∧ t.span.start < t.span.stop
  ordered : words.Pairwise fun t u => t.span.stop ≤ u.span.start
  gaps : ∀ (i : Nat) (c : Char), text[i]? = some c →
    (∀ t ∈ words, ¬(t.span.start ≤ i ∧ i < t.span.stop)) →
    c ∈ [' ', '\t', '\n', '\r', '\x00']
  stands : ∀ t ∈ words ++ [finish], t.StandsIn text

theorem Laid.tiling {text : List Char} {tokens : List Token} (h : Laid [] text tokens) :
    ∃ words finish, tokens = words ++ [finish] ∧ Tiling text words finish := by
  obtain ⟨words, rfl, proper⟩ := h.ends
  refine ⟨words, _, rfl, ⟨rfl, rfl, rfl, rfl⟩, fun t ht => ?_, ?_, fun i c hc free => ?_, h.stands⟩
  · have stands := h.stands t (List.mem_append_left _ ht)
    refine ⟨fun hk => proper t ht ?_, stands.start_lt_stop (proper t ht)⟩
    unfold written
    rw [hk]
    rfl
  · exact (List.pairwise_append.1 h.ordered).1
  · rcases h.covers (Nat.zero_le i) hc with separator | ⟨t, ht, within⟩
    · exact mem_of_isSeparator separator
    · rcases List.mem_append.1 ht with ht | ht
      · exact absurd within (free t ht)
      · -- The end of the input covers nothing.
        rw [List.mem_singleton.1 ht] at within
        exact absurd within.2 (Nat.not_lt.2 within.1)

end Token

/-- A text that can be cut into tokens is tiled by them. There is one end of the input, the last
token, with an empty span behind all characters; the other tokens cover stretches of one character
or more, one after the other, and a character that none of them covers is a space, a tab, a line
feed, a carriage return or a zero character. Each token is written with just the characters that its
span covers, quotes around a text included, and its line and column are those of the first of these
characters, whatever lies before it. -/
theorem tokenize_tiles {source : String} {tokens : List Token}
    (h : tokenize source = .ok tokens) :
    ∃ words finish, tokens = words ++ [finish] ∧ Token.Tiling source.toList words finish := by
  unfold tokenize at h
  rw [← Position.behind_nil] at h
  exact (Token.scan_laid h).tiling

/-- A name, a number right behind it, a text in quotes over two lines, and a sign of two characters
after a carriage return and a zero character. -/
theorem tokenize_tiles_two_lines :
    let source := "x1 \"a\nb\"\r\x00<="
    let tokens : List Token := [
      ⟨.identifier, "x", ⟨0, 1, 1, 1⟩⟩, ⟨.number, "1", ⟨1, 2, 1, 2⟩⟩,
      ⟨.string, "a\nb", ⟨3, 8, 1, 4⟩⟩, ⟨.lessEquals, "<=", ⟨10, 12, 2, 5⟩⟩,
      ⟨.endOfFile, "EndOfFile", ⟨12, 12, 2, 7⟩⟩]
    tokenize source = .ok tokens ∧
      ∃ words finish, tokens = words ++ [finish] ∧ Token.Tiling source.toList words finish := by
  intro source tokens
  have cut : tokenize source = .ok tokens := by decide +kernel
  exact ⟨cut, tokenize_tiles cut⟩

end SloScript
