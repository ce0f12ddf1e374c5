import SloScript.Proofs.Joining

/-!
# Words set with blanks between them

A *word* is a kind and a text that a token can carry. Words are set as a text by writing each of
them out, a text in quotes with its quotes, with blanks between one word and the next. Whatever the
blanks are, as long as there are some, cutting the text into tokens gives the words back. Nothing
but well-formed words is ever cut out of a text, so a text may be set anew from its own tokens.

A lexeme is the longest stretch that one token can take. The blank behind a word is what ends it, so
each kind of word only has to be compared with the character that follows it
(`Lexeme.first_written`).

Results:
1. `scan_typeset`: well-formed words are cut out of the text that they are set as.
2. `scan_wellFormed`: all words that are cut out of a text are well-formed.
3. `tokenize_typeset`: both together, and cutting, setting and cutting again.
-/

namespace SloScript

namespace Token

/-! ## Words and blanks -/

/-- A kind other than the end of the input, with a text that is spelled as the kind demands. -/
def WellFormed (word : Kind × String) : Prop := word.1 ≠ .endOfFile ∧ word.1.Spells word.2

/-- The characters that may stand between words. -/
def blanks : List Char := [' ', '\t', '\n', '\r', '\x00']

/-- A word with the characters that are set before it. -/
structure Setting where
  gap : List Char
  word : Kind × String

/-- The text of words with their gaps, and `tail` behind the last one. -/
def typeset (settings : List Setting) (tail : List Char) : List Char :=
  settings.flatMap (fun s => s.gap ++ s.word.1.written s.word.2) ++ tail

/-- Nothing but blanks stands between words, and only the first one may follow nothing. -/
structure Spaced (settings : List Setting) (tail : List Char) : Prop where
  gaps : ∀ s ∈ settings, ∀ c ∈ s.gap, c ∈ blanks
  apart : ∀ s ∈ settings.tail, s.gap ≠ []
  tail : ∀ c ∈ tail, c ∈ blanks

theorem isSeparator_of_mem {c : Char} (h : c ∈ blanks) : isSeparator c = true := by
  simp only [blanks, List.mem_cons, List.not_mem_nil, or_false] at h
  rcases h with rfl | rfl | rfl | rfl | rfl <;> decide

theorem typeset_cons (s : Setting) (settings : List Setting) (tail : List Char) :
    typeset (s :: settings) tail =
      s.gap ++ (s.word.1.written s.word.2 ++ typeset settings tail) := by
  simp [typeset]

/-! ## The first lexeme -/

/-- The text is at its end, or a separator comes next. -/
def EndsWord (rest : List Char) : Prop := ∀ c ∈ rest.head?, isSeparator c = true

/-- The characters that signs begin with. -/
def signs : List Char :=
  ['(', ')', '\x7b', '\x7d', '[', ']', ',', '.', ':', ';', '+', '-', '*', '/', '%', '=', '!', '<',
    '>']

theorem signs_eq_none {c : Char} (h : c ∉ signs) :
    signKind? c = none ∧ extensibleKinds? c = none := by
  simp only [signs, List.mem_cons, List.not_mem_nil, or_false, not_or] at h
  simp [signKind?, extensibleKinds?, h]

/-- A class of characters that leaves out the signs, the quote and the separators. -/
def Begins (p : Char → Bool) : Prop := ('"' :: (signs ++ blanks)).any p = false

theorem begins_isDigit : Begins Char.isDigit := by
  unfold Begins
  decide

theorem begins_isLetter : Begins Text.isLetter := by
  unfold Begins
  decide

namespace Begins

variable {p : Char → Bool} {c : Char}

theorem not_mem (h : Begins p) (hc : p c = true) : c ∉ '"' :: (signs ++ blanks) :=
  fun member => List.any_eq_false.1 h c member hc

theorem isSeparator_eq_false (h : Begins p) (hc : p c = true) : isSeparator c = false := by
  refine Bool.eq_false_iff.2 fun separates => h.not_mem hc ?_
  exact List.mem_cons_of_mem _ (List.mem_append_right _ (mem_of_isSeparator separates))

/-- Only the classes of digits and letters remain for such a character. -/
theorem first_eq (h : Begins p) (hc : p c = true) (cs : List Char) :
    Lexeme.first c cs =
      if c.isDigit then .ok (.run (fun _ => .number) isNumeral c cs)
      else if Text.isLetter c then
        .ok (.run (fun word => (Kind.ofKeyword? word).getD .identifier) Text.isLetter c cs)
      else .error (.unexpectedCharacter c) := by
  have outside := h.not_mem hc
  have noSign : c ∉ signs := fun member =>
    outside (List.mem_cons_of_mem _ (List.mem_append_left _ member))
  have noQuote : c ≠ '"' := fun same => outside (same ▸ List.mem_cons_self)
  obtain ⟨alone, extensible⟩ := signs_eq_none noSign
  unfold Lexeme.first
  rw [alone, extensible]
  simp only [if_neg noQuote]

end Begins

theorem isDigit_eq_false_of_isLetter {c : Char} (h : Text.isLetter c = true) :
    c.isDigit = false := by
  refine Bool.eq_false_iff.2 fun digit => ?_
  have numeral : 48 ≤ c.toNat ∧ c.toNat ≤ 57 := by
    simpa [Char.isDigit, UInt32.le_iff_toNat_le] using digit
  -- So early among the characters, only the plain letters count.
  rw [Text.isLetter, if_pos (by omega)] at h
  have alphabetic : 65 ≤ c.toNat ∧ c.toNat ≤ 90 ∨ 97 ≤ c.toNat ∧ c.toNat ≤ 122 := by
    rcases Bool.or_eq_true_iff.1 h with upper | lower
    · have bounds : 65 ≤ c.val ∧ c.val ≤ 90 := of_decide_eq_true upper
      exact .inl bounds
    · have bounds : 97 ≤ c.val ∧ c.val ≤ 122 :=
        (Bool.and_eq_true_iff.1 lower).imp of_decide_eq_true of_decide_eq_true
      exact .inr bounds
  omega

theorem EndsWord.run {rest : List Char} (ends : EndsWord rest) {p : Char → Bool}
    (hp : blanks.any p = false) {cs : List Char} (hcs : ∀ c ∈ cs, p c = true) :
    (cs ++ rest).takeWhile p = cs ∧ (cs ++ rest).dropWhile p = rest := by
  refine takeWhile_append_of_stops hcs fun c first => Bool.eq_false_iff.2 ?_
  exact List.any_eq_false.1 hp c (mem_of_isSeparator (ends c first))

/-- The word stands first in any text in which it is followed by nothing or by a separator. -/
def Lead (kind : Kind) (text : String) : Prop :=
  ∀ rest, EndsWord rest → ∃ c cs, kind.written text ++ rest = c :: cs ∧ isSeparator c = false ∧
    Lexeme.first c cs = .ok ⟨kind, kind.written text, text, rest⟩

namespace Lead

theorem number {c : Char} {cs : List Char} {text : String} (letters : text.toList = c :: cs)
    (digit : c.isDigit = true) (numerals : ∀ d ∈ cs, isNumeral d = true) :
    Lead .number text := by
  intro rest ends
  obtain rfl : text = String.ofList (c :: cs) := by rw [← letters, String.ofList_toList]
  obtain ⟨taken, dropped⟩ := ends.run (p := isNumeral) (by decide) numerals
  refine ⟨c, cs ++ rest, ?_, begins_isDigit.isSeparator_eq_false digit, ?_⟩
  · simp [Kind.written]
  · rw [begins_isDigit.first_eq digit, if_pos digit, Lexeme.run, taken, dropped]
    simp [Kind.written]

/-- A run of letters is a reserved word or a name. -/
theorem word {text : String} (nonempty : text ≠ "")
    (letters : ∀ c ∈ text.toList, Text.isLetter c = true) :
    Lead ((Kind.ofKeyword? text).getD .identifier) text := by
  intro rest ends
  rcases written : text.toList with _ | ⟨c, cs⟩
  · exact absurd (String.toList_eq_nil_iff.1 written) nonempty
  rw [written] at letters
  obtain ⟨letter, others⟩ := List.forall_mem_cons.1 letters
  obtain rfl : text = String.ofList (c :: cs) := by rw [← written, String.ofList_toList]
  have plain := plain_word (String.ofList (c :: cs)) (String.ofList (c :: cs))
  rw [written] at plain
  obtain ⟨taken, dropped⟩ := ends.run (p := Text.isLetter) (by decide) others
  refine ⟨c, cs ++ rest, ?_, begins_isLetter.isSeparator_eq_false letter, ?_⟩
  · rw [plain, List.cons_append]
  · rw [begins_isLetter.first_eq letter, isDigit_eq_false_of_isLetter letter, if_neg (by decide),
      if_pos letter, Lexeme.run, taken, dropped, plain]

theorem quoted {text : String} (unquoted : '"' ∉ text.toList) : Lead .string text := by
  intro rest _
  have inner : ∀ c ∈ text.toList, (c != '"') = true := by
    intro c member
    simpa using fun same : c = '"' => unquoted (same ▸ member)
  refine ⟨'"', text.toList ++ '"' :: rest, ?_, by decide, ?_⟩
  · simp [Kind.written]
  · have stops : ∀ c ∈ ('"' :: rest).head?, (c != '"') = false := by simp
    obtain ⟨taken, dropped⟩ := takeWhile_append_of_stops inner stops
    have noSign : signKind? '"' = none ∧ extensibleKinds? '"' = none := signs_eq_none (by decide)
    unfold Lexeme.first
    rw [noSign.1, noSign.2]
    simp only [if_true, dropped, taken]
    simp [Kind.written]

theorem sign {c : Char} {kind : Kind} (h : signKind? c = some kind)
    (proper : isSeparator c = false) : Lead kind c.toString := by
  intro rest _
  have plain := plain_of_signKind? h c.toString
  refine ⟨c, rest, by rw [plain]; simp, proper, ?_⟩
  unfold Lexeme.first
  rw [h, plain]
  simp

/-- A separator does not extend a sign. -/
theorem alone {c : Char} {kind extended : Kind} (h : extensibleKinds? c = some (kind, extended))
    (noSign : signKind? c = none) (proper : isSeparator c = false) : Lead kind c.toString := by
  intro rest ends
  have plain := (plain_of_extensibleKinds? h).1 c.toString
  refine ⟨c, rest, by rw [plain]; simp, proper, ?_⟩
  unfold Lexeme.first
  rw [noSign, h, plain]
  simp only
  split
  · cases ends '=' rfl
  · simp

theorem extended {c : Char} {kind extended : Kind} (h : extensibleKinds? c = some (kind, extended))
    (noSign : signKind? c = none) (proper : isSeparator c = false) :
    Lead extended (String.ofList [c, '=']) := by
  intro rest _
  have plain := (plain_of_extensibleKinds? h).2 (String.ofList [c, '='])
  refine ⟨c, '=' :: rest, by rw [plain]; simp, proper, ?_⟩
  unfold Lexeme.first
  rw [noSign, h, plain]
  simp

/-- A reserved word is a run of letters. -/
theorem keyword {kind : Kind} {text : String} (h : Kind.ofKeyword? text = some kind)
    (nonempty : text ≠ "") (letters : ∀ c ∈ text.toList, Text.isLetter c = true) :
    Lead kind text := by
  have lead := word nonempty letters
  rwa [h] at lead

end Lead

/-- Every well-formed word is the first lexeme of a text in which a separator follows it. -/
theorem Lexeme.first_written {kind : Kind} {text : String} (h : WellFormed (kind, text)) :
    Lead kind text := by
  obtain ⟨proper, spelled⟩ := h
  cases kind with
  | number =>
    obtain ⟨c, cs, letters, digit, numerals⟩ := spelled
    exact .number letters digit numerals
  | identifier =>
    obtain ⟨nonempty, letters, free⟩ := spelled
    have lead := Lead.word nonempty letters
    rwa [free] at lead
  | string => exact .quoted spelled
  | binaryOperator =>
    have symbol : text ∈ ["+", "-", "*", "/", "%"] := spelled
    simp only [List.mem_cons, List.not_mem_nil, or_false] at symbol
    rcases symbol with rfl | rfl | rfl | rfl | rfl
    · exact .sign (c := '+') rfl rfl
    · exact .sign (c := '-') rfl rfl
    · exact .sign (c := '*') rfl rfl
    · exact .sign (c := '/') rfl rfl
    · exact .sign (c := '%') rfl rfl
  | endOfFile => exact absurd rfl proper
  | letWord | constWord | fnWord | ifWord | elseWord =>
    obtain rfl := Option.some.inj spelled
    exact .keyword rfl (by decide) (List.all_eq_true.1 (by decide))
  | openParen => obtain rfl := Option.some.inj spelled; exact .sign (c := '(') rfl rfl
  | closeParen => obtain rfl := Option.some.inj spelled; exact .sign (c := ')') rfl rfl
  | openBrace => obtain rfl := Option.some.inj spelled; exact .sign (c := '\x7b') rfl rfl
  | closeBrace => obtain rfl := Option.some.inj spelled; exact .sign (c := '\x7d') rfl rfl
  | openBracket => obtain rfl := Option.some.inj spelled; exact .sign (c := '[') rfl rfl
  | closeBracket => obtain rfl := Option.some.inj spelled; exact .sign (c := ']') rfl rfl
  | comma => obtain rfl := Option.some.inj spelled; exact .sign (c := ',') rfl rfl
  | dot => obtain rfl := Option.some.inj spelled; exact .sign (c := '.') rfl rfl
  | colon => obtain rfl := Option.some.inj spelled; exact .sign (c := ':') rfl rfl
  | semicolon => obtain rfl := Option.some.inj spelled; exact .sign (c := ';') rfl rfl
  -- An equality sign right behind one of these would be taken along.
  | equals => obtain rfl := Option.some.inj spelled; exact .alone (c := '=') rfl rfl rfl
  | bang => obtain rfl := Option.some.inj spelled; exact .alone (c := '!') rfl rfl rfl
  | less => obtain rfl := Option.some.inj spelled; exact .alone (c := '<') rfl rfl rfl
  | greater => obtain rfl := Option.some.inj spelled; exact .alone (c := '>') rfl rfl rfl
  | equalEquals => obtain rfl := Option.some.inj spelled; exact .extended (c := '=') rfl rfl rfl
  | bangEquals => obtain rfl := Option.some.inj spelled; exact .extended (c := '!') rfl rfl rfl
  | lessEquals => obtain rfl := Option.some.inj spelled; exact .extended (c := '<') rfl rfl rfl
  | greaterEquals => obtain rfl := Option.some.inj spelled; exact .extended (c := '>') rfl rfl rfl

/-! ## Whole texts -/

theorem scan_blanks {gap : List Char} (h : ∀ c ∈ gap, c ∈ blanks) (p : Position)
    (rest : List Char) : scan p (gap ++ rest) = scan (p.advance gap) rest := by
  induction gap generalizing p with
  | nil => rfl
  | cons c gap ih =>
    obtain ⟨blank, others⟩ := List.forall_mem_cons.1 h
    rw [List.cons_append, scan, if_pos (isSeparator_of_mem blank), ih others, Position.advance_cons]

theorem endsWord_of_blanks {cs : List Char} (h : ∀ c ∈ cs, c ∈ blanks) : EndsWord cs :=
  fun c first => isSeparator_of_mem (h c (List.mem_of_mem_head? first))

namespace Spaced

variable {s : Setting} {settings : List Setting} {tail : List Char}

theorem of_cons (h : Spaced (s :: settings) tail) : Spaced settings tail where
  gaps := (List.forall_mem_cons.1 h.gaps).2
  apart t member := h.apart t (List.mem_of_mem_tail member)
  tail := h.tail

/-- A word is followed by a separator or by nothing. -/
theorem endsWord (h : Spaced (s :: settings) tail) : EndsWord (typeset settings tail) := by
  cases settings with
  | nil => exact endsWord_of_blanks h.tail
  | cons next settings =>
    have apart : next.gap ≠ [] := h.apart next List.mem_cons_self
    have ends : EndsWord next.gap := endsWord_of_blanks (h.gaps next (by simp))
    intro c first
    rw [typeset_cons, List.head?_append_of_ne_nil _ apart] at first
    exact ends c first

end Spaced

/-- What the token at the end of the input says. -/
def finishWord : Kind × String := (.endOfFile, "EndOfFile")

/-- Well-formed words are cut out of the text that they are set as, one after the other. -/
theorem scan_typeset {settings : List Setting} {tail : List Char} (spaced : Spaced settings tail)
    (formed : ∀ s ∈ settings, WellFormed s.word) (p : Position) :
    ∃ tokens, scan p (typeset settings tail) = .ok tokens ∧
      tokens.map content = settings.map Setting.word ++ [finishWord] := by
  induction settings generalizing p with
  | nil =>
    refine ⟨[Token.finish (Span.ofPosition (p.advance tail) 0)], ?_, rfl⟩
    have empty := scan_blanks spaced.tail p []
    rwa [List.append_nil, scan] at empty
  | cons s settings ih =>
    -- The gap is skipped. The word is the first lexeme behind it, for what follows ends a word.
    obtain ⟨here, others⟩ := List.forall_mem_cons.1 formed
    obtain ⟨c, cs, start, proper, first⟩ := Lexeme.first_written here _ spaced.endsWord
    obtain ⟨tokens, more, same⟩ := ih spaced.of_cons others
      ((p.advance s.gap).advance (s.word.1.written s.word.2))
    rw [typeset_cons, scan_blanks (spaced.gaps s List.mem_cons_self), start,
      scan_lexeme proper first, more]
    refine ⟨_, rfl, ?_⟩
    rw [List.map_cons, same]
    rfl

/-- Words that are cut out of a text are well-formed. -/
theorem scan_wellFormed {p : Position} {cs : List Char} {tokens : List Token}
    (h : scan p cs = .ok tokens) :
    ∃ words : List (Kind × String), tokens.map content = words ++ [finishWord] ∧
      ∀ word ∈ words, WellFormed word := by
  obtain ⟨words, finish, rfl, ended, proper⟩ := scan_ends h
  have spelled : ∀ t ∈ words ++ [finish], t.kind.Spells t.text := fun t => spells_of_mem_scan h
  have text : finish.text = endText := by
    have last := spelled finish (by simp)
    rw [ended] at last
    exact (Option.some.inj last).symm
  refine ⟨words.map content, ?_, ?_⟩
  · rw [List.map_append, List.map_singleton, content, ended, text]
    rfl
  · rintro _ member
    obtain ⟨t, ht, rfl⟩ := List.mem_map.1 member
    exact ⟨proper t ht, spelled t (List.mem_append_left _ ht)⟩

end Token

open Token

/-- Cutting a text into tokens undoes setting it. Well-formed words that are set with blanks between
them, and perhaps blanks before the first and behind the last one, are cut out of their text as they
are, followed by the end of the input. All words that are cut out of any text are well-formed, so
setting them anew, with whatever blanks, and cutting that text gives the same words again. -/
theorem tokenize_typeset :
    (∀ settings tail, Spaced settings tail → (∀ s ∈ settings, WellFormed s.word) →
      ∃ tokens, tokenize (String.ofList (typeset settings tail)) = .ok tokens ∧
        tokens.map content = settings.map Setting.word ++ [(.endOfFile, "EndOfFile")]) ∧
    ∀ source tokens, tokenize source = .ok tokens →
      ∃ words, tokens.map content = words ++ [(.endOfFile, "EndOfFile")] ∧
        (∀ word ∈ words, WellFormed word) ∧
        ∀ settings tail, Spaced settings tail → settings.map Setting.word = words →
          ∃ again, tokenize (String.ofList (typeset settings tail)) = .ok again ∧
            again.map content = tokens.map content := by
  have sets {settings tail} (spaced : Spaced settings tail)
      (formed : ∀ s ∈ settings, WellFormed s.word) :
      ∃ tokens, tokenize (String.ofList (typeset settings tail)) = .ok tokens ∧
        tokens.map content = settings.map Setting.word ++ [finishWord] := by
    rw [tokenize, String.toList_ofList]
    exact scan_typeset spaced formed .origin
  refine ⟨fun settings tail => sets, fun source tokens cut => ?_⟩
  obtain ⟨words, same, formed⟩ := scan_wellFormed cut
  refine ⟨words, same, formed, fun settings tail spaced set => ?_⟩
  obtain ⟨again, cut', same'⟩ := sets spaced fun s member =>
    formed s.word (set ▸ List.mem_map_of_mem member)
  exact ⟨again, cut', by rw [same', set, same]⟩

/-- A sign that an equality sign would extend, a text over two lines, a number with three dots, and
a reserved word before a name that begins with it. -/
theorem tokenize_typeset_apart :
    let settings : List Setting := [
      ⟨['\t'], .less, "<"⟩, ⟨['\n'], .equals, "="⟩, ⟨[' ', '\r'], .string, "a \n= 1"⟩,
      ⟨['\x00'], .number, "1.2..3"⟩, ⟨[' '], .ifWord, "ce"⟩, ⟨['\n'], .identifier, "cesta"⟩]
    Spaced settings ['\n'] ∧ (∀ s ∈ settings, WellFormed s.word) ∧
      ∃ tokens, tokenize "\t<\n= \r\"a \n= 1\"\x001.2..3 ce\ncesta\n" = .ok tokens ∧
        tokens.map content = settings.map Setting.word ++ [(.endOfFile, "EndOfFile")] := by
  intro settings
  have spaced : Spaced settings ['\n'] :=
    ⟨by simp [settings, blanks], by simp [settings], by simp [blanks]⟩
  have formed : ∀ s ∈ settings, WellFormed s.word := by
    simp only [settings, List.forall_mem_cons, List.not_mem_nil, false_implies, implies_true,
      and_true]
    refine ⟨⟨nofun, rfl⟩, ⟨nofun, rfl⟩, ⟨nofun, ?_⟩, ⟨nofun, ?_⟩, ⟨nofun, rfl⟩, ⟨nofun, ?_⟩⟩
    · show '"' ∉ _
      decide
    · exact ⟨'1', _, rfl, rfl, List.all_eq_true.1 (by decide)⟩
    · exact ⟨by decide, List.all_eq_true.1 (by decide), by decide⟩
  exact ⟨spaced, formed, tokenize_typeset.1 settings ['\n'] spaced formed⟩

end SloScript
