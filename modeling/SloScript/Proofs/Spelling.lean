import Mathlib.Data.List.TakeWhile
import SloScript.Operator
import SloScript.Token.Lexer

/-!
# How tokens are spelled

The kind of a token says how it can be written: a name is a run of letters that is no reserved word,
a number starts with a digit, and a sign or a reserved word is always written in one way.
`Kind.Spells` says so for every kind, and every token that is cut out of a text obeys it
(`Token.spells_of_mem_scan`). A token of any list is *lexical* if some text has a token of its
kind and text.
-/

namespace SloScript

namespace Kind

/-- The only way to write a reserved word, a sign or the end of the input. -/
def spelling? : Kind → Option String
  | letWord => some "rezerviraj"
  | constWord => some "konstanta"
  | fnWord => some "funkcija"
  | ifWord => some "ce"
  | elseWord => some "sicer"
  | openParen => some "("
  | closeParen => some ")"
  | openBrace => some "\x7b"
  | closeBrace => some "\x7d"
  | openBracket => some "["
  | closeBracket => some "]"
  | comma => some ","
  | dot => some "."
  | colon => some ":"
  | semicolon => some ";"
  | equals => some "="
  | bang => some "!"
  | bangEquals => some "!="
  | equalEquals => some "=="
  | less => some "<"
  | lessEquals => some "<="
  | greater => some ">"
  | greaterEquals => some ">="
  | endOfFile => some Token.endText
  | number | identifier | string | binaryOperator => none

/-- A token of this kind can carry the given text. -/
def Spells (kind : Kind) (text : String) : Prop :=
  match kind with
  | number => ∃ c cs, text.toList = c :: cs ∧ c.isDigit = true ∧ ∀ d ∈ cs, Token.isNumeral d = true
  | identifier =>
    text ≠ "" ∧ (∀ c ∈ text.toList, Text.isLetter c = true) ∧ ofKeyword? text = none
  | string => '"' ∉ text.toList
  | binaryOperator => text ∈ ["+", "-", "*", "/", "%"]
  | fixed => fixed.spelling? = some text

/-- A found entry is the first one, or it is found among the others. -/
theorem ite_some_eq_some {α : Type} {p : Prop} [Decidable p] {a b : α} {others : Option α}
    (h : (if p then some a else others) = some b) : (p ∧ a = b) ∨ others = some b := by
  by_cases hp : p
  · rw [if_pos hp] at h
    exact .inl ⟨hp, Option.some.inj h⟩
  · rw [if_neg hp] at h
    exact .inr h

theorem spells_of_ofKeyword? {word : String} {kind : Kind} (h : ofKeyword? word = some kind) :
    kind.Spells word := by
  iterate 5
    rcases ite_some_eq_some h with ⟨rfl, rfl⟩ | h
    · rfl
  cases h

theorem spells_of_signKind? {c : Char} {kind : Kind} (h : Token.signKind? c = some kind) :
    kind.Spells c.toString := by
  iterate 10
    rcases ite_some_eq_some h with ⟨rfl, rfl⟩ | h
    · rfl
  rcases ite_some_eq_some h with ⟨hc, rfl⟩ | h
  · simp only [Bool.or_eq_true, decide_eq_true_eq] at hc
    show c.toString ∈ ["+", "-", "*", "/", "%"]
    rcases hc with (((rfl | rfl) | rfl) | rfl) | rfl <;> decide
  · cases h

theorem spells_of_extensibleKinds? {c : Char} {alone extended : Kind}
    (h : Token.extensibleKinds? c = some (alone, extended)) :
    alone.Spells c.toString ∧ extended.Spells (String.ofList [c, '=']) := by
  iterate 4
    rcases ite_some_eq_some h with ⟨rfl, he⟩ | h
    · cases he
      exact ⟨rfl, rfl⟩
  cases h

/-- A run of letters is a reserved word or a name. -/
theorem spells_word {c : Char} {cs : List Char} (h : ∀ d ∈ c :: cs, Text.isLetter d = true) :
    ((ofKeyword? (String.ofList (c :: cs))).getD identifier).Spells (String.ofList (c :: cs)) := by
  cases hk : ofKeyword? (String.ofList (c :: cs)) with
  | some kind => exact spells_of_ofKeyword? hk
  | none =>
    refine ⟨?_, by simpa using h, hk⟩
    intro he
    simpa using congrArg String.toList he

end Kind

namespace Token

/-- Every lexeme is spelled as its kind demands. -/
theorem Lexeme.spells {c : Char} {cs : List Char} {l : Lexeme} (h : Lexeme.first c cs = .ok l) :
    l.kind.Spells l.text := by
  unfold Lexeme.first at h
  split at h
  · next kind hk => cases h; exact Kind.spells_of_signKind? hk
  · split at h
    · next alone extended hk =>
      obtain ⟨ha, he⟩ := Kind.spells_of_extensibleKinds? hk
      split at h
      · cases h; exact he
      · cases h; exact ha
    · split at h
      · split at h
        · cases h
        · cases h
          show '"' ∉ (String.ofList _).toList
          intro hq
          rw [String.toList_ofList] at hq
          exact absurd (List.mem_takeWhile_imp hq) (by decide)
      · split at h
        · next hd =>
          cases h
          exact ⟨c, _, String.toList_ofList, hd, fun d hd' => List.mem_takeWhile_imp hd'⟩
        · split at h
          · next hl =>
            cases h
            refine Kind.spells_word fun d hd => ?_
            rcases List.mem_cons.1 hd with rfl | hd
            · exact hl
            · exact List.mem_takeWhile_imp hd
          · cases h

/-- Every token of a scanned text is spelled as its kind demands. -/
theorem spells_of_mem_scan {p : Position} {cs : List Char} {tokens : List Token}
    (h : scan p cs = .ok tokens) {t : Token} (ht : t ∈ tokens) : t.kind.Spells t.text := by
  fun_induction scan p cs generalizing tokens with
  | case1 p =>
    cases h
    obtain rfl := List.mem_singleton.1 ht
    rfl
  | case2 p c cs hs ih => exact ih h ht
  | case3 => cases h
  | case4 => cases h
  | case5 p c cs hs l hl hlt rest hr ih =>
    cases h
    rcases List.mem_cons.1 ht with rfl | ht
    · exact Lexeme.spells hl
    · exact ih hr ht

/-- Some text has a token of this kind and text. -/
def Lexical (t : Token) : Prop :=
  ∃ source tokens, tokenize source = .ok tokens ∧ ∃ u ∈ tokens, u.kind = t.kind ∧ u.text = t.text

/-- A lexeme that takes up a whole text is a token of that text. -/
theorem Lexeme.lexical {c : Char} {cs : List Char} {l : Lexeme} (h : Lexeme.first c cs = .ok l)
    (hc : isSeparator c = false) (hrest : l.rest = []) (span : Span) :
    (⟨l.kind, l.text, span⟩ : Token).Lexical := by
  have cut : tokenize (String.ofList (c :: cs)) =
      .ok [⟨l.kind, l.text, Span.ofPosition .origin l.raw.length⟩,
        .finish (Span.ofPosition (Position.origin.advance l.raw) 0)] := by
    rw [tokenize, String.toList_ofList, scan, if_neg (by simp [hc])]
    split
    · next fault hf => simp [h] at hf
    · next l' hl =>
      obtain rfl : l' = l := by simpa [h] using hl.symm
      simp only [hrest, scan]
  exact ⟨_, _, cut, _, .head _, rfl, rfl⟩

theorem Lexical.spells {t : Token} (h : t.Lexical) : t.kind.Spells t.text := by
  obtain ⟨source, tokens, hs, u, hu, hk, ht⟩ := h
  rw [← hk, ← ht]
  exact spells_of_mem_scan hs hu

end Token

end SloScript
