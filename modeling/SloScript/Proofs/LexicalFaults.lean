import SloScript.Proofs.Typesetting

/-!
# The first place where a text cannot be cut

A text that cannot be cut into tokens has a first place where this shows: everything before it can
be cut, and there stands a character that no token begins with, or a quote that is never closed.
Both are recognised without scanning, by the character and, for a quote, by what follows it; and
such a place is always where scanning stops, for neither kind of character goes on with a token that
began before it.

Results:
1. `Lexeme.first_eq_error_iff`: where no lexeme begins.
2. `scan_eq_error_iff`: where scanning stops.
3. `tokenize_error_at_first`: the same for a source text, with the place counted from its start.
-/

namespace SloScript

namespace Token

/-! ## Where no token begins -/

/-- A character that separates nothing and that no token begins with. -/
structure Unreadable (c : Char) : Prop where
  separator : c ∉ blanks
  digit : c.isDigit = false
  letter : Text.isLetter c = false
  quote : c ≠ '"'
  sign : c ∉ signs

/-- Why no token can be cut out of a text that begins with `c` and goes on with `after`. -/
inductive Stuck (c : Char) (after : List Char) : LexFault → Prop
  | unreadable : Unreadable c → Stuck c after (.unexpectedCharacter c)
  | unclosed : c = '"' → '"' ∉ after → Stuck c after .unterminatedString

/-- Every one of the signs makes a token, alone or with an equality sign. -/
theorem not_mem_signs {c : Char} (alone : signKind? c = none)
    (extensible : extensibleKinds? c = none) : c ∉ signs := by
  have all : signs.all (fun c => (signKind? c).isSome || (extensibleKinds? c).isSome) = true := by
    decide
  intro member
  simpa [alone, extensible] using List.all_eq_true.1 all c member

namespace Stuck

variable {c : Char} {after : List Char} {fault : LexFault}

theorem isSeparator_eq_false (h : Stuck c after fault) : isSeparator c = false := by
  cases h with
  | unreadable h =>
    exact Bool.eq_false_iff.2 fun separates => h.separator (mem_of_isSeparator separates)
  | unclosed quote _ => subst quote; decide

/-- What stands before such a place is cut as if nothing followed. -/
theorem parts (h : Stuck c after fault) : Parts c := by
  cases h with
  | unreadable h =>
    refine ⟨fun same => h.sign (by simp [signs, same]), ?_, h.letter⟩
    have noDot : c ≠ '.' := fun same => h.sign (by simp [signs, same])
    simp [isNumeral, h.digit, noDot]
  | unclosed quote _ => subst quote; exact ⟨by decide, by decide, by decide⟩

end Stuck

/-- No lexeme begins with an unreadable character or with a quote that is not closed, and with every
other character one does. -/
theorem Lexeme.first_eq_error_iff {c : Char} {cs : List Char} {fault : LexFault}
    (proper : isSeparator c = false) : Lexeme.first c cs = .error fault ↔ Stuck c cs fault := by
  constructor
  · intro h
    unfold Lexeme.first at h
    split at h
    · cases h
    · next noSign =>
      split at h
      · split at h <;> cases h
      · next noExtensible =>
        split at h
        · next quote =>
          split at h
          · next none =>
            cases h
            refine .unclosed quote fun member => ?_
            simpa using List.dropWhile_eq_nil_iff.1 none '"' member
          · cases h
        · next noQuote =>
          split at h
          · cases h
          · next noDigit =>
            split at h
            · cases h
            · next noLetter =>
              cases h
              refine .unreadable ⟨fun blank => ?_, by simpa using noDigit, by simpa using noLetter,
                noQuote, not_mem_signs noSign noExtensible⟩
              cases (isSeparator_of_mem blank).symm.trans proper
  · intro h
    cases h with
    | unreadable h =>
      obtain ⟨alone, extensible⟩ := signs_eq_none h.sign
      unfold Lexeme.first
      rw [alone, extensible]
      simp [h.quote, h.digit, h.letter]
    | unclosed quote open_ =>
      subst quote
      obtain ⟨alone, extensible⟩ := signs_eq_none (c := '"') (by decide)
      have none : cs.dropWhile (· != '"') = [] :=
        List.dropWhile_eq_nil_iff.2 fun c member => by
          simpa using fun same : c = '"' => open_ (same ▸ member)
      unfold Lexeme.first
      rw [alone, extensible]
      simp [none]

/-! ## Where scanning stops -/

/-- Scanning from a place where no token begins stops there. -/
theorem scan_stuck {c : Char} {after : List Char} {fault : LexFault} (h : Stuck c after fault)
    (p : Position) :
    scan p (c :: after) = .error ⟨fault, faultSpan p (after.length + 1) fault⟩ := by
  have proper := h.isSeparator_eq_false
  have none := (Lexeme.first_eq_error_iff proper).2 h
  rw [scan, if_neg (by rw [proper]; decide)]
  split
  · next found => cases none.symm.trans found; rfl
  · next found => cases none.symm.trans found

/-- Scanning stops with an error just where a text that it can cut ends and no token begins. -/
theorem scan_eq_error_iff {p : Position} {cs : List Char} {e : LexError} :
    scan p cs = .error e ↔ ∃ before c after fault, cs = before ++ c :: after ∧
      (∃ ts, scan p before = .ok ts) ∧ Stuck c after fault ∧
      e = ⟨fault, faultSpan (p.advance before) (after.length + 1) fault⟩ := by
  constructor
  · intro h
    fun_induction scan p cs with
    | case1 => cases h
    | case2 p c cs separates ih =>
      obtain ⟨before, d, after, fault, rfl, ⟨ts, cut⟩, stuck, rfl⟩ := ih h
      refine ⟨c :: before, d, after, fault, rfl, ⟨ts, ?_⟩, stuck, rfl⟩
      rw [scan, if_pos separates, cut]
    | case3 p c cs proper fault found =>
      cases h
      have stuck := (Lexeme.first_eq_error_iff (Bool.eq_false_iff.2 proper)).1 found
      exact ⟨[], c, cs, fault, rfl, ⟨_, scan.eq_1 p⟩, stuck, rfl⟩
    | case4 p c cs proper l found _ e' failed ih =>
      cases h
      obtain ⟨before, d, after, fault, left, ⟨ts, cut⟩, stuck, rfl⟩ := ih failed
      -- The lexeme is the same when the text ends before the place in question.
      obtain ⟨ds, whole, again⟩ :=
        Lexeme.first_of_follows found (left ▸ FollowsLike.of_append before (d :: after))
      have cuts : scan p (c :: ds) =
          .ok (⟨l.kind, l.text, Span.ofPosition p l.raw.length⟩ :: ts) := by
        rw [scan_lexeme (Bool.eq_false_iff.2 proper) again, cut]
        rfl
      refine ⟨c :: ds, d, after, fault, ?_, ⟨_, cuts⟩, stuck, ?_⟩
      · rw [whole, List.append_assoc, ← left, Lexeme.raw_append_rest found]
      · rw [whole, Position.advance_append]
    | case5 => cases h
  · rintro ⟨before, c, after, fault, rfl, ⟨ts, cut⟩, stuck, rfl⟩
    rw [scan_append_of_parts cut stuck.parts, scan_stuck stuck]
    rfl

end Token

/-! ## Source texts -/

/-- The characters before `i` can be cut into tokens, and no token begins with the one at `i`. -/
structure StopsAt (text : List Char) (i : Nat) (fault : LexFault) : Prop where
  before : ∃ tokens, tokenize (String.ofList (text.take i)) = .ok tokens
  here : ∃ c, text[i]? = some c ∧ Token.Stuck c (text.drop (i + 1)) fault

/-- The error that reports a fault at the character `i` of a text: its span is that character, or
all that follows an opening quote, and begins on the line and in the column of the character. -/
def faultAt (text : List Char) (i : Nat) (fault : LexFault) : LexError where
  cause := fault
  span := {
    start := i
    stop := match fault with
      | .unexpectedCharacter _ => i + 1
      | .unterminatedString => text.length
    line := 1 + (text.take i).count '\n'
    column := 1 + ((text.take i).reverse.takeWhile (· ≠ '\n')).length }

theorem faultAt_append (before after : List Char) (c : Char) (fault : LexFault) :
    faultAt (before ++ c :: after) before.length fault =
      ⟨fault, Token.faultSpan (.behind before) (after.length + 1) fault⟩ := by
  cases fault <;> simp [faultAt, Token.faultSpan, Span.ofPosition, Position.behind]

/-- A text cannot be cut just if it has a place where cutting stops, and then the error is reported
there. -/
theorem tokenize_eq_error {source : String} {e : LexError} :
    tokenize source = .error e ↔
      ∃ i fault, StopsAt source.toList i fault ∧ e = faultAt source.toList i fault := by
  have cuts (cs : List Char) : tokenize (String.ofList cs) = Token.scan (.behind []) cs := by
    rw [tokenize, String.toList_ofList, Position.behind_nil]
  rw [tokenize, ← Position.behind_nil, Token.scan_eq_error_iff]
  constructor
  · rintro ⟨before, c, after, fault, whole, cut, stuck, rfl⟩
    refine ⟨before.length, fault, ⟨?_, c, ?_, ?_⟩, ?_⟩
    · rwa [whole, List.take_left, cuts]
    · simp [whole]
    · simpa [whole] using stuck
    · rw [whole, faultAt_append, Position.advance_behind, List.nil_append]
  · rintro ⟨i, fault, ⟨cut, c, found, stuck⟩, rfl⟩
    obtain ⟨inside, rfl⟩ := List.getElem?_eq_some_iff.1 found
    have whole : source.toList =
        source.toList.take i ++ source.toList[i] :: source.toList.drop (i + 1) := by
      rw [← List.drop_eq_getElem_cons, List.take_append_drop]
    rw [cuts] at cut
    refine ⟨_, _, _, fault, whole, cut, stuck, ?_⟩
    have place : (source.toList.take i).length = i := List.length_take_of_le (Nat.le_of_lt inside)
    rw [Position.advance_behind, List.nil_append, ← faultAt_append, ← whole, place]

/-- An unreadable character stops cutting whatever comes behind it. -/
theorem StopsAt.of_take {text other : List Char} {i : Nat} {c : Char}
    (h : StopsAt text i (.unexpectedCharacter c)) (same : other.take (i + 1) = text.take (i + 1)) :
    StopsAt other i (.unexpectedCharacter c) ∧
      faultAt other i (.unexpectedCharacter c) = faultAt text i (.unexpectedCharacter c) := by
  have shorter : other.take i = text.take i := by
    simpa [List.take_take] using congrArg (List.take i) same
  obtain ⟨cut, d, found, stuck⟩ := h
  have there : other[i]? = some d := by
    rw [← found, ← List.getElem?_take_of_lt (Nat.lt_succ_self i), same,
      List.getElem?_take_of_lt (Nat.lt_succ_self i)]
  refine ⟨⟨shorter ▸ cut, d, there, ?_⟩, ?_⟩
  · cases stuck with
    | unreadable h => exact .unreadable h
  · simp [faultAt, shorter]

/-- Errors of cutting are reported at the first bad place. Where a text fails, the characters before
the place of the error can be cut, and at the place there is an unreadable character or a quote that
is never closed; and wherever this is so, the text fails there and with this error. What stands
behind an unreadable character has no part in it. -/
theorem tokenize_error_at_first (source : String) :
    (∀ e, tokenize source = .error e ↔
      ∃ i fault, StopsAt source.toList i fault ∧ e = faultAt source.toList i fault) ∧
    ∀ i c, tokenize source = .error (faultAt source.toList i (.unexpectedCharacter c)) →
      ∀ other : String, other.toList.take (i + 1) = source.toList.take (i + 1) →
        tokenize other = .error (faultAt source.toList i (.unexpectedCharacter c)) := by
  refine ⟨fun e => tokenize_eq_error, fun i c failed other same => ?_⟩
  obtain ⟨j, fault, stops, sameError⟩ := tokenize_eq_error.1 failed
  obtain rfl : LexFault.unexpectedCharacter c = fault := congrArg (·.cause) sameError
  obtain rfl : i = j := congrArg (·.span.start) sameError
  obtain ⟨stops', sameError'⟩ := stops.of_take same
  exact tokenize_eq_error.2 ⟨i, _, stops', sameError'.symm⟩

/-- A sign that no token begins with, behind a text in quotes on the second line. -/
theorem tokenize_error_second_line :
    tokenize "a\n\"b\" <&c" = .error ⟨.unexpectedCharacter '&', ⟨7, 8, 2, 6⟩⟩ ∧
      ∀ other : String, other.toList.take 8 = ['a', '\n', '"', 'b', '"', ' ', '<', '&'] →
        tokenize other = .error ⟨.unexpectedCharacter '&', ⟨7, 8, 2, 6⟩⟩ := by
  have failed : tokenize "a\n\"b\" <&c" = .error ⟨.unexpectedCharacter '&', ⟨7, 8, 2, 6⟩⟩ := by
    decide +kernel
  exact ⟨failed, (tokenize_error_at_first _).2 7 '&' failed⟩

end SloScript
