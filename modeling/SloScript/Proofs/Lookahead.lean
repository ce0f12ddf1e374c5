import SloScript.Proofs.FaultSites
import SloScript.Proofs.Joining

/-!
# Errors are decided by the tokens read so far

A reader that fails has looked at the tokens it has passed and at the one that comes next. So every
token list that begins with these tokens fails in the same way, and no later token repairs the error
or moves it. The tokens are counted in the list that the reader holds, which ends where the input
does (`Cursor.held`). If the token that comes next is not the end of the input, two lists may go on
differently behind it and are still read in step up to there; otherwise the list is settled as a
whole.

Results:
1. `Cursor.held_eq`: what the list that is held begins with.
2. `Parser.program_of_shared`: a failure before two token lists begin to differ is the same in both.
3. `parse_fail_decided`: an error is decided by the tokens up to where it is reported.
-/

namespace SloScript

namespace Cursor

/-! ## The tokens that are held -/

/-- The tokens that a reader of a token list holds: one for the end of the input is supplied if the
last one is of another kind. -/
def held (tokens : List Token) : List Token :=
  if tokens.getLast?.map (·.kind) = some .endOfFile then tokens
  else tokens ++ [missingFinish tokens]

theorem proper_ofTokens (tokens : List Token) :
    ∀ t ∈ (ofTokens tokens).rest, t.kind ≠ .endOfFile := by
  intro t member
  have kept := List.mem_takeWhile_imp (p := fun t : Token => decide (t.kind ≠ .endOfFile)) member
  exact of_decide_eq_true kept

/-- The tokens that are held begin with those that are read and the end of the input. -/
theorem held_eq (tokens : List Token) :
    ∃ later, held tokens = (ofTokens tokens).rest ++ (ofTokens tokens).finish :: later := by
  have whole := List.takeWhile_append_dropWhile
    (p := fun t : Token => decide (t.kind ≠ .endOfFile)) (l := tokens)
  cases stop : tokens.dropWhile (fun t => decide (t.kind ≠ .endOfFile)) with
  | nil =>
    -- No token is the end of the input, the last one neither, so that one is supplied.
    rw [stop, List.append_nil] at whole
    have missing : ¬tokens.getLast?.map (·.kind) = some .endOfFile := by
      intro ended
      obtain ⟨t, last, ended⟩ := Option.map_eq_some_iff.1 ended
      have read : t ∈ (ofTokens tokens).rest := by
        rw [ofTokens, whole]
        exact List.mem_of_getLast? last
      exact proper_ofTokens tokens t read ended
    refine ⟨[], ?_⟩
    rw [held, if_neg missing, ofTokens, stop, whole]
    rfl
  | cons finish later =>
    rw [stop] at whole
    rw [held, ofTokens, stop]
    split
    · exact ⟨later, whole.symm⟩
    · refine ⟨later ++ [missingFinish tokens], ?_⟩
      rw [← List.cons_append, ← List.append_assoc, List.head?_cons, Option.getD_some, whole]

theorem ofTokens_held (tokens : List Token) : ofTokens (held tokens) = ofTokens tokens := by
  obtain ⟨later, whole⟩ := held_eq tokens
  rw [whole, ofTokens_append (proper_ofTokens tokens) (finish_ofTokens tokens)]
  rfl

/-- How many of the tokens that are held have been read at a cursor. -/
def index (tokens : List Token) (d : Cursor) : Nat := (ofTokens tokens).size - d.size

/-- A cursor stands before the token at the index of how many have been read. -/
theorem getElem?_held {tokens before : List Token} {d : Cursor}
    (read : (ofTokens tokens).Reads before d) : (held tokens)[before.length]? = some d.peek := by
  obtain ⟨later, whole⟩ := held_eq tokens
  rw [whole, read.rest, List.append_assoc, List.getElem?_append_right (Nat.le_refl _),
    Nat.sub_self, ← read.finish, peek]
  cases d.rest <;> rfl

theorem index_eq {tokens before : List Token} {d : Cursor}
    (read : (ofTokens tokens).Reads before d) : d.index tokens = before.length := by
  rw [index, size, read.rest, List.length_append, size, Nat.add_sub_cancel]

end Cursor

/-! ## Errors at the next token -/

/-- Faults of the token that comes next. -/
def ParseFault.AtNext : ParseFault → Prop
  | unexpectedToken .. | expectedExpression .. | invalidMemberAccess .. => True
  | _ => False

/-- A reader that fails stands behind tokens that it has read, and before the token that it blames
if this is the next one. -/
def Blame.following (c₀ : Cursor) : Blame where
  holds d := ∃ before, c₀.Reads before d
  blames e d := (∃ before, c₀.Reads before d) ∧ (e.cause.AtNext → e.span = d.peek.span)
  next := fun ⟨_, read⟩ one => ⟨_, read.trans one⟩
  unexpected _ h := ⟨h, fun _ => rfl⟩
  expression h := ⟨h, fun _ => rfl⟩
  member h := ⟨h, fun _ => rfl⟩
  number := fun ⟨_, read⟩ one => ⟨⟨_, read.trans one⟩, False.elim⟩
  constant := fun ⟨_, read⟩ three => ⟨⟨_, read.trans three⟩, False.elim⟩
  parameters := by
    intro c d args e _ _ h wrong
    obtain ⟨_, _, rfl | ⟨_, rfl⟩⟩ := Parser.parameters_error wrong
    · exact ⟨h, False.elim⟩
    · exact ⟨h, False.elim⟩

/-! ## Errors before two token lists begin to differ -/

/-- A program that fails before the place where the tokens begin to differ fails alike in both. -/
theorem Parser.program_of_shared {c d : Cursor} {e : ParseError} {ts rest : List Token}
    (here : c.rest = ts ++ rest) (failed : (program c).val = .fail e d)
    (before : rest.length < d.size) (rest' : List Token) (finish' : Token) :
    ∃ us, d.rest = us ++ rest ∧
      (program ⟨c.last, ts ++ rest', finish'⟩).val = .fail e ⟨d.last, us ++ rest', finish'⟩ := by
  obtain ⟨us, -, there, alike⟩ := Tracking.of_shared relocateBody_keep here
    (by rw [failed]; exact before) (program_tracks (T := .shared rest rest' finish'))
  rw [failed] at there alike
  exact ⟨us, there, alike⟩

namespace Cursor

variable {tokens tokens' : List Token} {e : ParseError} {d : Cursor}

/-- What the held tokens begin with is read first, unless the end of the input is in it. -/
theorem exists_rest_of_prefix {ts : List Token} (proper : ∀ t ∈ ts, t.kind ≠ .endOfFile)
    (begins : ts <+: held tokens) : ∃ more, (ofTokens tokens).rest = ts ++ more := by
  obtain ⟨behind, whole⟩ := begins
  obtain ⟨later, whole'⟩ := held_eq tokens
  rcases List.append_eq_append_iff.1 (whole.trans whole') with ⟨more, rest, -⟩ | ⟨back, all, rest⟩
  · exact ⟨more, rest⟩
  · cases back with
    | nil => exact ⟨[], by rw [all, List.append_nil, List.append_nil]⟩
    | cons t back =>
      -- The end of the input would be among the tokens.
      obtain ⟨rfl, -⟩ := List.cons.inj rest
      exact absurd (finish_ofTokens tokens) (proper _ (by simp [all]))

/-- The tokens up to the one that comes next when reading fails decide that it fails. -/
theorem parse_fail_of_prefix (failed : (ofTokens tokens).parse = .fail e d)
    (begins : (held tokens).take (d.index tokens + 1) <+: held tokens') :
    ∃ d', (ofTokens tokens').parse = .fail e d' ∧ d'.index tokens' = d.index tokens := by
  have moved : d.size ≤ (ofTokens tokens).size := by
    have within := (Parser.program (ofTokens tokens)).property
    rwa [← parse, failed] at within
  have count : d.index tokens + d.size = (ofTokens tokens).rest.length := Nat.sub_add_cancel moved
  obtain ⟨later, whole⟩ := held_eq tokens
  by_cases more : 0 < d.size
  · -- The end of the input is not reached, and the lists may go on differently.
    rw [whole, List.take_append_of_le_length (by omega)] at begins
    have proper (t) (member : t ∈ (ofTokens tokens).rest.take (d.index tokens + 1)) :
        t.kind ≠ .endOfFile := proper_ofTokens tokens t (List.mem_of_mem_take member)
    obtain ⟨rest', read'⟩ := exists_rest_of_prefix proper begins
    have left : ((ofTokens tokens).rest.drop (d.index tokens + 1)).length + 1 = d.size := by
      rw [List.length_drop]
      omega
    have here := (List.take_append_drop (d.index tokens + 1) (ofTokens tokens).rest).symm
    obtain ⟨us, there, failed'⟩ := Parser.program_of_shared here failed (Nat.lt_of_succ_le left.le)
      rest' (ofTokens tokens').finish
    rw [← read'] at failed'
    refine ⟨_, failed', ?_⟩
    have one : us.length = 1 := by
      have all := congrArg List.length there
      rw [List.length_append] at all
      exact Nat.add_left_cancel ((Nat.add_comm _ _).trans (all.symm.trans left.symm))
    rw [index, size, size, read', List.length_append, List.length_append, one,
      List.length_take_of_le (by omega)]
    omega
  · -- The end of the input comes next, and nothing counts behind it.
    have all : ((ofTokens tokens).rest ++ [(ofTokens tokens).finish]).length =
        d.index tokens + 1 := by
      rw [List.length_append, List.length_singleton]
      omega
    rw [whole, List.append_cons, List.take_left' all] at begins
    obtain ⟨later', whole'⟩ := begins
    have same : ofTokens tokens' = ofTokens tokens := by
      rw [← ofTokens_held tokens', ← whole', ← List.append_cons,
        ofTokens_append (proper_ofTokens tokens) (finish_ofTokens tokens)]
      rfl
    exact ⟨d, same ▸ failed, by rw [index, index, same]⟩

end Cursor

/-- An error of reading is decided by the tokens read so far. It is reported when the reader stands
before one of the tokens that it holds, and every list that begins with the same tokens, up to and
with this one, fails with the same error and at the same index. So no program begins with them. If
it is the next token that does not fit, the error has its span. -/
theorem parse_fail_decided {tokens : List Token} {e : ParseError} {d : Cursor}
    (failed : (Cursor.ofTokens tokens).parse = .fail e d) :
    (∀ tokens', (Cursor.held tokens').take (d.index tokens + 1) =
        (Cursor.held tokens).take (d.index tokens + 1) →
      ∃ d', (Cursor.ofTokens tokens').parse = .fail e d' ∧ d'.index tokens' = d.index tokens) ∧
    (∃ t, (Cursor.held tokens)[d.index tokens]? = some t ∧ (e.cause.AtNext → e.span = t.span)) ∧
    ∀ tokens' program, parseTokens tokens' = .ok program →
      ¬(Cursor.held tokens).take (d.index tokens + 1) <+: Cursor.held tokens' := by
  refine ⟨fun tokens' same => ?_, ?_, fun tokens' program accepted begins => ?_⟩
  · exact Cursor.parse_fail_of_prefix failed (same ▸ List.take_prefix _ _)
  · have blamed := Parser.program_blamed (B := .following (.ofTokens tokens)) ⟨[], .refl _⟩
    rw [← Cursor.parse, failed] at blamed
    obtain ⟨⟨before, read⟩, place⟩ := blamed
    rw [Cursor.index_eq read]
    exact ⟨d.peek, Cursor.getElem?_held read, place⟩
  · obtain ⟨d', failed', -⟩ := Cursor.parse_fail_of_prefix failed begins
    rw [parseTokens, failed'] at accepted
    cases accepted

/-- An argument that begins with a semicolon, whatever comes behind. -/
theorem parse_fail_decided_semicolon :
    let tokens : List Token := [⟨.identifier, "f", ⟨0, 1, 1, 1⟩⟩, ⟨.openParen, "(", ⟨1, 2, 1, 2⟩⟩,
      ⟨.semicolon, ";", ⟨2, 3, 1, 3⟩⟩]
    let e : ParseError := ⟨.expectedExpression .semicolon ";", ⟨2, 3, 1, 3⟩⟩
    (∃ d, (Cursor.ofTokens tokens).parse = .fail e d ∧ d.index tokens = 2) ∧
      ∀ later, parseTokens (tokens ++ later) = .error e := by
  intro tokens e
  have failed : ∃ d, (Cursor.ofTokens tokens).parse = .fail e d ∧ d.index tokens = 2 := by
    have refused : (Cursor.ofTokens tokens).parse.result.map (fun _ => ()) = .error e := by
      decide +kernel
    have place : (Cursor.ofTokens tokens).parse.cursor.index tokens = 2 := by decide +kernel
    cases answer : (Cursor.ofTokens tokens).parse with
    | ok p d =>
      rw [answer] at refused
      cases refused
    | fail e' d =>
      rw [answer] at refused place
      cases refused
      exact ⟨d, rfl, place⟩
  refine ⟨failed, fun later => ?_⟩
  obtain ⟨d, failed, place⟩ := failed
  have begins : (Cursor.held (tokens ++ later)).take 3 = (Cursor.held tokens).take 3 := by
    rw [Cursor.held]
    split <;> rfl
  obtain ⟨d', failed', -⟩ := (parse_fail_decided failed).1 (tokens ++ later) (place ▸ begins)
  rw [parseTokens, failed']

end SloScript
