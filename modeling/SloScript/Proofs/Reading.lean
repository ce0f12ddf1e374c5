import SloScript.Program.Parser

/-!
# Reading tokens off a cursor

`c.Reads ts d` says that the cursor moves from `c` to `d` by reading exactly the tokens `ts`: they
come first in what `c` has left, and what is left of them is left to `d`. Every fact about what a
parser consumes is such a fact.

A reading step is opened by two lemmas, one for each direction: `Step.of_andThen_ok` takes a
success of a sequence apart, `Step.andThen_of_ok` puts one together.
-/

namespace SloScript

/-- An answer that is no error, put together again from what it holds. -/
theorem eq_ok_of_isOk {ε α : Type} {answer : Except ε α} (ok : answer.isOk = true) (other : α) :
    answer = .ok (answer.toOption.getD other) := by
  cases answer with
  | error e => cases ok
  | ok a => rfl

/-- The span of the last token, or the given one if there is none. -/
def lastSpan (start : Span) (ts : List Token) : Span := ts.foldl (fun _ t => t.span) start

@[simp]
theorem lastSpan_nil (start : Span) : lastSpan start [] = start := rfl

@[simp]
theorem lastSpan_cons (start : Span) (t : Token) (ts : List Token) :
    lastSpan start (t :: ts) = lastSpan t.span ts := rfl

@[simp]
theorem lastSpan_append (start : Span) (ts us : List Token) :
    lastSpan start (ts ++ us) = lastSpan (lastSpan start ts) us := by
  simp [lastSpan]

namespace Cursor

/-- Reading exactly the tokens `ts` leads from `c` to `d`. -/
structure Reads (c : Cursor) (ts : List Token) (d : Cursor) : Prop where
  rest : c.rest = ts ++ d.rest
  last : d.last = lastSpan c.last ts
  finish : d.finish = c.finish

namespace Reads

variable {c d e : Cursor} {t : Token} {ts us : List Token}

theorem refl (c : Cursor) : c.Reads [] c := ⟨rfl, rfl, rfl⟩

theorem trans (first : c.Reads ts d) (second : d.Reads us e) : c.Reads (ts ++ us) e where
  rest := by rw [first.rest, second.rest, List.append_assoc]
  last := by rw [second.last, first.last, lastSpan_append]
  finish := second.finish.trans first.finish

/-- What reads one stretch of tokens after another passes a place between them. -/
theorem split (h : c.Reads (ts ++ us) e) : ∃ d, c.Reads ts d ∧ d.Reads us e := by
  refine ⟨⟨lastSpan c.last ts, us ++ e.rest, c.finish⟩, ⟨?_, rfl, rfl⟩, rfl, ?_, h.finish⟩
  · rw [h.rest, List.append_assoc]
  · rw [h.last, lastSpan_append]

/-- Reading nothing leads nowhere else. -/
theorem eq_of_nil (h : c.Reads [] d) : c = d := by
  obtain ⟨hr, hl, hf⟩ := h
  cases c
  cases d
  simp_all

theorem uncons (h : c.Reads (t :: ts) e) : ∃ d, c.Reads [t] d ∧ d.Reads ts e :=
  split h

theorem peek (h : c.Reads (t :: ts) d) : c.peek = t := by
  rw [Cursor.peek, h.rest]
  rfl

theorem sees (h : c.Reads (t :: ts) d) (kind : Kind) : c.sees kind = decide (t.kind = kind) := by
  rw [Cursor.sees, h.peek]

theorem sees_of_kind (h : c.Reads (t :: ts) d) {kind : Kind} (ht : t.kind = kind) :
    c.sees kind = true := by
  rw [h.sees]
  exact decide_eq_true ht

theorem atEnd (h : c.Reads (t :: ts) d) : c.atEnd = false := by
  rw [Cursor.atEnd, h.rest]
  rfl

theorem mem_of_mem (h : c.Reads ts d) (ht : t ∈ d.rest) : t ∈ c.rest := by
  rw [h.rest]
  exact List.mem_append_right ts ht

/-- The span from a place to the token read last. -/
theorem spanFrom (h : c.Reads [t] d) (start : Span) : d.spanFrom start = start.merge t.span := by
  rw [Cursor.spanFrom, h.last]
  rfl

end Reads

end Cursor

namespace Step

variable {α β : Type} {c d e : Cursor} {i k : Nat} {a : α} {b : β}

/-- A sequence succeeds only if its first step does and the second does from there. -/
theorem of_andThen_ok {s : Step k c α}
    {f : (a : α) → (d : Cursor) → d.size + k ≤ c.size → Step 0 d β} {enough : i ≤ k}
    (h : (s.andThen f enough).val = .ok b e) :
    ∃ a d, ∃ hd : d.size + k ≤ c.size, s.val = .ok a d ∧ (f a d hd).val = .ok b e := by
  obtain ⟨o, ho⟩ := s
  cases o with
  | fail fault d => simp [andThen] at h
  | ok a d =>
    refine ⟨a, d, ho, rfl, ?_⟩
    simp only [andThen] at h
    rcases hf : f a d ho with ⟨_ | _, _⟩ <;> simp_all

/-- After a success, a sequence is what comes second. -/
theorem andThen_of_ok {s : Step k c α}
    {f : (a : α) → (d : Cursor) → d.size + k ≤ c.size → Step 0 d β} {enough : i ≤ k}
    {r : Outcome β} (hs : s.val = .ok a d) (hf : ∀ hd, (f a d hd).val = r) :
    (s.andThen f enough).val = r := by
  obtain ⟨o, ho⟩ := s
  subst hs
  have h := hf ho
  simp only [andThen]
  rcases hf' : f a d ho with ⟨_ | _, _⟩ <;> simp_all

theorem expect_ok {kind : Kind} {t : Token} (h : (expect kind c).val = .ok t d) :
    c.Reads [t] d ∧ t.kind = kind := by
  unfold expect at h
  split at h
  · simp [fail] at h
  · next u rest hr =>
    split at h
    · next hk =>
      obtain ⟨rfl, rfl⟩ : u = t ∧ _ = d := by simpa using h
      exact ⟨⟨hr, rfl, rfl⟩, hk⟩
    · simp [fail] at h

/-- What does not fit is the next token. -/
theorem expect_fail {kind : Kind} {error : ParseError} (h : (expect kind c).val = .fail error d) :
    error = ⟨.unexpectedToken kind c.peek.kind, c.peek.span⟩ ∧ d = c := by
  unfold expect at h
  unfold Cursor.peek
  split at h
  · next rest =>
    cases h
    rw [rest]
    exact ⟨rfl, rfl⟩
  · next t ts rest =>
    split at h
    · cases h
    · cases h
      rw [rest]
      exact ⟨rfl, rfl⟩

theorem expect_of_reads {kind : Kind} {t : Token} (h : c.Reads [t] d) (hk : t.kind = kind) :
    (expect kind c).val = .ok t d := by
  obtain ⟨hr, hl, hf⟩ := h
  obtain ⟨last, rest, finish⟩ := d
  simp only [List.cons_append, List.nil_append, lastSpan_cons, lastSpan_nil] at hr hl hf
  unfold expect
  split
  · next h => simp [h] at hr
  · next u us h =>
    obtain ⟨rfl, rfl⟩ : u = t ∧ us = rest := by simpa [h] using hr
    simp [hk, hl, hf]

theorem take_ok {t : Token} (h : (take c).val = .ok t d) : c.Reads [t] d :=
  (expect_ok h).1

theorem take_ok_of_sees {kind : Kind} {t : Token} (hk : c.sees kind = true)
    (h : (take c).val = .ok t d) : c.Reads [t] d ∧ t.kind = kind := by
  have hr := take_ok h
  rw [hr.sees] at hk
  exact ⟨hr, of_decide_eq_true hk⟩

theorem take_of_reads {t : Token} (h : c.Reads [t] d) : (take c).val = .ok t d :=
  expect_of_reads h (by rw [h.peek])

end Step

end SloScript
