import SloScript.Proofs.IndexedReader

/-!
# No index outside the tokens

A reader by index never looks up an index outside of its tokens, and its walks end, although nothing
in its definition says so. Both follow from one fact: it goes along with a cursor. `Reader.Stands`
says that a reader has read just the tokens that a cursor has behind it, and `Follows` that a walk
ends as a reading step does, with the reader standing where the step leaves the cursor. Looking at
the next token always finds one, as the end of the input is never passed. Moving on is safe before
any other token, and wherever the reader moves on it has seen such a token; and the token read last
is asked for only behind a token. The walks end because the steps do, which lose tokens on the way.

Results:
1. `Parser.statement_follows`, `Parser.program_follows`: the walks follow the parser.
2. `Cursor.parseTimes_after_ok`: what there is to read after a program.
3. `Reader.indices_inside`: no look-up misses, and each one of any number of questions is answered.
-/

namespace SloScript

/-! ## Walks -/

namespace Walk

variable {α β : Type} {r r' : Reader} {w : Walk α} {a : α} {e : Stop}

theorem bind_of_ok (first : w r = some (.ok a, r')) (f : α → Walk β) : (w >>= f) r = f a r' := by
  show (w r).bind _ = _
  rw [first]
  rfl

theorem bind_of_error (first : w r = some (.error e, r')) (f : α → Walk β) :
    (w >>= f) r = some (.error e, r') := by
  show (w r).bind _ = _
  rw [first]
  rfl

theorem get_run (r : Reader) : (get : Walk Reader) r = some (.ok r, r) := rfl

theorem tokenAt_run {i : Nat} {t : Token} (found : r.tokens[i]? = some t) :
    tokenAt i r = some (.ok t, r) := by
  rw [tokenAt, bind_of_ok (get_run r), found]
  rfl

end Walk

/-- A reader by index stands where a cursor does: it has read the same tokens, one after the
other. -/
structure Reader.Stands (tokens : List Token) (r : Reader) (c : Cursor) : Prop where
  holds : r.tokens = Cursor.held tokens
  read : ∃ before, (Cursor.ofTokens tokens).Reads before c ∧ before.length = r.current
  path : (r.current :: r.trail).Pairwise (· > ·)

namespace Reader.Stands

variable {tokens : List Token} {r r₀ : Reader} {c c₀ : Cursor}

/-- What has been read and what is left are all the tokens. -/
theorem current_add_size (h : r.Stands tokens c) :
    r.current + c.size = (Cursor.ofTokens tokens).size := by
  obtain ⟨before, read, count⟩ := h.read
  rw [← count, Cursor.size, Cursor.size, read.rest, List.length_append]

/-- The end of the input comes next just when nothing else is left. -/
theorem sees_endOfFile (h : r.Stands tokens c) : c.sees .endOfFile = c.atEnd := by
  obtain ⟨before, read, -⟩ := h.read
  unfold Cursor.sees Cursor.peek Cursor.atEnd
  cases rest : c.rest with
  | nil => simp [read.finish, Cursor.finish_ofTokens]
  | cons t ts =>
    have proper := Cursor.proper_ofTokens tokens t (by simp [read.rest, rest])
    simpa using proper

/-- Before a token of another kind there is more than the end of the input. -/
theorem atEnd_eq_false (h : r.Stands tokens c) (other : c.peek.kind ≠ .endOfFile) :
    c.atEnd = false := by
  rw [← h.sees_endOfFile]
  exact decide_eq_false other

theorem atEnd_of_sees (h : r.Stands tokens c) {kind : Kind} (sees : c.sees kind = true)
    (proper : kind ≠ .endOfFile) : c.atEnd = false :=
  h.atEnd_eq_false (of_decide_eq_true sees ▸ proper)

theorem walk_peek (h : r.Stands tokens c) : Walk.peek r = some (.ok c.peek, r) := by
  obtain ⟨before, read, count⟩ := h.read
  rw [Walk.peek, Walk.bind_of_ok (Walk.get_run r)]
  refine Walk.tokenAt_run ?_
  rw [h.holds, ← count, Cursor.getElem?_held read]

theorem walk_check (h : r.Stands tokens c) (kind : Kind) :
    Walk.check kind r = some (.ok (c.sees kind), r) := by
  rw [Walk.check, Walk.bind_of_ok h.walk_peek]
  rfl

theorem walk_atEnd (h : r.Stands tokens c) : Walk.atEnd r = some (.ok c.atEnd, r) := by
  rw [Walk.atEnd, h.walk_check, h.sees_endOfFile]

theorem walk_closes (h : r.Stands tokens c) (kind : Kind) :
    Walk.closes kind r = some (.ok (c.sees kind || c.atEnd), r) := by
  rw [Walk.closes, Walk.bind_of_ok (h.walk_check kind)]
  cases c.sees kind with
  | true => rfl
  | false => exact h.walk_atEnd

theorem walk_sumOperator (h : r.Stands tokens c) :
    Walk.sumOperator r = some (.ok (Parser.sumOperator? c), r) := by
  rw [Walk.sumOperator, Walk.bind_of_ok h.walk_peek, Parser.sumOperator?]
  cases c.peek.kind <;> rfl

theorem walk_productOperator (h : r.Stands tokens c) :
    Walk.productOperator r = some (.ok (Parser.productOperator? c), r) := by
  rw [Walk.productOperator, Walk.bind_of_ok h.walk_peek, Parser.productOperator?]
  split <;> rfl

/-- Behind a token, the one read last is at the index before. -/
theorem walk_spanFrom (h : r.Stands tokens c) (start : Span) (earlier : r₀.Stands tokens c₀)
    (moved : c.size < c₀.size) :
    Walk.spanFrom start r = some (.ok (c.spanFrom start), r) := by
  have positive : 0 < r.current := by
    have all := h.current_add_size
    have all₀ := earlier.current_add_size
    omega
  obtain ⟨before, read, count⟩ := h.read
  obtain ⟨others, t, rfl⟩ := (List.eq_nil_or_concat' before).resolve_left fun none => by
    rw [← count, none] at positive
    exact absurd positive (Nat.lt_irrefl 0)
  obtain ⟨d, front, last⟩ := read.split
  have place : others.length = r.current - 1 := by simp [← count]
  have found : r.tokens[r.current - 1]? = some t := by
    rw [h.holds, ← place, Cursor.getElem?_held front, last.peek]
  rw [Walk.spanFrom, Walk.previous, Walk.bind_of_ok (a := t) ?_, last.spanFrom]
  · rfl
  rw [Walk.bind_of_ok (Walk.get_run r), Walk.tokenAt_run found]

/-- Moving on from a token leads behind it, and the token is at the index before. -/
theorem walk_advance (h : r.Stands tokens c) (more : c.atEnd = false) :
    ∃ d r', (Step.take c).val = .ok c.peek d ∧ Walk.advance r = some (.ok c.peek, r') ∧
      r'.Stands tokens d := by
  obtain ⟨before, read, count⟩ := h.read
  obtain ⟨t, ts, rest⟩ : ∃ t ts, c.rest = t :: ts :=
    List.exists_cons_of_ne_nil fun none => by simp [Cursor.atEnd, none] at more
  let d : Cursor := ⟨t.span, ts, c.finish⟩
  have one : c.Reads [t] d := ⟨rest, rfl, rfl⟩
  have found : r.tokens[r.current]? = some c.peek := by
    rw [h.holds, ← count, Cursor.getElem?_held read]
  let r' : Reader := { r with current := r.current + 1, trail := r.current :: r.trail }
  refine ⟨d, r', by rw [Step.take_of_reads one, one.peek], ?_, h.holds, ?_, ?_⟩
  · rw [Walk.advance, Walk.bind_of_ok h.walk_atEnd, more]
    exact Walk.tokenAt_run found
  · exact ⟨before ++ [t], read.trans one, by simp [r', count]⟩
  · refine List.pairwise_cons.2 ⟨fun i member => ?_, h.path⟩
    rcases List.mem_cons.1 member with rfl | member
    · exact Nat.lt_succ_self _
    · exact Nat.lt_succ_of_lt (List.rel_of_pairwise_cons h.path member)

end Reader.Stands

/-! ## Walks that follow a reading step -/

/-- With enough fuel, a walk ends as a reading step does, and the reader stands where the step
leaves its cursor. -/
def Follows {α : Type} (tokens : List Token) (r : Reader) (w : Nat → Walk α) (o : Outcome α) :
    Prop :=
  ∃ r', r'.Stands tokens o.cursor ∧
    ∃ enough, ∀ fuel ≥ enough, w fuel r = some (o.result.mapError .fault, r')

namespace Follows

variable {α β : Type} {tokens : List Token} {r : Reader} {c : Cursor} {i k : Nat}

theorem done (h : r.Stands tokens c) (a : α) :
    Follows tokens r (fun _ => pure a) (Step.done a c).val :=
  ⟨r, h, 0, fun _ _ => rfl⟩

theorem failed (h : r.Stands tokens c) (fault : ParseFault) (span : Span) :
    Follows tokens r (fun _ => Walk.fault ⟨fault, span⟩)
      (Step.fail fault span c : Step k c α).val :=
  ⟨r, h, 0, fun _ _ => rfl⟩

/-- What follows a step one step deeper in the recursion follows it. -/
theorem of_succ {w : Nat → Walk α} {o : Outcome α}
    (h : Follows tokens r (fun fuel => w (fuel + 1)) o) : Follows tokens r w o := by
  obtain ⟨r', stands, enough, ends⟩ := h
  refine ⟨r', stands, enough + 1, fun fuel hf => ?_⟩
  obtain ⟨fuel, rfl⟩ : ∃ k, fuel = k + 1 := ⟨fuel - 1, by omega⟩
  exact ends fuel (Nat.le_of_succ_le_succ hf)

/-- A part that does not need fuel comes first. -/
theorem step {w : Walk α} {a : α} {r' : Reader} (first : w r = some (.ok a, r'))
    {f : Nat → α → Walk β} {o : Outcome β} (next : Follows tokens r' (fun fuel => f fuel a) o) :
    Follows tokens r (fun fuel => w >>= f fuel) o := by
  obtain ⟨r'', stands, enough, ends⟩ := next
  refine ⟨r'', stands, enough, fun fuel hf => ?_⟩
  rw [← ends fuel hf]
  exact Walk.bind_of_ok first (f fuel)

theorem bind_of_ok {w : Nat → Walk α} {a : α} {d : Cursor} (first : Follows tokens r w (.ok a d))
    {f : Nat → α → Walk β} {o : Outcome β}
    (second : ∀ r', r'.Stands tokens d → Follows tokens r' (fun fuel => f fuel a) o) :
    Follows tokens r (fun fuel => w fuel >>= f fuel) o := by
  obtain ⟨r', stands, some, ends⟩ := first
  obtain ⟨r'', stands', more, ends'⟩ := second r' stands
  refine ⟨r'', stands', max some more, fun fuel hf => ?_⟩
  rw [← ends' fuel (Nat.le_trans (Nat.le_max_right _ _) hf)]
  exact Walk.bind_of_ok (ends fuel (Nat.le_trans (Nat.le_max_left _ _) hf)) (f fuel)

theorem andThen {w : Nat → Walk α} {s : Step k c α} {f : Nat → α → Walk β}
    {F : (a : α) → (d : Cursor) → d.size + k ≤ c.size → Step 0 d β} {enough : i ≤ k}
    (first : Follows tokens r w s.val)
    (second : ∀ a d hd r', r'.Stands tokens d →
      Follows tokens r' (fun fuel => f fuel a) (F a d hd).val) :
    Follows tokens r (fun fuel => w fuel >>= f fuel) (s.andThen F enough).val := by
  obtain ⟨o, ho⟩ := s
  cases o with
  | fail e d =>
    obtain ⟨r', stands, some, ends⟩ := first
    exact ⟨r', stands, some, fun fuel hf => Walk.bind_of_error (ends fuel hf) (f fuel)⟩
  | ok a d =>
    rw [Step.andThen_of_ok (r := (F a d ho).val) rfl fun _ => rfl]
    exact first.bind_of_ok (second a d ho)

/-- Moving on follows the step that takes the next token, unless the end of the input comes next. -/
theorem advance (h : r.Stands tokens c) (more : c.atEnd = false) {f : Nat → Token → Walk β}
    {F : (t : Token) → (d : Cursor) → d.size + 1 ≤ c.size → Step 0 d β} {enough : i ≤ 1}
    (next : ∀ d hd r', r'.Stands tokens d →
      Follows tokens r' (fun fuel => f fuel c.peek) (F c.peek d hd).val) :
    Follows tokens r (fun fuel => Walk.advance >>= f fuel)
      ((Step.take c).andThen F enough).val := by
  obtain ⟨d, r', taken, moves, stands⟩ := h.walk_advance more
  have moved := (Step.take c).property
  rw [taken] at moved
  rw [Step.andThen_of_ok (r := (F c.peek d moved).val) taken fun _ => rfl]
  exact .step moves (next d moved r' stands)

theorem expect (h : r.Stands tokens c) {kind : Kind} (proper : kind ≠ .endOfFile) :
    Follows tokens r (fun _ => Walk.expect kind) (Step.expect kind c).val := by
  refine .step (h.walk_check kind) ?_
  split
  · next sees =>
    obtain ⟨d, r', taken, moves, stands⟩ := h.walk_advance (h.atEnd_of_sees sees proper)
    rw [Step.take, of_decide_eq_true sees] at taken
    rw [taken]
    exact ⟨r', stands, 0, fun _ _ => moves⟩
  · next other =>
    refine .step h.walk_peek ?_
    cases read : (Step.expect kind c).val with
    | ok t d =>
      obtain ⟨one, same⟩ := Step.expect_ok read
      exact absurd (one.sees_of_kind same) other
    | fail e d =>
      obtain ⟨rfl, rfl⟩ := Step.expect_fail read
      exact ⟨r, h, 0, fun _ _ => rfl⟩

theorem accept (h : r.Stands tokens c) {kind : Kind} (proper : kind ≠ .endOfFile)
    {f : Nat → Bool → Walk β} {F : (t : Token) → (d : Cursor) → d.size + 1 ≤ c.size → Step 0 d β}
    {enough : i ≤ 1} {s : Step i c β}
    (yes : ∀ d hd r', r'.Stands tokens d →
      Follows tokens r' (fun fuel => f fuel true) (F c.peek d hd).val)
    (no : Follows tokens r (fun fuel => f fuel false) s.val) :
    Follows tokens r (fun fuel => Walk.accept kind >>= f fuel)
      (if c.sees kind then (Step.take c).andThen F enough else s).val := by
  simp only [Walk.accept, bind_assoc]
  refine .step (h.walk_check kind) ?_
  split
  · next sees =>
    simp only [bind_assoc, pure_bind]
    exact .advance h (h.atEnd_of_sees sees proper) yes
  · simpa only [pure_bind] using no

end Follows

/-! ## The parser -/

namespace Parser

variable {tokens : List Token}

/-- Before the closing brace there are no further entries. -/
theorem properties_closed {r : Reader} {c : Cursor} (h : r.Stands tokens c)
    (sees : c.sees .closeBrace = true) : Follows tokens r Walk.properties (.ok [] c) := by
  refine .of_succ ?_
  simp only [Walk.properties]
  refine .step (h.walk_closes _) ?_
  rw [sees]
  exact .done h []

mutual

theorem expression_follows {r : Reader} {c : Cursor} (h : r.Stands tokens c) :
    Follows tokens r Walk.expression (expression c).val := by
  rw [expression]
  refine .of_succ ?_
  simp only [Walk.expression]
  refine (operand_follows h).andThen fun target d hd r h => ?_
  refine .accept h (by decide) (fun e he r h => ?_) (.done h _)
  exact (expression_follows h).andThen fun value f hf r h => .done h _
termination_by 10 * c.size + 6
decreasing_by all_goals omega

theorem operand_follows {r : Reader} {c : Cursor} (h : r.Stands tokens c) :
    Follows tokens r Walk.operand (operand c).val := by
  rw [operand]
  refine .of_succ ?_
  simp only [Walk.operand]
  refine .step (h.walk_check _) ?_
  split
  · next sees =>
    refine .advance h (h.atEnd_of_sees sees (by decide)) fun d hd r h₁ => ?_
    refine (properties_follows h₁).andThen fun entries e he r h₂ => ?_
    refine (Follows.expect h₂ (by decide)).andThen fun _ f hf r h₃ => ?_
    exact .step (h₃.walk_spanFrom _ h (by omega)) (.done h₃ _)
  · exact sum_follows h
termination_by 10 * c.size + 5
decreasing_by all_goals omega

theorem properties_follows {r : Reader} {c : Cursor} (h : r.Stands tokens c) :
    Follows tokens r Walk.properties (properties c).val := by
  rw [properties]
  refine .of_succ ?_
  simp only [Walk.properties]
  refine .step (h.walk_closes _) ?_
  split
  · exact .done h _
  · refine (Follows.expect h (by decide)).andThen fun name d hd r h => ?_
    refine .accept h (by decide) (fun e he r h => ?_) (.step (h.walk_check _) ?_)
    · exact (properties_follows h).andThen fun entries f hf r h => .done h _
    · split
      · next sees => exact (properties_closed h sees).bind_of_ok fun r h => .done h _
      · refine (Follows.expect h (by decide)).andThen fun _ e he r h => ?_
        refine (expression_follows h).andThen fun value f hf r h => ?_
        refine .step (h.walk_check _) ?_
        split
        · next sees => exact (properties_closed h sees).bind_of_ok fun r h => .done h _
        · refine (Follows.expect h (by decide)).andThen fun _ g hg r h => ?_
          exact (properties_follows h).andThen fun entries i hi r h => .done h _
termination_by 10 * c.size
decreasing_by all_goals omega

theorem sum_follows {r : Reader} {c : Cursor} (h : r.Stands tokens c) :
    Follows tokens r Walk.sum (sum c).val := by
  rw [sum]
  refine .of_succ ?_
  simp only [Walk.sum]
  exact (product_follows h).andThen fun left d hd r h => sumRest_follows h left
termination_by 10 * c.size + 4
decreasing_by all_goals omega

theorem sumRest_follows {r : Reader} {c : Cursor} (h : r.Stands tokens c) (left : Expr) :
    Follows tokens r (fun fuel => Walk.sumRest fuel left) (sumRest left c).val := by
  rw [sumRest]
  refine .of_succ ?_
  simp only [Walk.sumRest]
  refine .step h.walk_sumOperator ?_
  cases found : sumOperator? c with
  | none => exact .done h _
  | some op =>
    have more := h.atEnd_eq_false fun ended => by simp [sumOperator?, ended] at found
    refine .advance h more fun d hd r h => ?_
    exact (product_follows h).andThen fun right e he r h => sumRest_follows h _
termination_by 10 * c.size
decreasing_by all_goals omega

theorem product_follows {r : Reader} {c : Cursor} (h : r.Stands tokens c) :
    Follows tokens r Walk.product (product c).val := by
  rw [product]
  refine .of_succ ?_
  simp only [Walk.product]
  exact (call_follows h).andThen fun left d hd r h => productRest_follows h left
termination_by 10 * c.size + 3
decreasing_by all_goals omega

theorem productRest_follows {r : Reader} {c : Cursor} (h : r.Stands tokens c) (left : Expr) :
    Follows tokens r (fun fuel => Walk.productRest fuel left) (productRest left c).val := by
  rw [productRest]
  refine .of_succ ?_
  simp only [Walk.productRest]
  refine .step h.walk_productOperator ?_
  cases found : productOperator? c with
  | none => exact .done h _
  | some op =>
    have more := h.atEnd_eq_false fun ended => by simp [productOperator?, ended] at found
    refine .advance h more fun d hd r h => ?_
    exact (call_follows h).andThen fun right e he r h => productRest_follows h _
termination_by 10 * c.size
decreasing_by all_goals omega

theorem call_follows {r : Reader} {c : Cursor} (h : r.Stands tokens c) :
    Follows tokens r Walk.call (call c).val := by
  rw [call]
  refine .of_succ ?_
  simp only [Walk.call]
  exact (member_follows h).andThen fun callee d hd r h => callRest_follows h callee
termination_by 10 * c.size + 2
decreasing_by all_goals omega

theorem callRest_follows {r : Reader} {c : Cursor} (h : r.Stands tokens c) (callee : Expr) :
    Follows tokens r (fun fuel => Walk.callRest fuel callee) (callRest callee c).val := by
  rw [callRest]
  refine .of_succ ?_
  simp only [Walk.callRest]
  refine .step (h.walk_check _) ?_
  split
  · refine (arguments_follows h).andThen fun args d hd r h' => ?_
    exact .step (h'.walk_spanFrom _ h (by omega)) (callRest_follows h' _)
  · exact .done h _
termination_by 10 * c.size + 1
decreasing_by all_goals omega

theorem arguments_follows {r : Reader} {c : Cursor} (h : r.Stands tokens c) :
    Follows tokens r Walk.arguments (arguments c).val := by
  rw [arguments]
  refine .of_succ ?_
  simp only [Walk.arguments]
  refine (Follows.expect h (by decide)).andThen fun _ d hd r h => ?_
  refine .step (h.walk_check _) ?_
  split
  · next sees =>
    -- What closes the list is expected where it has been seen.
    have same : Step.take d = Step.expect .closeParen d := by
      rw [Step.take, of_decide_eq_true sees]
    rw [same]
    exact (Follows.expect h (by decide)).andThen fun _ e he r h => .done h _
  · refine (expression_follows h).andThen fun first e he r h => ?_
    refine (argumentsRest_follows h).andThen fun others f hf r h => ?_
    exact (Follows.expect h (by decide)).andThen fun _ g hg r h => .done h _
termination_by 10 * c.size
decreasing_by all_goals omega

theorem argumentsRest_follows {r : Reader} {c : Cursor} (h : r.Stands tokens c) :
    Follows tokens r Walk.argumentsRest (argumentsRest c).val := by
  rw [argumentsRest]
  refine .of_succ ?_
  simp only [Walk.argumentsRest]
  refine .accept h (by decide) (fun d hd r h => ?_) (.done h _)
  refine (expression_follows h).andThen fun arg e he r h => ?_
  exact (argumentsRest_follows h).andThen fun others f hf r h => .done h _
termination_by 10 * c.size
decreasing_by all_goals omega

theorem member_follows {r : Reader} {c : Cursor} (h : r.Stands tokens c) :
    Follows tokens r Walk.member (member c).val := by
  rw [member]
  refine .of_succ ?_
  simp only [Walk.member]
  exact (primary_follows h).andThen fun object d hd r h => memberRest_follows h object
termination_by 10 * c.size + 1
decreasing_by all_goals omega

theorem memberRest_follows {r : Reader} {c : Cursor} (h : r.Stands tokens c) (object : Expr) :
    Follows tokens r (fun fuel => Walk.memberRest fuel object) (memberRest object c).val := by
  rw [memberRest]
  refine .of_succ ?_
  simp only [Walk.memberRest]
  refine .accept h (by decide) (fun d hd r h₁ => ?_) (.accept h (by decide) (fun d hd r h₁ => ?_)
    (.done h _))
  · refine .step h₁.walk_peek ?_
    simp only [Cursor.sees, decide_eq_true_eq]
    split
    · next name =>
      have more := h₁.atEnd_eq_false (name ▸ by decide)
      refine .advance h₁ more fun e he r h₂ => ?_
      exact .step (h₂.walk_spanFrom _ h (by omega)) (memberRest_follows h₂ _)
    · exact .failed h₁ _ _
  · refine (expression_follows h₁).andThen fun key e he r h₂ => ?_
    refine (Follows.expect h₂ (by decide)).andThen fun _ f hf r h₃ => ?_
    exact .step (h₃.walk_spanFrom _ h (by omega)) (memberRest_follows h₃ _)
termination_by 10 * c.size
decreasing_by all_goals omega

theorem primary_follows {r : Reader} {c : Cursor} (h : r.Stands tokens c) :
    Follows tokens r Walk.primary (primary c).val := by
  rw [primary]
  refine .of_succ ?_
  simp only [Walk.primary]
  refine .step h.walk_peek ?_
  have more := h.atEnd_eq_false
  cases kind : c.peek.kind with
  | identifier => exact .advance h (more (by simp [kind])) fun d hd r h => .done h _
  | number =>
    refine .advance h (more (by simp [kind])) fun d hd r h => ?_
    cases Number.read? c.peek.text with
    | some x => exact .done h _
    | none => exact .failed h _ _
  | string => exact .advance h (more (by simp [kind])) fun d hd r h => .done h _
  | openParen =>
    refine .advance h (more (by simp [kind])) fun d hd r h => ?_
    refine (expression_follows h).andThen fun inner e he r h => ?_
    exact (Follows.expect h (by decide)).andThen fun _ f hf r h => .done h _
  | _ => exact .failed h _ _
termination_by 10 * c.size
decreasing_by all_goals omega

end

theorem declaration_follows {r : Reader} {c : Cursor} (h : r.Stands tokens c)
    (more : c.atEnd = false) : Follows tokens r Walk.declaration (declaration c).val := by
  rw [declaration]
  unfold Walk.declaration
  refine .advance h more fun d hd r h₁ => ?_
  refine (Follows.expect h₁ (by decide)).andThen fun name e he r h₂ => ?_
  refine .accept h₂ (by decide) (fun f hf r h₃ => .step (h₃.walk_spanFrom _ h (by omega)) ?_) ?_
  · split
    · exact .failed h₃ _ _
    · exact .done h₃ _
  · refine (Follows.expect h₂ (by decide)).andThen fun _ f hf r h₃ => ?_
    refine (expression_follows h₃).andThen fun init g hg r h₄ => ?_
    refine (Follows.expect h₄ (by decide)).andThen fun _ i hi r h₅ => ?_
    exact .step (h₅.walk_spanFrom _ h (by omega)) (.done h₅ _)

mutual

theorem statement_follows {r : Reader} {c : Cursor} (h : r.Stands tokens c) :
    Follows tokens r Walk.statement (statement c).val := by
  rw [statement]
  refine .of_succ ?_
  simp only [Walk.statement]
  refine .step h.walk_peek ?_
  have more := h.atEnd_eq_false
  cases kind : c.peek.kind with
  | letWord => exact declaration_follows h (more (by simp [kind]))
  | constWord => exact declaration_follows h (more (by simp [kind]))
  | fnWord => exact function_follows h (more (by simp [kind]))
  | ifWord => exact branch_follows h (more (by simp [kind]))
  | _ =>
    refine (expression_follows h).andThen fun e d hd r h => ?_
    exact .accept h (by decide) (fun f hf r h => .done h _) (.done h _)
termination_by 10 * c.size + 2
decreasing_by all_goals omega

theorem function_follows {r : Reader} {c : Cursor} (h : r.Stands tokens c)
    (more : c.atEnd = false) : Follows tokens r Walk.function (function c).val := by
  rw [function]
  refine .of_succ ?_
  simp only [Walk.function]
  refine .advance h more fun d hd r h₁ => ?_
  refine (Follows.expect h₁ (by decide)).andThen fun name e he r h₂ => ?_
  refine (arguments_follows h₂).andThen fun args f hf r h₃ => ?_
  cases parameters args with
  | error fault => exact .failed h₃ _ _
  | ok params =>
    refine (Follows.expect h₃ (by decide)).andThen fun _ g hg r h₄ => ?_
    refine (block_follows h₄).andThen fun body i hi r h₅ => ?_
    exact .step (h₅.walk_spanFrom _ h (by omega)) (.done h₅ _)
termination_by 10 * c.size
decreasing_by all_goals omega

theorem branch_follows {r : Reader} {c : Cursor} (h : r.Stands tokens c)
    (more : c.atEnd = false) : Follows tokens r Walk.branch (branch c).val := by
  rw [branch]
  refine .of_succ ?_
  simp only [Walk.branch]
  refine .advance h more fun d hd r h₁ => ?_
  refine (Follows.expect h₁ (by decide)).andThen fun _ e he r h₂ => ?_
  refine (expression_follows h₂).andThen fun test f hf r h₃ => ?_
  refine (Follows.expect h₃ (by decide)).andThen fun _ g hg r h₄ => ?_
  refine (Follows.expect h₄ (by decide)).andThen fun _ i hi r h₅ => ?_
  refine (block_follows h₅).andThen fun consequent j hj r h₆ => ?_
  refine (alternative_follows h₆).andThen fun alternate k hk r h₇ => ?_
  exact .step (h₇.walk_spanFrom _ h (by omega)) (.done h₇ _)
termination_by 10 * c.size
decreasing_by all_goals omega

theorem alternative_follows {r : Reader} {c : Cursor} (h : r.Stands tokens c) :
    Follows tokens r Walk.alternative (alternative c).val := by
  rw [alternative]
  refine .of_succ ?_
  simp only [Walk.alternative]
  refine .accept h (by decide) (fun d hd r h => .step (h.walk_check _) ?_) (.done h _)
  split
  · next sees =>
    have more := h.atEnd_of_sees sees (by decide)
    exact (branch_follows h more).andThen fun inner e he r h => .done h _
  · refine (Follows.expect h (by decide)).andThen fun _ e he r h => ?_
    rw [Step.andThen_val _ _ _ .ok fun _ _ _ => rfl, Outcome.bind_ok]
    exact block_follows h
termination_by 10 * c.size
decreasing_by all_goals omega

theorem block_follows {r : Reader} {c : Cursor} (h : r.Stands tokens c) :
    Follows tokens r Walk.block (block c).val := by
  rw [block]
  refine .of_succ ?_
  simp only [Walk.block]
  refine .step (h.walk_closes _) ?_
  split
  · exact (Follows.expect h (by decide)).andThen fun _ d hd r h => .done h _
  · refine (statement_follows h).andThen fun stmt d hd r h => ?_
    exact (block_follows h).andThen fun stmts e he r h => .done h _
termination_by 10 * c.size + 3
decreasing_by all_goals omega

end

theorem program_follows {r : Reader} {c : Cursor} (h : r.Stands tokens c) :
    Follows tokens r Walk.program (program c).val := by
  rw [program]
  refine .of_succ ?_
  simp only [Walk.program]
  refine .step h.walk_atEnd ?_
  split
  · exact .done h _
  · refine (statement_follows h).andThen fun stmt d hd r h => ?_
    exact (program_follows h).andThen fun stmts e he r h => .done h _
termination_by c.size
decreasing_by all_goals omega

/-- A program is read up to the end of the input. -/
theorem atEnd_of_program {c d : Cursor} {p : Program} (h : (program c).val = .ok p d) :
    d.atEnd = true := by
  rw [program] at h
  split at h
  · next ended =>
    cases h
    exact ended
  · obtain ⟨stmt, c₁, moved, -, h⟩ := Step.of_andThen_ok h
    obtain ⟨stmts, c₂, -, rest, h⟩ := Step.of_andThen_ok h
    cases h
    exact atEnd_of_program rest
termination_by c.size
decreasing_by omega

end Parser

/-! ## Asking again -/

/-- What a cursor yields when programs are read from it again and again, each time from where the
last reading has left it. -/
def Cursor.parseTimes : Nat → Cursor → List (Except ParseError Program)
  | 0, _ => []
  | n + 1, c => c.parse.result :: c.parse.cursor.parseTimes n

theorem Cursor.parse_of_atEnd {c : Cursor} (ended : c.atEnd = true) : c.parse = .ok [] c := by
  rw [parse, Parser.program, if_pos ended]
  rfl

/-- At the end of the input there is nothing but the empty program. -/
theorem Cursor.parseTimes_of_atEnd {c : Cursor} (ended : c.atEnd = true) (n : Nat) :
    c.parseTimes n = List.replicate n (.ok []) := by
  induction n with
  | zero => rfl
  | succ n ih =>
    rw [parseTimes, parse_of_atEnd ended]
    exact congrArg _ ih

/-- After a program, there is nothing but the empty program. -/
theorem Cursor.parseTimes_after_ok {n i j : Nat} {c : Cursor} {p : Program}
    (read : (c.parseTimes n)[i]? = some (.ok p)) (later : i < j) (inside : j < n) :
    (c.parseTimes n)[j]? = some (.ok []) := by
  induction n generalizing c i j with
  | zero => exact absurd inside (Nat.not_lt_zero j)
  | succ n ih =>
    obtain ⟨j, rfl⟩ := Nat.exists_eq_succ_of_ne_zero (Nat.ne_zero_of_lt later)
    rw [parseTimes, List.getElem?_cons_succ]
    rw [parseTimes] at read
    cases i with
    | zero =>
      obtain ⟨d, whole⟩ := Outcome.result_eq_ok.1 (Option.some.inj read)
      have ended : c.parse.cursor.atEnd = true := by
        rw [whole]
        exact Parser.atEnd_of_program whole
      rw [parseTimes_of_atEnd ended, List.getElem?_replicate,
        if_pos (Nat.lt_of_succ_lt_succ inside)]
    | succ i => exact ih read (Nat.lt_of_succ_lt_succ later) (Nat.lt_of_succ_lt_succ inside)

namespace Reader

/-- The answers of a reader by index are those of a cursor. -/
theorem Stands.parseTimes {tokens : List Token} {r : Reader} {c : Cursor} (h : r.Stands tokens c)
    (n : Nat) : ∃ d r', r'.Stands tokens d ∧ ∃ enough, ∀ fuel ≥ enough,
      r.parseTimes fuel n = some ((c.parseTimes n).map (.mapError .fault), r') := by
  induction n generalizing r c with
  | zero => exact ⟨c, r, h, 0, fun _ _ => rfl⟩
  | succ n ih =>
    obtain ⟨r₁, stands, some, ends⟩ := Parser.program_follows h
    obtain ⟨d, r₂, stands', more, answers⟩ := ih stands
    refine ⟨d, r₂, stands', max some more, fun fuel hf => ?_⟩
    rw [Reader.parseTimes, ends fuel (Nat.le_trans (Nat.le_max_left _ _) hf)]
    simp only [bind, Option.bind, answers fuel (Nat.le_trans (Nat.le_max_right _ _) hf)]
    rfl

/-! ## Readers inside their tokens -/

/-- A reader that holds the tokens of a list stands at the first end of the input or before it, and
has come there by higher and higher indices. -/
structure Inside (tokens : List Token) (r : Reader) : Prop where
  holds : r.tokens = Cursor.held tokens
  bound : r.current ≤ (Cursor.held tokens).findIdx (·.kind = .endOfFile)
  path : (r.current :: r.trail).Pairwise (· > ·)

theorem findIdx_held (tokens : List Token) :
    (Cursor.held tokens).findIdx (·.kind = .endOfFile) = (Cursor.ofTokens tokens).size := by
  obtain ⟨later, whole⟩ := Cursor.held_eq tokens
  have ended := Cursor.finish_ofTokens tokens
  have none := List.findIdx_eq_length_of_false (p := fun t : Token => decide (t.kind = .endOfFile))
    fun t member => decide_eq_false (Cursor.proper_ofTokens tokens t member)
  rw [whole, List.findIdx_append, none]
  simp [List.findIdx_cons, ended, Cursor.size]

theorem inside_iff {tokens : List Token} {r : Reader} :
    r.Inside tokens ↔ ∃ c, r.Stands tokens c := by
  constructor
  · rintro ⟨holds, bound, path⟩
    rw [findIdx_held] at bound
    let start := Cursor.ofTokens tokens
    let before := start.rest.take r.current
    let c : Cursor := ⟨lastSpan start.last before, start.rest.drop r.current, start.finish⟩
    have read : start.Reads before c := ⟨(List.take_append_drop _ _).symm, rfl, rfl⟩
    exact ⟨c, holds, ⟨before, read, List.length_take_of_le bound⟩, path⟩
  · rintro ⟨c, h⟩
    refine ⟨h.holds, ?_, h.path⟩
    rw [findIdx_held, ← h.current_add_size]
    exact Nat.le_add_right _ _

theorem ofTokens_stands (tokens : List Token) :
    (ofTokens tokens).Stands tokens (.ofTokens tokens) :=
  ⟨rfl, ⟨[], .refl _, rfl⟩, List.pairwise_singleton _ _⟩

theorem mapError_ne_outside {α : Type} (answer : Except ParseError α) :
    answer.mapError Stop.fault ≠ .error .outside := by
  cases answer <;> simp [Except.mapError]

/-- A statement is read or refused from wherever a reader stands. -/
theorem Stands.statement {tokens : List Token} {r : Reader} {c : Cursor} (h : r.Stands tokens c) :
    ∃ (answer : Except ParseError Stmt) (r' : Reader), r'.Inside tokens ∧
      r.current ≤ r'.current ∧ (∀ stmt, answer = .ok stmt → r.current < r'.current) ∧
      ∃ enough, ∀ fuel ≥ enough, Walk.statement fuel r = some (answer.mapError .fault, r') := by
  obtain ⟨r', stands, ends⟩ := Parser.statement_follows h
  have all := h.current_add_size
  have all' := stands.current_add_size
  have moved := (Parser.statement c).cursor_size_le
  refine ⟨_, r', inside_iff.2 ⟨_, stands⟩, by omega, fun stmt read => ?_, ends⟩
  obtain ⟨d, read⟩ := Outcome.result_eq_ok.1 read
  have shorter := (Parser.statement c).property
  rw [read] at shorter all'
  have shorter : d.size + 1 ≤ c.size := shorter
  have all' : r'.current + d.size = (Cursor.ofTokens tokens).size := all'
  omega

/-- No reader looks up an index outside of its tokens, and all of its walks end. Wherever it stands,
up to the first end of the input, a statement is read or refused once there is enough fuel, without
a look-up that misses; the index does not go back or pass the end of the input, and is higher after
a statement. However often a program is asked for, also after errors, there is an answer each time,
the same as from a cursor, and after a program only the empty program follows. -/
theorem indices_inside (tokens : List Token) :
    (∀ r : Reader, r.Inside tokens → ∃ answer r', answer ≠ .error .outside ∧ r'.Inside tokens ∧
      r.current ≤ r'.current ∧ (∀ stmt, answer = .ok stmt → r.current < r'.current) ∧
      ∃ enough, ∀ fuel ≥ enough, Walk.statement fuel r = some (answer, r')) ∧
    ∀ n, ∃ answers r', (∀ answer ∈ answers, answer ≠ .error .outside) ∧ r'.Inside tokens ∧
      answers = ((Cursor.ofTokens tokens).parseTimes n).map (.mapError .fault) ∧
      (∀ i j p, answers[i]? = some (.ok p) → i < j → j < n → answers[j]? = some (.ok [])) ∧
      ∃ enough, ∀ fuel ≥ enough, (ofTokens tokens).parseTimes fuel n = some (answers, r') := by
  refine ⟨fun r inside => ?_, fun n => ?_⟩
  · obtain ⟨c, h⟩ := inside_iff.1 inside
    obtain ⟨answer, r', inside', forward, further, ends⟩ := h.statement
    refine ⟨_, r', mapError_ne_outside answer, inside', forward, fun stmt read => ?_, ends⟩
    cases answer with
    | ok stmt' => exact further stmt' rfl
    | error e => cases read
  · obtain ⟨d, r', stands, ends⟩ := (ofTokens_stands tokens).parseTimes n
    refine ⟨_, r', fun answer member => ?_, inside_iff.2 ⟨d, stands⟩, rfl, ?_, ends⟩
    · obtain ⟨answer, -, rfl⟩ := List.mem_map.1 member
      exact mapError_ne_outside answer
    · intro i j p read later inside
      rw [List.getElem?_map] at read ⊢
      obtain ⟨answer, found, same⟩ := Option.map_eq_some_iff.1 read
      cases answer with
      | error e => cases same
      | ok p' =>
        rw [Cursor.parseTimes_after_ok found later inside]
        rfl

/-- A number, the end of the input, and a parenthesis behind it that is never read. -/
theorem indices_inside_twice :
    let tokens : List Token := [⟨.number, "7", ⟨0, 1, 1, 1⟩⟩, .finish ⟨1, 1, 1, 2⟩,
      ⟨.closeParen, ")", ⟨1, 2, 1, 2⟩⟩]
    (ofTokens tokens).Inside tokens ∧ ∃ p r', r'.Inside tokens ∧
      ∃ enough, ∀ fuel ≥ enough,
        (ofTokens tokens).parseTimes fuel 2 = some ([.ok p, .ok []], r') := by
  intro tokens
  refine ⟨inside_iff.2 ⟨_, ofTokens_stands tokens⟩, ?_⟩
  obtain ⟨answers, r', -, inside, same, empty, ends⟩ := (indices_inside tokens).2 2
  obtain ⟨p, read⟩ : ∃ p, (Cursor.ofTokens tokens).parse.result = .ok p :=
    ⟨_, eq_ok_of_isOk (by decide +kernel) []⟩
  have first : answers[0]? = some (.ok p) := by
    rw [same, Cursor.parseTimes, read]
    rfl
  have second := empty 0 1 p first Nat.zero_lt_one (Nat.lt_succ_self 1)
  have two : answers.length = 2 := by rw [same]; rfl
  obtain ⟨a, b, rfl⟩ := List.length_eq_two.1 two
  obtain rfl : a = .ok p := Option.some.inj first
  obtain rfl : b = .ok [] := Option.some.inj second
  exact ⟨p, r', inside, ends⟩

end Reader

end SloScript
