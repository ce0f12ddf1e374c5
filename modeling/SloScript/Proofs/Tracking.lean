import SloScript.Proofs.Reading
import SloScript.Proofs.Relocation

/-!
# Two readers in step

A parser looks at one token at a time: at its kind, at the text of some tokens, and at nothing else
when it decides. So two cursors that show the same tokens, up to spans, are read in the same way for
as long as they do. A *tracking* says when two cursors are in step, and when the first one has come
so far that the second one is lost from sight. As long as the second is in sight both readers yield
the same, up to spans, or fail alike.

Results:
1. `expression_tracks`, `statement_tracks`, `program_tracks`: the parser keeps in step.
2. `parse_relocate`: replacing the spans of the tokens replaces those of the program.
3. `Tracking.of_shared`: what is read before two token lists begin to differ is the same in both;
   `statement_of_shared` says so of a statement.
-/

namespace SloScript

/-- The cursor that an outcome leaves. -/
def Outcome.cursor {α : Type} : Outcome α → Cursor
  | ok _ next => next
  | fail _ next => next

theorem Step.cursor_size_le {α : Type} {k : Nat} {c : Cursor} (s : Step k c α) :
    s.val.cursor.size ≤ c.size := by
  obtain ⟨_ | _, moved⟩ := s
  · exact Nat.le_trans (Nat.le_add_right _ k) moved
  · exact moved

theorem Step.expect_cons (kind : Kind) (last : Span) (t : Token) (ts : List Token)
    (finish : Token) :
    (expect kind ⟨last, t :: ts, finish⟩).val =
      if t.kind = kind then .ok t ⟨t.span, ts, finish⟩
      else .fail ⟨.unexpectedToken kind t.kind, t.span⟩ ⟨last, t :: ts, finish⟩ := by
  simp only [expect]
  split <;> rfl

/-- When two cursors are in step, and when the first one is out of sight of the second. -/
structure Tracking (r : Relocation) where
  pair : Cursor → Cursor → Prop
  lost : Cursor → Prop
  peek : ∀ {c c'}, pair c c' → c'.peek = c.peek.relocate r
  atEnd : ∀ {c c'}, pair c c' → c'.atEnd = c.atEnd
  last : ∀ {c c'}, pair c c' → c'.last = r.place c.last
  next : ∀ {c c' t t' ts ts'}, pair c c' → c.rest = t :: ts → c'.rest = t' :: ts' →
    lost ⟨t.span, ts, c.finish⟩ ∨ pair ⟨t.span, ts, c.finish⟩ ⟨t'.span, ts', c'.finish⟩
  lost_of_le : ∀ {c d}, lost c → d.size ≤ c.size → lost d

namespace Tracking

variable {r : Relocation}

/-- Outcomes of two readers in step: the same but for spans, unless the first one got out of
sight. -/
inductive Tracks (T : Tracking r) {α : Type} (f : α → α) : Outcome α → Outcome α → Prop
  | ok {a : α} {d d' : Cursor} : T.pair d d' → Tracks T f (.ok a d) (.ok (f a) d')
  | fail {e : ParseError} {d d' : Cursor} :
      T.pair d d' → Tracks T f (.fail e d) (.fail (e.relocate r) d')
  | lost {o o' : Outcome α} : T.lost o.cursor → Tracks T f o o'

variable {T : Tracking r} {c c' : Cursor}

/-! ## Looking at the next token -/

theorem kind (h : T.pair c c') : c'.peek.kind = c.peek.kind := by
  rw [T.peek h]
  rfl

theorem text (h : T.pair c c') : c'.peek.text = c.peek.text := by
  rw [T.peek h]
  rfl

theorem sees (h : T.pair c c') (k : Kind) : c'.sees k = c.sees k := by
  rw [Cursor.sees, Cursor.sees, kind h]

theorem sumOperator_eq (h : T.pair c c') : Parser.sumOperator? c' = Parser.sumOperator? c := by
  simp only [Parser.sumOperator?, kind h, text h]

theorem productOperator_eq (h : T.pair c c') :
    Parser.productOperator? c' = Parser.productOperator? c := by
  simp only [Parser.productOperator?, kind h, text h]

theorem spanFrom (h : T.pair c c') (start : Span) :
    c'.spanFrom (r.place start) = r.place (c.spanFrom start) := by
  rw [Cursor.spanFrom, Cursor.spanFrom, T.last h, r.merge]

/-! ## Steps -/

namespace Tracks

variable {α β : Type} {i k : Nat} {f : α → α} {g : β → β}

theorem done (h : T.pair c c') {a a' : α} (same : a' = f a) :
    T.Tracks f (Step.done a c).val (Step.done a' c').val := by
  rw [same]
  exact .ok h

theorem failed (h : T.pair c c') (fault : ParseFault) {span span' : Span}
    (place : span' = r.place span) :
    T.Tracks f (Step.fail fault span c : Step k c α).val
      (Step.fail fault span' c' : Step k c' α).val := by
  rw [place]
  exact .fail h

/-- One step after the other, if the second ones keep in step from wherever the first ones do. -/
theorem andThen {s : Step k c α} {s' : Step k c' α}
    {F : (a : α) → (d : Cursor) → d.size + k ≤ c.size → Step 0 d β}
    {F' : (a : α) → (d : Cursor) → d.size + k ≤ c'.size → Step 0 d β}
    {enough : i ≤ k} (first : T.Tracks f s.val s'.val)
    (second : ∀ a d hd d' hd', T.pair d d' → T.Tracks g (F a d hd).val (F' (f a) d' hd').val) :
    T.Tracks g (s.andThen F enough).val (s'.andThen F' enough).val := by
  obtain ⟨o, ho⟩ := s
  obtain ⟨o', ho'⟩ := s'
  cases first with
  | fail h => exact .fail h
  | @ok a d d' h =>
    rw [Step.andThen_of_ok (r := (F a d ho).val) rfl fun _ => rfl,
      Step.andThen_of_ok (r := (F' (f a) d' ho').val) rfl fun _ => rfl]
    exact second a d ho d' ho' h
  | lost gone =>
    refine .lost (T.lost_of_le gone ?_)
    cases o with
    | fail e d => exact Nat.le_refl _
    | ok a d =>
      rw [Step.andThen_of_ok (r := (F a d ho).val) rfl fun _ => rfl]
      exact (F a d ho).cursor_size_le

theorem expect (h : T.pair c c') (kind : Kind) :
    T.Tracks (Token.relocate r) (Step.expect kind c).val (Step.expect kind c').val := by
  have next := T.peek h
  have ended := T.atEnd h
  obtain ⟨last, rest, finish⟩ := c
  obtain ⟨last', rest', finish'⟩ := c'
  rcases rest with _ | ⟨t, ts⟩ <;> rcases rest' with _ | ⟨t', ts'⟩
  · obtain rfl : finish' = _ := next
    exact .failed h _ rfl
  · cases ended
  · cases ended
  · obtain rfl : t' = t.relocate r := next
    have kinds : (t.relocate r).kind = t.kind := rfl
    rw [Step.expect_cons, Step.expect_cons, kinds]
    split
    · rcases T.next h rfl rfl with gone | onward
      · exact .lost gone
      · exact .ok onward
    · exact .fail h

theorem take (h : T.pair c c') :
    T.Tracks (Token.relocate r) (Step.take c).val (Step.take c').val := by
  unfold Step.take
  rw [kind h]
  exact expect h _

end Tracks

end Tracking

/-! ## The parser -/

namespace Parser

variable {r : Relocation}

theorem binary_relocate (op : Operator) (left right : Expr) :
    binary op (left.relocate r) (right.relocate r) = (binary op left right).relocate r := by
  rw [binary, binary, Expr.relocate, Expr.span_relocate, Expr.span_relocate, r.merge]

variable {T : Tracking r}

open Tracking

mutual

theorem expression_tracks {c c' : Cursor} (h : T.pair c c') :
    T.Tracks (Expr.relocate r) (expression c).val (expression c').val := by
  rw [expression, expression]
  refine (operand_tracks h).andThen fun target d hd d' hd' h => ?_
  rw [sees h]
  split
  · refine (Tracks.take h).andThen fun _ e he e' he' h => ?_
    refine (expression_tracks h).andThen fun value f hf f' hf' h => .done h ?_
    rw [Expr.relocate, Expr.span_relocate, Expr.span_relocate, r.merge]
  · exact .done h rfl
termination_by 10 * c.size + 6
decreasing_by all_goals omega

theorem operand_tracks {c c' : Cursor} (h : T.pair c c') :
    T.Tracks (Expr.relocate r) (operand c).val (operand c').val := by
  rw [operand, operand, sees h]
  split
  · refine (Tracks.take h).andThen fun opening d hd d' hd' h => ?_
    refine (properties_tracks h).andThen fun entries e he e' he' h => ?_
    refine (Tracks.expect h _).andThen fun _ f hf f' hf' h => .done h ?_
    rw [Expr.relocate, ← spanFrom h]
    rfl
  · exact sum_tracks h
termination_by 10 * c.size + 5
decreasing_by all_goals omega

theorem properties_tracks {c c' : Cursor} (h : T.pair c c') :
    T.Tracks (relocateProperties r) (properties c).val (properties c').val := by
  rw [properties, properties, sees h, T.atEnd h]
  split
  · exact .done h (by rw [relocateProperties])
  · refine (Tracks.expect h _).andThen fun name d hd d' hd' h => ?_
    have short : Property.shorthand (ident (name.relocate r)) =
        (Property.shorthand (ident name)).relocate r := by rw [Property.relocate]; rfl
    simp only [sees h]
    split
    · refine (Tracks.take h).andThen fun _ e he e' he' h => ?_
      refine (properties_tracks h).andThen fun entries f hf f' hf' h => .done h ?_
      rw [relocateProperties, short]
    · split
      · exact .done h (by rw [relocateProperties, relocateProperties, short])
      · refine (Tracks.expect h _).andThen fun _ e he e' he' h => ?_
        refine (expression_tracks h).andThen fun value f hf f' hf' h => ?_
        let key := ident name
        have keyed : Property.keyed (ident (name.relocate r)) (value.relocate r)
            ((ident (name.relocate r)).span.merge (value.relocate r).span) =
              (Property.keyed key value (key.span.merge value.span)).relocate r := by
          rw [Property.relocate, Expr.span_relocate, r.merge]
          rfl
        rw [keyed, sees h]
        split
        · exact .done h (by rw [relocateProperties, relocateProperties])
        · refine (Tracks.expect h _).andThen fun _ g hg g' hg' h => ?_
          refine (properties_tracks h).andThen fun entries i hi i' hi' h => .done h ?_
          rw [relocateProperties]
termination_by 10 * c.size
decreasing_by all_goals omega

theorem sum_tracks {c c' : Cursor} (h : T.pair c c') :
    T.Tracks (Expr.relocate r) (sum c).val (sum c').val := by
  rw [sum, sum]
  exact (product_tracks h).andThen fun left d hd d' hd' h => sumRest_tracks h left
termination_by 10 * c.size + 4
decreasing_by all_goals omega

theorem sumRest_tracks {c c' : Cursor} (h : T.pair c c') (left : Expr) :
    T.Tracks (Expr.relocate r) (sumRest left c).val (sumRest (left.relocate r) c').val := by
  rw [sumRest, sumRest, sumOperator_eq h]
  cases Parser.sumOperator? c with
  | none => exact .done h rfl
  | some op =>
    refine (Tracks.take h).andThen fun _ d hd d' hd' h => ?_
    refine (product_tracks h).andThen fun right e he e' he' h => ?_
    rw [binary_relocate]
    exact sumRest_tracks h _
termination_by 10 * c.size
decreasing_by all_goals omega

theorem product_tracks {c c' : Cursor} (h : T.pair c c') :
    T.Tracks (Expr.relocate r) (product c).val (product c').val := by
  rw [product, product]
  exact (call_tracks h).andThen fun left d hd d' hd' h => productRest_tracks h left
termination_by 10 * c.size + 3
decreasing_by all_goals omega

theorem productRest_tracks {c c' : Cursor} (h : T.pair c c') (left : Expr) :
    T.Tracks (Expr.relocate r) (productRest left c).val (productRest (left.relocate r) c').val := by
  rw [productRest, productRest, productOperator_eq h]
  cases Parser.productOperator? c with
  | none => exact .done h rfl
  | some op =>
    refine (Tracks.take h).andThen fun _ d hd d' hd' h => ?_
    refine (call_tracks h).andThen fun right e he e' he' h => ?_
    rw [binary_relocate]
    exact productRest_tracks h _
termination_by 10 * c.size
decreasing_by all_goals omega

theorem call_tracks {c c' : Cursor} (h : T.pair c c') :
    T.Tracks (Expr.relocate r) (call c).val (call c').val := by
  rw [call, call]
  exact (member_tracks h).andThen fun callee d hd d' hd' h => callRest_tracks h callee
termination_by 10 * c.size + 2
decreasing_by all_goals omega

theorem callRest_tracks {c c' : Cursor} (h : T.pair c c') (callee : Expr) :
    T.Tracks (Expr.relocate r) (callRest callee c).val (callRest (callee.relocate r) c').val := by
  rw [callRest, callRest, sees h]
  split
  · refine (arguments_tracks h).andThen fun args d hd d' hd' h => ?_
    have whole : Expr.call (callee.relocate r) (relocateArgs r args)
        (d'.spanFrom (callee.relocate r).span) =
          (Expr.call callee args (d.spanFrom callee.span)).relocate r := by
      rw [Expr.relocate, Expr.span_relocate, spanFrom h]
    rw [whole]
    exact callRest_tracks h _
  · exact .done h rfl
termination_by 10 * c.size + 1
decreasing_by all_goals omega

theorem arguments_tracks {c c' : Cursor} (h : T.pair c c') :
    T.Tracks (relocateArgs r) (arguments c).val (arguments c').val := by
  rw [arguments, arguments]
  refine (Tracks.expect h _).andThen fun _ d hd d' hd' h => ?_
  rw [sees h]
  split
  · exact (Tracks.take h).andThen fun _ e he e' he' h => .done h (by rw [relocateArgs])
  · refine (expression_tracks h).andThen fun first e he e' he' h => ?_
    refine (argumentsRest_tracks h).andThen fun others f hf f' hf' h => ?_
    exact (Tracks.expect h _).andThen fun _ g hg g' hg' h => .done h (by rw [relocateArgs])
termination_by 10 * c.size
decreasing_by all_goals omega

theorem argumentsRest_tracks {c c' : Cursor} (h : T.pair c c') :
    T.Tracks (relocateArgs r) (argumentsRest c).val (argumentsRest c').val := by
  rw [argumentsRest, argumentsRest, sees h]
  split
  · refine (Tracks.take h).andThen fun _ d hd d' hd' h => ?_
    refine (expression_tracks h).andThen fun arg e he e' he' h => ?_
    exact (argumentsRest_tracks h).andThen fun others f hf f' hf' h =>
      .done h (by rw [relocateArgs])
  · exact .done h (by rw [relocateArgs])
termination_by 10 * c.size
decreasing_by all_goals omega

theorem member_tracks {c c' : Cursor} (h : T.pair c c') :
    T.Tracks (Expr.relocate r) (member c).val (member c').val := by
  rw [member, member]
  exact (primary_tracks h).andThen fun object d hd d' hd' h => memberRest_tracks h object
termination_by 10 * c.size + 1
decreasing_by all_goals omega

theorem memberRest_tracks {c c' : Cursor} (h : T.pair c c') (object : Expr) :
    T.Tracks (Expr.relocate r) (memberRest object c).val
      (memberRest (object.relocate r) c').val := by
  rw [memberRest, memberRest, sees h, sees h]
  split
  · refine (Tracks.take h).andThen fun _ d hd d' hd' h => ?_
    rw [sees h]
    split
    · refine (Tracks.take h).andThen fun name e he e' he' h => ?_
      have whole : Expr.member (object.relocate r) (ident (name.relocate r))
          (e'.spanFrom (object.relocate r).span) =
            (Expr.member object (ident name) (e.spanFrom object.span)).relocate r := by
        rw [Expr.relocate, Expr.span_relocate, spanFrom h]
        rfl
      rw [whole]
      exact memberRest_tracks h _
    · rw [T.peek h]
      exact .failed h _ rfl
  · split
    · refine (Tracks.take h).andThen fun _ d hd d' hd' h => ?_
      refine (expression_tracks h).andThen fun key e he e' he' h => ?_
      refine (Tracks.expect h _).andThen fun _ f hf f' hf' h => ?_
      have whole : Expr.index (object.relocate r) (key.relocate r)
          (f'.spanFrom (object.relocate r).span) =
            (Expr.index object key (f.spanFrom object.span)).relocate r := by
        rw [Expr.relocate, Expr.span_relocate, spanFrom h]
      rw [whole]
      exact memberRest_tracks h _
    · exact .done h rfl
termination_by 10 * c.size
decreasing_by all_goals omega

theorem primary_tracks {c c' : Cursor} (h : T.pair c c') :
    T.Tracks (Expr.relocate r) (primary c).val (primary c').val := by
  rw [primary, primary, kind h]
  split
  · exact (Tracks.take h).andThen fun t d hd d' hd' h => .done h (by rw [Expr.relocate]; rfl)
  · refine (Tracks.take h).andThen fun t d hd d' hd' h => ?_
    rw [show (t.relocate r).text = t.text from rfl]
    cases Number.read? t.text with
    | some x => exact .done h (by rw [Expr.relocate]; rfl)
    | none => exact .failed h _ rfl
  · exact (Tracks.take h).andThen fun t d hd d' hd' h => .done h (by rw [Expr.relocate]; rfl)
  · refine (Tracks.take h).andThen fun _ d hd d' hd' h => ?_
    refine (expression_tracks h).andThen fun inner e he e' he' h => ?_
    exact (Tracks.expect h _).andThen fun _ f hf f' hf' h => .done h rfl
  · rw [T.peek h]
    exact .failed h _ rfl
termination_by 10 * c.size
decreasing_by all_goals omega

end

theorem declaration_tracks {c c' : Cursor} (h : T.pair c c') :
    T.Tracks (Stmt.relocate r) (declaration c).val (declaration c').val := by
  rw [declaration, declaration]
  refine (Tracks.take h).andThen fun word d hd d' hd' h => ?_
  refine (Tracks.expect h _).andThen fun t e he e' he' h => ?_
  have kinds : (word.relocate r).kind = word.kind := rfl
  simp only [sees h, kinds]
  split
  · refine (Tracks.take h).andThen fun _ f hf f' hf' h => ?_
    split
    · exact .failed h _ (spanFrom h word.span)
    · refine .done h ?_
      rw [Stmt.relocate, ← spanFrom h]
      rfl
  · refine (Tracks.expect h _).andThen fun _ f hf f' hf' h => ?_
    refine (expression_tracks h).andThen fun init g hg g' hg' h => ?_
    refine (Tracks.expect h _).andThen fun _ i hi i' hi' h => .done h ?_
    split
    · rw [Stmt.relocate, ← spanFrom h]
      rfl
    · rw [Stmt.relocate, ← spanFrom h]
      rfl

theorem mapM_parameter_relocate (args : List Expr) :
    (relocateArgs r args).mapM parameter =
      ((args.mapM parameter).mapError (Located.relocate r)).map (List.map (Ident.relocate r)) := by
  induction args with
  | nil => rw [relocateArgs]; rfl
  | cons arg args ih =>
    rw [relocateArgs, List.mapM_cons, List.mapM_cons, ih]
    cases args.mapM parameter <;> cases arg <;> simp only [Expr.relocate, parameter] <;> rfl

theorem firstRepeated_relocate (earlier : List String) (ids : List Ident) :
    firstRepeated earlier (ids.map (Ident.relocate r)) =
      (firstRepeated earlier ids).map (Ident.relocate r) := by
  induction ids generalizing earlier with
  | nil => rfl
  | cons id ids ih =>
    rw [List.map_cons, firstRepeated, firstRepeated]
    have names : (id.relocate r).name = id.name := rfl
    rw [names]
    split
    · rfl
    · exact ih _

theorem parameters_relocate (args : List Expr) :
    parameters (relocateArgs r args) =
      ((parameters args).mapError (Located.relocate r)).map (List.map (Ident.relocate r)) := by
  rw [parameters, parameters, mapM_parameter_relocate]
  cases args.mapM parameter with
  | error e => rfl
  | ok ids =>
    simp only [bind, Except.bind, Except.mapError, Except.map, firstRepeated_relocate]
    cases firstRepeated [] ids <;> rfl

mutual

theorem statement_tracks {c c' : Cursor} (h : T.pair c c') :
    T.Tracks (Stmt.relocate r) (statement c).val (statement c').val := by
  rw [statement, statement, kind h]
  split
  · exact declaration_tracks h
  · exact declaration_tracks h
  · exact function_tracks h
  · exact branch_tracks h
  · refine (expression_tracks h).andThen fun e d hd d' hd' h => ?_
    rw [sees h]
    split
    · exact (Tracks.take h).andThen fun _ f hf f' hf' h => .done h (by rw [Stmt.relocate])
    · exact .done h (by rw [Stmt.relocate])
termination_by 10 * c.size + 2
decreasing_by all_goals omega

theorem function_tracks {c c' : Cursor} (h : T.pair c c') :
    T.Tracks (Stmt.relocate r) (function c).val (function c').val := by
  rw [function, function]
  refine (Tracks.take h).andThen fun word d hd d' hd' h => ?_
  refine (Tracks.expect h _).andThen fun name e he e' he' h => ?_
  refine (arguments_tracks h).andThen fun args f hf f' hf' h => ?_
  rw [parameters_relocate]
  cases parameters args with
  | error fault => exact .failed h _ rfl
  | ok params =>
    refine (Tracks.expect h _).andThen fun _ g hg g' hg' h => ?_
    refine (block_tracks h).andThen fun body i hi i' hi' h => .done h ?_
    rw [Stmt.relocate, ← spanFrom h]
    rfl
termination_by 10 * c.size
decreasing_by all_goals omega

theorem branch_tracks {c c' : Cursor} (h : T.pair c c') :
    T.Tracks (Stmt.relocate r) (branch c).val (branch c').val := by
  rw [branch, branch]
  refine (Tracks.take h).andThen fun word d hd d' hd' h => ?_
  refine (Tracks.expect h _).andThen fun _ e he e' he' h => ?_
  refine (expression_tracks h).andThen fun test f hf f' hf' h => ?_
  refine (Tracks.expect h _).andThen fun _ g hg g' hg' h => ?_
  refine (Tracks.expect h _).andThen fun _ i hi i' hi' h => ?_
  refine (block_tracks h).andThen fun consequent j hj j' hj' h => ?_
  refine (alternative_tracks h).andThen fun alternate k hk k' hk' h => .done h ?_
  rw [Stmt.relocate, ← spanFrom h]
  rfl
termination_by 10 * c.size
decreasing_by all_goals omega

theorem alternative_tracks {c c' : Cursor} (h : T.pair c c') :
    T.Tracks (relocateBody r) (alternative c).val (alternative c').val := by
  rw [alternative, alternative, sees h]
  split
  · refine (Tracks.take h).andThen fun _ d hd d' hd' h => ?_
    rw [sees h]
    split
    · exact (branch_tracks h).andThen fun inner e he e' he' h =>
        .done h (by rw [relocateBody, relocateBody])
    · refine (Tracks.expect h _).andThen fun _ e he e' he' h => ?_
      exact (block_tracks h).andThen fun stmts f hf f' hf' h => .done h rfl
  · exact .done h (by rw [relocateBody])
termination_by 10 * c.size
decreasing_by all_goals omega

theorem block_tracks {c c' : Cursor} (h : T.pair c c') :
    T.Tracks (relocateBody r) (block c).val (block c').val := by
  rw [block, block, sees h, T.atEnd h]
  split
  · exact (Tracks.expect h _).andThen fun _ d hd d' hd' h => .done h (by rw [relocateBody])
  · refine (statement_tracks h).andThen fun stmt d hd d' hd' h => ?_
    exact (block_tracks h).andThen fun stmts e he e' he' h => .done h (by rw [relocateBody])
termination_by 10 * c.size + 3
decreasing_by all_goals omega

end

theorem program_tracks {c c' : Cursor} (h : T.pair c c') :
    T.Tracks (relocateBody r) (program c).val (program c').val := by
  rw [program, program, T.atEnd h]
  split
  · exact .done h (by rw [relocateBody])
  · refine (statement_tracks h).andThen fun stmt d hd d' hd' h => ?_
    exact (program_tracks h).andThen fun stmts e he e' he' h => .done h (by rw [relocateBody])
termination_by c.size
decreasing_by all_goals omega

end Parser

/-! ## Tokens with other spans -/

/-- What a reader yields, wherever its cursor stands. -/
def Outcome.result {α : Type} : Outcome α → Except ParseError α
  | ok a _ => .ok a
  | fail e _ => .error e

theorem parseTokens_eq (tokens : List Token) :
    parseTokens tokens = (Cursor.ofTokens tokens).parse.result := by
  unfold parseTokens
  cases (Cursor.ofTokens tokens).parse <;> rfl

/-- A cursor with the spans of its tokens replaced. -/
def Cursor.relocate (r : Relocation) (c : Cursor) : Cursor :=
  ⟨r.place c.last, c.rest.map (Token.relocate r), c.finish.relocate r⟩

/-- A cursor is in step with itself after a replacement of spans, and never out of sight. -/
def Tracking.image (r : Relocation) : Tracking r where
  pair c c' := c' = c.relocate r
  lost _ := False
  peek := by
    rintro ⟨last, _ | ⟨t, ts⟩, finish⟩ _ rfl <;> rfl
  atEnd := by
    rintro ⟨last, _ | ⟨t, ts⟩, finish⟩ _ rfl <;> rfl
  last := by
    rintro c _ rfl
    rfl
  next := by
    rintro ⟨last, rest, finish⟩ _ t t' ts ts' rfl rfl here
    obtain ⟨rfl, rfl⟩ := List.cons.inj here
    exact .inr rfl
  lost_of_le := fun gone _ => gone

/-- Replacing the spans of the tokens replaces the spans of the program, or that of the error, and
changes nothing else. -/
theorem Cursor.parse_relocate (r : Relocation) (c : Cursor) :
    (c.relocate r).parse.result =
      (c.parse.result.mapError (Located.relocate r)).map (relocateBody r) := by
  have tracks := Parser.program_tracks (T := .image r) (c := c) rfl
  unfold Cursor.parse
  generalize (Parser.program c).val = o at tracks ⊢
  generalize (Parser.program (c.relocate r)).val = o' at tracks ⊢
  cases tracks with
  | ok _ => rfl
  | fail _ => rfl
  | lost gone => exact gone.elim

theorem Cursor.ofTokens_erase (tokens : List Token) :
    ofTokens (tokens.map (Token.relocate .erase)) = (ofTokens tokens).relocate .erase := by
  have kinds : (fun t : Token => decide (t.kind ≠ .endOfFile)) ∘ Token.relocate .erase =
      fun t => decide (t.kind ≠ .endOfFile) := rfl
  have missing : missingFinish (tokens.map (Token.relocate .erase)) =
      (missingFinish tokens).relocate .erase := by
    unfold missingFinish
    rw [List.getLast?_map]
    cases tokens.getLast? <;> rfl
  unfold ofTokens relocate
  rw [List.takeWhile_map, List.dropWhile_map, kinds, missing, List.head?_map]
  cases (tokens.dropWhile fun t => decide (t.kind ≠ .endOfFile)).head? <;> rfl

/-! ## Tokens with another continuation -/

/-- Two cursors with the same tokens up to a place where they continue differently. They are in step
before that place. -/
def Tracking.shared (rest rest' : List Token) (finish' : Token) : Tracking .keep where
  pair c c' := ∃ ts, ts ≠ [] ∧ c.rest = ts ++ rest ∧ c' = ⟨c.last, ts ++ rest', finish'⟩
  lost c := c.size ≤ rest.length
  peek := by
    rintro ⟨last, _, finish⟩ _ ⟨_ | ⟨t, ts⟩, some, rfl, rfl⟩
    · exact absurd rfl some
    · rfl
  atEnd := by
    rintro ⟨last, _, finish⟩ _ ⟨_ | ⟨t, ts⟩, some, rfl, rfl⟩
    · exact absurd rfl some
    · rfl
  last := by
    rintro _ _ ⟨_, -, -, rfl⟩
    rfl
  next := by
    rintro ⟨last, _, finish⟩ _ t t' us us' ⟨_ | ⟨t, ts⟩, some, rfl, rfl⟩ here here'
    · exact absurd rfl some
    · obtain ⟨rfl, rfl⟩ := List.cons.inj here
      obtain ⟨rfl, rfl⟩ := List.cons.inj here'
      cases ts with
      | nil => exact .inl (Nat.le_refl _)
      | cons u ts => exact .inr ⟨u :: ts, List.cons_ne_nil u ts, rfl, rfl⟩
  lost_of_le gone moved := Nat.le_trans moved gone

/-- The same outcome with the cursor somewhere else. -/
def Outcome.leaving {α : Type} (d : Cursor) : Outcome α → Outcome α
  | ok a _ => ok a d
  | fail e _ => fail e d

/-- What ends before the place where the tokens begin to differ ends alike in both. -/
theorem Tracking.of_shared {α : Type} {f : α → α} (keeps : ∀ a, f a = a) {k : Nat} {c : Cursor}
    {ts rest rest' : List Token} {finish' : Token} {s : Step k c α} {o' : Outcome α}
    (here : c.rest = ts ++ rest) (before : rest.length < s.val.cursor.size)
    (tracks : (shared rest rest' finish').pair c ⟨c.last, ts ++ rest', finish'⟩ →
      (shared rest rest' finish').Tracks f s.val o') :
    ∃ us, us ≠ [] ∧ s.val.cursor.rest = us ++ rest ∧
      o' = s.val.leaving ⟨s.val.cursor.last, us ++ rest', finish'⟩ := by
  have some : ts ≠ [] := by
    rintro rfl
    have all : c.size = rest.length := congrArg List.length here
    have moved := s.cursor_size_le
    omega
  have tracks := tracks ⟨ts, some, here, rfl⟩
  generalize s.val = o at tracks before ⊢
  cases tracks with
  | ok paired =>
    obtain ⟨us, more, there, rfl⟩ := paired
    exact ⟨us, more, there, by rw [keeps]; rfl⟩
  | fail paired =>
    obtain ⟨us, more, there, rfl⟩ := paired
    exact ⟨us, more, there, rfl⟩
  | lost gone => exact absurd gone (Nat.not_le.2 before)

/-- A statement that ends before the place where the tokens begin to differ is read from both. -/
theorem Parser.statement_of_shared {c d : Cursor} {stmt : Stmt} {ts rest : List Token}
    (here : c.rest = ts ++ rest) (read : (statement c).val = .ok stmt d)
    (before : rest.length < d.size) (rest' : List Token) (finish' : Token) :
    ∃ us, us ≠ [] ∧ d.rest = us ++ rest ∧
      (statement ⟨c.last, ts ++ rest', finish'⟩).val = .ok stmt ⟨d.last, us ++ rest', finish'⟩ := by
  obtain ⟨us, some, there, alike⟩ := Tracking.of_shared Stmt.relocate_keep here
    (by rw [read]; exact before) (statement_tracks (T := .shared rest rest' finish'))
  rw [read] at there alike
  exact ⟨us, some, there, alike⟩

end SloScript
