import SloScript.Proofs.Nesting

/-!
# Where faults of reading are reported

A fault in the order of tokens is reported when the reader stands before the token that does not
fit, or right behind tokens that it has to look back at: a numeral that is no number, a constant
that lacks its value, a parameter that is no name or is used twice. A `Blame` says what is kept
while tokens are read and which errors may be reported in these cases, and the parser is followed
function by function only once, for every `Blame`.

Results:
1. `Parser.expression_blamed`, `Parser.statement_blamed`, `Parser.program_blamed`: the parser fails
   with an error that may be reported, or keeps what is kept.
2. `Blame.places`: errors are reported at a token, at the end of the input, or at a stretch of
   tokens that was read already.
-/

namespace SloScript

/-- What is kept while tokens are read, and which errors may be reported where the cursor stands
when reading fails. Only the errors about a constant and about parameters look back at more than one
token. -/
structure Blame where
  holds : Cursor → Prop
  blames : ParseError → Cursor → Prop
  next : ∀ {c d t}, holds c → c.Reads [t] d → holds d
  unexpected : ∀ {c} (kind : Kind), holds c →
    blames ⟨.unexpectedToken kind c.peek.kind, c.peek.span⟩ c
  expression : ∀ {c}, holds c →
    blames ⟨.expectedExpression c.peek.kind c.peek.text, c.peek.span⟩ c
  member : ∀ {c}, holds c → blames ⟨.invalidMemberAccess c.peek.kind, c.peek.span⟩ c
  number : ∀ {c d t}, holds c → c.Reads [t] d → blames ⟨.invalidNumber t.text, t.span⟩ d
  constant : ∀ {c d word t z}, holds c → c.Reads [word, t, z] d →
    blames ⟨.constWithoutInitializer t.text, d.spanFrom word.span⟩ d
  parameters : ∀ {c d args e}, holds c → (Parser.arguments c).val = .ok args d → holds d →
    Parser.parameters args = .error e → blames e d

/-- A success keeps what is kept, and a failure is one that may be reported. -/
def Outcome.Blamed {α : Type} (B : Blame) : Outcome α → Prop
  | ok _ d => B.holds d
  | fail e d => B.blames e d

namespace Outcome.Blamed

variable {α β : Type} {B : Blame} {c : Cursor} {i k : Nat}

theorem done (h : B.holds c) (a : α) : (Step.done a c).val.Blamed B := h

theorem failed {fault : ParseFault} {span : Span} (h : B.blames ⟨fault, span⟩ c) :
    (Step.fail fault span c : Step k c α).val.Blamed B := h

theorem andThen {s : Step k c α} {f : (a : α) → (d : Cursor) → d.size + k ≤ c.size → Step 0 d β}
    {enough : i ≤ k} (first : s.val.Blamed B)
    (second : ∀ a d hd, s.val = .ok a d → B.holds d → (f a d hd).val.Blamed B) :
    (s.andThen f enough).val.Blamed B := by
  obtain ⟨o, ho⟩ := s
  cases o with
  | fail e d => exact first
  | ok a d =>
    rw [Step.andThen_of_ok (r := (f a d ho).val) rfl fun _ => rfl]
    exact second a d ho rfl first

theorem expect (h : B.holds c) (kind : Kind) : (Step.expect kind c).val.Blamed B := by
  cases read : (Step.expect kind c).val with
  | ok t d => exact B.next h (Step.expect_ok read).1
  | fail e d =>
    obtain ⟨rfl, rfl⟩ := Step.expect_fail read
    exact B.unexpected kind h

theorem take (h : B.holds c) : (Step.take c).val.Blamed B := expect h _

end Outcome.Blamed

/-! ## The parser -/

namespace Parser

open Outcome

variable {B : Blame}

mutual

theorem expression_blamed {c : Cursor} (h : B.holds c) : (expression c).val.Blamed B := by
  rw [expression]
  refine (operand_blamed h).andThen fun target d _ _ h => ?_
  split
  · refine (Blamed.take h).andThen fun _ e _ _ h => ?_
    exact (expression_blamed h).andThen fun value f _ _ h => .done h _
  · exact .done h _
termination_by 10 * c.size + 6
decreasing_by all_goals omega

theorem operand_blamed {c : Cursor} (h : B.holds c) : (operand c).val.Blamed B := by
  rw [operand]
  split
  · refine (Blamed.take h).andThen fun _ d _ _ h => ?_
    refine (properties_blamed h).andThen fun _ e _ _ h => ?_
    exact (Blamed.expect h _).andThen fun _ f _ _ h => .done h _
  · exact sum_blamed h
termination_by 10 * c.size + 5
decreasing_by all_goals omega

theorem properties_blamed {c : Cursor} (h : B.holds c) : (properties c).val.Blamed B := by
  rw [properties]
  split
  · exact .done h _
  · refine (Blamed.expect h _).andThen fun name d _ _ h => ?_
    dsimp only
    split
    · refine (Blamed.take h).andThen fun _ e _ _ h => ?_
      exact (properties_blamed h).andThen fun _ f _ _ h => .done h _
    · split
      · exact .done h _
      · refine (Blamed.expect h _).andThen fun _ e _ _ h => ?_
        refine (expression_blamed h).andThen fun value f _ _ h => ?_
        split
        · exact .done h _
        · refine (Blamed.expect h _).andThen fun _ g _ _ h => ?_
          exact (properties_blamed h).andThen fun _ i _ _ h => .done h _
termination_by 10 * c.size
decreasing_by all_goals omega

theorem sum_blamed {c : Cursor} (h : B.holds c) : (sum c).val.Blamed B := by
  rw [sum]
  exact (product_blamed h).andThen fun left d _ _ h => sumRest_blamed h left
termination_by 10 * c.size + 4
decreasing_by all_goals omega

theorem sumRest_blamed {c : Cursor} (h : B.holds c) (left : Expr) :
    (sumRest left c).val.Blamed B := by
  rw [sumRest]
  split
  · exact .done h _
  · refine (Blamed.take h).andThen fun _ d _ _ h => ?_
    exact (product_blamed h).andThen fun right e _ _ h => sumRest_blamed h _
termination_by 10 * c.size
decreasing_by all_goals omega

theorem product_blamed {c : Cursor} (h : B.holds c) : (product c).val.Blamed B := by
  rw [product]
  exact (call_blamed h).andThen fun left d _ _ h => productRest_blamed h left
termination_by 10 * c.size + 3
decreasing_by all_goals omega

theorem productRest_blamed {c : Cursor} (h : B.holds c) (left : Expr) :
    (productRest left c).val.Blamed B := by
  rw [productRest]
  split
  · exact .done h _
  · refine (Blamed.take h).andThen fun _ d _ _ h => ?_
    exact (call_blamed h).andThen fun right e _ _ h => productRest_blamed h _
termination_by 10 * c.size
decreasing_by all_goals omega

theorem call_blamed {c : Cursor} (h : B.holds c) : (call c).val.Blamed B := by
  rw [call]
  exact (member_blamed h).andThen fun callee d _ _ h => callRest_blamed h callee
termination_by 10 * c.size + 2
decreasing_by all_goals omega

theorem callRest_blamed {c : Cursor} (h : B.holds c) (callee : Expr) :
    (callRest callee c).val.Blamed B := by
  rw [callRest]
  split
  · exact (arguments_blamed h).andThen fun args d _ _ h => callRest_blamed h _
  · exact .done h _
termination_by 10 * c.size + 1
decreasing_by all_goals omega

theorem arguments_blamed {c : Cursor} (h : B.holds c) : (arguments c).val.Blamed B := by
  rw [arguments]
  refine (Blamed.expect h _).andThen fun _ d _ _ h => ?_
  split
  · exact (Blamed.take h).andThen fun _ e _ _ h => .done h _
  · refine (expression_blamed h).andThen fun first e _ _ h => ?_
    refine (argumentsRest_blamed h).andThen fun others f _ _ h => ?_
    exact (Blamed.expect h _).andThen fun _ g _ _ h => .done h _
termination_by 10 * c.size
decreasing_by all_goals omega

theorem argumentsRest_blamed {c : Cursor} (h : B.holds c) :
    (argumentsRest c).val.Blamed B := by
  rw [argumentsRest]
  split
  · refine (Blamed.take h).andThen fun _ d _ _ h => ?_
    refine (expression_blamed h).andThen fun arg e _ _ h => ?_
    exact (argumentsRest_blamed h).andThen fun others f _ _ h => .done h _
  · exact .done h _
termination_by 10 * c.size
decreasing_by all_goals omega

theorem member_blamed {c : Cursor} (h : B.holds c) : (member c).val.Blamed B := by
  rw [member]
  exact (primary_blamed h).andThen fun object d _ _ h => memberRest_blamed h object
termination_by 10 * c.size + 1
decreasing_by all_goals omega

theorem memberRest_blamed {c : Cursor} (h : B.holds c) (object : Expr) :
    (memberRest object c).val.Blamed B := by
  rw [memberRest]
  split
  · refine (Blamed.take h).andThen fun _ d _ _ h => ?_
    split
    · exact (Blamed.take h).andThen fun name e _ _ h => memberRest_blamed h _
    · exact .failed (B.member h)
  · split
    · refine (Blamed.take h).andThen fun _ d _ _ h => ?_
      refine (expression_blamed h).andThen fun key e _ _ h => ?_
      exact (Blamed.expect h _).andThen fun _ f _ _ h => memberRest_blamed h _
    · exact .done h _
termination_by 10 * c.size
decreasing_by all_goals omega

theorem primary_blamed {c : Cursor} (h : B.holds c) : (primary c).val.Blamed B := by
  rw [primary]
  split
  · exact (Blamed.take h).andThen fun t d _ _ h => .done h _
  · refine (Blamed.take h).andThen fun t d _ read h' => ?_
    split
    · exact .done h' _
    · exact .failed (B.number h (Step.take_ok read))
  · exact (Blamed.take h).andThen fun t d _ _ h => .done h _
  · refine (Blamed.take h).andThen fun _ d _ _ h => ?_
    refine (expression_blamed h).andThen fun inner e _ _ h => ?_
    exact (Blamed.expect h _).andThen fun _ f _ _ h => .done h _
  · exact .failed (B.expression h)
termination_by 10 * c.size
decreasing_by all_goals omega

end

theorem declaration_blamed {c : Cursor} (h : B.holds c) : (declaration c).val.Blamed B := by
  rw [declaration]
  refine (Blamed.take h).andThen fun word d _ first h₁ => ?_
  refine (Blamed.expect h₁ _).andThen fun t e _ second h₂ => ?_
  dsimp only
  split
  · refine (Blamed.take h₂).andThen fun z f _ third h₃ => ?_
    split
    · have read := (Step.take_ok first).trans ((Step.expect_ok second).1.trans (Step.take_ok third))
      exact .failed (B.constant h read)
    · exact .done h₃ _
  · refine (Blamed.expect h₂ _).andThen fun _ f _ _ h => ?_
    refine (expression_blamed h).andThen fun init g _ _ h => ?_
    exact (Blamed.expect h _).andThen fun _ i _ _ h => .done h _

mutual

theorem statement_blamed {c : Cursor} (h : B.holds c) : (statement c).val.Blamed B := by
  rw [statement]
  split
  · exact declaration_blamed h
  · exact declaration_blamed h
  · exact function_blamed h
  · exact branch_blamed h
  · refine (expression_blamed h).andThen fun e d _ _ h => ?_
    split
    · exact (Blamed.take h).andThen fun _ f _ _ h => .done h _
    · exact .done h _
termination_by 10 * c.size + 2
decreasing_by all_goals omega

theorem function_blamed {c : Cursor} (h : B.holds c) : (function c).val.Blamed B := by
  rw [function]
  refine (Blamed.take h).andThen fun word d _ _ h => ?_
  refine (Blamed.expect h _).andThen fun name e _ _ h => ?_
  refine (arguments_blamed h).andThen fun args f _ read h' => ?_
  split
  · next fault wrong => exact .failed (B.parameters h read h' wrong)
  · refine (Blamed.expect h' _).andThen fun _ g _ _ h => ?_
    exact (block_blamed h).andThen fun body i _ _ h => .done h _
termination_by 10 * c.size
decreasing_by all_goals omega

theorem branch_blamed {c : Cursor} (h : B.holds c) : (branch c).val.Blamed B := by
  rw [branch]
  refine (Blamed.take h).andThen fun word d _ _ h => ?_
  refine (Blamed.expect h _).andThen fun _ e _ _ h => ?_
  refine (expression_blamed h).andThen fun test f _ _ h => ?_
  refine (Blamed.expect h _).andThen fun _ g _ _ h => ?_
  refine (Blamed.expect h _).andThen fun _ i _ _ h => ?_
  refine (block_blamed h).andThen fun consequent j _ _ h => ?_
  exact (alternative_blamed h).andThen fun alternate k _ _ h => .done h _
termination_by 10 * c.size
decreasing_by all_goals omega

theorem alternative_blamed {c : Cursor} (h : B.holds c) : (alternative c).val.Blamed B := by
  rw [alternative]
  split
  · refine (Blamed.take h).andThen fun _ d _ _ h => ?_
    split
    · exact (branch_blamed h).andThen fun inner e _ _ h => .done h _
    · refine (Blamed.expect h _).andThen fun _ e _ _ h => ?_
      exact (block_blamed h).andThen fun stmts f _ _ h => .done h _
  · exact .done h _
termination_by 10 * c.size
decreasing_by all_goals omega

theorem block_blamed {c : Cursor} (h : B.holds c) : (block c).val.Blamed B := by
  rw [block]
  split
  · exact (Blamed.expect h _).andThen fun _ d _ _ h => .done h _
  · refine (statement_blamed h).andThen fun stmt d _ _ h => ?_
    exact (block_blamed h).andThen fun stmts e _ _ h => .done h _
termination_by 10 * c.size + 3
decreasing_by all_goals omega

end

theorem program_blamed {c : Cursor} (h : B.holds c) : (program c).val.Blamed B := by
  rw [program]
  split
  · exact .done h _
  · refine (statement_blamed h).andThen fun stmt d _ _ h => ?_
    exact (program_blamed h).andThen fun stmts e _ _ h => .done h _
termination_by c.size
decreasing_by all_goals omega

end Parser

/-! ## Places -/

/-- The end of the input and every stretch of the tokens left are places as described. -/
structure Cursor.Sited (place : Span → Prop) (c : Cursor) : Prop where
  spelled : c.Spelled
  inOrder : InOrder c.rest
  finish : place c.finish.span
  stretch : ∀ {ts : List Token} {span : Span}, ts.Sublist c.rest → span.Over ts → place span

namespace Cursor.Sited

variable {place : Span → Prop} {c d : Cursor} {t : Token} {ts : List Token}

theorem of_reads (h : c.Sited place) (read : c.Reads ts d) : d.Sited place := by
  have left : d.rest.Sublist c.rest := read.rest ▸ List.sublist_append_right ts d.rest
  exact ⟨h.spelled.of_reads read, h.inOrder.sublist left, read.finish ▸ h.finish,
    fun part => h.stretch (part.trans left)⟩

theorem token (h : c.Sited place) (read : c.Reads (t :: ts) d) : place t.span := by
  refine h.stretch (List.singleton_sublist.2 ?_) (.singleton t)
  rw [read.rest]
  exact List.mem_cons_self

theorem peek (h : c.Sited place) : place c.peek.span := by
  unfold Cursor.peek
  split
  · exact h.finish
  · next t ts rest =>
    have member : t ∈ c.rest := rest ▸ List.mem_cons_self
    exact h.stretch (List.singleton_sublist.2 member) (.singleton t)

end Cursor.Sited

namespace Parser

theorem mapM_parameter_error {args : List Expr} {e : ParseError}
    (h : args.mapM parameter = .error e) : ∃ arg ∈ args, e = ⟨.invalidParameter, arg.span⟩ := by
  induction args with
  | nil => cases h
  | cons arg args ih =>
    rw [List.mapM_cons] at h
    cases first : parameter arg with
    | error e' =>
      rw [first] at h
      cases h
      refine ⟨arg, List.mem_cons_self, ?_⟩
      unfold parameter at first
      split at first <;> cases first
      rfl
    | ok id =>
      rw [first] at h
      cases others : args.mapM parameter with
      | ok ids =>
        rw [others] at h
        cases h
      | error e' =>
        rw [others] at h
        cases h
        obtain ⟨arg', member, same⟩ := ih others
        exact ⟨arg', List.mem_cons_of_mem _ member, same⟩

theorem mem_of_firstRepeated {earlier : List String} {ids : List Ident} {id : Ident}
    (h : firstRepeated earlier ids = some id) : id ∈ ids := by
  fun_induction firstRepeated earlier ids with
  | case1 => cases h
  | case2 => exact Option.some.inj h ▸ List.mem_cons_self
  | case3 _ _ _ _ ih => exact List.mem_cons_of_mem _ (ih h)

/-- What is wrong with parameters is one of the arguments that they were read as. -/
theorem parameters_error {args : List Expr} {e : ParseError} (h : parameters args = .error e) :
    ∃ arg ∈ args, e = ⟨.invalidParameter, arg.span⟩ ∨
      ∃ name, e = ⟨.duplicateParameter name, arg.span⟩ := by
  unfold parameters at h
  cases names : args.mapM parameter with
  | error e' =>
    rw [names] at h
    cases h
    obtain ⟨arg, member, same⟩ := mapM_parameter_error names
    exact ⟨arg, member, .inl same⟩
  | ok ids =>
    rw [names] at h
    cases twice : firstRepeated [] ids with
    | none =>
      simp only [Bind.bind, Except.bind, twice] at h
      cases h
    | some id =>
      simp only [Bind.bind, Except.bind, twice] at h
      cases h
      rw [eq_names_of_mapM_parameter names]
      have member := List.mem_map_of_mem (f := Expr.name) (mem_of_firstRepeated twice)
      exact ⟨.name id, member, .inr ⟨id.name, rfl⟩⟩

end Parser

/-- A reader of tokens with the places as described blames such places. -/
def Blame.places (place : Span → Prop) : Blame where
  holds c := c.Sited place
  blames e _ := place e.span
  next := .of_reads
  unexpected _ h := h.peek
  expression h := h.peek
  member h := h.peek
  number h read := h.token read
  constant {c d word t z} h read := by
    -- The whole of the three tokens is to blame.
    have part : [word, t, z].Sublist c.rest := read.rest ▸ List.sublist_append_left _ _
    have inOrder : InOrder ([word] ++ ([t] ++ [z])) := h.inOrder.sublist part
    refine h.stretch part ?_
    rw [Cursor.spanFrom, read.last]
    exact (Span.Over.singleton word).merge_token z inOrder
  parameters {c d args e} h read _ wrong := by
    -- Parameters are read as arguments, so the one to blame has its place among their tokens.
    obtain ⟨l, r, ts, reads, yields, -, -, -⟩ := Parser.arguments_sound h.spelled read
    obtain ⟨arg, member, cause⟩ := Parser.parameters_error wrong
    have same : e.span = arg.span := by rcases cause with rfl | ⟨_, rfl⟩ <;> rfl
    have inner : ts.Sublist c.rest := by
      rw [reads.rest]
      exact .cons l ((List.sublist_append_left ts [r]).trans (List.sublist_append_left _ _))
    have row : Row ts (args.map .expr) := yields.placed (h.inOrder.sublist inner)
    obtain ⟨us, part, covers, -⟩ := (row.placed (List.mem_map_of_mem member)).tight
    exact same ▸ h.stretch (part.trans inner) covers

end SloScript
