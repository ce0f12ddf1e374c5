import SloScript.Proofs.Joining
import SloScript.Session

/-!
# Running a text in pieces

A text that consists of two parts does what the parts do when they are run one after the other in
the same session, the second one only if the first did not fail. Three things have to fit together:
the tokens of the parts, which `Joining` is about; the statements, likewise; and the runs. A run of
statements goes on where the one before it ended, and no call is active in between, so every
statement finds the same state in both cases. Since the second part stands in another place, all of
this is up to spans, and the journal, in which every text is noted, is left aside.

Results:
1. `evalBody_append`: the run of statements one after the other.
2. `eval_piecewise`: the run of two parts of a text.
-/

namespace SloScript

/-! ## Statements one after the other -/

namespace Evaluator

theorem evalBody_append (call : Caller) (scope : ScopeId) (body rest : List Stmt) (last : Value)
    (st : State) :
    evalBody call scope last (body ++ rest) st =
      match evalBody call scope last body st with
      | (.ok v, mid) => evalBody call scope v rest mid
      | (.error e, mid) => (.error e, mid) := by
  induction body generalizing last st with
  | nil =>
    rw [List.nil_append, evalBody, Action.pure_run]
  | cons stmt body ih =>
    rw [List.cons_append, evalBody, evalBody, Action.bind_run, Action.bind_run]
    rcases evalStmt call scope stmt st with ⟨_ | v, mid⟩
    · rfl
    · exact ih v mid

/-- The value before statements does not matter if there are any. -/
theorem evalBody_last (call : Caller) (scope : ScopeId) {body : List Stmt} (some : body ≠ [])
    (v w : Value) : evalBody call scope v body = evalBody call scope w body := by
  cases body with
  | nil => exact absurd rfl some
  | cons stmt body => rw [evalBody, evalBody]

end Evaluator

/-- A state without spans and without its journal. -/
def State.quiet (st : State) : State := { st.bare with journal := [] }

/-- The journal has no influence on a run, and neither have spans. -/
theorem evalBody_quiet {host : Host}
    (ignores : ∀ f ∈ host.callbacks, f.IgnoresPlaces State.quiet) (scope : ScopeId)
    {body body' : List Stmt} (bodies : bareBody body = bareBody body') {st st' : State}
    (states : st.quiet = st'.quiet) :
    let (result, after) := Evaluator.evalBody (callValue host) scope .null body st
    let (result', after') := Evaluator.evalBody (callValue host) scope .null body' st'
    bareResult result = bareResult result' ∧ after.quiet = after'.quiet :=
  evalBody_alike keptAlike_nil ignores scope bodies states

/-- A run of statements compared with the runs of two parts of them, where something may be noted in
between. -/
theorem evalBody_parts {host : Host}
    (ignores : ∀ f ∈ host.callbacks, f.IgnoresPlaces State.quiet) (scope : ScopeId)
    (body : List Stmt) {rest rest' : List Stmt} (same : bareBody rest = bareBody rest')
    (some : rest' ≠ []) {st st' : State} (states : st.quiet = st'.quiet) {note : State → State}
    (notes : ∀ st, (note st).quiet = st.quiet) :
    let run := Evaluator.evalBody (callValue host) scope .null
    let (result, after) := run (body ++ rest) st
    let (result', after') := match run body st' with
      | (.ok _, mid) => run rest' (note mid)
      | (.error e, mid) => (.error e, mid)
    bareResult result = bareResult result' ∧ after.quiet = after'.quiet := by
  have goesOn : rest ≠ [] := by
    rintro rfl
    exact some (List.eq_nil_of_length_eq_zero (length_of_bareBody same).symm)
  have begun := evalBody_quiet ignores scope (rfl : bareBody body = bareBody body) states
  dsimp only
  rw [Evaluator.evalBody_append]
  generalize Evaluator.evalBody (callValue host) scope .null body st = run at begun ⊢
  generalize Evaluator.evalBody (callValue host) scope .null body st' = run' at begun ⊢
  obtain ⟨result, mid⟩ := run
  obtain ⟨result', mid'⟩ := run'
  obtain ⟨results, mids⟩ := begun
  cases result with
  | error e =>
    cases result' with
    | error e' => exact ⟨results, mids⟩
    | ok w => cases results
  | ok v =>
    cases result' with
    | error e' => cases results
    | ok w =>
      dsimp only
      rw [Evaluator.evalBody_last _ _ goesOn v .null]
      exact evalBody_quiet ignores scope same (mids.trans (notes mid').symm)

/-! ## Sessions -/

/-- An error without its span. -/
def Error.bare : Error → Error
  | .lex e => .lex (e.relocate .erase)
  | .parse e => .parse (e.relocate .erase)
  | .eval e => .eval (e.relocate .erase)
  | .unreadable path reason => .unreadable path reason

/-- The answer to a text without spans. -/
def bareAnswer (answer : Except Error Value) : Except Error Value :=
  (answer.mapError Error.bare).map Value.bare

namespace Session

/-- A session without the spans of functions and without its journal. -/
def quiet (s : Session) : Session := { s with state := s.state.quiet }

/-- Runs a text, and another one after it unless the first one failed. -/
def evalBoth (s : Session) (first second : String) : Except Error Value × Session :=
  match s.eval first with
  | (.ok _, mid) => mid.eval second
  | (.error e, mid) => (.error e, mid)

/-- Runs that are the same up to spans and journals give such answers and sessions. -/
theorem answer_of_run (s : Session) {run run' : Except EvalError Value × State}
    (h : bareResult run.1 = bareResult run'.1 ∧ run.2.quiet = run'.2.quiet) :
    bareAnswer (run.1.mapError .eval) = bareAnswer (run'.1.mapError .eval) ∧
      ({ s with state := run.2 } : Session).quiet =
        ({ s with state := run'.2 } : Session).quiet := by
  have located (result : Except EvalError Value) : bareAnswer (result.mapError .eval) =
      (bareResult result).mapError fun fault => .eval ⟨fault, .nowhere⟩ := by
    cases result <;> rfl
  refine ⟨?_, congrArg (fun st => { s with state := st }) h.2⟩
  rw [located, located, h.1]

/-- A text that can be read is run as its statements, after some notes are taken. -/
theorem eval_of_parse {source : String} {p : Program} (read : parse source = .ok p) :
    ∃ notes, ∀ s : Session, s.eval source =
      let run := Evaluator.evalBody (callValue s.host) s.globals .null p
        { s.state with journal := notes ++ s.state.journal }
      (run.1.mapError .eval, { s with state := run.2 }) := by
  obtain ⟨ts, cut, read⟩ : ∃ ts, tokenize source = .ok ts ∧ parseTokens ts = .ok p := by
    unfold parse at read
    split at read
    · cases read
    · next ts cut => exact ⟨ts, cut, read⟩
  refine ⟨[.evaluating p.length, .statementsParsed p.length, .tokensProduced ts.length], ?_⟩
  intro s
  unfold eval State.evalSource
  rw [cut]
  dsimp only
  rw [read]
  dsimp only
  rw [Program.eval_run]
  simp only [State.record, List.cons_append, List.nil_append]
  rcases Evaluator.evalBody (callValue s.host) s.globals .null p _ with ⟨_ | _, _⟩ <;> rfl

/-- A text whose first part ends in a semicolon, or has no tokens, does what its parts do one after
the other: it yields the same value or stops with the same error, and leaves the same output, names,
values and objects, up to spans. -/
theorem eval_piecewise (s : Session)
    (ignores : ∀ f ∈ s.host.callbacks, f.IgnoresPlaces State.quiet) {first second : String}
    {p q : Program} (read : parse first = .ok p)
    (closed : ∀ ts, tokenize first = .ok ts → ∀ t, ts.dropLast.getLast? = some t →
      t.kind = .semicolon)
    (read' : parse second = .ok q) (some : q ≠ []) :
    let (answer, after) := s.eval (first ++ "\n" ++ second)
    let (answer', after') := s.evalBoth first second
    bareAnswer answer = bareAnswer answer' ∧ after.quiet = after'.quiet := by
  obtain ⟨q', joined, same⟩ := parse_append read closed read'
  obtain ⟨notes, whole⟩ := eval_of_parse joined
  obtain ⟨notes₁, one⟩ := eval_of_parse read
  obtain ⟨notes₂, two⟩ := eval_of_parse read'
  let noted (notes : List Event) (st : State) : State :=
    { st with journal := notes ++ st.journal }
  have quiet : ∀ notes st, (noted notes st).quiet = st.quiet := fun _ _ => rfl
  have parts := evalBody_parts ignores s.globals p same some
    (show (noted notes s.state).quiet = (noted notes₁ s.state).quiet from rfl) (quiet notes₂)
  rw [whole s, evalBoth, one s]
  dsimp only [noted] at parts ⊢
  generalize Evaluator.evalBody (callValue s.host) s.globals .null (p ++ q') _ = run at parts ⊢
  generalize Evaluator.evalBody (callValue s.host) s.globals .null p _ = run' at parts ⊢
  obtain ⟨_ | v, mid⟩ := run'
  · exact s.answer_of_run parts
  · dsimp only [Except.mapError]
    rw [two]
    exact s.answer_of_run parts

/-- A constant is declared in one text and used in the next one. Its value comes from a function of
the host, which declares a variable of its own before it yields it. Both ways to run the texts yield
that value and leave the same names. -/
theorem eval_piecewise_constant :
    let first := "konstanta x = g();"
    let second := "x"
    let ts : List Token := [
      ⟨.constWord, "konstanta", ⟨0, 9, 1, 1⟩⟩, ⟨.identifier, "x", ⟨10, 11, 1, 11⟩⟩,
      ⟨.equals, "=", ⟨12, 13, 1, 13⟩⟩, ⟨.identifier, "g", ⟨14, 15, 1, 15⟩⟩,
      ⟨.openParen, "(", ⟨15, 16, 1, 16⟩⟩, ⟨.closeParen, ")", ⟨16, 17, 1, 17⟩⟩,
      ⟨.semicolon, ";", ⟨17, 18, 1, 18⟩⟩, ⟨.endOfFile, "EndOfFile", ⟨18, 18, 1, 19⟩⟩]
    let supply : HostFunction := fun scope _ _ => Action.declare scope "y" (.string "a") false
    let host : Host := ⟨2, fun _ => ⟨0, 0, 0, 1, 1, 2000⟩, fun _ => 0, fun _ => none, #[supply]⟩
    let globals : Table Binding :=
      Table.empty.insert "g" ⟨.native ⟨0, "g", some 0, .hosted 0⟩, true⟩
    let s : Session :=
      ⟨host, { State.initial with store := ⟨#[⟨none, globals⟩], #[], 1⟩ }, ⟨0⟩⟩
    let whole := s.eval (first ++ "\n" ++ second)
    let parts := s.evalBoth first second
    supply.IgnoresPlaces State.quiet ∧ tokenize first = .ok ts ∧ (parse first).isOk = true ∧
      (∃ q, parse second = .ok q ∧ q ≠ []) ∧
      whole.1.map (Value.same (.string "a")) = .ok true ∧ whole.2.names = ["g", "x", "y"] ∧
      bareAnswer whole.1 = bareAnswer parts.1 ∧ whole.2.quiet = parts.2.quiet := by
  intro first second ts supply host globals s whole parts
  have ignores : supply.IgnoresPlaces State.quiet :=
    .of_answers keptAlike_nil fun paired _ _ _ _ _ _ => .declare paired "y" (.string "a") false
  have cut : tokenize first = .ok ts := by decide +kernel
  have closed : ∀ us, tokenize first = .ok us → ∀ t, us.dropLast.getLast? = some t →
      t.kind = .semicolon := by
    intro us cut' t last
    obtain rfl : ts = us := Except.ok.inj (cut.symm.trans cut')
    obtain rfl := Option.some.inj last
    rfl
  have readable : (parse first).isOk = true := by decide +kernel
  have statements : ((parse second).map List.isEmpty).toOption = some false := by decide +kernel
  have yields : whole.1.map (Value.same (.string "a")) = .ok true := by decide +kernel
  have names : whole.2.names = ["g", "x", "y"] := by decide +kernel
  refine ⟨ignores, cut, readable, ?_⟩
  have read := eq_ok_of_isOk readable []
  cases read' : parse second with
  | error e => cases read' ▸ statements
  | ok q =>
    have some : q ≠ [] := by
      rintro rfl
      cases read' ▸ statements
    refine ⟨⟨q, rfl, some⟩, yields, names, ?_⟩
    exact eval_piecewise s (by simpa [s, host] using ignores) read closed read' some

end Session

end SloScript
