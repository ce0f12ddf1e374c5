import SloScript.Proofs.Termination

/-!
# The counter of active functions

A machine counts the functions that are active. The counter is shared by everything that runs: it is
compared with the limit when a function is called, raised when its body is entered and lowered when
the body is left. A run leaves through an error at any point, and a call that the host makes takes
the counter as it finds it, so a single entry that is not paid back would be missing for good.

Here entries are counted apart from the counter. `Task.Starts` says what a task starts on its way
and on which machine, and `During` follows a request of the host down to a task in it, with the
number of bodies that were entered on the way and not left yet.

Results:
1. `Task.ends`, `Task.Ends.depth_eq`: every task ends, and with the counter it started with.
2. `Idle.depth_eq`: the counter is zero between requests.
3. `During.depth_eq`: inside a request it is the number of functions entered.
4. `active_calls_counted`: so it keeps to the limit, and exactly the calls beyond it are refused.
-/

namespace SloScript

open Evaluator

/-! ## Entering a function -/

/-- With enough fuel, a routine ends with the given result and machine. -/
def Routine.Ends {α : Type} (r : Nat → Routine α) (m : Machine) (result : Except EvalError α)
    (after : Machine) : Prop :=
  ∃ enough, ∀ fuel ≥ enough, r fuel m = some (result, after)

/-- A routine ends in one way only. -/
theorem Routine.Ends.unique {α : Type} {r : Nat → Routine α} {m : Machine}
    {result result' : Except EvalError α} {after after' : Machine}
    (h : Routine.Ends r m result after) (h' : Routine.Ends r m result' after') :
    result = result' ∧ after = after' := by
  obtain ⟨enough, h⟩ := h
  obtain ⟨enough', h'⟩ := h'
  have same := (h _ (Nat.le_max_left enough enough')).symm.trans (h' _ (Nat.le_max_right _ _))
  exact Prod.mk.inj (Option.some.inj same)

theorem Routine.perform_bind {α β : Type} (m : Action α) (f : α → Action β) :
    perform (m >>= f) = perform m >>= fun a => perform (f a) := by
  funext c
  rw [bind_run]
  simp only [perform, Action.bind_run]
  rcases m c.state with ⟨_ | _, _⟩ <;> rfl

namespace Machine

open Routine

/-- The scope that a body runs in: a new one inside the scope that the function was declared in,
with the arguments under the names of the parameters. `depth` functions are active already. -/
def prepare (depth : Nat) (c : Closure) (args : List Value) (span : Span) : Action ScopeId := do
  Action.record (.called c.name (depth + 1))
  let inner ← Action.newScope c.scope
  bindParams inner span c.params args
  pure inner

/-- What a call of a function does before the body: the number of arguments is checked, then the
number of active functions, and a scope is made ready. -/
def enter (host : Host) (c : Closure) (args : List Value) (span : Span) : Routine ScopeId :=
  if c.params.length = args.length then do
    let active ← activeCount
    if host.limit ≤ active then perform (Action.fail (.stackOverflow host.limit) span)
    else perform (prepare active c args span)
  else perform (Action.fail (.arityMismatch c.name c.params.length args.length) span)

/-- A call of a function enters it and then runs its body with one more function active. What
entering fails with is the function's own answer. -/
theorem runFunction_eq (host : Host) (fuel : Nat) (c : Closure) (args : List Value) (span : Span) :
    runFunction host (fuel + 1) c args span =
      (enter host c args span >>= fun inner => nested (runBody host fuel inner .null c.body)) := by
  rw [runFunction, enter]
  split
  · rw [bind_assoc]
    refine bind_congr fun active => ?_
    split
    · rfl
    · simp only [prepare, perform_bind, bind_assoc]
      rfl
  · rfl

/-- A parameter is refused for one reason only, its being bound already. -/
theorem bindParams_error {scope : ScopeId} {span : Span} {names : List String} {args : List Value}
    {st after : State} {e : EvalError}
    (h : bindParams scope span names args st = (.error e, after)) :
    ∃ name, e.cause = .alreadyDeclared name := by
  induction names generalizing args st with
  | nil => cases h
  | cons name names ih =>
    obtain _ | ⟨v, vs⟩ := args
    · cases h
    rw [bindParams, Action.bind_run] at h
    unfold Action.locate Action.declare Action.bindIn Store.declaringScope at h
    by_cases taken : st.store.binds scope name = true
    · simp only [if_pos taken] at h
      exact ⟨name, by simp [← Except.error.inj (Prod.mk.inj h).1]⟩
    · simp only [if_neg taken] at h
      exact ih h

theorem prepare_error {depth : Nat} {c : Closure} {args : List Value} {span : Span}
    {st after : State} {e : EvalError} (h : prepare depth c args span st = (.error e, after)) :
    ∃ name, e.cause = .alreadyDeclared name := by
  unfold prepare at h
  simp only [Action.bind_run, Action.record, Action.newScope, Action.change] at h
  split at h
  · cases h
  · next e' _ failed =>
    obtain rfl := Except.error.inj (Prod.mk.inj h).1
    exact bindParams_error failed

/-- A body is entered only while fewer functions are active than may be, and entering it leaves the
counter to the body. -/
theorem enter_eq_ok {host : Host} {c : Closure} {args : List Value} {span : Span}
    {m after : Machine} {inner : ScopeId}
    (h : enter host c args span m = some (.ok inner, after)) :
    c.params.length = args.length ∧ m.depth < host.limit ∧
      prepare m.depth c args span m.state = (.ok inner, after.state) ∧ after.depth = m.depth := by
  unfold enter at h
  split at h
  · next count =>
    rw [bind_run] at h
    simp only [activeCount] at h
    split at h
    · cases h
    · next room =>
      obtain ⟨result, rfl⟩ := Prod.mk.inj (Option.some.inj h)
      exact ⟨count, Nat.lt_of_not_le room, Prod.ext result rfl, rfl⟩
  · cases h

/-- Entering a function fails for want of room just if the number of arguments is right and no other
function may be active. -/
theorem enter_overflows_iff (host : Host) (c : Closure) (args : List Value) (span : Span)
    (m : Machine) :
    (∃ n place after, enter host c args span m = some (.error ⟨.stackOverflow n, place⟩, after)) ↔
      c.params.length = args.length ∧ host.limit ≤ m.depth := by
  constructor
  · rintro ⟨n, place, after, h⟩
    unfold enter at h
    split at h
    · next count =>
      rw [bind_run] at h
      simp only [activeCount] at h
      split at h
      · next full => exact ⟨count, full⟩
      · obtain ⟨failed, -⟩ := Prod.mk.inj (Option.some.inj h)
        obtain ⟨name, other⟩ := prepare_error (Prod.ext failed rfl)
        cases other
    · cases h
  · rintro ⟨count, full⟩
    refine ⟨host.limit, span, m, ?_⟩
    rw [enter, if_pos count, bind_run]
    simp only [activeCount, if_pos full]
    rfl

end Machine

/-! ## Tasks -/

/-- The operands of an expression in the order in which they are evaluated. -/
def Expr.operands : Expr → List Expr
  | .number _ _ | .text _ _ | .name _ => []
  | .assign (.name _) value _ => [value]
  | .assign (.member owner _ _) value _ => [owner, value]
  | .assign (.index owner key _) value _ => [owner, key, value]
  | .assign _ _ _ => []
  | .binary _ left right _ => [left, right]
  | .member owner _ _ => [owner]
  | .index owner key _ => [owner, key]
  | .call callee args _ => args ++ [callee]
  | .object properties _ =>
    properties.filterMap fun
      | .shorthand _ => none
      | .keyed _ value _ => some value

/-- The expression that a statement evaluates first, if it has one. -/
def Stmt.operand? : Stmt → Option Expr
  | letVar _ init _ => init
  | letConst _ init _ => some init
  | function _ _ _ _ => none
  | branch test _ _ _ => some test
  | expr e => some e

namespace Machine

/-- Something that a machine may be doing. -/
inductive Task where
  | expr (scope : ScopeId) (e : Expr)
  | stmt (scope : ScopeId) (s : Stmt)
  | body (scope : ScopeId) (last : Value) (stmts : List Stmt)
  | call (callee : Value) (args : List Value) (scope : ScopeId) (span : Span)
  | function (c : Closure) (args : List Value) (span : Span)

namespace Task

/-- Runs a task. -/
def run (host : Host) (fuel : Nat) : Task → Routine Value
  | .expr scope e => runExpr host fuel scope e
  | .stmt scope s => runStmt host fuel scope s
  | .body scope last stmts => runBody host fuel scope last stmts
  | .call callee args scope span => runCall host fuel callee args scope span
  | .function c args span => runFunction host fuel c args span

/-- What the evaluator does for a task while `depth` functions are active. -/
def action (host : Host) (depth : Nat) : Task → Action Value
  | .expr scope e => evalExpr (invoke host (host.limit - depth)) scope e
  | .stmt scope s => evalStmt (invoke host (host.limit - depth)) scope s
  | .body scope last stmts => evalBody (invoke host (host.limit - depth)) scope last stmts
  | .call callee args scope span => invoke host (host.limit - depth) callee args scope span
  | .function c args span => invoke host (host.limit - depth) (.function c) args c.scope span

/-- The task ends with the given result and machine when it is run from `m`. -/
def Ends (host : Host) (t : Task) (m : Machine) (result : Except EvalError Value)
    (after : Machine) : Prop :=
  Routine.Ends (fun fuel => t.run host fuel) m result after

/-- A machine does for a task what the evaluator does. -/
theorem run_performs (host : Host) (depth : Nat) (t : Task) :
    Routine.Performs depth (fun fuel => t.run host fuel) (t.action host depth) := by
  have hcall := runCall_performs host _ depth rfl
  cases t with
  | expr scope e => exact runExpr_performs hcall scope e
  | stmt scope s => exact runStmt_performs hcall scope s
  | body scope last stmts => exact runBody_performs hcall scope stmts last
  | call callee args scope span => exact hcall callee args scope span
  | function c args span =>
    intro st
    obtain ⟨enough, h⟩ := hcall (.function c) args c.scope span st
    exact ⟨enough, fun fuel hf => h (fuel + 1) (Nat.le_succ_of_le hf)⟩

variable {host : Host} {t : Task} {m after : Machine} {result : Except EvalError Value}

/-- Every task ends, just as the evaluator does. -/
theorem ends (host : Host) (t : Task) (m : Machine) :
    t.Ends host m (t.action host m.depth m.state).1
      ⟨(t.action host m.depth m.state).2, m.depth⟩ :=
  t.run_performs host m.depth m.state

theorem Ends.action_eq (h : t.Ends host m result after) :
    t.action host m.depth m.state = (result, after.state) := by
  obtain ⟨rfl, rfl⟩ := h.unique (t.ends host m)
  rfl

/-- However a task ends, the counter is as it was when the task started. -/
theorem Ends.depth_eq (h : t.Ends host m result after) : after.depth = m.depth := by
  obtain ⟨-, rfl⟩ := h.unique (t.ends host m)
  rfl

/-- Expressions that are evaluated one after the other, each from where the one before it ended. -/
inductive EndAll (host : Host) (scope : ScopeId) :
    List Expr → Machine → List Value → Machine → Prop
  | nil {m : Machine} : EndAll host scope [] m [] m
  | cons {e : Expr} {es : List Expr} {v : Value} {vs : List Value} {m mid after : Machine} :
      (expr scope e).Ends host m (.ok v) mid → EndAll host scope es mid vs after →
      EndAll host scope (e :: es) m (v :: vs) after

theorem EndAll.depth_eq {scope : ScopeId} {es : List Expr} {vs : List Value}
    (h : EndAll host scope es m vs after) : after.depth = m.depth := by
  induction h with
  | nil => rfl
  | cons first _ ih => rw [ih, first.depth_eq]

/-- What a task starts on its way while no other function is entered, and on which machine. An
operand comes after those before it, a statement after those before it, a branch after its test,
and a call after its arguments and the function. Whether something in between fails is left open:
more may be started according to this relation than really is. -/
inductive Starts (host : Host) : Task → Machine → Task → Machine → Prop
  | operand {scope : ScopeId} {e o : Expr} {before later : List Expr} {vs : List Value}
      {m mid : Machine} : e.operands = before ++ o :: later →
      EndAll host scope before m vs mid → Starts host (expr scope e) m (expr scope o) mid
  | called {scope : ScopeId} {callee : Expr} {args : List Expr} {span : Span} {f : Value}
      {vs : List Value} {m mid : Machine} : EndAll host scope (args ++ [callee]) m (vs ++ [f]) mid →
      Starts host (expr scope (.call callee args span)) m (call f vs scope span) mid
  | function {c : Closure} {args : List Value} {scope : ScopeId} {span : Span} {m : Machine} :
      Starts host (call (.function c) args scope span) m (function c args span) m
  | first {scope : ScopeId} {s : Stmt} {e : Expr} {m : Machine} : s.operand? = some e →
      Starts host (stmt scope s) m (expr scope e) m
  | branch {scope inner : ScopeId} {test : Expr} {yes no : List Stmt} {span : Span} {b : Bool}
      {m mid : Machine} {st : State} : (expr scope test).Ends host m (.ok (.bool b)) mid →
      Action.newScope scope mid.state = (.ok inner, st) →
      Starts host (stmt scope (.branch test yes no span)) m
        (body inner .null (if b then yes else no)) ⟨st, mid.depth⟩
  | statement {scope : ScopeId} {last v : Value} {before later : List Stmt} {s : Stmt}
      {m mid : Machine} : (body scope last before).Ends host m (.ok v) mid →
      Starts host (body scope last (before ++ s :: later)) m (stmt scope s) mid

/-- Nothing but entering a function changes the counter. -/
theorem Starts.depth_eq {t' : Task} {m' : Machine} (h : Starts host t m t' m') :
    m'.depth = m.depth := by
  cases h with
  | operand _ ended => exact ended.depth_eq
  | called ended => exact ended.depth_eq
  | function => rfl
  | first _ => rfl
  | branch tested _ => exact tested.depth_eq
  | statement ended => exact ended.depth_eq

end Task

/-! ## Requests of the host -/

/-- What a host asks for: to run a program in a scope, or to call a value. -/
inductive Request where
  | eval (scope : ScopeId) (p : Program)
  | call (callee : Value) (args : List Value) (scope : ScopeId) (span : Span)

/-- Runs a request. -/
def Request.run (host : Host) (fuel : Nat) : Request → Routine Value
  | eval scope p => runProgram host fuel scope p
  | call callee args scope span => runCall host fuel callee args scope span

/-- The task that a request comes down to. -/
def Request.task : Request → Task
  | eval scope p => .body scope .null p
  | call callee args scope span => .call callee args scope span

/-- The machine that this task starts from. A program is run with the counter at zero, and a call
with the counter as it is. -/
def Request.start (m : Machine) : Request → Machine
  | eval _ p => ⟨(Action.record (.evaluating p.length) m.state).2, 0⟩
  | call _ _ _ _ => m

theorem Request.run_eq (host : Host) (fuel : Nat) (q : Request) (m : Machine) :
    q.run host fuel m = q.task.run host fuel (q.start m) := by
  cases q with
  | eval scope p =>
    show runProgram host fuel scope p m = _
    rw [runProgram, Routine.bind_run]
    rfl
  | call callee args scope span => rfl

/-- The request ends with the given result and machine when it is made on `m`. -/
def Request.Ends (host : Host) (q : Request) (m : Machine) (result : Except EvalError Value)
    (after : Machine) : Prop :=
  Routine.Ends (fun fuel => q.run host fuel) m result after

theorem Request.ends_iff {host : Host} {q : Request} {m after : Machine}
    {result : Except EvalError Value} :
    q.Ends host m result after ↔ q.task.Ends host (q.start m) result after := by
  simp only [Request.Ends, Task.Ends, Routine.Ends, run_eq]

/-- A machine between two requests, whatever requests were made before and however they ended. The
host may change the state in between, and each request may be made by another host. -/
inductive Idle : Machine → Prop
  | fresh (st : State) : Idle ⟨st, 0⟩
  | touched {m : Machine} (st : State) : Idle m → Idle ⟨st, m.depth⟩
  | answered {host : Host} {q : Request} {m after : Machine} {result : Except EvalError Value} :
      Idle m → q.Ends host m result after → Idle after

/-- The counter is zero between requests. -/
theorem Idle.depth_eq {m : Machine} (h : Idle m) : m.depth = 0 := by
  induction h with
  | fresh _ => rfl
  | touched _ _ ih => exact ih
  | @answered _ q _ _ _ _ ended ih =>
    rw [(Request.ends_iff.1 ended).depth_eq]
    cases q with
    | eval scope p => rfl
    | call callee args scope span => exact ih

/-- While a request that is made on `m` is answered, a task starts from another machine, with as
many bodies entered and not left as said. -/
inductive During (host : Host) (m : Machine) (q : Request) : Task → Machine → Nat → Prop
  | request : During host m q q.task (q.start m) 0
  | within {t t' : Task} {m' m'' : Machine} {active : Nat} :
      During host m q t m' active → t.Starts host m' t' m'' → During host m q t' m'' active
  | entered {c : Closure} {args : List Value} {span : Span} {inner : ScopeId} {m' m'' : Machine}
      {active : Nat} : During host m q (.function c args span) m' active →
      enter host c args span m' = some (.ok inner, m'') →
      During host m q (.body inner .null c.body) ⟨m''.state, m''.depth + 1⟩ (active + 1)

/-- Inside a request the counter is the number of functions that were entered and not left, and that
is never above the limit. -/
theorem During.depth_eq {host : Host} {m m' : Machine} {q : Request} {t : Task} {active : Nat}
    (idle : m.Idle) (h : m.During host q t m' active) :
    m'.depth = active ∧ active ≤ host.limit := by
  induction h with
  | request =>
    refine ⟨?_, Nat.zero_le _⟩
    cases q with
    | eval scope p => rfl
    | call callee args scope span => exact idle.depth_eq
  | within _ starts ih => exact ⟨starts.depth_eq.trans ih.1, ih.2⟩
  | entered _ success ih =>
    obtain ⟨-, room, -, kept⟩ := enter_eq_ok success
    have := ih.1
    exact ⟨by dsimp only; omega, by omega⟩

/-- What entering a function fails with is what the call ends with. -/
theorem ends_of_enter_error {host : Host} {c : Closure} {args : List Value} {span : Span}
    {m after : Machine} {e : EvalError}
    (h : enter host c args span m = some (.error e, after)) :
    (Task.function c args span).Ends host m (.error e) after := by
  refine ⟨1, fun fuel positive => ?_⟩
  obtain ⟨fuel, rfl⟩ : ∃ k, fuel = k + 1 := ⟨fuel - 1, by omega⟩
  show runFunction host (fuel + 1) c args span m = _
  rw [runFunction_eq, Routine.bind_run, h]

/-- The accounts of active functions are right. However many requests were made before and however
they ended, the counter is zero when the next one is made. Whatever is done while that one is
answered, the counter is the number of functions entered and not left, which is never above the
limit; it ends, as the evaluator does, and with the counter as it was, whether with a value or an
error. A body is entered only while fewer functions are active than may be; it ends with the counter
one higher than the call started with, so that lowering it restores it. And a call of a function
answers by itself that too many are active just if its number of arguments is right and as many are
active as may be. -/
theorem active_calls_counted {host : Host} {m m' : Machine} {q : Request} {t : Task}
    {active : Nat} (idle : m.Idle) (during : m.During host q t m' active) :
    m.depth = 0 ∧ m'.depth = active ∧ active ≤ host.limit ∧
      (∃ result after, t.Ends host m' result after) ∧
      (∀ result after, t.Ends host m' result after →
        after.depth = active ∧ t.action host active m'.state = (result, after.state)) ∧
      ∀ c args span, t = .function c args span →
        (∀ inner ready, enter host c args span m' = some (.ok inner, ready) →
          active < host.limit ∧
            ∀ result after,
              (Task.body inner .null c.body).Ends host ⟨ready.state, ready.depth + 1⟩ result after →
              after.depth = active + 1) ∧
        ((∃ n place after,
            enter host c args span m' = some (.error ⟨.stackOverflow n, place⟩, after) ∧
            t.Ends host m' (.error ⟨.stackOverflow n, place⟩) after) ↔
          c.params.length = args.length ∧ active = host.limit) := by
  obtain ⟨rfl, bounded⟩ := during.depth_eq idle
  refine ⟨idle.depth_eq, rfl, bounded, ⟨_, _, t.ends host m'⟩, ?_, ?_⟩
  · exact fun result after ended => ⟨ended.depth_eq, ended.action_eq⟩
  · rintro c args span rfl
    refine ⟨fun inner ready success => ?_, ?_⟩
    · obtain ⟨-, room, -, kept⟩ := enter_eq_ok success
      exact ⟨room, fun result after ended => by rw [ended.depth_eq, kept]⟩
    · have refused := enter_overflows_iff host c args span m'
      constructor
      · rintro ⟨n, place, after, failed, -⟩
        obtain ⟨count, full⟩ := refused.1 ⟨n, place, after, failed⟩
        exact ⟨count, Nat.le_antisymm bounded full⟩
      · rintro ⟨count, full⟩
        obtain ⟨n, place, after, failed⟩ := refused.2 ⟨count, Nat.le_of_eq full.symm⟩
        exact ⟨n, place, after, failed, ends_of_enter_error failed⟩

/-- A function that calls itself, where one function may be active at once: the second call is met
with one function active and refused. -/
theorem active_calls_counted_recursive :
    let host : Host := ⟨1, fun _ => ⟨0, 0, 0, 1, 1, 2000⟩, fun _ => 0, fun _ => none, #[]⟩
    let f : Closure := ⟨0, "f", [], [.expr (.call (.name ⟨"f", .nowhere⟩) [] .nowhere)], ⟨0⟩⟩
    let scope : Scope := ⟨none, .ofList [("f", ⟨.function f, true⟩)]⟩
    let m : Machine := ⟨⟨⟨#[scope], #[], 1⟩, "", [], 0, []⟩, 0⟩
    let q : Request := .call (.function f) [] ⟨0⟩ .nowhere
    m.Idle ∧ ∃ m', m.During host q (.function f [] .nowhere) m' 1 ∧
      m'.depth = 1 ∧ ∃ n place after,
        (Task.function f [] .nowhere).Ends host m' (.error ⟨.stackOverflow n, place⟩) after := by
  intro host f scope m q
  let inside : Machine :=
    ⟨⟨⟨#[scope, ⟨some ⟨0⟩, .empty⟩], #[], 1⟩, "", [.called "f" 1], 0, []⟩, 1⟩
  have idle : m.Idle := .fresh _
  have outer : m.During host q (.function f [] .nowhere) m 0 := .within .request .function
  have entry : enter host f [] .nowhere m = some (.ok ⟨1⟩, ⟨inside.state, 0⟩) := rfl
  have nothing : (Task.body ⟨1⟩ .null []).Ends host inside (.ok .null) inside :=
    Task.ends host (.body ⟨1⟩ .null []) inside
  have chain : inside.state.store.chain ⟨1⟩ = [⟨1⟩, ⟨0⟩] := by decide +kernel
  have lookup : inside.state.store.lookup ⟨1⟩ "f" = .ok (.function f) := by
    rw [Store.lookup, Store.resolve, chain]
    rfl
  let name : Expr := .name ⟨"f", .nowhere⟩
  have found : (Task.expr ⟨1⟩ name).Ends host inside (.ok (.function f)) inside := by
    have ended := Task.ends host (.expr ⟨1⟩ name) inside
    rw [Task.action, evalExpr, variableAt, Action.locate, Action.lookup, lookup] at ended
    exact ended
  have operands : Task.EndAll host ⟨1⟩ ([] ++ [name]) inside ([] ++ [.function f]) inside :=
    .cons found .nil
  have again : m.During host q (.function f [] .nowhere) inside 1 :=
    (((outer.entered entry).within (.statement nothing)).within (.first rfl)).within
      (.called operands) |>.within .function
  obtain ⟨-, counted, -, -, -, calls⟩ := active_calls_counted idle again
  obtain ⟨n, place, after, -, ended⟩ := (calls f [] .nowhere rfl).2.2 ⟨rfl, rfl⟩
  exact ⟨idle, inside, again, counted, n, place, after, ended⟩

end Machine

end SloScript
