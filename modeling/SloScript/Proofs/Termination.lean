import SloScript.Evaluator

/-!
# Every run ends

The evaluator is built from two recursions, one on syntax and one on the number of functions that
may still be entered, and so it is total by its form. Here the language is run by its plain
recursion instead: a call evaluates a body that it takes from a value, nothing gets smaller on the
way, and the only thing that stands against an endless run is a counter of active functions that is
compared with the limit when a function is entered, raised before its body runs and lowered after
it, whatever the body ended with. Such a recursion is cut off at a given depth: each step into it
takes one from `fuel`, and a run that has none left is given up with no answer (`none`). A run that
never ends has no answer for any amount.

Results:
1. `runExpr_performs`, `runBody_performs`: if calls at some depth always answer, so does every
   expression and every list of statements at that depth, with the counter as it was before.
2. `runCall_performs`: calls do always answer. The measure is the number of functions that may
   still be entered; the syntax below one body is the inner induction of (1).
3. `run_terminates`: every program, in every scope and state, ends with a value or an error, the
   one that the evaluator computes, and more fuel never changes it.
-/

namespace SloScript

/-! ## Machines -/

/-- A state and the number of functions that are active. -/
structure Machine where
  state : State
  depth : Nat

/-- Something run on a machine. It ends with a value or an error and a machine, or it is given
up. -/
abbrev Routine := ExceptT EvalError (StateT Machine Option)

namespace Routine

/-- A run that is given up. -/
def unfinished {α : Type} : Routine α := fun _ => none

/-- An action, which leaves the counter alone. -/
def perform {α : Type} (m : Action α) : Routine α := fun c =>
  some ((m c.state).1, ⟨(m c.state).2, c.depth⟩)

/-- The number of active functions. -/
def activeCount : Routine Nat := fun c => some (.ok c.depth, c)

/-- Runs with one more function active. The counter goes down again after an error as well. -/
def nested {α : Type} (r : Routine α) : Routine α := fun c =>
  (r ⟨c.state, c.depth + 1⟩).map fun (result, after) => (result, ⟨after.state, after.depth - 1⟩)

end Routine

namespace Machine

open Evaluator Routine

mutual

/-- The value of an expression. -/
def runExpr (host : Host) : Nat → ScopeId → Expr → Routine Value
  | 0, _, _ => unfinished
  | fuel + 1, scope, e =>
    match e with
    | .number x _ => perform (pure (.number x))
    | .text s _ => perform (pure (.string s))
    | .name id => perform (variableAt scope id)
    | .assign (.name id) value _ => do
      let v ← runExpr host fuel scope value
      perform ((Action.assign scope id.name v).locate id.span)
    | .assign (.member object key span) value _ => do
      let o ← runExpr host fuel scope object
      let owner ← perform (ownerOf o key.name span)
      let v ← runExpr host fuel scope value
      perform (Action.setProperty owner key.name v)
    | .assign (.index object key span) value _ => do
      let o ← runExpr host fuel scope object
      let k ← runExpr host fuel scope key
      let name ← perform (keyOf k key.span)
      let owner ← perform (ownerOf o name span)
      let v ← runExpr host fuel scope value
      perform (Action.setProperty owner name v)
    | .assign target _ _ => perform (Action.fail .invalidAssignmentTarget target.span)
    | .binary op left right span => do
      let a ← runExpr host fuel scope left
      let b ← runExpr host fuel scope right
      perform (Action.settle span (op.apply a b))
    | .member object key span => do
      let o ← runExpr host fuel scope object
      let owner ← perform (ownerOf o key.name span)
      perform (Action.read fun s => s.property owner key.name)
    | .index object key span => do
      let o ← runExpr host fuel scope object
      let k ← runExpr host fuel scope key
      let name ← perform (keyOf k key.span)
      let owner ← perform (ownerOf o name span)
      perform (Action.read fun s => s.property owner name)
    | .call callee args span => do
      let vs ← runArgs host fuel scope args
      let f ← runExpr host fuel scope callee
      runCall host fuel f vs scope span
    | .object properties _ => do
      let table ← runProperties host fuel scope .empty properties
      perform (Action.newObject table)
termination_by structural fuel => fuel

/-- The values of arguments. -/
def runArgs (host : Host) : Nat → ScopeId → List Expr → Routine (List Value)
  | 0, _, _ => unfinished
  | fuel + 1, scope, args =>
    match args with
    | [] => perform (pure [])
    | arg :: args => do
      let v ← runExpr host fuel scope arg
      let vs ← runArgs host fuel scope args
      perform (pure (v :: vs))
termination_by structural fuel => fuel

/-- The properties of a new object, added to those read before. -/
def runProperties (host : Host) :
    Nat → ScopeId → Table Value → List Property → Routine (Table Value)
  | 0, _, _, _ => unfinished
  | fuel + 1, scope, table, properties =>
    match properties with
    | [] => perform (pure table)
    | .shorthand key :: rest => do
      let v ← perform (variableAt scope key)
      runProperties host fuel scope (table.insert key.name v) rest
    | .keyed key value _ :: rest => do
      let v ← runExpr host fuel scope value
      runProperties host fuel scope (table.insert key.name v) rest
termination_by structural fuel => fuel

/-- The value of a statement. -/
def runStmt (host : Host) : Nat → ScopeId → Stmt → Routine Value
  | 0, _, _ => unfinished
  | fuel + 1, scope, s =>
    match s with
    | .letVar name none _ => perform (declareAt scope name .null false)
    | .letVar name (some init) _ => do
      let v ← runExpr host fuel scope init
      perform (declareAt scope name v false)
    | .letConst name init _ => do
      let v ← runExpr host fuel scope init
      perform (declareAt scope name v true)
    | .function name params body _ => perform do
      let id ← Action.change fun s => s.mint 1
      declareAt scope name (.function ⟨id, name.name, params.map Ident.name, body, scope⟩) true
    | .branch test consequent alternate _ => do
      let v ← runExpr host fuel scope test
      match v with
      | .bool true =>
        let inner ← perform (Action.newScope scope)
        runBody host fuel inner .null consequent
      | .bool false =>
        let inner ← perform (Action.newScope scope)
        runBody host fuel inner .null alternate
      | _ => perform (pure .null)
    | .expr e => runExpr host fuel scope e
termination_by structural fuel => fuel

/-- Statements one after the other. -/
def runBody (host : Host) : Nat → ScopeId → Value → List Stmt → Routine Value
  | 0, _, _, _ => unfinished
  | fuel + 1, scope, last, body =>
    match body with
    | [] => perform (pure last)
    | stmt :: rest => do
      let v ← runStmt host fuel scope stmt
      runBody host fuel scope v rest
termination_by structural fuel => fuel

/-- Calls a value with arguments. -/
def runCall (host : Host) : Nat → Value → List Value → ScopeId → Span → Routine Value
  | 0, _, _, _, _ => unfinished
  | fuel + 1, callee, args, scope, span =>
    match callee with
    | .function c => runFunction host fuel c args span
    | .native n =>
      if n.arity.all (· == args.length) then perform do
        Action.record (.nativeCalled n.name)
        (runNative host n args scope span).locate span
      else perform (Action.fail (.arityMismatch n.name (n.arity.getD 0) args.length) span)
    | other => perform (Action.fail (.notCallable other.type) span)
termination_by structural fuel => fuel

/-- Enters a function: checks the number of arguments, then whether another function may be active,
and runs the body with the counter one higher. -/
def runFunction (host : Host) : Nat → Closure → List Value → Span → Routine Value
  | 0, _, _, _ => unfinished
  | fuel + 1, c, args, span =>
    if c.params.length = args.length then do
      let active ← activeCount
      if host.limit ≤ active then perform (Action.fail (.stackOverflow host.limit) span)
      else do
        perform (Action.record (.called c.name (active + 1)))
        let inner ← perform (Action.newScope c.scope)
        perform (bindParams inner span c.params args)
        nested (runBody host fuel inner .null c.body)
    else perform (Action.fail (.arityMismatch c.name c.params.length args.length) span)
termination_by structural fuel => fuel

end

/-- Runs a program while no function is active. -/
def runProgram (host : Host) (fuel : Nat) (scope : ScopeId) (p : Program) : Routine Value := do
  perform (Action.record (.evaluating p.length))
  fun machine => runBody host fuel scope .null p ⟨machine.state, 0⟩

end Machine

/-! ## Routines that answer -/

namespace Routine

variable {α β : Type} {d : Nat}

/-- With `d` active functions and enough fuel, a routine ends just as an action does and leaves `d`
functions active. How much is enough depends on the state. -/
def Performs (d : Nat) (r : Nat → Routine α) (m : Action α) : Prop :=
  ∀ st, ∃ enough, ∀ fuel ≥ enough, r fuel ⟨st, d⟩ = some ((m st).1, ⟨(m st).2, d⟩)

theorem bind_run (r : Routine α) (f : α → Routine β) (c : Machine) :
    (r >>= f) c =
      match r c with
      | some (.ok a, c) => f a c
      | some (.error e, c) => some (.error e, c)
      | none => none := by
  show (r c).bind _ = _
  rcases r c with _ | ⟨_ | _, _⟩ <;> rfl

theorem performs_perform (m : Action α) : Performs d (fun _ => perform m) m :=
  fun _ => ⟨0, fun _ _ => rfl⟩

/-- What answers one step deeper in the recursion answers. -/
theorem Performs.of_succ {r : Nat → Routine α} {m : Action α}
    (h : Performs d (fun fuel => r (fuel + 1)) m) : Performs d r m := by
  intro st
  obtain ⟨enough, h⟩ := h st
  refine ⟨enough + 1, fun fuel hf => ?_⟩
  obtain ⟨fuel, rfl⟩ : ∃ k, fuel = k + 1 := ⟨fuel - 1, by omega⟩
  exact h fuel (Nat.le_of_succ_le_succ hf)

theorem Performs.bind {r : Nat → Routine α} {m : Action α} {f : Nat → α → Routine β}
    {g : α → Action β} (hr : Performs d r m)
    (hf : ∀ a, Performs d (fun fuel => f fuel a) (g a)) :
    Performs d (fun fuel => r fuel >>= f fuel) (m >>= g) := by
  intro st
  obtain ⟨first, hr⟩ := hr st
  rcases hm : m st with ⟨e | a, mid⟩
  · refine ⟨first, fun fuel h => ?_⟩
    show (r fuel >>= f fuel) _ = _
    rw [bind_run, hr fuel h, Action.bind_run, hm]
  · -- The second part starts from the state that the first one left.
    obtain ⟨second, hf⟩ := hf a mid
    refine ⟨max first second, fun fuel h => ?_⟩
    show (r fuel >>= f fuel) _ = _
    rw [bind_run, hr fuel (Nat.le_trans (Nat.le_max_left _ _) h), Action.bind_run, hm]
    exact hf fuel (Nat.le_trans (Nat.le_max_right _ _) h)

theorem Performs.nested {r : Nat → Routine α} {m : Action α} (h : Performs (d + 1) r m) :
    Performs d (fun fuel => nested (r fuel)) m := by
  intro st
  obtain ⟨enough, h⟩ := h st
  refine ⟨enough, fun fuel hf => ?_⟩
  show (r fuel ⟨st, d + 1⟩).map _ = _
  rw [h fuel hf]
  rfl

end Routine

/-! ## Syntax at one depth -/

namespace Machine

open Evaluator Routine

/-- With `d` active functions, every call answers, just as `call` does. -/
def CallsAnswer (host : Host) (d : Nat) (call : Caller) : Prop :=
  ∀ f args scope span,
    Performs d (fun fuel => runCall host fuel f args scope span) (call f args scope span)

mutual

/-- If calls answer, so does every expression. -/
theorem runExpr_performs {host : Host} {d : Nat} {call : Caller} (hcall : CallsAnswer host d call)
    (scope : ScopeId) (e : Expr) :
    Performs d (fun fuel => runExpr host fuel scope e) (evalExpr call scope e) := by
  refine .of_succ ?_
  match e with
  | .number _ _ | .text _ _ | .name _ =>
    simp only [runExpr, evalExpr]
    exact performs_perform _
  | .assign (.name id) value _ =>
    simp only [runExpr, evalExpr]
    exact (runExpr_performs hcall scope value).bind fun _ => performs_perform _
  | .assign (.member object key span) value _ =>
    simp only [runExpr, evalExpr]
    refine (runExpr_performs hcall scope object).bind fun _ => ?_
    refine (performs_perform _).bind fun _ => ?_
    exact (runExpr_performs hcall scope value).bind fun _ => performs_perform _
  | .assign (.index object key span) value _ =>
    simp only [runExpr, evalExpr]
    refine (runExpr_performs hcall scope object).bind fun _ => ?_
    refine (runExpr_performs hcall scope key).bind fun _ => ?_
    refine (performs_perform _).bind fun _ => (performs_perform _).bind fun _ => ?_
    exact (runExpr_performs hcall scope value).bind fun _ => performs_perform _
  | .assign (.number _ _) _ _ | .assign (.text _ _) _ _ | .assign (.assign _ _ _) _ _
  | .assign (.binary _ _ _ _) _ _ | .assign (.call _ _ _) _ _ | .assign (.object _ _) _ _ =>
    simp only [runExpr, evalExpr]
    exact performs_perform _
  | .binary _ left right _ =>
    simp only [runExpr, evalExpr]
    refine (runExpr_performs hcall scope left).bind fun _ => ?_
    exact (runExpr_performs hcall scope right).bind fun _ => performs_perform _
  | .member object _ _ =>
    simp only [runExpr, evalExpr]
    refine (runExpr_performs hcall scope object).bind fun _ => ?_
    exact (performs_perform _).bind fun _ => performs_perform _
  | .index object key _ =>
    simp only [runExpr, evalExpr]
    refine (runExpr_performs hcall scope object).bind fun _ => ?_
    refine (runExpr_performs hcall scope key).bind fun _ => ?_
    exact (performs_perform _).bind fun _ => (performs_perform _).bind fun _ => performs_perform _
  | .call callee args _ =>
    simp only [runExpr, evalExpr]
    refine (runArgs_performs hcall scope args).bind fun _ => ?_
    exact (runExpr_performs hcall scope callee).bind fun _ => hcall _ _ _ _
  | .object properties _ =>
    simp only [runExpr, evalExpr]
    exact (runProperties_performs hcall scope properties _).bind fun _ => performs_perform _

theorem runArgs_performs {host : Host} {d : Nat} {call : Caller} (hcall : CallsAnswer host d call)
    (scope : ScopeId) (args : List Expr) :
    Performs d (fun fuel => runArgs host fuel scope args) (evalArgs call scope args) := by
  refine .of_succ ?_
  match args with
  | [] =>
    simp only [runArgs, evalArgs]
    exact performs_perform _
  | arg :: args =>
    simp only [runArgs, evalArgs]
    refine (runExpr_performs hcall scope arg).bind fun _ => ?_
    exact (runArgs_performs hcall scope args).bind fun _ => performs_perform _

theorem runProperties_performs {host : Host} {d : Nat} {call : Caller}
    (hcall : CallsAnswer host d call) (scope : ScopeId) (properties : List Property)
    (table : Table Value) :
    Performs d (fun fuel => runProperties host fuel scope table properties)
      (evalProperties call scope table properties) := by
  refine .of_succ ?_
  match properties with
  | [] =>
    simp only [runProperties, evalProperties]
    exact performs_perform _
  | .shorthand key :: rest =>
    simp only [runProperties, evalProperties]
    exact (performs_perform _).bind fun _ => runProperties_performs hcall scope rest _
  | .keyed key value _ :: rest =>
    simp only [runProperties, evalProperties]
    refine (runExpr_performs hcall scope value).bind fun _ => ?_
    exact runProperties_performs hcall scope rest _

end

mutual

/-- If calls answer, so does every statement. -/
theorem runStmt_performs {host : Host} {d : Nat} {call : Caller} (hcall : CallsAnswer host d call)
    (scope : ScopeId) (s : Stmt) :
    Performs d (fun fuel => runStmt host fuel scope s) (evalStmt call scope s) := by
  refine .of_succ ?_
  match s with
  | .letVar name none _ =>
    simp only [runStmt, evalStmt]
    exact performs_perform _
  | .letVar name (some init) _ | .letConst name init _ =>
    simp only [runStmt, evalStmt]
    exact (runExpr_performs hcall scope init).bind fun _ => performs_perform _
  | .function name params body _ =>
    simp only [runStmt, evalStmt]
    exact performs_perform _
  | .branch test consequent alternate _ =>
    simp only [runStmt, evalStmt]
    refine (runExpr_performs hcall scope test).bind fun v => ?_
    cases v with
    | bool b =>
      cases b with
      | true =>
        refine (performs_perform _).bind fun inner => ?_
        exact runBody_performs hcall inner consequent _
      | false =>
        refine (performs_perform _).bind fun inner => ?_
        exact runBody_performs hcall inner alternate _
    | _ => exact performs_perform _
  | .expr e =>
    simp only [runStmt, evalStmt]
    exact runExpr_performs hcall scope e

theorem runBody_performs {host : Host} {d : Nat} {call : Caller} (hcall : CallsAnswer host d call)
    (scope : ScopeId) (body : List Stmt) (last : Value) :
    Performs d (fun fuel => runBody host fuel scope last body) (evalBody call scope last body) := by
  refine .of_succ ?_
  match body with
  | [] =>
    simp only [runBody, evalBody]
    exact performs_perform _
  | stmt :: rest =>
    simp only [runBody, evalBody]
    refine (runStmt_performs hcall scope stmt).bind fun v => ?_
    exact runBody_performs hcall scope rest v

end

/-! ## Calls -/

/-- A native never comes back to the language, so only entering a function is left to settle. -/
theorem runCall_dispatch {host : Host} {d : Nat}
    {enter : Closure → List Value → Span → Action Value}
    (henter : ∀ c args span, c.params.length = args.length →
      Performs d (fun fuel => runFunction host fuel c args span) (enter c args span)) :
    CallsAnswer host d (dispatch host enter) := by
  intro f args scope span
  refine .of_succ ?_
  cases f with
  | function c =>
    simp only [runCall]
    rw [dispatch]
    split
    · next ha => exact henter c args span ha
    · next ha =>
      refine .of_succ ?_
      simp only [runFunction, if_neg ha]
      exact performs_perform _
  | native n =>
    simp only [runCall]
    rw [dispatch]
    split
    · exact performs_perform _
    · exact performs_perform _
  | _ =>
    simp only [runCall]
    rw [dispatch]
    · exact performs_perform _
    all_goals simp

/-- With no function left to enter, entering one is refused. -/
theorem runFunction_full {host : Host} {d : Nat} (hd : host.limit ≤ d) {c : Closure}
    {args : List Value} (ha : c.params.length = args.length) (span : Span) :
    Performs d (fun fuel => runFunction host fuel c args span)
      (Action.fail (.stackOverflow host.limit) span) := by
  refine .of_succ fun st => ⟨0, fun fuel _ => ?_⟩
  show runFunction host (fuel + 1) c args span _ = _
  rw [runFunction, if_pos ha, bind_run]
  simp only [activeCount, if_pos hd]
  rfl

/-- While a function may be entered, it runs with one more function active and lowers the counter
when it is left. -/
theorem runFunction_enter {host : Host} {d : Nat} {call : Caller} (hd : d < host.limit)
    (hcall : CallsAnswer host (d + 1) call) {c : Closure} {args : List Value}
    (ha : c.params.length = args.length) (span : Span) :
    Performs d (fun fuel => runFunction host fuel c args span) (do
      Action.record (.called c.name (d + 1))
      let inner ← Action.newScope c.scope
      bindParams inner span c.params args
      evalBody call inner .null c.body) := by
  refine .of_succ fun st => ?_
  have entered := (performs_perform (Action.record (.called c.name (d + 1)))).bind fun _ =>
    (performs_perform (Action.newScope c.scope)).bind fun inner =>
      (performs_perform (bindParams inner span c.params args)).bind fun _ =>
        (runBody_performs hcall inner c.body .null).nested
  obtain ⟨enough, h⟩ := entered st
  refine ⟨enough, fun fuel hf => ?_⟩
  show runFunction host (fuel + 1) c args span _ = _
  rw [runFunction, if_pos ha, bind_run]
  simp only [activeCount, if_neg (Nat.not_le.2 hd)]
  exact h fuel hf

/-- Every call answers, whatever function it enters. -/
theorem runCall_performs (host : Host) (remaining : Nat) :
    ∀ d, host.limit - d = remaining → CallsAnswer host d (invoke host remaining) := by
  induction remaining with
  | zero =>
    intro d hd
    exact runCall_dispatch fun c args span ha => runFunction_full (by omega) ha span
  | succ remaining ih =>
    intro d hd
    have active : host.limit - remaining = d + 1 := by omega
    rw [invoke, active]
    refine runCall_dispatch fun c args span ha => ?_
    exact runFunction_enter (by omega) (ih (d + 1) (by omega)) ha span

end Machine

/-! ## Whole runs -/

/-- Evaluation ends. Run by the language's own recursion, every program in every scope and state,
and every call of any value with any arguments, comes to an answer once there is enough fuel,
whatever functions the state holds and however few of them may be active at once. More fuel never
changes the answer: it is the value or error, with the state, that the evaluator computes, and the
counter of active functions is back where it was. -/
theorem run_terminates (host : Host) (scope : ScopeId) (st : State) (active : Nat) :
    (∀ p : Program, ∃ enough, ∀ fuel ≥ enough,
      Machine.runProgram host fuel scope p ⟨st, active⟩ =
        some ((p.eval host scope st).1, ⟨(p.eval host scope st).2, 0⟩)) ∧
    ∀ (callee : Value) (args : List Value) (span : Span), ∃ enough, ∀ fuel ≥ enough,
      let answer := Evaluator.invoke host (host.limit - active) callee args scope span st
      Machine.runCall host fuel callee args scope span ⟨st, active⟩ =
        some (answer.1, ⟨answer.2, active⟩) := by
  constructor
  · intro p
    have hcall := Machine.runCall_performs host host.limit 0 (Nat.sub_zero _)
    obtain ⟨enough, h⟩ := Machine.runBody_performs hcall scope p .null _
    refine ⟨enough, fun fuel hf => ?_⟩
    rw [Machine.runProgram, Routine.bind_run]
    exact h fuel hf
  · intro callee args span
    exact Machine.runCall_performs host _ active rfl callee args scope span st

end SloScript
