import SloScript.Builtin
import SloScript.Operator.Apply

/-!
# Evaluation

Expressions and statements are evaluated by recursion on their form. A call leaves that recursion:
the body it runs is taken from a value. So the evaluator is given what a call does, and calls are
defined by a second recursion on the number of functions that may still be entered. Entering one
uses up one of them for as long as its body runs; when none is left, a call stops the run. Together
the two recursions make every run end, without any bound that is not the language's own.
-/

namespace SloScript

/-- What calling a value with arguments does, from the given scope and place. -/
abbrev Caller := Value → List Value → ScopeId → Span → Action Value

namespace Evaluator

/-- The object that a property belongs to. -/
def ownerOf (v : Value) (key : String) (span : Span) : Action ObjectId :=
  match v with
  | .object id => pure id
  | other => Action.fail (.notAnObject key other.type) span

/-- The key that a value stands for between brackets: a text, or a number by its text. -/
def keyOf (v : Value) (span : Span) : Action String :=
  match v with
  | .string s => pure s
  | .number x => pure (Value.numberLayout.write x)
  | other => Action.fail (.invalidKey other.type) span

/-- The value of a name where it is written. -/
def variableAt (scope : ScopeId) (id : Ident) : Action Value :=
  (Action.lookup scope id.name).locate id.span

/-- Binds a name where it is written. -/
def declareAt (scope : ScopeId) (id : Ident) (value : Value) (constant : Bool) : Action Value :=
  (Action.declare scope id.name value constant).locate id.span

mutual

/-- The value of an expression. Operands go from left to right; arguments come before the function
they are passed to, and the object and key of a property before the value it is given. -/
def evalExpr (call : Caller) (scope : ScopeId) : Expr → Action Value
  | .number x _ => pure (.number x)
  | .text s _ => pure (.string s)
  | .name id => variableAt scope id
  | .assign (.name id) value _ => do
    let v ← evalExpr call scope value
    (Action.assign scope id.name v).locate id.span
  | .assign (.member object key span) value _ => do
    let o ← evalExpr call scope object
    let owner ← ownerOf o key.name span
    let v ← evalExpr call scope value
    Action.setProperty owner key.name v
  | .assign (.index object key span) value _ => do
    let o ← evalExpr call scope object
    let k ← evalExpr call scope key
    let name ← keyOf k key.span
    let owner ← ownerOf o name span
    let v ← evalExpr call scope value
    Action.setProperty owner name v
  | .assign target _ _ => Action.fail .invalidAssignmentTarget target.span
  | .binary op left right span => do
    let a ← evalExpr call scope left
    let b ← evalExpr call scope right
    Action.settle span (op.apply a b)
  | .member object key span => do
    let o ← evalExpr call scope object
    let owner ← ownerOf o key.name span
    Action.read fun s => s.property owner key.name
  | .index object key span => do
    let o ← evalExpr call scope object
    let k ← evalExpr call scope key
    let name ← keyOf k key.span
    let owner ← ownerOf o name span
    Action.read fun s => s.property owner name
  | .call callee args span => do
    let vs ← evalArgs call scope args
    let f ← evalExpr call scope callee
    call f vs scope span
  | .object properties _ => do
    let table ← evalProperties call scope .empty properties
    Action.newObject table

/-- The values of arguments. -/
def evalArgs (call : Caller) (scope : ScopeId) : List Expr → Action (List Value)
  | [] => pure []
  | arg :: args => do
    let v ← evalExpr call scope arg
    let vs ← evalArgs call scope args
    pure (v :: vs)

/-- The properties of a new object, added to those read before. -/
def evalProperties (call : Caller) (scope : ScopeId) (table : Table Value) :
    List Property → Action (Table Value)
  | [] => pure table
  | .shorthand key :: rest => do
    let v ← variableAt scope key
    evalProperties call scope (table.insert key.name v) rest
  | .keyed key value _ :: rest => do
    let v ← evalExpr call scope value
    evalProperties call scope (table.insert key.name v) rest

end

mutual

/-- The value of a statement. A declaration yields the value it binds, and a branch whose test is
no truth value yields null. -/
def evalStmt (call : Caller) (scope : ScopeId) : Stmt → Action Value
  | .letVar name none _ => declareAt scope name .null false
  | .letVar name (some init) _ => do
    let v ← evalExpr call scope init
    declareAt scope name v false
  | .letConst name init _ => do
    let v ← evalExpr call scope init
    declareAt scope name v true
  | .function name params body _ => do
    let id ← Action.change fun s => s.mint 1
    declareAt scope name (.function ⟨id, name.name, params.map Ident.name, body, scope⟩) true
  | .branch test consequent alternate _ => do
    match ← evalExpr call scope test with
    | .bool true =>
      let inner ← Action.newScope scope
      evalBody call inner .null consequent
    | .bool false =>
      let inner ← Action.newScope scope
      evalBody call inner .null alternate
    | _ => pure .null
  | .expr e => evalExpr call scope e

/-- Statements one after the other; the value is that of the last one, or `last` if there is
none. -/
def evalBody (call : Caller) (scope : ScopeId) (last : Value) : List Stmt → Action Value
  | [] => pure last
  | stmt :: rest => do
    let v ← evalStmt call scope stmt
    evalBody call scope v rest

end

/-- Binds parameters to arguments in a scope. -/
def bindParams (scope : ScopeId) (span : Span) : List String → List Value → Action Unit
  | name :: names, v :: vs => do
    let _ ← (Action.declare scope name v false).locate span
    bindParams scope span names vs
  | _, _ => pure ()

/-- Runs a native. -/
def runNative (host : Host) (n : Native) (args : List Value) (scope : ScopeId) (span : Span) :
    Action Value :=
  match n.behaviour with
  | .builtin b => b.run host args span
  | .muted => pure .null
  | .hosted slot =>
    match host.callbacks[slot]? with
    | some f => f scope args span
    | none => Action.fail (.notCallable .native) span

/-- What calling a value does, given how a function with the right number of arguments is
entered. -/
def dispatch (host : Host) (enter : Closure → List Value → Span → Action Value) : Caller :=
  fun callee args scope span =>
    match callee with
    | .function c =>
      if c.params.length = args.length then enter c args span
      else Action.fail (.arityMismatch c.name c.params.length args.length) span
    | .native n =>
      if n.arity.all (· == args.length) then do
        Action.record (.nativeCalled n.name)
        (runNative host n args scope span).locate span
      else Action.fail (.arityMismatch n.name (n.arity.getD 0) args.length) span
    | other => Action.fail (.notCallable other.type) span

/-- What calling a value does while `remaining` more functions may be entered. A function runs in a
scope of its own inside the scope it was declared in. -/
def invoke (host : Host) : (remaining : Nat) → Caller
  | 0 => dispatch host fun _ _ span => Action.fail (.stackOverflow host.limit) span
  | remaining + 1 =>
    dispatch host fun c args span => do
      Action.record (.called c.name (host.limit - remaining))
      let scope ← Action.newScope c.scope
      bindParams scope span c.params args
      evalBody (invoke host remaining) scope .null c.body

end Evaluator

/-- Calls a value with arguments while no function is active. -/
def callValue (host : Host) : Caller := Evaluator.invoke host host.limit

/-- Runs a program directly in a scope; its value is that of the last statement. -/
def Program.eval (host : Host) (scope : ScopeId) (p : Program) : Action Value := do
  Action.record (.evaluating p.length)
  Evaluator.evalBody (callValue host) scope .null p

end SloScript
