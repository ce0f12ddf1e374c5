import Mathlib.Logic.Relation
import SloScript.Evaluator

/-!
# What an evaluation can do to a state

Whatever a program does, it does by a few kinds of change: a note, a printed line, an answered
request, a new scope, object or identity, a declaration, an assignment, a property, or by a call of
a function of the host. `Change` says once what each of them does and under which condition it
happens; `Action.Confined` says that an action is a chain of them in which every declaration goes to
a scope that it was allowed to use or made itself. An invariant of evaluation then needs one case
per kind of change and nothing about expressions, calls or errors. What a function of the host does
is left open: an invariant that holds of it is a condition on the host.

Results:
1. `evalExpr_confined`: an expression declares only in scopes made while it runs.
2. `evalStmt_confined`: a statement also declares in the scope it is evaluated in.
3. `invoke_confined`: a call declares only in scopes made while it runs, at any depth.
4. `eval_confined`: so a program that runs in a scope is such a chain as a whole.
-/

namespace SloScript

namespace Store

/-- A declaration is allowed in the given scope unless that scope binds the name. -/
theorem declaringScope_eq_ok {s : Store} {id owner : ScopeId} {name : String} :
    s.declaringScope id name = .ok owner ↔ id = owner ∧ s.binds id name = false := by
  unfold declaringScope
  split <;> simp_all

/-- An assignment is allowed in the nearest scope that binds the name, if it is a variable there. -/
theorem assigningScope_eq_ok {s : Store} {id owner : ScopeId} {name : String} :
    s.assigningScope id name = .ok owner ↔
      s.resolve id name = some owner ∧ s.isConstant owner name = false := by
  unfold assigningScope
  split
  · simp_all
  · next found hr =>
    rw [hr, Option.some.injEq]
    split
    · next hk =>
      constructor
      · intro h
        cases h
      · intro h
        rw [← h.1, hk] at h
        cases h.2
    · next hk =>
      rw [Except.ok.injEq]
      constructor
      · intro h
        exact ⟨h, by simpa [← h] using hk⟩
      · intro h
        exact h.1

end Store

/-! ## Functions of the host -/

/-- One of the host's functions leads from the one state to the other. -/
def Host.Does (host : Host) (st st' : State) : Prop :=
  ∃ f ∈ host.callbacks, ∃ scope args span, (f scope args span st).2 = st'

/-- The function removes no scope. -/
def HostFunction.KeepsScopes (f : HostFunction) : Prop :=
  ∀ scope args span st, st.store.scopes.size ≤ (f scope args span st).2.store.scopes.size

/-! ## Kinds of change -/

/-- One change of a state. A declaration is made in a scope that satisfies `own` and does not bind
the name yet; an assignment is made in the nearest scope that binds the name, as a variable. What
comes from outside is a step of `foreign` that removes no scope. -/
inductive Change (foreign : State → State → Prop) (own : ScopeId → Prop) : State → State → Prop
  | note (st : State) (e : Event) : Change foreign own st { st with journal := e :: st.journal }
  | answer (st : State) : Change foreign own st { st with requests := st.requests + 1 }
  | print (st : State) (text : String) :
      Change foreign own st { st with output := st.output ++ text }
  | declare {st : State} {id : ScopeId} {name : String} (b : Binding) :
      own id → st.store.binds id name = false →
      Change foreign own st { st with store := st.store.bindIn id name b }
  | assign {st : State} {scope owner : ScopeId} {name : String} (value : Value) :
      st.store.resolve scope name = some owner → st.store.isConstant owner name = false →
      Change foreign own st { st with store := st.store.bindIn owner name ⟨value, false⟩ }
  | newScope (st : State) (parent : ScopeId) :
      Change foreign own st { st with store := (st.store.addScope (some parent) .empty).2 }
  | newObject (st : State) (properties : Table Value) :
      Change foreign own st { st with store := (st.store.addObject properties).2 }
  | setProperty (st : State) (id : ObjectId) (key : String) (value : Value) :
      Change foreign own st { st with store := st.store.setProperty id key value }
  | mint (st : State) (count : Nat) :
      Change foreign own st { st with store := (st.store.mint count).2 }
  | hosted {st st' : State} :
      foreign st st' → st.store.scopes.size ≤ st'.store.scopes.size → Change foreign own st st'

/-- A chain of changes. -/
abbrev Changes (foreign : State → State → Prop) (own : ScopeId → Prop) : State → State → Prop :=
  Relation.ReflTransGen (Change foreign own)

/-- The scope did not exist in the given state. -/
def State.Fresh (st : State) (id : ScopeId) : Prop := st.store.scopes.size ≤ id.index

/-- An action is a chain of changes that declares in scopes satisfying `own` and in scopes that did
not exist when it began. -/
def Action.Confined {α : Type} (foreign : State → State → Prop) (own : ScopeId → Prop)
    (m : Action α) : Prop :=
  ∀ st, Changes foreign (fun id => own id ∨ st.Fresh id) st (m st).2

variable {foreign : State → State → Prop}

theorem Change.mono {own more : ScopeId → Prop} (h : ∀ id, own id → more id) {st st' : State}
    (hc : Change foreign own st st') : Change foreign more st st' := by
  cases hc with
  | note e => exact .note st e
  | answer => exact .answer st
  | print text => exact .print st text
  | declare b ho hb => exact .declare b (h _ ho) hb
  | assign value hr hk => exact .assign value hr hk
  | newScope parent => exact .newScope st parent
  | newObject properties => exact .newObject st properties
  | setProperty id key value => exact .setProperty st id key value
  | mint count => exact .mint st count
  | hosted step kept => exact .hosted step kept

theorem Changes.mono {own more : ScopeId → Prop} (h : ∀ id, own id → more id) {st st' : State}
    (hc : Changes foreign own st st') : Changes foreign more st st' :=
  Relation.ReflTransGen.mono (fun _ _ => Change.mono h) _ _ hc

/-- No change removes a scope. -/
theorem Change.size_le {own : ScopeId → Prop} {st st' : State} (h : Change foreign own st st') :
    st.store.scopes.size ≤ st'.store.scopes.size := by
  cases h with
  | hosted _ kept => exact kept
  | _ => simp [Store.bindIn, Store.addScope, Store.addObject, Store.setProperty, Store.mint]

theorem Changes.size_le {own : ScopeId → Prop} {st st' : State} (h : Changes foreign own st st') :
    st.store.scopes.size ≤ st'.store.scopes.size := by
  induction h with
  | refl => exact Nat.le_refl _
  | tail _ hc ih => exact Nat.le_trans ih hc.size_le

/-! ## Confined actions -/

namespace Action.Confined

variable {α β : Type} {own : ScopeId → Prop}

theorem mono {more : ScopeId → Prop} {m : Action α} (hm : m.Confined foreign own)
    (h : ∀ id, own id → more id) : m.Confined foreign more :=
  fun st => (hm st).mono fun id => Or.imp_left (h id)

/-- An action that leaves the state as it is. -/
theorem of_still {m : Action α} (h : ∀ st, (m st).2 = st) : m.Confined foreign own := by
  intro st
  rw [h st]

/-- An action that makes a single change. -/
theorem of_change {m : Action α} (h : ∀ st, Change foreign own st (m st).2) :
    m.Confined foreign own :=
  fun st => .single ((h st).mono fun _ => .inl)

theorem pure (a : α) : (Pure.pure a : Action α).Confined foreign own := of_still fun _ => rfl

theorem fail (fault : EvalFault) (span : Span) :
    (Action.fail fault span : Action α).Confined foreign own :=
  of_still fun _ => rfl

theorem settle (span : Span) (r : Except EvalFault α) :
    (Action.settle span r).Confined foreign own := by
  cases r with
  | ok a => exact pure a
  | error fault => exact fail fault span

theorem read (f : Store → α) : (Action.read f).Confined foreign own := of_still fun _ => rfl

theorem lookup (scope : ScopeId) (name : String) :
    (Action.lookup scope name).Confined foreign own := by
  refine of_still fun st => ?_
  unfold Action.lookup
  split <;> rfl

theorem locate {m : Action α} (hm : m.Confined foreign own) (span : Span) :
    (m.locate span).Confined foreign own := by
  intro st
  have h := hm st
  unfold Action.locate
  split <;> simp_all

/-- One action after the other. What the first one leaves fresh was fresh before it. -/
theorem bind {m : Action α} {f : α → Action β} (hm : m.Confined foreign own)
    (hf : ∀ a, (f a).Confined foreign own) : (m >>= f).Confined foreign own := by
  intro st
  have first := hm st
  rw [bind_run]
  split
  · next a mid he =>
    rw [he] at first
    refine first.trans ((hf a mid).mono fun id => Or.imp_right fun hfresh => ?_)
    exact Nat.le_trans first.size_le hfresh
  · next e mid he =>
    rw [he] at first
    exact first

/-- What runs in a scope of its own may declare there. -/
theorem newScope_bind {parent : ScopeId} {f : ScopeId → Action β}
    (hf : ∀ inner, (f inner).Confined foreign (· = inner)) :
    (Action.newScope parent >>= f).Confined foreign own := by
  intro st
  refine .head (.newScope st parent) ?_
  -- The new scope takes the first free place, so it and all later ones are fresh for `st`.
  refine (hf ⟨st.store.scopes.size⟩ _).mono fun id h => .inr ?_
  rcases h with rfl | hfresh
  · exact Nat.le_refl _
  · refine Nat.le_trans ?_ hfresh
    simp [Store.addScope]

theorem record (e : Event) : (Action.record e).Confined foreign own :=
  of_change fun st => .note st e

theorem request : Action.request.Confined foreign own := of_change fun st => .answer st

theorem printLine (line : String) : (Action.printLine line).Confined foreign own := by
  refine of_change fun st => ?_
  have h : Change foreign own st _ := .print st (line ++ "\n")
  rwa [← String.append_assoc] at h

theorem newObject (properties : Table Value) : (Action.newObject properties).Confined foreign own :=
  of_change fun st => .newObject st properties

theorem mint (count : Nat) : (Action.change fun s => s.mint count).Confined foreign own :=
  of_change fun st => .mint st count

theorem setProperty (id : ObjectId) (key : String) (value : Value) :
    (Action.setProperty id key value).Confined foreign own :=
  bind (record _) fun _ => of_change fun st => .setProperty st id key value

/-- A binding is a change wherever its place allows it, and nothing happens where it does not. -/
theorem bindIn {place : Store → Except EvalFault ScopeId} {name : String} {b : Binding} {e : Event}
    (h : ∀ (st : State) owner, place st.store = .ok owner →
      Change foreign own st { st with store := st.store.bindIn owner name b }) :
    (Action.bindIn place name b e).Confined foreign own := by
  intro st
  unfold Action.bindIn
  split
  · exact .refl
  · next owner hp =>
    exact .tail (.single ((h st owner hp).mono fun _ => .inl)) (.note _ e)

theorem declare {scope : ScopeId} (h : own scope) (name : String) (value : Value)
    (constant : Bool) : (Action.declare scope name value constant).Confined foreign own := by
  refine bindIn fun st owner hp => ?_
  obtain ⟨rfl, hb⟩ := Store.declaringScope_eq_ok.1 hp
  exact .declare _ h hb

theorem declare_here (scope : ScopeId) (name : String) (value : Value) (constant : Bool) :
    (Action.declare scope name value constant).Confined foreign (· = scope) :=
  @declare _ (· = scope) scope rfl name value constant

theorem assign (scope : ScopeId) (name : String) (value : Value) :
    (Action.assign scope name value).Confined foreign own := by
  refine bindIn fun st owner hp => ?_
  obtain ⟨hr, hk⟩ := Store.assigningScope_eq_ok.1 hp
  exact .assign value hr hk

end Action.Confined

/-! ## Evaluation -/

namespace Evaluator

/-- A built-in function declares nothing. -/
theorem builtin_confined {own : ScopeId → Prop} (host : Host) (b : Builtin) (args : List Value)
    (span : Span) : (b.run host args span).Confined foreign own := by
  unfold Builtin.run
  split
  · refine .bind (.read _) fun _ => .bind .request fun _ => .bind (.settle _ _) fun _ => ?_
    exact .bind (.printLine _) fun _ => .pure _
  · exact .bind .request fun _ => .pure _
  · refine .bind (.settle _ _) fun low => .bind (.settle _ _) fun high => ?_
    exact .bind (.settle _ _) fun _ => .bind .request fun _ => .pure _
  · exact .bind (.settle _ _) fun _ => .pure _

/-- A native is built in, or one step of the host. -/
theorem runNative_confined {own : ScopeId → Prop} {host : Host}
    (keeps : ∀ f ∈ host.callbacks, f.KeepsScopes) (n : Native) (args : List Value)
    (scope : ScopeId) (span : Span) :
    (runNative host n args scope span).Confined host.Does own := by
  unfold runNative
  split
  · exact builtin_confined host _ args span
  · exact .pure _
  · split
    · next f found =>
      have member := Array.mem_of_getElem? found
      refine .of_change fun st => .hosted ⟨f, member, scope, args, span, rfl⟩ ?_
      exact keeps f member scope args span st
    · exact .fail _ _

theorem ownerOf_confined {own : ScopeId → Prop} (v : Value) (key : String) (span : Span) :
    (ownerOf v key span).Confined foreign own := by
  unfold ownerOf
  split
  · exact .pure _
  · exact .fail _ _

theorem keyOf_confined {own : ScopeId → Prop} (v : Value) (span : Span) :
    (keyOf v span).Confined foreign own := by
  unfold keyOf
  split
  · exact .pure _
  · exact .pure _
  · exact .fail _ _

/-- No scope that exists already. -/
abbrev noScope : ScopeId → Prop := fun _ => False

/-- A call declares only in scopes made while it runs. -/
def CallConfined (foreign : State → State → Prop) (call : Caller) : Prop :=
  ∀ f args scope span, (call f args scope span).Confined foreign noScope

mutual

/-- An expression declares only in scopes made while it runs, if calls do. -/
theorem evalExpr_confined {call : Caller} (hcall : CallConfined foreign call) (scope : ScopeId) :
    ∀ e : Expr, (evalExpr call scope e).Confined foreign noScope
  | .number _ _ => by rw [evalExpr]; exact .pure _
  | .text _ _ => by rw [evalExpr]; exact .pure _
  | .name id => by rw [evalExpr]; exact .locate (.lookup _ _) _
  | .assign (.name id) value _ => by
    rw [evalExpr]
    exact .bind (evalExpr_confined hcall scope value) fun v => .locate (.assign _ _ _) _
  | .assign (.member object key span) value _ => by
    rw [evalExpr]
    refine .bind (evalExpr_confined hcall scope object) fun o => ?_
    refine .bind (ownerOf_confined _ _ _) fun _ => ?_
    exact .bind (evalExpr_confined hcall scope value) fun _ => .setProperty _ _ _
  | .assign (.index object key span) value _ => by
    rw [evalExpr]
    refine .bind (evalExpr_confined hcall scope object) fun o => ?_
    refine .bind (evalExpr_confined hcall scope key) fun k => .bind (keyOf_confined _ _) fun _ => ?_
    refine .bind (ownerOf_confined _ _ _) fun _ => ?_
    exact .bind (evalExpr_confined hcall scope value) fun _ => .setProperty _ _ _
  | .assign (.number _ _) _ _ | .assign (.text _ _) _ _ | .assign (.assign _ _ _) _ _
  | .assign (.binary _ _ _ _) _ _ | .assign (.call _ _ _) _ _ | .assign (.object _ _) _ _ => by
    rw [evalExpr]
    · exact .fail _ _
    all_goals simp
  | .binary _ left right _ => by
    rw [evalExpr]
    refine .bind (evalExpr_confined hcall scope left) fun _ => ?_
    exact .bind (evalExpr_confined hcall scope right) fun _ => .settle _ _
  | .member object _ _ => by
    rw [evalExpr]
    refine .bind (evalExpr_confined hcall scope object) fun _ => ?_
    exact .bind (ownerOf_confined _ _ _) fun _ => .read _
  | .index object key _ => by
    rw [evalExpr]
    refine .bind (evalExpr_confined hcall scope object) fun _ => ?_
    refine .bind (evalExpr_confined hcall scope key) fun _ => .bind (keyOf_confined _ _) fun _ => ?_
    exact .bind (ownerOf_confined _ _ _) fun _ => .read _
  | .call callee args _ => by
    rw [evalExpr]
    refine .bind (evalArgs_confined hcall scope args) fun _ => ?_
    exact .bind (evalExpr_confined hcall scope callee) fun _ => hcall _ _ _ _
  | .object properties _ => by
    rw [evalExpr]
    exact .bind (evalProperties_confined hcall scope properties _) fun _ => .newObject _

theorem evalArgs_confined {call : Caller} (hcall : CallConfined foreign call) (scope : ScopeId) :
    ∀ args : List Expr, (evalArgs call scope args).Confined foreign noScope
  | [] => by rw [evalArgs]; exact .pure _
  | arg :: args => by
    rw [evalArgs]
    refine .bind (evalExpr_confined hcall scope arg) fun _ => ?_
    exact .bind (evalArgs_confined hcall scope args) fun _ => .pure _

theorem evalProperties_confined {call : Caller} (hcall : CallConfined foreign call)
    (scope : ScopeId) : ∀ (properties : List Property) (table : Table Value),
      (evalProperties call scope table properties).Confined foreign noScope
  | [], table => by rw [evalProperties]; exact .pure _
  | .shorthand key :: rest, table => by
    rw [evalProperties]
    exact .bind (.locate (.lookup _ _) _) fun _ => evalProperties_confined hcall scope rest _
  | .keyed key value _ :: rest, table => by
    rw [evalProperties]
    refine .bind (evalExpr_confined hcall scope value) fun _ => ?_
    exact evalProperties_confined hcall scope rest _

end

mutual

/-- A statement declares in the scope it is evaluated in and in scopes made while it runs. -/
theorem evalStmt_confined {call : Caller} (hcall : CallConfined foreign call) (scope : ScopeId) :
    ∀ s : Stmt, (evalStmt call scope s).Confined foreign (· = scope)
  | .letVar name none _ => by
    rw [evalStmt]
    exact .locate (.declare_here _ _ _ _) _
  | .letVar name (some init) _ => by
    rw [evalStmt]
    refine .bind ((evalExpr_confined hcall scope init).mono nofun) fun _ => ?_
    exact .locate (.declare_here _ _ _ _) _
  | .letConst name init _ => by
    rw [evalStmt]
    refine .bind ((evalExpr_confined hcall scope init).mono nofun) fun _ => ?_
    exact .locate (.declare_here _ _ _ _) _
  | .function name params body _ => by
    rw [evalStmt]
    exact .bind (.mint 1) fun _ => .locate (.declare_here _ _ _ _) _
  | .branch test consequent alternate _ => by
    rw [evalStmt]
    refine .bind ((evalExpr_confined hcall scope test).mono nofun) fun v => ?_
    split
    · exact .newScope_bind fun inner => evalBody_confined hcall inner consequent _
    · exact .newScope_bind fun inner => evalBody_confined hcall inner alternate _
    · exact .pure _
  | .expr e => by
    rw [evalStmt]
    exact (evalExpr_confined hcall scope e).mono nofun

theorem evalBody_confined {call : Caller} (hcall : CallConfined foreign call) (scope : ScopeId) :
    ∀ (body : List Stmt) (last : Value),
      (evalBody call scope last body).Confined foreign (· = scope)
  | [], last => by rw [evalBody]; exact .pure _
  | stmt :: rest, last => by
    rw [evalBody]
    exact .bind (evalStmt_confined hcall scope stmt) fun v => evalBody_confined hcall scope rest v

end

theorem bindParams_confined (scope : ScopeId) (span : Span) (names : List String)
    (args : List Value) : (bindParams scope span names args).Confined foreign (· = scope) := by
  fun_induction bindParams scope span names args with
  | case1 name names v vs ih => exact .bind (.locate (.declare_here _ _ _ _) _) fun _ => ih
  | case2 => exact .pure _

theorem dispatch_confined {host : Host} (keeps : ∀ f ∈ host.callbacks, f.KeepsScopes)
    {enter : Closure → List Value → Span → Action Value}
    (henter : ∀ c args span, (enter c args span).Confined host.Does noScope) :
    CallConfined host.Does (dispatch host enter) := by
  intro f args scope span
  unfold dispatch
  split
  · split
    · exact henter _ _ _
    · exact .fail _ _
  · split
    · exact .bind (.record _) fun _ => .locate (runNative_confined keeps _ _ _ _) _
    · exact .fail _ _
  · exact .fail _ _

/-- A call declares only in scopes made while it runs, however many functions may still be
entered. -/
theorem invoke_confined {host : Host} (keeps : ∀ f ∈ host.callbacks, f.KeepsScopes)
    (remaining : Nat) : CallConfined host.Does (invoke host remaining) := by
  induction remaining with
  | zero => exact dispatch_confined keeps fun _ _ _ => .fail _ _
  | succ remaining ih =>
    refine dispatch_confined keeps fun c args span => .bind (.record _) fun _ => .newScope_bind ?_
    -- The body may be any body of any closure; only the new scope around it matters.
    intro inner
    refine .bind (bindParams_confined inner span c.params args) fun _ => ?_
    exact evalBody_confined ih inner c.body _

end Evaluator

theorem callValue_confined {host : Host} (keeps : ∀ f ∈ host.callbacks, f.KeepsScopes) :
    Evaluator.CallConfined host.Does (callValue host) :=
  Evaluator.invoke_confined keeps host.limit

/-- A program that runs in a scope is a chain of changes that declares there and in scopes made
while it runs. -/
theorem Program.eval_confined {host : Host} (keeps : ∀ f ∈ host.callbacks, f.KeepsScopes)
    (scope : ScopeId) (p : Program) : (p.eval host scope).Confined host.Does (· = scope) :=
  .bind (.record _) fun _ => Evaluator.evalBody_confined (callValue_confined keeps) scope p _

end SloScript
