import SloScript.Proofs.Change

/-!
# Scopes are isolated

A scope gets a new name only by a declaration that is written in it. Calling a function, however
deep it calls others and whatever scopes they can see, declares parameters and locals in scopes made
for the call, and a branch declares in a scope made for the branch; so an expression leaves the
names of all existing scopes alone, and a statement adds at most the name that it declares, to the
scope that it is evaluated in. A run that stops with an error is no exception.

`Change` says what a single change may declare. From it comes what a chain of changes does to the
names of a scope that it has no right to declare in (`Changes.binds_eq`); the rest is about the one
declaration that a statement makes itself.
-/

namespace SloScript

/-! ## Names -/

namespace Store

/-- The names of a scope are those that it binds. -/
theorem mem_names_iff {s : Store} {id : ScopeId} {name : String} :
    name ∈ s.names id ↔ s.binds id name = true := by
  unfold names binds binding?
  cases s.scopes[id.index]? with
  | none => simp
  | some scope => exact Entries.mem_keys_iff

theorem names_sorted (s : Store) (id : ScopeId) : (s.names id).Pairwise (· < ·) := by
  unfold names
  cases s.scopes[id.index]? with
  | none => exact .nil
  | some scope => exact List.pairwise_map.2 scope.bindings.sorted

/-- Binding a name in an existing scope adds that name to that scope. -/
theorem binds_bindIn (s : Store) (id other : ScopeId) (name n : String) (b : Binding)
    (present : other.index < s.scopes.size) :
    (s.bindIn id name b).binds other n = true ↔
      s.binds other n = true ∨ (other = id ∧ n = name) := by
  unfold binds binding? bindIn
  simp only [Array.getElem?_modify]
  split
  · next same =>
    have here : other = id := by
      cases other
      cases id
      exact congrArg ScopeId.mk same.symm
    subst here
    rw [Array.getElem?_eq_getElem present]
    simp only [Option.map_some, Option.bind_some, Table.get?_insert]
    split <;> simp_all
  · next different =>
    have elsewhere : other ≠ id := fun h => different (h ▸ rfl)
    simp [elsewhere]

theorem binds_addScope (s : Store) (parent : Option ScopeId) (bindings : Table Binding)
    (id : ScopeId) (name : String) (present : id.index < s.scopes.size) :
    (s.addScope parent bindings).2.binds id name = s.binds id name := by
  unfold binds binding? addScope
  rw [Array.getElem?_push_lt present, Array.getElem?_eq_getElem present]

/-- A new scope binds what it is made with. -/
theorem binding?_addScope_self (s : Store) (parent : Option ScopeId) (bindings : Table Binding)
    (name : String) :
    (s.addScope parent bindings).2.binding? ⟨s.scopes.size⟩ name = bindings.get? name := by
  simp [binding?, addScope]

/-- A name that resolves is bound where it resolves to. -/
theorem binds_of_resolve {s : Store} {id owner : ScopeId} {name : String}
    (h : s.resolve id name = some owner) : s.binds owner name = true := by
  unfold resolve at h
  exact List.find?_some (p := fun owner => s.binds owner name) h

end Store

/-! ## Chains of changes -/

/-- The scopes of the first state bind the same names in the second one. -/
def State.KeepsNames (before after : State) : Prop :=
  ∀ id, ¬before.Fresh id → ∀ name, after.store.binds id name = before.store.binds id name

variable {foreign : State → State → Prop}

/-- A change adds no name to a scope that it may not declare in, if what comes from outside adds
none. -/
theorem Change.binds_eq (outside : ∀ st st', foreign st st' → st.KeepsNames st')
    {own : ScopeId → Prop} {st st' : State} (h : Change foreign own st st') {id : ScopeId}
    (present : ¬st.Fresh id) (other : ¬own id) (name : String) :
    st'.store.binds id name = st.store.binds id name := by
  have inside : id.index < st.store.scopes.size := Nat.lt_of_not_le present
  cases h with
  | note | answer | print | newObject | setProperty | mint => rfl
  | newScope parent => exact Store.binds_addScope _ _ _ _ _ inside
  | @declare owner n b ho hb =>
    have elsewhere : id ≠ owner := fun same => other (same ▸ ho)
    rw [Bool.eq_iff_iff, Store.binds_bindIn _ _ _ _ _ _ inside]
    simp [elsewhere]
  | @assign scope owner n value hr hk =>
    have bound := Store.binds_of_resolve hr
    rw [Bool.eq_iff_iff, Store.binds_bindIn _ _ _ _ _ _ inside]
    constructor
    · rintro (old | ⟨rfl, rfl⟩)
      · exact old
      · exact bound
    · exact .inl
  | hosted step => exact outside st st' step id present name

theorem Changes.binds_eq (outside : ∀ st st', foreign st st' → st.KeepsNames st')
    {own : ScopeId → Prop} {st st' : State} (h : Changes foreign own st st') {id : ScopeId}
    (present : ¬st.Fresh id) (other : ¬own id) (name : String) :
    st'.store.binds id name = st.store.binds id name := by
  induction h with
  | refl => rfl
  | tail chain last ih =>
    have still : ¬State.Fresh _ id := fun fresh => present (Nat.le_trans (size_le chain) fresh)
    exact (last.binds_eq outside still other name).trans ih

/-- What declares only in scopes of its own making adds no name to any other. -/
theorem Action.Confined.keepsNames (outside : ∀ st st', foreign st st' → st.KeepsNames st')
    {α : Type} {m : Action α} (h : m.Confined foreign Evaluator.noScope) (st : State) :
    st.KeepsNames (m st).2 :=
  fun _ present name =>
    (h st).binds_eq outside present (by simpa [Evaluator.noScope] using present) name

/-! ## The declaration of a statement -/

/-- The name that a statement declares in the scope it is evaluated in. -/
def Stmt.declared? : Stmt → Option String
  | .letVar name _ _ | .letConst name _ _ | .function name _ _ _ => some name.name
  | .branch _ _ _ _ | .expr _ => none

/-- An action adds one name to one scope if it succeeds, and no name to any other scope that exists
when it starts. Without a name it adds none at all. -/
def Action.Declares {α : Type} (m : Action α) (scope : ScopeId) (name? : Option String) : Prop :=
  ∀ (st : State) (id : ScopeId), ¬st.Fresh id → ∀ name,
    (m st).2.store.binds id name = true ↔
      st.store.binds id name = true ∨
        (id = scope ∧ name? = some name ∧ ∃ a, (m st).1 = .ok a)

namespace Action.Declares

variable {α β : Type} {scope : ScopeId} {name? : Option String}

theorem of_confined (outside : ∀ st st', foreign st st' → st.KeepsNames st') {m : Action α}
    (h : m.Confined foreign Evaluator.noScope) : m.Declares scope none := by
  intro st id present name
  rw [h.keepsNames outside st id present name]
  simp

/-- What runs before a declaration adds nothing, and if it fails nothing is declared. -/
theorem bind (outside : ∀ st st', foreign st st' → st.KeepsNames st') {m : Action α}
    {f : α → Action β} (hm : m.Confined foreign Evaluator.noScope)
    (hf : ∀ a, (f a).Declares scope name?) : (m >>= f).Declares scope name? := by
  intro st id present name
  have kept := hm.keepsNames outside st id present name
  have grown := (hm st).size_le
  rw [bind_run]
  split
  · next a mid he =>
    rw [he] at kept grown
    have still : ¬mid.Fresh id := fun fresh => present (Nat.le_trans grown fresh)
    rw [hf a mid id still name, kept]
  · next e mid he =>
    rw [he] at kept
    simp [kept]

theorem locate {m : Action α} (hm : m.Declares scope name?) (span : Span) :
    (m.locate span).Declares scope name? := by
  intro st id present name
  have h := hm st id present name
  unfold Action.locate
  split
  · next a mid he => simpa [he] using h
  · next e mid he => simpa [he] using h

theorem declare (scope : ScopeId) (name : String) (value : Value) (constant : Bool) :
    (Action.declare scope name value constant).Declares scope (some name) := by
  intro st id present n
  have inside : id.index < st.store.scopes.size := Nat.lt_of_not_le present
  unfold Action.declare Action.bindIn
  split
  · simp
  · next owner hp =>
    obtain ⟨rfl, _⟩ := Store.declaringScope_eq_ok.1 hp
    rw [Store.binds_bindIn _ _ _ _ _ _ inside]
    simp [@eq_comm _ name]

end Action.Declares

namespace Evaluator

/-- A branch declares only in the scope made for it and in those made while it runs. -/
theorem evalBranch_confined {call : Caller} (hcall : CallConfined foreign call) (scope : ScopeId)
    (test : Expr) (consequent alternate : List Stmt) (span : Span) :
    (evalStmt call scope (.branch test consequent alternate span)).Confined foreign noScope := by
  rw [evalStmt]
  refine .bind (evalExpr_confined hcall scope test) fun v => ?_
  split
  · exact .newScope_bind fun inner => evalBody_confined hcall inner consequent _
  · exact .newScope_bind fun inner => evalBody_confined hcall inner alternate _
  · exact .pure _

/-- A statement adds the name that it declares, if it succeeds, and nothing else. -/
theorem evalStmt_declares (outside : ∀ st st', foreign st st' → st.KeepsNames st') {call : Caller}
    (hcall : CallConfined foreign call) (scope : ScopeId) (s : Stmt) :
    (evalStmt call scope s).Declares scope s.declared? := by
  cases s with
  | letVar name init span =>
    cases init with
    | none =>
      rw [evalStmt]
      exact .locate (.declare _ _ _ _) _
    | some init =>
      rw [evalStmt]
      exact .bind outside (evalExpr_confined hcall scope init) fun v =>
        .locate (.declare _ _ _ _) _
  | letConst name init span =>
    rw [evalStmt]
    exact .bind outside (evalExpr_confined hcall scope init) fun v => .locate (.declare _ _ _ _) _
  | function name params body span =>
    rw [evalStmt]
    exact .bind outside (.mint 1) fun _ => .locate (.declare _ _ _ _) _
  | branch test consequent alternate span =>
    exact .of_confined outside (evalBranch_confined hcall scope test consequent alternate span)
  | expr e =>
    rw [evalStmt]
    exact .of_confined outside (evalExpr_confined hcall scope e)

end Evaluator

/-! ## Functions of the host -/

/-- A function of the host that declares nothing: it removes no scope, and the scopes that are there
bind the names that they bound. It may assign to variables, make scopes and objects, set properties,
print, and remember something. -/
structure HostFunction.DeclaresNothing (f : HostFunction) : Prop where
  keepsScopes : f.KeepsScopes
  keepsNames : ∀ scope args span (st : State), st.KeepsNames (f scope args span st).2

/-- A function that works by the changes that programs make declares nothing if it declares only in
scopes of its own making. -/
theorem HostFunction.DeclaresNothing.of_confined {f : HostFunction}
    (h : ∀ scope args span,
      (f scope args span).Confined (fun _ _ => False) Evaluator.noScope) : f.DeclaresNothing where
  keepsScopes scope args span st := (h scope args span st).size_le
  keepsNames scope args span st := (h scope args span).keepsNames (fun _ _ => False.elim) st

/-- A step of functions that declare nothing adds no name. -/
theorem Host.Does.keepsNames {host : Host} (declares : ∀ f ∈ host.callbacks, f.DeclaresNothing)
    {st st' : State} (step : host.Does st st') : st.KeepsNames st' := by
  obtain ⟨f, member, scope, args, span, rfl⟩ := step
  exact (declares f member).keepsNames scope args span st

/-- Scopes are isolated, for every number of functions that may still be entered, if the functions
of the host declare nothing. An expression is a chain of changes that declares only in scopes made
while it runs, so a scope that existed before has the names it had. A statement changes the names of
no existing scope but the one that it is evaluated in, which gets the name that the statement
declares if the declaration succeeds; a branch, which declares nothing there, changes the names of
none. -/
theorem evaluation_isolated (host : Host) (declares : ∀ f ∈ host.callbacks, f.DeclaresNothing)
    (remaining : Nat) (scope : ScopeId) (st : State) :
    (∀ e : Expr,
      let after := (Evaluator.evalExpr (Evaluator.invoke host remaining) scope e st).2
      Changes host.Does st.Fresh st after ∧
        ∀ id, ¬st.Fresh id → ∀ name, name ∈ after.store.names id ↔ name ∈ st.store.names id) ∧
    ∀ s : Stmt,
      let (result, after) := Evaluator.evalStmt (Evaluator.invoke host remaining) scope s st
      ∀ id, ¬st.Fresh id → ∀ name, name ∈ after.store.names id ↔
        name ∈ st.store.names id ∨
          (id = scope ∧ s.declared? = some name ∧ ∃ v, result = .ok v) := by
  have hcall := Evaluator.invoke_confined (fun f member => (declares f member).keepsScopes)
    remaining
  have outside (st st' : State) (step : host.Does st st') : st.KeepsNames st' :=
    step.keepsNames declares
  constructor
  · intro e after
    have confined := Evaluator.evalExpr_confined hcall scope e
    refine ⟨(confined st).mono fun id => ?_, fun id present name => ?_⟩
    · rintro (none | fresh)
      · exact none.elim
      · exact fresh
    · rw [Store.mem_names_iff, Store.mem_names_iff, confined.keepsNames outside st id present name]
  · intro s id present name
    rw [Store.mem_names_iff, Store.mem_names_iff]
    exact Evaluator.evalStmt_declares outside hcall scope s st id present name

/-- A function of the host that assigns the list it is given to the variable `a` and yields a longer
list. Calling it gives no scope a name, and a statement that declares `b` as the list that it yields
gives the global scope just that name. -/
theorem evaluation_isolated_assigning :
    let push : HostFunction := fun scope args _ => do
      let rest ← Action.assign scope "a" (args.headD .null)
      Action.newObject (Table.empty.insert "rep" rest)
    let host : Host := ⟨200, fun _ => ⟨0, 0, 0, 1, 1, 2026⟩, fun _ => 0, fun _ => none, #[push]⟩
    let globals := (Table.empty.insert "a" ⟨.null, false⟩).insert "dodaj"
      ⟨.native ⟨0, "dodaj", none, .hosted 0⟩, true⟩
    let st : State := { State.initial with store := ⟨#[⟨none, globals⟩], #[], 1⟩ }
    let span : Span := ⟨0, 1, 1, 1⟩
    let call : Expr := .call (.name ⟨"dodaj", span⟩) [.object [] span] span
    let after := (Evaluator.evalExpr (Evaluator.invoke host 0) ⟨0⟩ call st).2
    let declaration : Stmt := .letVar ⟨"b", span⟩ (some call) span
    let run := Evaluator.evalStmt (Evaluator.invoke host 0) ⟨0⟩ declaration st
    after.store.objects.size = 2 ∧
      (∀ name, name ∈ after.store.names ⟨0⟩ ↔ name ∈ st.store.names ⟨0⟩) ∧
      ∀ name, name ∈ run.2.store.names ⟨0⟩ ↔ name ∈ st.store.names ⟨0⟩ ∨ "b" = name := by
  intro push host globals st span call after declaration run
  have declares (f : HostFunction) (member : f ∈ host.callbacks) : f.DeclaresNothing := by
    obtain rfl : f = push := by simpa [host] using member
    exact .of_confined fun scope args _ => .bind (.assign scope "a" _) fun _ => .newObject _
  have isolated := evaluation_isolated host declares 0 ⟨0⟩ st
  have present : ¬st.Fresh ⟨0⟩ := Nat.not_le.2 (by decide)
  have succeeds : run.1.isOk = true := by decide +kernel
  refine ⟨by decide +kernel, (isolated.1 call).2 ⟨0⟩ present, fun name => ?_⟩
  have names : name ∈ run.2.store.names ⟨0⟩ ↔ name ∈ st.store.names ⟨0⟩ ∨
      (ScopeId.mk 0 = ⟨0⟩ ∧ some "b" = some name ∧ ∃ v, run.1 = .ok v) :=
    isolated.2 declaration ⟨0⟩ present name
  cases ran : run.1 with
  | ok v => simpa [ran] using names
  | error e => simp [ran, Except.isOk, Except.toBool] at succeeds

end SloScript
