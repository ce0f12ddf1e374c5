import SloScript.Proofs.Isolation

/-!
# Names on a chain of scopes

A name is looked for in a scope, then in its parent, and so on outward, and stands for what the
first scope that binds it says. So an assignment or a declaration in one place can be seen from
every scope whose chain leads there, unless a nearer scope binds the same name. Here the effect of
both is stated for every scope of a tree and every name at once, whatever shadows what.

`Store.Rebinds` says that one binding differs between two stores and nothing else does. What all
look-ups see of that follows from the chain alone; which scope the binding is in, and whether it was
there before, is what sets an assignment and a declaration apart.

Results:
1. `Store.ancestry_chain`: chains are finite, and end at a scope that has no parent.
2. `Rebinds.lookup_of_bound`, `Rebinds.lookup_of_foremost`, `Rebinds.lookup_of_not_foremost`:
   look-ups after one binding has changed.
3. `State.HasTree.scopeLaws`: the laws of look-up, assignment and declaration together.
-/

namespace SloScript

namespace Store

/-! ## Chains -/

/-- These are the scope, its parent, and so on, up to a scope that has no parent. -/
inductive Ancestry (s : Store) : ScopeId → List ScopeId → Prop
  | root {id : ScopeId} {scope : Scope} :
      s.scopes[id.index]? = some scope → scope.parent = none → Ancestry s id [id]
  | inner {id parent : ScopeId} {scope : Scope} {outer : List ScopeId} :
      s.scopes[id.index]? = some scope → scope.parent = some parent → Ancestry s parent outer →
      Ancestry s id (id :: outer)

/-- A scope on the chain of `id` with no scope before it that binds the name. -/
def Foremost (s : Store) (id owner : ScopeId) (name : String) : Prop :=
  ∃ before after, s.chain id = before ++ owner :: after ∧
    ∀ nearer ∈ before, s.binds nearer name = false

/-- The parent of every scope is older than the scope. -/
def ParentsOlder (s : Store) : Prop :=
  ∀ (id parent : ScopeId) (scope : Scope), s.scopes[id.index]? = some scope →
    scope.parent = some parent → parent.index < id.index

/-- Where parents are older, nothing cuts a chain off before it has come to its end. -/
theorem ancestry_chain {s : Store} (older : s.ParentsOlder) (id : ScopeId)
    (present : id.index < s.scopes.size) : s.Ancestry id (s.chain id) := by
  have here := Array.getElem?_eq_getElem present
  rw [chain, here]
  dsimp only
  cases up : s.scopes[id.index].parent with
  | none => exact .root here up
  | some parent =>
    have less : parent.index < id.index := older id parent _ here up
    dsimp only
    rw [if_pos less]
    exact .inner here up (ancestry_chain older parent (Nat.lt_trans less present))
termination_by id.index

theorem resolve_eq_some_iff {s : Store} {id owner : ScopeId} {name : String} :
    s.resolve id name = some owner ↔ s.binds owner name = true ∧ s.Foremost id owner name := by
  rw [resolve, List.find?_eq_some_iff_append]
  simp only [Foremost, Bool.not_eq_true']

theorem resolve_eq_none_iff {s : Store} {id : ScopeId} {name : String} :
    s.resolve id name = none ↔ ∀ owner ∈ s.chain id, s.binds owner name = false := by
  simp [resolve]

theorem exists_binding_of_resolve {s : Store} {id owner : ScopeId} {name : String}
    (h : s.resolve id name = some owner) : ∃ b, s.binding? owner name = some b :=
  Option.isSome_iff_exists.1 (binds_of_resolve h)

/-- A name that resolves to a scope stands for what that scope says. -/
theorem lookup_of_resolve {s : Store} {id owner : ScopeId} {name : String} {b : Binding}
    (h : s.resolve id name = some owner) (bound : s.binding? owner name = some b) :
    s.lookup id name = .ok b.value := by
  rw [lookup, h, Option.bind_some, bound]

theorem lookup_of_unresolved {s : Store} {id : ScopeId} {name : String}
    (h : s.resolve id name = none) : s.lookup id name = .error (.undefinedVariable name) := by
  rw [lookup, h]
  rfl

/-- A look-up yields the value that the first scope of the chain that binds the name gives it. -/
theorem lookup_eq_ok_iff {s : Store} {id : ScopeId} {name : String} {v : Value} :
    s.lookup id name = .ok v ↔
      ∃ owner b, s.Foremost id owner name ∧ s.binding? owner name = some b ∧ b.value = v := by
  constructor
  · intro found
    cases h : s.resolve id name with
    | none => cases (lookup_of_unresolved h).symm.trans found
    | some owner =>
      obtain ⟨b, bound⟩ := exists_binding_of_resolve h
      cases (lookup_of_resolve h bound).symm.trans found
      exact ⟨owner, b, (resolve_eq_some_iff.1 h).2, bound, rfl⟩
  · rintro ⟨owner, b, foremost, bound, rfl⟩
    have binds : s.binds owner name = true := by rw [Store.binds, bound]; rfl
    exact lookup_of_resolve (resolve_eq_some_iff.2 ⟨binds, foremost⟩) bound

/-- A look-up fails where no scope of the chain binds the name. -/
theorem lookup_eq_error_iff {s : Store} {id : ScopeId} {name : String} {fault : EvalFault} :
    s.lookup id name = .error fault ↔
      fault = .undefinedVariable name ∧ ∀ owner ∈ s.chain id, s.binds owner name = false := by
  rw [← resolve_eq_none_iff]
  constructor
  · intro failed
    cases h : s.resolve id name with
    | none => exact ⟨by cases (lookup_of_unresolved h).symm.trans failed; rfl, rfl⟩
    | some owner =>
      obtain ⟨b, bound⟩ := exists_binding_of_resolve h
      cases (lookup_of_resolve h bound).symm.trans failed
  · rintro ⟨rfl, h⟩
    exact lookup_of_unresolved h

theorem lt_size_of_binds {s : Store} {id : ScopeId} {name : String} (h : s.binds id name = true) :
    id.index < s.scopes.size := by
  refine Nat.lt_of_not_le fun fresh => ?_
  rw [binds, binding?, Array.getElem?_eq_none fresh] at h
  cases h

/-- An assignment is refused where the name is not bound, or is a constant where it is. -/
theorem assigningScope_eq_error {s : Store} {id : ScopeId} {name : String} {fault : EvalFault}
    (h : s.assigningScope id name = .error fault) :
    s.resolve id name = none ∨
      ∃ owner, s.resolve id name = some owner ∧ s.isConstant owner name = true := by
  unfold assigningScope at h
  split at h
  · next unresolved => exact .inl unresolved
  · next owner resolved =>
    split at h
    · next constant => exact .inr ⟨owner, resolved, constant⟩
    · cases h

theorem declaringScope_eq_error {s : Store} {id : ScopeId} {name : String} {fault : EvalFault}
    (h : s.declaringScope id name = .error fault) : s.binds id name = true := by
  unfold declaringScope at h
  split at h
  · next bound => exact bound
  · cases h

/-- The constants of a scope are among its names. -/
theorem mem_names_of_isConstant {s : Store} {id : ScopeId} {name : String}
    (h : s.isConstant id name = true) : name ∈ s.names id := by
  rw [isConstant] at h
  rw [mem_names_iff, binds]
  cases bound : s.binding? id name with
  | none =>
    rw [bound] at h
    cases h
  | some b => rfl

/-! ## One binding changed -/

/-- In `s'` the scope `owner` binds the name as given. Every other binding is as in `s`, and so are
the parents of the scopes, the objects and the identities given out. -/
structure Rebinds (s s' : Store) (owner : ScopeId) (name : String) (b : Binding) : Prop where
  bindings : ∀ id n, s'.binding? id n = if id = owner ∧ n = name then some b else s.binding? id n
  parents : ∀ i : Nat, (s'.scopes[i]?).map Scope.parent = (s.scopes[i]?).map Scope.parent
  objects : s'.objects = s.objects
  minted : s'.minted = s.minted

theorem rebinds_bindIn (s : Store) {owner : ScopeId} (present : owner.index < s.scopes.size)
    (name : String) (b : Binding) : s.Rebinds (s.bindIn owner name b) owner name b where
  bindings id n := by
    unfold binding? bindIn
    simp only [Array.getElem?_modify]
    split
    · next same =>
      obtain rfl : id = owner := congrArg ScopeId.mk same.symm
      simp [Array.getElem?_eq_getElem present, Table.get?_insert]
    · next different =>
      have elsewhere : id ≠ owner := fun same => different (same ▸ rfl)
      simp [elsewhere]
  parents i := by
    unfold bindIn
    simp only [Array.getElem?_modify]
    split
    · cases s.scopes[i]? <;> rfl
    · rfl
  objects := rfl
  minted := rfl

/-- A new scope is younger than its parent. -/
theorem ParentsOlder.addScope {s : Store} (older : s.ParentsOlder) {parent : ScopeId}
    (present : parent.index < s.scopes.size) (bindings : Table Binding) :
    (s.addScope (some parent) bindings).2.ParentsOlder := by
  intro id outer scope here up
  simp only [Store.addScope, Array.getElem?_push] at here
  split at here
  · next last =>
    obtain rfl := Option.some.inj here
    obtain rfl := Option.some.inj up
    exact last ▸ present
  · exact older id outer scope here up

namespace Rebinds

variable {s s' : Store} {owner : ScopeId} {name : String} {b : Binding}

/-- Chains depend on parents alone. -/
theorem chain_eq (h : s.Rebinds s' owner name b) (id : ScopeId) : s'.chain id = s.chain id := by
  have same := h.parents id.index
  rw [chain, chain]
  cases here : s.scopes[id.index]? with
  | none =>
    rw [here, Option.map_none, Option.map_eq_none_iff] at same
    rw [same]
  | some scope =>
    rw [here, Option.map_some, Option.map_eq_some_iff] at same
    obtain ⟨scope', here', up⟩ := same
    rw [here']
    dsimp only
    rw [up]
    cases scope.parent with
    | none => rfl
    | some parent =>
      dsimp only
      split
      · rw [h.chain_eq parent]
      · rfl
termination_by id.index

theorem parentsOlder (h : s.Rebinds s' owner name b) (older : s.ParentsOlder) :
    s'.ParentsOlder := by
  intro id parent scope' here' up
  have same := h.parents id.index
  rw [here', Option.map_some, eq_comm, Option.map_eq_some_iff] at same
  obtain ⟨scope, here, up'⟩ := same
  exact older id parent scope here (up'.trans up)

theorem binds_eq (h : s.Rebinds s' owner name b) (id : ScopeId) (n : String) :
    s'.binds id n = (decide (id = owner ∧ n = name) || s.binds id n) := by
  rw [binds, binds, h.bindings]
  split <;> simp_all

/-- Names other than the one bound stand for what they stood for. -/
theorem lookup_of_ne (h : s.Rebinds s' owner name b) (id : ScopeId) {n : String}
    (other : n ≠ name) : s'.lookup id n = s.lookup id n := by
  have binds (scope : ScopeId) : s'.binds scope n = s.binds scope n := by simp [h.binds_eq, other]
  have bindings (scope : ScopeId) : s'.binding? scope n = s.binding? scope n := by
    simp [h.bindings, other]
  simp only [lookup, resolve, h.chain_eq, binds, bindings]

/-- Where a bound name is bound anew, it stands for the new value in every scope from which it
resolves to the same place, and for what it stood for in all others. -/
theorem lookup_of_bound (h : s.Rebinds s' owner name b) (bound : s.binds owner name = true)
    (id : ScopeId) :
    s'.lookup id name =
      if s.resolve id name = some owner then .ok b.value else s.lookup id name := by
  have binds (scope : ScopeId) : s'.binds scope name = s.binds scope name := by
    by_cases here : scope = owner
    · simp [h.binds_eq, here, bound]
    · simp [h.binds_eq, here]
  have resolves : s'.resolve id name = s.resolve id name := by
    simp only [resolve, h.chain_eq, binds]
  rw [lookup, lookup, resolves]
  cases s.resolve id name with
  | none => rfl
  | some found =>
    by_cases here : found = owner
    · simp [h.bindings, here]
    · simp [h.bindings, here]

/-- A scope that binds a name for the first time is found from every scope on whose chain no scope
before it binds the name. -/
theorem lookup_of_foremost (h : s.Rebinds s' owner name b) {id : ScopeId}
    (foremost : s.Foremost id owner name) : s'.lookup id name = .ok b.value := by
  obtain ⟨before, after, chain, free⟩ := foremost
  have here : s'.binds owner name = true := by simp [h.binds_eq]
  have resolved : s'.resolve id name = some owner := by
    rw [resolve, h.chain_eq, chain, List.find?_append,
      List.find?_cons_of_pos (p := fun scope => s'.binds scope name) here]
    cases nearer : before.find? fun scope => s'.binds scope name with
    | none => rfl
    | some scope =>
      -- Nothing before it binds the name but perhaps the same scope once more.
      have binds := List.find?_some nearer
      have unbound := free scope (List.mem_of_find?_eq_some nearer)
      obtain rfl : scope = owner := by simpa [h.binds_eq, unbound] using binds
      rfl
  exact lookup_of_resolve resolved (by simp [h.bindings])

/-- From every other scope the name stands for what it stood for. -/
theorem lookup_of_not_foremost (h : s.Rebinds s' owner name b)
    (unbound : s.binds owner name = false) {id : ScopeId} (hidden : ¬s.Foremost id owner name) :
    s'.lookup id name = s.lookup id name := by
  -- Before the scope on the chain there is one that binds the name, or it is not on the chain.
  have elsewhere {found : ScopeId} (binds : s.binds found name = true) : found ≠ owner := by
    rintro rfl
    cases binds.symm.trans unbound
  have passed {before after : List ScopeId} (chain : s.chain id = before ++ after)
      (free : ∀ scope ∈ before, s.binds scope name = false) : owner ∉ before := by
    intro member
    obtain ⟨front, back, rfl⟩ := List.append_of_mem member
    refine hidden ⟨front, back ++ after, by simp [chain], fun scope inFront => free scope ?_⟩
    exact List.mem_append_left _ inFront
  have still {scope : ScopeId} (other : scope ≠ owner) :
      s'.binds scope name = s.binds scope name := by simp [h.binds_eq, other]
  cases found : s.resolve id name with
  | none =>
    have free := resolve_eq_none_iff.1 found
    have away := passed (List.append_nil _).symm free
    rw [lookup_of_unresolved found]
    refine lookup_of_unresolved (resolve_eq_none_iff.2 fun scope member => ?_)
    rw [h.chain_eq] at member
    rw [still fun same => away (same ▸ member), free scope member]
  | some nearest =>
    obtain ⟨binds, before, after, chain, free⟩ := resolve_eq_some_iff.1 found
    have away := passed chain free
    obtain ⟨old, bound⟩ := exists_binding_of_resolve found
    rw [lookup_of_resolve found bound]
    have again : s'.resolve id name = some nearest := by
      refine resolve_eq_some_iff.2 ⟨?_, before, after, ?_, fun scope member => ?_⟩
      · rw [still (elsewhere binds), binds]
      · rw [h.chain_eq, chain]
      · rw [still fun same => away (same ▸ member), free scope member]
    refine lookup_of_resolve again ?_
    simp [h.bindings, elsewhere binds, bound]

end Rebinds

end Store

/-! ## Assignments and declarations -/

namespace Action

/-- What binds a name does it where its place says, or does nothing. -/
theorem bindIn_eq (place : Store → Except EvalFault ScopeId) (name : String) (b : Binding)
    (e : Event) (st : State) :
    bindIn place name b e st =
      match place st.store with
      | .error fault => (.error ⟨fault, Span.nowhere⟩, st)
      | .ok owner =>
        (.ok b.value,
          { st with store := st.store.bindIn owner name b, journal := e :: st.journal }) := by
  unfold bindIn
  cases place st.store <;> rfl

end Action

namespace State

/-- A state whose scopes are all made from a first one, which lies in no other, by adding scopes in
scopes, by declaring and by assigning, whether that succeeds or not. -/
inductive HasTree : State → Prop
  | root (st : State) (bindings : Table Binding) :
      st.store.scopes = #[⟨none, bindings⟩] → HasTree st
  | child {st : State} {scope : ScopeId} :
      HasTree st → ¬st.Fresh scope → HasTree (Action.newScope scope st).2
  | declare {st : State} {scope : ScopeId} (name : String) (value : Value) (constant : Bool) :
      HasTree st → ¬st.Fresh scope → HasTree (Action.declare scope name value constant st).2
  | assign {st : State} {scope : ScopeId} (name : String) (value : Value) :
      HasTree st → ¬st.Fresh scope → HasTree (Action.assign scope name value st).2

/-- What a look-up in a scope of a state yields. -/
structure LookupLaw (st : State) (t : ScopeId) (m : String) : Prop where
  found : ∀ v, st.store.lookup t m = .ok v ↔
    ∃ owner b, st.store.Foremost t owner m ∧ st.store.binding? owner m = some b ∧ b.value = v
  missing : ∀ fault, st.store.lookup t m = .error fault ↔
    fault = .undefinedVariable m ∧ ∀ owner ∈ st.store.chain t, st.store.binds owner m = false

/-- What an assignment in the scope `s` does. -/
structure AssignLaw (st : State) (s : ScopeId) (n : String) (v : Value)
    (run : Except EvalError Value × State) : Prop where
  fails : (∃ e, run.1 = .error e) ↔
    st.store.resolve s n = none ∨
      ∃ owner, st.store.resolve s n = some owner ∧ st.store.isConstant owner n = true
  kept : ∀ e, run.1 = .error e → run.2 = st
  yields : ∀ w, run.1 = .ok w → w = v
  rebinds : ∀ w, run.1 = .ok w → ∃ owner, st.store.resolve s n = some owner ∧
    st.store.Rebinds run.2.store owner n ⟨v, false⟩
  lookup : ∀ w, run.1 = .ok w → ∀ t m, run.2.store.lookup t m =
    if m = n ∧ st.store.resolve t n = st.store.resolve s n then .ok v else st.store.lookup t m

/-- What a declaration in the scope `s` does. -/
structure DeclareLaw (st : State) (s : ScopeId) (n : String) (v : Value) (constant : Bool)
    (run : Except EvalError Value × State) : Prop where
  fails : (∃ e, run.1 = .error e) ↔ st.store.binds s n = true
  kept : ∀ e, run.1 = .error e → run.2 = st
  yields : ∀ w, run.1 = .ok w → w = v
  rebinds : ∀ w, run.1 = .ok w → st.store.Rebinds run.2.store s n ⟨v, constant⟩
  seen : ∀ w, run.1 = .ok w → ∀ t, st.store.Foremost t s n → run.2.store.lookup t n = .ok v
  unseen : ∀ w, run.1 = .ok w → ∀ t m, ¬(m = n ∧ st.store.Foremost t s n) →
    run.2.store.lookup t m = st.store.lookup t m

/-- The laws of names on the chains of scopes, in one state. -/
structure ScopeLaws (st : State) : Prop where
  constants : ∀ id n, st.store.isConstant id n = true → n ∈ st.store.names id
  chains : ∀ t, ¬st.Fresh t → st.store.Ancestry t (st.store.chain t)
  lookup : ∀ t m, ¬st.Fresh t → st.LookupLaw t m
  assign : ∀ s n v, ¬st.Fresh s → st.AssignLaw s n v (Action.assign s n v st)
  declare : ∀ s n v constant, ¬st.Fresh s →
    st.DeclareLaw s n v constant (Action.declare s n v constant st)

variable {st : State} {s : ScopeId}

theorem lookupLaw (st : State) (t : ScopeId) (m : String) : st.LookupLaw t m :=
  ⟨fun _ => Store.lookup_eq_ok_iff, fun _ => Store.lookup_eq_error_iff⟩

/-- An assignment either is refused or binds the name anew where it is bound. -/
theorem assignLaw (st : State) (s : ScopeId) (n : String) (v : Value) :
    st.AssignLaw s n v (Action.assign s n v st) := by
  rw [Action.assign, Action.bindIn_eq]
  cases place : st.store.assigningScope s n with
  | error fault =>
    have refused := Store.assigningScope_eq_error place
    exact ⟨by simp [refused], by simp, nofun, nofun, nofun⟩
  | ok owner =>
    obtain ⟨resolved, changeable⟩ := Store.assigningScope_eq_ok.1 place
    have bound := Store.binds_of_resolve resolved
    have rebinds : st.store.Rebinds (st.store.bindIn owner n ⟨v, false⟩) owner n ⟨v, false⟩ :=
      st.store.rebinds_bindIn (Store.lt_size_of_binds bound) n ⟨v, false⟩
    refine ⟨?_, nofun, ?_, ?_, ?_⟩
    · simp [resolved, changeable]
    · rintro w ⟨⟩
      rfl
    · exact fun w _ => ⟨owner, resolved, rebinds⟩
    · intro w _ t m
      by_cases same : m = n
      · subst same
        rw [rebinds.lookup_of_bound bound, resolved]
        simp
      · rw [rebinds.lookup_of_ne t same, if_neg fun both => same both.1]

theorem declareLaw (present : ¬st.Fresh s) (n : String) (v : Value) (constant : Bool) :
    st.DeclareLaw s n v constant (Action.declare s n v constant st) := by
  rw [Action.declare, Action.bindIn_eq]
  cases place : st.store.declaringScope s n with
  | error fault =>
    have bound := Store.declaringScope_eq_error place
    exact ⟨by simp [bound], by simp, nofun, nofun, nofun, nofun⟩
  | ok owner =>
    obtain ⟨rfl, unbound⟩ := Store.declaringScope_eq_ok.1 place
    have rebinds := st.store.rebinds_bindIn (Nat.lt_of_not_le present) n ⟨v, constant⟩
    refine ⟨by simp [unbound], nofun, ?_, fun _ _ => rebinds, ?_, ?_⟩
    · rintro w ⟨⟩
      rfl
    · exact fun _ _ t => rebinds.lookup_of_foremost
    · intro _ _ t m hidden
      by_cases same : m = n
      · subst same
        exact rebinds.lookup_of_not_foremost unbound fun foremost => hidden ⟨rfl, foremost⟩
      · exact rebinds.lookup_of_ne t same

namespace HasTree

/-- In a tree of scopes parents are older. -/
theorem parentsOlder (h : st.HasTree) : st.store.ParentsOlder := by
  induction h with
  | root st bindings only =>
    intro id parent scope here up
    -- The only scope has no parent.
    rw [only] at here
    have first : scope = ⟨none, bindings⟩ := by
      obtain ⟨_, same⟩ := Array.getElem?_eq_some_iff.1 here
      simpa using same.symm
    rw [first] at up
    cases up
  | child _ present ih => exact ih.addScope (Nat.lt_of_not_le present) .empty
  | @declare st scope name value constant _ present ih =>
    have law := declareLaw present name value constant
    cases run : (Action.declare scope name value constant st).1 with
    | error e => rwa [law.kept e run]
    | ok w => exact (law.rebinds w run).parentsOlder ih
  | @assign st scope name value _ _ ih =>
    have law := assignLaw st scope name value
    cases run : (Action.assign scope name value st).1 with
    | error e => rwa [law.kept e run]
    | ok w =>
      obtain ⟨owner, -, rebinds⟩ := law.rebinds w run
      exact rebinds.parentsOlder ih

end HasTree

end State

/-- The laws of names, in every state whose scopes form a tree, for all scopes and names at once.
The constants of a scope are among its names, and its chain is finite: it goes from parent to parent
and ends at a scope that has none. A look-up yields what the first scope of the chain that binds the
name gives it, and fails if none does. An assignment fails if the name is not bound on the chain or
is a constant where it is bound first; otherwise it changes that one binding, and the name stands
for the new value just where it resolves to the same scope. A declaration fails if the scope itself
binds the name; otherwise it makes that one binding, and the name stands for the new value just
where the chain comes to the scope before any other one that binds the name. What fails changes
nothing. -/
theorem State.HasTree.scopeLaws {st : State} (h : st.HasTree) : st.ScopeLaws where
  constants _ _ := Store.mem_names_of_isConstant
  chains t present := Store.ancestry_chain h.parentsOlder t (Nat.lt_of_not_le present)
  lookup t m _ := lookupLaw st t m
  assign s n v _ := assignLaw st s n v
  declare _ n v constant present := declareLaw present n v constant

/-- A constant that a variable hides in an inner scope. Two scopes further in, an assignment goes to
the variable, and where the constant is in sight nothing can be assigned. -/
theorem State.HasTree.scopeLaws_hidden_constant :
    let constants : Table Binding := Table.empty.insert "y" ⟨.null, true⟩
    let root : State := { State.initial with store := ⟨#[⟨none, constants⟩], #[], 0⟩ }
    let inside := (Action.declare ⟨1⟩ "y" (.bool false) false (Action.newScope ⟨0⟩ root).2).2
    let st := (Action.newScope ⟨1⟩ inside).2
    let after := (Action.assign ⟨2⟩ "y" (.bool true) st).2
    st.HasTree ∧ st.ScopeLaws ∧ (Action.assign ⟨0⟩ "y" .null st).2 = st ∧
      after.store.lookup ⟨1⟩ "y" = .ok (.bool true) ∧
      after.store.lookup ⟨0⟩ "y" = st.store.lookup ⟨0⟩ "y" := by
  intro constants root inside st after
  have tree : st.HasTree :=
    .child (.declare _ _ _ (.child (.root root constants rfl) (Nat.not_le.2 (by decide)))
      (Nat.not_le.2 (by decide))) (Nat.not_le.2 (by decide))
  have laws := tree.scopeLaws
  have here : st.store.resolve ⟨2⟩ "y" = some ⟨1⟩ := by decide +kernel
  have inner : st.store.resolve ⟨1⟩ "y" = some ⟨1⟩ := by decide +kernel
  have outer : st.store.resolve ⟨0⟩ "y" = some ⟨0⟩ := by decide +kernel
  have refused := laws.assign ⟨0⟩ "y" .null (Nat.not_le.2 (by decide))
  have assigned := laws.assign ⟨2⟩ "y" (.bool true) (Nat.not_le.2 (by decide))
  obtain ⟨e, failed⟩ := refused.fails.2 (.inr ⟨⟨0⟩, outer, by decide⟩)
  cases run : (Action.assign ⟨2⟩ "y" (.bool true) st).1 with
  | error e =>
    rcases assigned.fails.1 ⟨e, run⟩ with unbound | ⟨owner, resolved, constant⟩
    · cases here.symm.trans unbound
    · cases here.symm.trans resolved
      exact absurd constant (by decide)
  | ok w =>
    refine ⟨tree, laws, refused.kept e failed, ?_, ?_⟩
    · rw [assigned.lookup w run, if_pos ⟨rfl, inner.trans here.symm⟩]
    · rw [assigned.lookup w run, if_neg]
      rw [outer, here]
      decide

end SloScript
