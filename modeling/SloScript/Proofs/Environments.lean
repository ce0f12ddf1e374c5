import Mathlib.Data.Finset.Dedup
import Mathlib.Data.Finset.Filter
import Mathlib.Data.Finset.Insert
import SloScript.Proofs.Mirror
import SloScript.Proofs.ScopeChain

/-!
# Scopes in two containers

A scope can be kept in two containers: a table of what its names stand for, and beside it the set of
those names that are constants. A declaration writes to both, an assignment to the table alone, and
nothing but the care of these operations keeps the set within the table. Here scopes are kept in
that way and have their operations written for it, with a search that walks from parent to parent.

A store keeps one table, in which each value has its mark. `Scope.split` takes such a scope apart,
and this commutes with every operation: a name resolves to the same place, a look-up yields the
same, and a declaration or an assignment is refused for the same fault or leads to the store taken
apart. So the two ways to keep scopes give the same answers, whatever is done.

Results:
1. `Store.resolve_environments`, `Store.lookup_environments`: what is read is the same.
2. `ScopeCommand.environments_obey`: what is done comes to the same.
3. `ScopeCommand.environments_obeyAll`: so does any sequence of commands.
4. `Environments.constants_bound`: whatever is done, the constants of a scope are among its names.
-/

namespace SloScript

/-- A scope in two containers: what its names stand for, and which of them are constants. -/
structure Environment where
  parent : Option ScopeId
  values : Table Value
  constants : Finset String

/-- A scope without a parent whose only names are the given constants. -/
def Environment.root (values : Table Value) : Environment := ⟨none, values, values.keys.toFinset⟩

/-- All scopes, in the order in which they were made. -/
abbrev Environments := Array Environment

namespace Environments

/-- What a name stands for in one scope, its ancestors left aside. -/
def value? (envs : Environments) (id : ScopeId) (name : String) : Option Value :=
  (envs[id.index]?).bind fun env => env.values.get? name

/-- Whether a scope itself binds a name as a constant. -/
def isConstant (envs : Environments) (id : ScopeId) (name : String) : Bool :=
  (envs[id.index]?).any fun env => decide (name ∈ env.constants)

/-- The names that a scope itself binds, in increasing order. -/
def names (envs : Environments) (id : ScopeId) : List String :=
  match envs[id.index]? with
  | none => []
  | some env => env.values.keys

/-- The nearest scope that binds a name, from the given one outward. -/
def resolve (envs : Environments) (id : ScopeId) (name : String) : Option ScopeId :=
  match envs[id.index]? with
  | none => none
  | some env =>
    if (env.values.get? name).isSome then some id
    else
      match env.parent with
      | none => none
      | some parent => if parent.index < id.index then resolve envs parent name else none
termination_by id.index

/-- The value of a name. -/
def lookup (envs : Environments) (id : ScopeId) (name : String) : Except EvalFault Value :=
  match (envs.resolve id name).bind fun owner => envs.value? owner name with
  | some v => .ok v
  | none => .error (.undefinedVariable name)

/-- Binds a name in a scope that does not bind it yet. -/
def declare (envs : Environments) (id : ScopeId) (name : String) (value : Value)
    (constant : Bool) : Except EvalFault Value × Environments :=
  if (envs.value? id name).isSome then (.error (.alreadyDeclared name), envs)
  else
    (.ok value, envs.modify id.index fun env =>
      { env with
        values := env.values.insert name value
        constants := if constant then insert name env.constants else env.constants })

/-- Gives a name a new value in the nearest scope that binds it, unless it is a constant there. -/
def assign (envs : Environments) (id : ScopeId) (name : String) (value : Value) :
    Except EvalFault Value × Environments :=
  match envs.resolve id name with
  | none => (.error (.undefinedVariable name), envs)
  | some owner =>
    if envs.isConstant owner name then (.error (.constantAssignment name), envs)
    else
      (.ok value, envs.modify owner.index fun env =>
        { env with values := env.values.insert name value })

/-- Adds an empty scope with the given parent. -/
def child (envs : Environments) (parent : ScopeId) : ScopeId × Environments :=
  (⟨envs.size⟩, envs.push ⟨some parent, .empty, ∅⟩)

end Environments

/-! ## Taking scopes apart -/

namespace Scope

/-- A scope with the marks of its values taken off and collected. -/
def split (s : Scope) : Environment where
  parent := s.parent
  values := s.bindings.map Binding.value
  constants := s.bindings.keys.toFinset.filter fun name =>
    (s.bindings.get? name).any Binding.constant

theorem get?_split (s : Scope) (name : String) :
    s.split.values.get? name = (s.bindings.get? name).map Binding.value :=
  Table.get?_map _ _ _

theorem mem_constants_split {s : Scope} {name : String} :
    name ∈ s.split.constants ↔ (s.bindings.get? name).any Binding.constant = true := by
  rw [split, Finset.mem_filter, List.mem_toFinset]
  refine and_iff_right_of_imp fun constant => Entries.mem_keys_iff.2 ?_
  show (s.bindings.get? name).isSome = true
  cases found : s.bindings.get? name with
  | none => simp [found] at constant
  | some b => rfl

theorem keys_split (s : Scope) : s.split.values.keys = s.bindings.keys :=
  List.map_map

/-- Where a name is no constant, binding it writes to the table, and to the set if it becomes
one. -/
theorem split_insert {s : Scope} {name : String}
    (free : (s.bindings.get? name).any Binding.constant = false) (b : Binding) :
    split { s with bindings := s.bindings.insert name b } =
      { s.split with
        values := s.split.values.insert name b.value
        constants := if b.constant then insert name s.split.constants else s.split.constants } := by
  have values : (s.bindings.insert name b).map Binding.value =
      (s.bindings.map Binding.value).insert name b.value := by
    refine Table.ext_get? fun key => ?_
    rw [Table.get?_map, Table.get?_insert, Table.get?_insert, Table.get?_map]
    split <;> rfl
  have constants (key : String) :
      key ∈ (split { s with bindings := s.bindings.insert name b }).constants ↔
        key ∈ if b.constant then insert name s.split.constants else s.split.constants := ?_
  · exact Environment.mk.injEq .. ▸ ⟨rfl, values, Finset.ext constants⟩
  rw [mem_constants_split, Table.get?_insert]
  by_cases here : key = name
  · subst here
    have absent : key ∉ s.split.constants := by simp [mem_constants_split, free]
    cases constant : b.constant <;> simp [absent, constant]
  · rw [if_neg here, ← mem_constants_split]
    cases b.constant <;> simp [here]

/-- A scope of constants taken apart. -/
theorem split_root (values : Table Value) :
    split ⟨none, values.map fun v => ⟨v, true⟩⟩ = .root values := by
  have bare : (values.map fun v => (⟨v, true⟩ : Binding)).map Binding.value = values := by
    refine Table.ext_get? fun key => ?_
    rw [Table.get?_map, Table.get?_map, Option.map_map]
    exact Option.map_id'
  have constants (key : String) :
      key ∈ (split ⟨none, values.map fun v => ⟨v, true⟩⟩).constants ↔
        key ∈ values.keys.toFinset := by
    rw [mem_constants_split, Table.get?_map, Option.any_map, List.mem_toFinset]
    refine Iff.trans ?_ Entries.mem_keys_iff.symm
    show (values.get? key).any (fun _ => true) = true ↔ (values.get? key).isSome = true
    cases values.get? key <;> simp
  exact Environment.mk.injEq .. ▸ ⟨rfl, bare, Finset.ext constants⟩

end Scope

namespace Store

variable {s : Store} {id : ScopeId} {name : String}

/-- The scopes of a store, taken apart. -/
def environments (s : Store) : Environments := s.scopes.map Scope.split

theorem getElem?_environments (s : Store) (i : Nat) :
    s.environments[i]? = (s.scopes[i]?).map Scope.split :=
  Array.getElem?_map

/-! ## What is read -/

theorem value?_environments (s : Store) (id : ScopeId) (name : String) :
    s.environments.value? id name = (s.binding? id name).map Binding.value := by
  rw [Environments.value?, getElem?_environments, binding?]
  cases s.scopes[id.index]? with
  | none => rfl
  | some scope => exact scope.get?_split name

theorem isConstant_environments (s : Store) (id : ScopeId) (name : String) :
    s.environments.isConstant id name = s.isConstant id name := by
  rw [Environments.isConstant, getElem?_environments, isConstant, binding?]
  cases s.scopes[id.index]? with
  | none => rfl
  | some scope => simp [Scope.mem_constants_split]

theorem names_environments (s : Store) (id : ScopeId) :
    s.environments.names id = s.names id := by
  rw [Environments.names, getElem?_environments, names]
  cases s.scopes[id.index]? with
  | none => rfl
  | some scope => exact scope.keys_split

/-- A walk from parent to parent finds the first scope of the chain that binds the name. -/
theorem resolve_environments (s : Store) (id : ScopeId) (name : String) :
    s.environments.resolve id name = s.resolve id name := by
  rw [Environments.resolve, getElem?_environments, resolve, chain]
  cases present : s.scopes[id.index]? with
  | none => rfl
  | some scope =>
    have bound : (scope.split.values.get? name).isSome = s.binds id name := by
      rw [scope.get?_split, binds, binding?, present, Option.isSome_map]
      rfl
    simp only [Option.map_some, bound]
    cases here : s.binds id name with
    | true => simp [here]
    | false =>
      simp only [Bool.false_eq_true, if_false, List.find?_cons, here, Scope.split]
      cases scope.parent with
      | none => rfl
      | some parent =>
        dsimp only
        split
        · rw [resolve_environments s parent name, resolve]
        · rfl
termination_by id.index

theorem lookup_environments (s : Store) (id : ScopeId) (name : String) :
    s.environments.lookup id name = s.lookup id name := by
  rw [Environments.lookup, resolve_environments, lookup]
  cases s.resolve id name with
  | none => rfl
  | some owner =>
    rw [Option.bind_some, Option.bind_some, value?_environments]
    cases s.binding? owner name <;> rfl

/-! ## What is done -/

/-- Binding a name that is no constant comes to the same in a store taken apart. -/
theorem environments_bindIn (free : s.isConstant id name = false) (b : Binding) :
    (s.bindIn id name b).environments = s.environments.modify id.index fun env =>
      { env with
        values := env.values.insert name b.value
        constants := if b.constant then insert name env.constants else env.constants } := by
  refine Array.ext_getElem? fun i => ?_
  rw [Array.getElem?_modify, getElem?_environments, getElem?_environments, bindIn,
    Array.getElem?_modify]
  split
  · next here =>
    subst here
    rw [isConstant, binding?] at free
    cases present : s.scopes[id.index]? with
    | none => rfl
    | some scope =>
      rw [present, Option.bind_some] at free
      exact congrArg some (Scope.split_insert free b)
  · rfl

theorem environments_addScope (s : Store) (parent : ScopeId) :
    (s.addScope (some parent) .empty).2.environments =
      (s.environments.child parent).2 := by
  have empty : Scope.split ⟨some parent, .empty⟩ = ⟨some parent, .empty, ∅⟩ := rfl
  rw [environments, addScope, Array.map_push, empty]
  rfl

end Store

/-- What can be asked of scopes. -/
inductive ScopeCommand where
  | child (parent : ScopeId)
  | declare (scope : ScopeId) (name : String) (value : Value) (constant : Bool)
  | assign (scope : ScopeId) (name : String) (value : Value)
  | lookup (scope : ScopeId) (name : String)

/-- What is answered: a scope or a value, or why not. -/
abbrev ScopeAnswer := Except EvalFault (ScopeId ⊕ Value)

namespace ScopeCommand

/-- Carries out a command on scopes in two containers. -/
def obey : ScopeCommand → Environments → ScopeAnswer × Environments
  | .child parent, envs =>
    let (id, envs) := envs.child parent
    (.ok (.inl id), envs)
  | .declare scope name value constant, envs =>
    let (result, envs) := envs.declare scope name value constant
    (result.map .inr, envs)
  | .assign scope name value, envs =>
    let (result, envs) := envs.assign scope name value
    (result.map .inr, envs)
  | .lookup scope name, envs => ((envs.lookup scope name).map .inr, envs)

/-- Carries out commands one after the other. -/
def obeyAll : List ScopeCommand → Environments → List ScopeAnswer × Environments
  | [], envs => ([], envs)
  | command :: commands, envs =>
    let (answer, envs) := command.obey envs
    let (answers, envs) := obeyAll commands envs
    (answer :: answers, envs)

/-- The action of a program that does the same. -/
def action : ScopeCommand → Action (ScopeId ⊕ Value)
  | .child parent => do return .inl (← Action.newScope parent)
  | .declare scope name value constant => do
    return .inr (← Action.declare scope name value constant)
  | .assign scope name value => do return .inr (← Action.assign scope name value)
  | .lookup scope name => do return .inr (← Action.lookup scope name)

/-- Takes the actions of commands one after the other, whether they succeed or not. -/
def actAll : List ScopeCommand → State → List ScopeAnswer × State
  | [], st => ([], st)
  | command :: commands, st =>
    let (result, st) := command.action st
    let (answers, st) := actAll commands st
    (result.mapError Located.cause :: answers, st)

/-- A command comes to the same in both ways to keep scopes: the answer is the same, and the scopes
are those of the store that the action leads to, taken apart. -/
theorem environments_obey (command : ScopeCommand) (st : State) :
    command.obey st.store.environments =
      ((command.action st).1.mapError Located.cause,
        (command.action st).2.store.environments) := by
  cases command with
  | child parent =>
    have size : st.store.environments.size = st.store.scopes.size := Array.size_map
    simp only [obey, action, Action.bind_run, Action.newScope, Action.change]
    rw [← st.store.environments_addScope parent, Environments.child, size]
    rfl
  | declare scope name value constant =>
    simp only [obey, action, Action.bind_run, Action.declare, Action.bindIn_eq,
      Store.declaringScope, Environments.declare, Store.value?_environments, Option.isSome_map]
    rw [← Store.binds]
    cases bound : st.store.binds scope name with
    | true => rfl
    | false =>
      have unbound : st.store.binding? scope name = none := by simpa [Store.binds] using bound
      have free : st.store.isConstant scope name = false := by
        rw [Store.isConstant, unbound]
        rfl
      simp only [Bool.false_eq_true, if_false]
      rw [← Store.environments_bindIn free ⟨value, constant⟩]
      rfl
  | assign scope name value =>
    simp only [obey, action, Action.bind_run, Action.assign, Action.bindIn_eq,
      Store.assigningScope, Environments.assign, Store.resolve_environments]
    cases st.store.resolve scope name with
    | none => rfl
    | some owner =>
      simp only [Store.isConstant_environments]
      cases free : st.store.isConstant owner name with
      | true => rfl
      | false =>
        have written := Store.environments_bindIn free ⟨value, false⟩
        simp only [Bool.false_eq_true, if_false] at written ⊢
        rw [← written]
        rfl
  | lookup scope name =>
    simp only [obey, action, Action.bind_run, Action.lookup, Store.lookup_environments]
    cases st.store.lookup scope name <;> rfl

/-- Commands get the same answers in both ways to keep scopes. -/
theorem environments_obeyAll (commands : List ScopeCommand) (st : State) :
    obeyAll commands st.store.environments =
      ((actAll commands st).1, (actAll commands st).2.store.environments) := by
  induction commands generalizing st with
  | nil => rfl
  | cons command commands ih =>
    rw [obeyAll, environments_obey]
    dsimp only
    rw [ih]
    rfl

end ScopeCommand

/-- Whatever is done with scopes that all come from one scope of constants, and whether it succeeds
or not, the constants of a scope are among its names. -/
theorem Environments.constants_bound (values : Table Value) (commands : List ScopeCommand) :
    let (_, after) := ScopeCommand.obeyAll commands #[.root values]
    ∀ id name, after.isConstant id name = true → name ∈ after.names id := by
  let first : Scope := ⟨none, values.map fun v => ⟨v, true⟩⟩
  let start : State := { State.initial with store := { Store.empty with scopes := #[first] } }
  have apart : start.store.environments = #[.root values] := by
    show #[first].map Scope.split = _
    rw [Array.map_singleton, Scope.split_root]
  have same := ScopeCommand.environments_obeyAll commands start
  rw [apart] at same
  rw [same]
  intro id name constant
  rw [Store.isConstant_environments] at constant
  rw [Store.names_environments]
  exact Store.mem_names_of_isConstant constant

end SloScript
