import SloScript.Proofs.Origins
import SloScript.Proofs.ScopeChain

/-!
# Installing the prelude

The prelude comes into a scope on one of two ways. A new scope is made with it: its names and values
are collected in a table, in which a name that occurred twice would silently keep its last value. An
existing scope gets it by one declaration after the other, each of which may be refused; so all the
names are looked up beforehand, and if the scope binds one of them nothing is declared at all. That
this is enough rests on two facts. The look-up asks just what a declaration asks, whether the scope
itself binds the name and nothing further out. And the names of the prelude differ from each other,
so that no declaration stands in the way of a later one.

Results:
1. `declareAll_installs`: names that differ and are free are all declared, and nothing else changes.
2. `install_refused`, `install_installs`: the two ends that an installation can come to.
3. `seed_fills`, `Installs.fills`: a new scope and an empty one come to hold the prelude alone.
4. `install_all_or_nothing`: all of it together, and that both ways lead to the same scope.
-/

namespace SloScript

namespace Store

/-- In `s'` the scope `owner` binds the names of the entries as constants. Every other binding is as
in `s`, and so are the parents of the scopes and the objects. -/
structure Adds (s s' : Store) (owner : ScopeId) (entries : List (String × Value)) : Prop where
  added : ∀ name value, (name, value) ∈ entries → s'.binding? owner name = some ⟨value, true⟩
  kept : ∀ id name, (id = owner → name ∉ entries.map Prod.fst) →
    s'.binding? id name = s.binding? id name
  parents : ∀ i : Nat, (s'.scopes[i]?).map Scope.parent = (s.scopes[i]?).map Scope.parent
  objects : s'.objects = s.objects

namespace Adds

variable {s s' s'' : Store} {owner : ScopeId}

theorem nil (s : Store) (owner : ScopeId) : s.Adds s owner [] :=
  ⟨nofun, fun _ _ _ => rfl, fun _ => rfl, rfl⟩

/-- A name that is not among the later ones stands for its value in the end. -/
theorem cons {name : String} {value : Value} {rest : List (String × Value)}
    (first : s.Rebinds s' owner name ⟨value, true⟩) (later : s'.Adds s'' owner rest)
    (distinct : name ∉ rest.map Prod.fst) : s.Adds s'' owner ((name, value) :: rest) where
  added n v member := by
    rcases List.mem_cons.1 member with same | inRest
    · cases same
      rw [later.kept owner name fun _ => distinct, first.bindings, if_pos ⟨rfl, rfl⟩]
    · exact later.added n v inRest
  kept id n other := by
    have apart : ¬(id = owner ∧ n = name) := by
      rintro ⟨here, rfl⟩
      exact other here List.mem_cons_self
    rw [later.kept id n fun here => mt (List.mem_cons_of_mem _) (other here), first.bindings,
      if_neg apart]
  parents i := (later.parents i).trans (first.parents i)
  objects := later.objects.trans first.objects

theorem binds_eq_false {entries : List (String × Value)} (h : s.Adds s' owner entries)
    {name : String} (absent : name ∉ entries.map Prod.fst) (free : s.binds owner name = false) :
    s'.binds owner name = false := by
  rw [binds, h.kept owner name fun _ => absent]
  exact free

end Adds

end Store

/-- Values that are told apart by nothing but the identity of a native. -/
inductive Value.Resembles : Value → Value → Prop
  | refl (v : Value) : Resembles v v
  | native {n n' : Native} : n'.name = n.name → n'.arity = n.arity → n'.behaviour = n.behaviour →
      Resembles (.native n) (.native n')

/-- Bindings of one sort to values that resemble each other. -/
structure Binding.Resembles (b b' : Binding) : Prop where
  value : b.value.Resembles b'.value
  constant : b'.constant = b.constant

namespace Prelude

/-! ## Names and values -/

theorem names_values (first : Nat) : (values first).map Prod.fst = names := by
  unfold values names
  rw [List.map_map, ← List.zipIdx_map_fst 0 entries, List.map_map]
  rfl

theorem names_nodup : names.Nodup := by decide

theorem mem_values {entry : String × (Nat → Value)} (member : entry ∈ entries) (first : Nat) :
    ∃ id, (entry.1, entry.2 id) ∈ values first := by
  obtain ⟨i, place⟩ := List.mem_iff_getElem?.1 member
  exact ⟨first + i, List.mem_map.2 ⟨(entry, i), List.mk_mem_zipIdx_iff_getElem?.2 place, rfl⟩⟩

/-- The identities that are given out show in the natives and nowhere else. -/
theorem resembles_of_mem {entry : String × (Nat → Value)} (member : entry ∈ entries) (i j : Nat) :
    (entry.2 i).Resembles (entry.2 j) := by
  have natives (b : Builtin) : ((native b).2 i).Resembles ((native b).2 j) := .native rfl rfl rfl
  have plain (v : Value) : v.Resembles v := .refl v
  revert entry
  simp only [entries, List.forall_mem_cons, List.not_mem_nil, false_implies, implies_true, and_true,
    natives, plain]

/-! ## Scopes that hold the prelude alone -/

/-- A scope binds the names of the prelude to its values as constants, and nothing else. The
identities of its natives were given out from `first` on. -/
def Fills (s : Store) (scope : ScopeId) (first : Nat) : Prop :=
  ∀ name b, s.binding? scope name = some b ↔ b.constant = true ∧ (name, b.value) ∈ values first

section

variable {s s' : Store} {scope scope' : ScopeId} {first first' : Nat}

theorem Fills.mem_names_iff (h : Fills s scope first) {name : String} :
    name ∈ s.names scope ↔ name ∈ names := by
  rw [Store.mem_names_iff, Store.binds, Option.isSome_iff_exists, ← names_values first]
  constructor
  · rintro ⟨b, bound⟩
    exact List.mem_map_of_mem ((h name b).1 bound).2
  · intro listed
    obtain ⟨⟨_, value⟩, member, rfl⟩ := List.mem_map.1 listed
    exact ⟨⟨value, true⟩, (h _ _).2 ⟨rfl, member⟩⟩

theorem Fills.names_eq (h : Fills s scope first) (h' : Fills s' scope' first') :
    s.names scope = s'.names scope' := by
  have sorted := s.names_sorted scope
  have sorted' := s'.names_sorted scope'
  have irrefl (a b : String) (less : a < b) : a ≠ b := by
    rintro rfl
    exact String.lt_irrefl a less
  have same : (s.names scope).Perm (s'.names scope') := by
    rw [List.perm_ext_iff_of_nodup (sorted.imp (irrefl _ _)) (sorted'.imp (irrefl _ _))]
    exact fun name => h.mem_names_iff.trans h'.mem_names_iff.symm
  exact same.eq_of_pairwise (fun a b _ _ less less' => absurd less' (String.lt_asymm less)) sorted
    sorted'

/-- Two scopes that hold the prelude alone bind the same names to values that resemble each
other. -/
theorem Fills.resembles (h : Fills s scope first) (h' : Fills s' scope' first') (name : String) :
    Option.Rel Binding.Resembles (s.binding? scope name) (s'.binding? scope' name) := by
  by_cases listed : name ∈ names
  · obtain ⟨entry, member, rfl⟩ := List.mem_map.1 listed
    obtain ⟨i, given⟩ := mem_values member first
    obtain ⟨j, given'⟩ := mem_values member first'
    rw [(h entry.1 ⟨entry.2 i, true⟩).2 ⟨rfl, given⟩,
      (h' entry.1 ⟨entry.2 j, true⟩).2 ⟨rfl, given'⟩]
    exact .some ⟨resembles_of_mem member i j, rfl⟩
  · have unbound := mt h.mem_names_iff.1 listed
    have unbound' := mt h'.mem_names_iff.1 listed
    rw [Store.mem_names_iff, Store.binds, Option.not_isSome_iff_eq_none] at unbound unbound'
    rw [unbound, unbound']
    exact .none

end

theorem seed_fills (s : Store) : Fills (seed s).2 (seed s).1 s.minted := by
  intro name b
  refine Iff.trans (Eq.congr_left (Store.binding?_addScope_self _ none _ name)) ?_
  refine (Table.get?_ofList_eq_some_iff ?_).trans (List.mem_map.trans ⟨?_, ?_⟩)
  · rw [List.map_map]
    exact names_values s.minted ▸ names_nodup
  · rintro ⟨entry, member, same⟩
    cases same
    exact ⟨rfl, member⟩
  · obtain ⟨value, constant⟩ := b
    rintro ⟨rfl, member⟩
    exact ⟨_, member, rfl⟩

/-- A scope that is made with the prelude binds its names to its values as constants. -/
theorem binding?_seed (s : Store) {entry : String × (Nat → Value)} (member : entry ∈ entries) :
    ∃ id, (seed s).2.binding? (seed s).1 entry.1 = some ⟨entry.2 id, true⟩ := by
  obtain ⟨id, given⟩ := mem_values member s.minted
  exact ⟨id, (seed_fills s _ _).2 ⟨rfl, given⟩⟩

/-! ## An existing scope -/

/-- Names were declared as constants of a scope without a refusal, and nothing else happened. -/
structure Installs (st : State) (scope : ScopeId) (entries : List (String × Value))
    (run : Except EvalError Unit × State) : Prop where
  done : run.1 = .ok ()
  adds : st.store.Adds run.2.store scope entries
  minted : run.2.store.minted = st.store.minted
  output : run.2.output = st.output
  requests : run.2.requests = st.requests

/-- A name that the scope itself does not bind can be declared there. -/
theorem declare_of_free {st : State} {scope : ScopeId} {name : String}
    (free : st.store.binds scope name = false) (value : Value) (constant : Bool) :
    Action.declare scope name value constant st =
      (.ok value, { st with
        store := st.store.bindIn scope name ⟨value, constant⟩
        journal := .declared name constant :: st.journal }) := by
  rw [Action.declare, Action.bindIn_eq, Store.declaringScope_eq_ok.2 ⟨rfl, free⟩]

/-- Names that differ and that the scope does not bind are all declared. -/
theorem declareAll_installs {scope : ScopeId} (entries : List (String × Value)) (st : State)
    (present : ¬st.Fresh scope) (distinct : (entries.map Prod.fst).Nodup)
    (free : ∀ name ∈ entries.map Prod.fst, st.store.binds scope name = false) :
    Installs st scope entries (declareAll scope entries st) := by
  induction entries generalizing st with
  | nil => exact ⟨rfl, .nil _ _, rfl, rfl, rfl⟩
  | cons entry rest ih =>
    obtain ⟨name, value⟩ := entry
    obtain ⟨freeHere, freeLater⟩ := List.forall_mem_cons.1 free
    obtain ⟨here, later⟩ := List.nodup_cons.1 distinct
    have inside : scope.index < st.store.scopes.size := Nat.lt_of_not_le present
    have rebinds := st.store.rebinds_bindIn inside name ⟨value, true⟩
    rw [declareAll, Action.bind_run, declare_of_free freeHere]
    have rest := ih { st with
        store := st.store.bindIn scope name ⟨value, true⟩
        journal := .declared name true :: st.journal } ?_ later fun n member => ?_
    · exact ⟨rest.done, .cons rebinds rest.adds here, rest.minted.trans rebinds.minted,
        rest.output, rest.requests⟩
    · simpa [State.Fresh, Store.bindIn] using present
    · have other : n ≠ name := fun same => here (same ▸ member)
      rw [rebinds.binds_eq]
      simp [other, freeLater n member]

/-- The state in which the identities for the prelude have been given out. -/
def prepared (st : State) : State := { st with store := (st.store.mint entries.length).2 }

/-- Giving out identities binds nothing, so what was free still is. -/
theorem binds_prepared {scope : ScopeId} {st : State}
    (free : names.find? (st.store.binds scope) = none) (first : Nat) :
    ∀ name ∈ (values first).map Prod.fst, (prepared st).store.binds scope name = false := by
  rw [names_values]
  intro name member
  exact Bool.eq_false_iff.2 (List.find?_eq_none.1 free name member)

/-- A scope that itself binds a name of the prelude is left alone, and the first such name is
reported. -/
theorem install_refused {scope : ScopeId} {st : State} {name : String}
    (taken : names.find? (st.store.binds scope) = some name) :
    install scope st = (.error ⟨.alreadyDeclared name, Span.nowhere⟩, st) := by
  rw [install, Action.bind_run, Action.read]
  simp only [taken]
  rfl

/-- Any other scope gets all names. -/
theorem install_installs {scope : ScopeId} {st : State} (present : ¬st.Fresh scope)
    (free : names.find? (st.store.binds scope) = none) :
    Installs (prepared st) scope (values st.store.minted) (install scope st) := by
  have distinct : ((values st.store.minted).map Prod.fst).Nodup :=
    names_values st.store.minted ▸ names_nodup
  have all := declareAll_installs _ (prepared st) present distinct (binds_prepared free _)
  have run : install scope st =
      (declareAll scope (values st.store.minted) >>= fun _ =>
        Action.record .preludeInstalled) (prepared st) := by
    rw [install, Action.bind_run, Action.read]
    simp only [free]
    rfl
  rw [run, Action.bind_run]
  revert all
  generalize declareAll scope (values st.store.minted) (prepared st) = outcome
  obtain ⟨result, after⟩ := outcome
  rintro ⟨rfl, adds, minted, output, requests⟩
  exact ⟨rfl, adds, minted, output, requests⟩

theorem Installs.fills {scope : ScopeId} {st : State} {first : Nat}
    {run : Except EvalError Unit × State} (h : Installs st scope (values first) run)
    (free : ∀ name, st.store.binds scope name = false) : Fills run.2.store scope first := by
  intro name b
  constructor
  · intro bound
    have listed : name ∈ (values first).map Prod.fst := by
      by_contra absent
      have unbound := free name
      rw [Store.binds, ← h.adds.kept scope name fun _ => absent, bound] at unbound
      cases unbound
    obtain ⟨⟨_, value⟩, member, rfl⟩ := List.mem_map.1 listed
    cases Option.some.inj (bound.symm.trans (h.adds.added _ value member))
    exact ⟨rfl, member⟩
  · obtain ⟨value, constant⟩ := b
    rintro ⟨rfl, member⟩
    exact h.adds.added name value member

/-- What the installation of the prelude in a scope does. -/
structure InstallLaw (st : State) (scope : ScopeId) (run : Except EvalError Unit × State) :
    Prop where
  fails : (∃ e, run.1 = .error e) ↔ ∃ name ∈ names, st.store.binds scope name = true
  refused : ∀ e, run.1 = .error e → run.2 = st ∧ ∃ before name after,
    names = before ++ name :: after ∧ (∀ n ∈ before, st.store.binds scope n = false) ∧
      st.store.binds scope name = true ∧ e = ⟨.alreadyDeclared name, Span.nowhere⟩
  /-- No declaration is refused, whatever has been declared before it. -/
  declares : run.1 = .ok () → ∀ before name value after,
    values st.store.minted = before ++ (name, value) :: after →
      let (first, mid) := declareAll scope before (prepared st)
      first = .ok () ∧ (Action.declare scope name value true mid).1 = .ok value
  installs : run.1 = .ok () → Installs (prepared st) scope (values st.store.minted) run
  /-- In a scope that binds nothing, the same is bound as in a scope made with the prelude. -/
  agrees : run.1 = .ok () → (∀ name, st.store.binds scope name = false) → ∀ s : Store,
    run.2.store.names scope = (seed s).2.names (seed s).1 ∧
      ∀ name, Option.Rel Binding.Resembles (run.2.store.binding? scope name)
        ((seed s).2.binding? (seed s).1 name)

/-- Each declaration meets a scope that does not bind its name. -/
theorem declares_of_free {scope : ScopeId} {st : State} (present : ¬st.Fresh scope)
    (free : names.find? (st.store.binds scope) = none) {before after : List (String × Value)}
    {name : String} {value : Value}
    (split : values st.store.minted = before ++ (name, value) :: after) :
    let (first, mid) := declareAll scope before (prepared st)
    first = .ok () ∧ (Action.declare scope name value true mid).1 = .ok value := by
  have distinct := names_values st.store.minted ▸ names_nodup
  have unbound := binds_prepared free st.store.minted
  rw [split, List.map_append, List.map_cons] at distinct unbound
  obtain ⟨apart, -, disjoint⟩ := List.nodup_append.1 distinct
  obtain ⟨freeBefore, freeRest⟩ := List.forall_mem_append.1 unbound
  have started := declareAll_installs before (prepared st) present apart freeBefore
  have absent : name ∉ before.map Prod.fst := fun member =>
    disjoint name member name List.mem_cons_self rfl
  have still := started.adds.binds_eq_false absent (freeRest name List.mem_cons_self)
  exact ⟨started.done, congrArg Prod.fst (declare_of_free still value true)⟩

end Prelude

/-- Installing the prelude in a scope is all or nothing, for every scope in every state. It fails
just when the scope itself binds one of the names; then the first of them in order is reported and
nothing has changed. Otherwise no declaration is refused, the scope keeps its bindings and gets the
names of the prelude as constants, and nothing else changes. If it bound nothing before, it binds
the same names as a new scope that is made with the prelude, to values that differ in the identities
of natives at most. -/
theorem Prelude.install_all_or_nothing {st : State} {scope : ScopeId} (present : ¬st.Fresh scope) :
    InstallLaw st scope (install scope st) := by
  cases taken : names.find? (st.store.binds scope) with
  | some name =>
    obtain ⟨bound, before, after, split, free⟩ := List.find?_eq_some_iff_append.1 taken
    have member : name ∈ names := List.mem_of_find?_eq_some taken
    rw [install_refused taken]
    refine ⟨⟨fun _ => ⟨name, member, bound⟩, fun _ => ⟨_, rfl⟩⟩, ?_, nofun, nofun, nofun⟩
    rintro e ⟨⟩
    exact ⟨rfl, before, name, after, split, by simpa using free, bound, rfl⟩
  | none =>
    have installs := install_installs present taken
    refine ⟨⟨?_, ?_⟩, ?_, fun _ _ _ _ _ => declares_of_free present taken, fun _ => installs, ?_⟩
    · rintro ⟨e, failed⟩
      cases installs.done.symm.trans failed
    · rintro ⟨name, member, bound⟩
      exact absurd bound (List.find?_eq_none.1 taken name member)
    · intro e failed
      cases installs.done.symm.trans failed
    · intro _ free s
      have filled := installs.fills free
      have seeded := seed_fills s
      exact ⟨filled.names_eq seeded, filled.resembles seeded⟩

/-- A scope in which a variable has the name of a constant of the prelude, and an empty scope inside
it. The prelude is refused in the outer one and comes into the inner one as it would into a new
scope. -/
theorem Prelude.install_all_or_nothing_nested :
    let outer : Table Binding := Table.empty.insert "Pi" ⟨.number 3, false⟩
    let st : State :=
      { State.initial with store := ⟨#[⟨none, outer⟩, ⟨some ⟨0⟩, .empty⟩], #[], 7⟩ }
    (¬st.Fresh ⟨0⟩ ∧ (∃ e, (install ⟨0⟩ st).1 = .error e) ∧ (install ⟨0⟩ st).2 = st) ∧
      ¬st.Fresh ⟨1⟩ ∧ (install ⟨1⟩ st).1 = .ok () ∧
        (install ⟨1⟩ st).2.store.names ⟨1⟩ = (seed .empty).2.names (seed .empty).1 := by
  intro outer st
  have outside : ¬st.Fresh ⟨0⟩ := Nat.not_le.2 (by decide)
  have inside : ¬st.Fresh ⟨1⟩ := Nat.not_le.2 (by decide)
  have refuses := install_all_or_nothing outside
  have accepts := install_all_or_nothing inside
  obtain ⟨e, failed⟩ := refuses.fails.2 ⟨"Pi", by decide, by decide⟩
  have done : (install ⟨1⟩ st).1 = .ok () := by
    cases outcome : (install ⟨1⟩ st).1 with
    | ok => rfl
    | error e =>
      obtain ⟨name, -, bound⟩ := accepts.fails.1 ⟨e, outcome⟩
      cases bound
  exact ⟨⟨outside, ⟨e, failed⟩, (refuses.refused e failed).1⟩, inside, done,
    (accepts.agrees done (fun _ => rfl) .empty).1⟩

end SloScript
