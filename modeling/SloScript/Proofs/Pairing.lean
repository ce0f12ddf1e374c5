import SloScript.Operator.Apply
import SloScript.Proofs.Relocation
import SloScript.Proofs.Sites
import SloScript.Store

/-!
# Stores that correspond to each other

Two stores are compared through a *pairing*: it says which scopes, objects and identities of the one
stand for which of the other, and what becomes of spans. Paired values look the same, apart from the
names under which they are stored; paired scopes and objects hold paired values under the same
names. Nothing is said about what a pairing leaves out, except, where this is asked for, that it
stays as it was.

A pairing also covers everything that is still to be made: the next free places of both stores are
paired, and so are all later ones. Therefore it stays the same while both stores grow.

Results:
1. `Stores.lookup`, `Stores.property`, `display_eq`: what is read off paired stores is paired.
2. `Stores.bindIn`, `Stores.setProperty`, `Stores.addScope`, `Stores.addObject`, `Stores.mint`: they
   stay paired when paired things are done to them.
-/

namespace SloScript

theorem ScopeId.index_inj {a b : ScopeId} : a.index = b.index ↔ a = b := by
  cases a
  cases b
  simp

theorem ObjectId.index_inj {a b : ObjectId} : a.index = b.index ↔ a = b := by
  cases a
  cases b
  simp

/-- Which scopes, objects and identities of one store stand for which of another one, and what
becomes of spans. The order in which scopes were made is the same on both sides, and nothing stands
for two different things. -/
structure Pairing where
  scope : ScopeId → ScopeId → Prop
  object : ObjectId → ObjectId → Prop
  identity : Nat → Nat → Prop
  spans : Relocation
  scope_lt : ∀ {a a' b b'}, scope a a' → scope b b' → (a.index < b.index ↔ a'.index < b'.index)
  object_eq : ∀ {a a' b b'}, object a a' → object b b' → (a = b ↔ a' = b')
  identity_eq : ∀ {a a' b b'}, identity a a' → identity b b' → (a = b ↔ a' = b')

/-- What is outside the given scopes and objects is the same in both stores. -/
structure Store.KeptOutside (scope : ScopeId → Prop) (object : ObjectId → Prop) (s t : Store) :
    Prop where
  scopes : ∀ id, ¬scope id → t.scopes[id.index]? = s.scopes[id.index]?
  objects : ∀ id, ¬object id → t.objects[id.index]? = s.objects[id.index]?

namespace Pairing

variable (π : Pairing)

/-! ## Paired things -/

/-- Values that stand for each other. -/
inductive Values : Value → Value → Prop
  | null : Values .null .null
  | bool (b : Bool) : Values (.bool b) (.bool b)
  | number (x : Float) : Values (.number x) (.number x)
  | string (s : String) : Values (.string s) (.string s)
  | object {id id' : ObjectId} : π.object id id' → Values (.object id) (.object id')
  | function {id id' : Nat} {name : String} {params : List String} {body : List Stmt}
      {scope scope' : ScopeId} : π.identity id id' → π.scope scope scope' →
      Values (.function ⟨id, name, params, body, scope⟩)
        (.function ⟨id', name, params, relocateBody π.spans body, scope'⟩)
  | native {id id' : Nat} {name : String} {arity : Option Nat} {behaviour : Behaviour} :
      π.identity id id' →
      Values (.native ⟨id, name, arity, behaviour⟩) (.native ⟨id', name, arity, behaviour⟩)

/-- Bindings that stand for each other. -/
structure Bindings (b b' : Binding) : Prop where
  value : π.Values b.value b'.value
  constant : b'.constant = b.constant

/-- Scopes with paired parents that bind the same names to paired values. -/
structure Scopes (s s' : Scope) : Prop where
  parent : Option.Rel π.scope s.parent s'.parent
  bindings : ∀ name, Option.Rel π.Bindings (s.bindings.get? name) (s'.bindings.get? name)

/-- Properties with the same keys and paired values. -/
def Tables (t t' : Table Value) : Prop :=
  ∀ key, Option.Rel π.Values (t.get? key) (t'.get? key)

/-- Paired objects have paired properties. -/
def Heaps (objects objects' : Objects) : Prop :=
  ∀ id id', π.object id id' → Option.Rel π.Tables objects[id.index]? objects'[id'.index]?

/-- Stores that correspond to each other. If they have come from the stores `b` and `b'`, then
without touching what the pairing leaves out. -/
structure Stores (b b' : Option Store) (s s' : Store) : Prop where
  scopes : ∀ {id id' : ScopeId}, π.scope id id' →
    Option.Rel π.Scopes s.scopes[id.index]? s'.scopes[id'.index]?
  objects : π.Heaps s.objects s'.objects
  freshScope : ∀ k, π.scope ⟨s.scopes.size + k⟩ ⟨s'.scopes.size + k⟩
  freshObject : ∀ k, π.object ⟨s.objects.size + k⟩ ⟨s'.objects.size + k⟩
  freshIdentity : ∀ k, π.identity (s.minted + k) (s'.minted + k)
  left : ∀ origin ∈ b,
    origin.KeptOutside (fun id => ∃ id', π.scope id id') (fun id => ∃ id', π.object id id') s
  right : ∀ origin ∈ b',
    origin.KeptOutside (fun id' => ∃ id, π.scope id id') (fun id' => ∃ id, π.object id id') s'

/-- Outcomes that correspond to each other: values of both sides, or errors of both sides. -/
inductive Outcomes {ε δ α β : Type} (E : ε → δ → Prop) (A : α → β → Prop) :
    Except ε α → Except δ β → Prop
  | ok {a : α} {a' : β} : A a a' → Outcomes E A (.ok a) (.ok a')
  | error {e : ε} {e' : δ} : E e e' → Outcomes E A (.error e) (.error e')

/-- What is read off a store: paired things, or the same fault. -/
abbrev Readings {α β : Type} (A : α → β → Prop) :
    Except EvalFault α → Except EvalFault β → Prop :=
  Outcomes Eq A

/-- What an action yields: paired things, or errors that differ in their spans at most. -/
abbrev Results {α β : Type} (A : α → β → Prop) : Except EvalError α → Except EvalError β → Prop :=
  Outcomes (fun e e' => e.relocate π.spans = e'.relocate π.spans) A

variable {π}

/-- Options that are related: both are empty, or both hold related things. -/
theorem rel_cases {α β : Type} {R : α → β → Prop} {x : Option α} {y : Option β}
    (h : Option.Rel R x y) :
    (x = none ∧ y = none) ∨ ∃ a b, x = some a ∧ y = some b ∧ R a b := by
  cases h with
  | none => exact .inl ⟨rfl, rfl⟩
  | some related => exact .inr ⟨_, _, rfl, rfl, related⟩

theorem scope_eq {a a' b b' : ScopeId} (ha : π.scope a a') (hb : π.scope b b') :
    a = b ↔ a' = b' := by
  obtain ⟨a⟩ := a
  obtain ⟨a'⟩ := a'
  obtain ⟨b⟩ := b
  obtain ⟨b'⟩ := b'
  have less := π.scope_lt ha hb
  have greater := π.scope_lt hb ha
  simp only [ScopeId.mk.injEq] at less greater ⊢
  omega

/-! ## Values -/

namespace Values

variable {v v' w w' : Value}

theorem type_eq (h : π.Values v v') : v'.type = v.type := by
  cases h <;> rfl

/-- Identities are paired one to one, so the language's equality cannot tell the two sides apart. -/
theorem same_eq (hv : π.Values v v') (hw : π.Values w w') : v'.same w' = v.same w := by
  have objects {a a' b b' : ObjectId} (ha : π.object a a') (hb : π.object b b') :
      (a' == b') = (a == b) := by
    rw [Bool.eq_iff_iff, beq_iff_eq, beq_iff_eq]
    exact (π.object_eq ha hb).symm
  have identities {a a' b b' : Nat} (ha : π.identity a a') (hb : π.identity b b') :
      (a' == b') = (a == b) := by
    rw [Bool.eq_iff_iff, beq_iff_eq, beq_iff_eq]
    exact (π.identity_eq ha hb).symm
  cases hv with
  | object ha =>
    cases hw with
    | object hb => exact objects ha hb
    | _ => rfl
  | function ha =>
    cases hw with
    | function hb => exact identities ha hb
    | _ => rfl
  | native ha =>
    cases hw with
    | native hb => exact identities ha hb
    | _ => rfl
  | _ => cases hw <;> rfl

/-- The first ones of paired values are paired, and so is what stands for a missing one. -/
theorem headD {vs vs' : List Value} (h : List.Forall₂ π.Values vs vs') :
    π.Values (vs.headD .null) (vs'.headD .null) := by
  cases h with
  | nil => exact .null
  | cons head _ => exact head

theorem order?_eq (hv : π.Values v v') (hw : π.Values w w') : v'.order? w' = v.order? w := by
  cases hv <;> cases hw <;> rfl

/-- An operator sees types, plain values and equality only, and what it yields is plain. -/
theorem apply (op : Operator) (hv : π.Values v v') (hw : π.Values w w') :
    Readings π.Values (op.apply v w) (op.apply v' w') := by
  have compute (x y : Float) : Readings π.Values ((op.compute x y).map .number)
      ((op.compute x y).map .number) := by
    cases op.compute x y with
    | error fault => exact .error rfl
    | ok z => exact .ok (.number z)
  unfold Operator.apply
  rw [hv.same_eq hw, hv.order?_eq hw, hv.type_eq, hw.type_eq]
  cases op with
  | eq | ne => exact .ok (.bool _)
  | lt | le | gt | ge =>
    cases v.order? w with
    | none => exact .error rfl
    | some order => exact .ok (.bool _)
  | add =>
    cases hv with
    | number x =>
      cases hw with
      | number y => exact compute x y
      | _ => exact .error rfl
    | string x =>
      cases hw with
      | string y => exact .ok (.string _)
      | _ => exact .error rfl
    | _ => exact .error rfl
  | sub | mul | div | mod =>
    cases hv with
    | number x =>
      cases hw with
      | number y => exact compute x y
      | _ => exact .error rfl
    | _ => exact .error rfl

end Values

/-! ## The text of a value -/

theorem mem_iff {path path' : List ObjectId} (paths : List.Forall₂ π.object path path')
    {id id' : ObjectId} (h : π.object id id') : id ∈ path ↔ id' ∈ path' := by
  induction paths with
  | nil => exact iff_of_false List.not_mem_nil List.not_mem_nil
  | cons head _ ih => rw [List.mem_cons, List.mem_cons, ih, π.object_eq h head]

theorem Heaps.getD {objects objects' : Objects} (h : π.Heaps objects objects') {id id' : ObjectId}
    (paired : π.object id id') :
    π.Tables (objects.getD id.index .empty) (objects'.getD id'.index .empty) := by
  rw [Array.getD_eq_getD_getElem?, Array.getD_eq_getD_getElem?]
  rcases rel_cases (h _ _ paired) with ⟨hl, hr⟩ | ⟨t, t', hl, hr, tables⟩
  · rw [hl, hr]
    exact fun _ => .none
  · rw [hl, hr]
    exact tables

theorem Values.looksLike {v v' : Value} {R : ObjectId → ObjectId → Prop}
    (objects : ∀ id id', π.object id id' → R id id') (h : π.Values v v') :
    Value.LooksLike R v v' := by
  cases h with
  | null => exact .null
  | bool b => exact .bool b
  | number x => exact .number x
  | string s => exact .string s
  | object paired => exact .object (objects _ _ paired)
  | function => exact .function rfl
  | native => exact .native rfl

/-- Paired objects look the same wherever paired objects enclose them. -/
theorem Heaps.correspondence {objects objects' : Objects} (heaps : π.Heaps objects objects') :
    Value.Correspondence objects objects' fun path path' id id' =>
      List.Forall₂ π.object path path' ∧ π.object id id' where
  enclosed := fun ⟨paths, paired⟩ => mem_iff paths paired
  opened := fun ⟨paths, paired⟩ key =>
    rel_mono (fun _ _ values => values.looksLike fun _ _ below => ⟨.cons paired paths, below⟩)
      (heaps.getD paired key)

/-- What is printed of a value does not show under which names objects are stored. -/
theorem display_eq {objects objects' : Objects} (heaps : π.Heaps objects objects') {v v' : Value}
    (h : π.Values v v') : v'.display objects' = v.display objects :=
  heaps.correspondence.displayAt_eq _ rfl (h.looksLike fun _ _ paired => ⟨.nil, paired⟩)

/-! ## Reading paired stores -/

namespace Stores

variable {b b' : Option Store} {s s' : Store} {id id' : ScopeId}

theorem binding? (h : π.Stores b b' s s') (paired : π.scope id id') (name : String) :
    Option.Rel π.Bindings (s.binding? id name) (s'.binding? id' name) := by
  unfold Store.binding?
  rcases rel_cases (h.scopes paired) with ⟨hs, hs'⟩ | ⟨scope, scope', hs, hs', scopes⟩
  · rw [hs, hs']
    exact .none
  · rw [hs, hs']
    exact scopes.bindings name

theorem binds_eq (h : π.Stores b b' s s') (paired : π.scope id id') (name : String) :
    s'.binds id' name = s.binds id name := by
  unfold Store.binds
  rcases rel_cases (h.binding? paired name) with ⟨hb, hb'⟩ | ⟨_, _, hb, hb', -⟩
  · rw [hb, hb']
  · rw [hb, hb']
    rfl

theorem isConstant_eq (h : π.Stores b b' s s') (paired : π.scope id id') (name : String) :
    s'.isConstant id' name = s.isConstant id name := by
  unfold Store.isConstant
  rcases rel_cases (h.binding? paired name) with ⟨hb, hb'⟩ | ⟨_, _, hb, hb', bindings⟩
  · rw [hb, hb']
  · rw [hb, hb']
    exact bindings.constant

/-- Going outward from paired scopes passes paired scopes. -/
theorem chain (h : π.Stores b b' s s') {id id' : ScopeId} (paired : π.scope id id') :
    List.Forall₂ π.scope (s.chain id) (s'.chain id') := by
  rw [Store.chain, Store.chain]
  rcases rel_cases (h.scopes paired) with ⟨hs, hs'⟩ | ⟨scope, scope', hs, hs', scopes⟩
  · rw [hs, hs']
    exact .nil
  · rw [hs, hs']
    refine .cons paired ?_
    rcases rel_cases scopes.parent with ⟨hp, hp'⟩ | ⟨parent, parent', hp, hp', outer⟩
    · rw [hp, hp']
      exact .nil
    · rw [hp, hp']
      -- Whether the parent is older than the scope is the same question on both sides.
      have older := π.scope_lt outer paired
      by_cases less : parent.index < id.index
      · simp only [if_pos less, if_pos (older.1 less)]
        exact h.chain outer
      · simp only [if_neg less, if_neg fun less' => less (older.2 less')]
        exact .nil
termination_by id.index

theorem resolve (h : π.Stores b b' s s') (paired : π.scope id id') (name : String) :
    Option.Rel π.scope (s.resolve id name) (s'.resolve id' name) := by
  have owners := h.chain paired
  unfold Store.resolve
  generalize s.chain id = ids at owners ⊢
  generalize s'.chain id' = ids' at owners ⊢
  induction owners with
  | nil => exact .none
  | cons owner _ ih =>
    rw [List.find?_cons, List.find?_cons, h.binds_eq owner name]
    split
    · exact .some owner
    · exact ih

/-- A name stands for paired values. -/
theorem lookup (h : π.Stores b b' s s') (paired : π.scope id id') (name : String) :
    Readings π.Values (s.lookup id name) (s'.lookup id' name) := by
  unfold Store.lookup
  rcases rel_cases (h.resolve paired name) with ⟨hr, hr'⟩ | ⟨owner, owner', hr, hr', owners⟩
  · rw [hr, hr']
    exact .error rfl
  · rw [hr, hr', Option.bind_some, Option.bind_some]
    rcases rel_cases (h.binding? owners name) with ⟨hb, hb'⟩ | ⟨_, _, hb, hb', bindings⟩
    · rw [hb, hb']
      exact .error rfl
    · rw [hb, hb']
      exact .ok bindings.value

theorem declaringScope (h : π.Stores b b' s s') (paired : π.scope id id') (name : String) :
    Readings π.scope (s.declaringScope id name) (s'.declaringScope id' name) := by
  unfold Store.declaringScope
  rw [h.binds_eq paired name]
  split
  · exact .error rfl
  · exact .ok paired

theorem assigningScope (h : π.Stores b b' s s') (paired : π.scope id id') (name : String) :
    Readings π.scope (s.assigningScope id name) (s'.assigningScope id' name) := by
  unfold Store.assigningScope
  rcases rel_cases (h.resolve paired name) with ⟨hr, hr'⟩ | ⟨owner, owner', hr, hr', owners⟩
  · rw [hr, hr']
    exact .error rfl
  · rw [hr, hr']
    simp only [h.isConstant_eq owners name]
    split
    · exact .error rfl
    · exact .ok owners

theorem property (h : π.Stores b b' s s') {object object' : ObjectId}
    (paired : π.object object object') (key : String) :
    π.Values (s.property object key) (s'.property object' key) := by
  have tables := h.objects.getD paired
  unfold Store.property Store.properties
  rcases rel_cases (tables key) with ⟨hv, hv'⟩ | ⟨v, v', hv, hv', values⟩
  · rw [hv, hv']
    exact .null
  · rw [hv, hv']
    exact values

end Stores

/-! ## Changing paired stores -/

namespace Scopes

theorem insert {scope scope' : Scope} (h : π.Scopes scope scope') (name : String)
    {b b' : Binding} (bindings : π.Bindings b b') :
    π.Scopes { scope with bindings := scope.bindings.insert name b }
      { scope' with bindings := scope'.bindings.insert name b' } where
  parent := h.parent
  bindings other := by
    simp only [Table.get?_insert]
    split
    · exact .some bindings
    · exact h.bindings other

end Scopes

theorem Tables.empty : π.Tables .empty .empty := fun _ => .none

theorem Tables.insert {t t' : Table Value} (h : π.Tables t t') (key : String) {v v' : Value}
    (values : π.Values v v') : π.Tables (t.insert key v) (t'.insert key v') := by
  intro other
  simp only [Table.get?_insert]
  split
  · exact .some values
  · exact h other

end Pairing

namespace Store.KeptOutside

variable {scope : ScopeId → Prop} {object : ObjectId → Prop} {s t : Store}

theorem refl (s : Store) : s.KeptOutside scope object s := ⟨fun _ _ => rfl, fun _ _ => rfl⟩

theorem bindIn (h : s.KeptOutside scope object t) {id : ScopeId} (inside : scope id)
    (name : String) (b : Binding) : s.KeptOutside scope object (t.bindIn id name b) where
  scopes other outside := by
    have elsewhere : id.index ≠ other.index := fun same =>
      outside (ScopeId.index_inj.1 same ▸ inside)
    rw [← h.scopes other outside]
    simp only [Store.bindIn, Array.getElem?_modify, if_neg elsewhere]
  objects := h.objects

theorem addScope (h : s.KeptOutside scope object t) (inside : scope ⟨t.scopes.size⟩)
    (parent : Option ScopeId) (bindings : Table Binding) :
    s.KeptOutside scope object (t.addScope parent bindings).2 where
  scopes other outside := by
    have elsewhere : other.index ≠ t.scopes.size := fun same =>
      outside (ScopeId.index_inj (b := ⟨t.scopes.size⟩).1 same ▸ inside)
    rw [← h.scopes other outside]
    simp only [Store.addScope, Array.getElem?_push, if_neg elsewhere]
  objects := h.objects

theorem setProperty (h : s.KeptOutside scope object t) {id : ObjectId} (inside : object id)
    (key : String) (value : Value) : s.KeptOutside scope object (t.setProperty id key value) where
  scopes := h.scopes
  objects other outside := by
    have elsewhere : id.index ≠ other.index := fun same =>
      outside (ObjectId.index_inj.1 same ▸ inside)
    rw [← h.objects other outside]
    simp only [Store.setProperty, Array.getElem?_modify, if_neg elsewhere]

theorem addObject (h : s.KeptOutside scope object t) (inside : object ⟨t.objects.size⟩)
    (properties : Table Value) : s.KeptOutside scope object (t.addObject properties).2 where
  scopes := h.scopes
  objects other outside := by
    have elsewhere : other.index ≠ t.objects.size := fun same =>
      outside (ObjectId.index_inj (b := ⟨t.objects.size⟩).1 same ▸ inside)
    rw [← h.objects other outside]
    simp only [Store.addObject, Array.getElem?_push, if_neg elsewhere]

end Store.KeptOutside

namespace Pairing.Stores

variable {π : Pairing} {b b' : Option Store} {s s' : Store}

/-- A name is bound in paired scopes to paired values. -/
theorem bindIn (h : π.Stores b b' s s') {id id' : ScopeId} (paired : π.scope id id')
    (name : String) {binding binding' : Binding} (bindings : π.Bindings binding binding') :
    π.Stores b b' (s.bindIn id name binding) (s'.bindIn id' name binding') where
  scopes {other other'} pair := by
    have here : id.index = other.index ↔ id'.index = other'.index := by
      rw [ScopeId.index_inj, ScopeId.index_inj]
      exact scope_eq paired pair
    simp only [Store.bindIn, Array.getElem?_modify]
    by_cases same : id.index = other.index
    · rw [if_pos same, if_pos (here.1 same)]
      rcases rel_cases (h.scopes pair) with ⟨hs, hs'⟩ | ⟨scope, scope', hs, hs', scopes⟩
      · rw [hs, hs']
        exact .none
      · rw [hs, hs']
        exact .some (scopes.insert name bindings)
    · rw [if_neg same, if_neg fun same' => same (here.2 same')]
      exact h.scopes pair
  objects := h.objects
  freshScope k := by simpa [Store.bindIn] using h.freshScope k
  freshObject := h.freshObject
  freshIdentity := h.freshIdentity
  left _ given := (h.left _ given).bindIn ⟨id', paired⟩ name binding
  right _ given := (h.right _ given).bindIn ⟨id, paired⟩ name binding'

/-- Paired objects get paired properties. -/
theorem setProperty (h : π.Stores b b' s s') {id id' : ObjectId} (paired : π.object id id')
    (key : String) {v v' : Value} (values : π.Values v v') :
    π.Stores b b' (s.setProperty id key v) (s'.setProperty id' key v') where
  scopes := h.scopes
  objects other other' pair := by
    have here : id.index = other.index ↔ id'.index = other'.index := by
      rw [ObjectId.index_inj, ObjectId.index_inj]
      exact π.object_eq paired pair
    simp only [Store.setProperty, Array.getElem?_modify]
    by_cases same : id.index = other.index
    · rw [if_pos same, if_pos (here.1 same)]
      rcases rel_cases (h.objects _ _ pair) with ⟨hs, hs'⟩ | ⟨t, t', hs, hs', tables⟩
      · rw [hs, hs']
        exact .none
      · rw [hs, hs']
        exact .some (tables.insert key values)
    · rw [if_neg same, if_neg fun same' => same (here.2 same')]
      exact h.objects _ _ pair
  freshScope := h.freshScope
  freshObject k := by simpa [Store.setProperty] using h.freshObject k
  freshIdentity := h.freshIdentity
  left _ given := (h.left _ given).setProperty ⟨id', paired⟩ key v
  right _ given := (h.right _ given).setProperty ⟨id, paired⟩ key v'

/-- New scopes take paired places. -/
theorem addScope (h : π.Stores b b' s s') {parent parent' : ScopeId}
    (paired : π.scope parent parent') :
    π.Stores b b' (s.addScope (some parent) .empty).2 (s'.addScope (some parent') .empty).2 where
  scopes {id id'} pair := by
    have new : π.scope ⟨s.scopes.size⟩ ⟨s'.scopes.size⟩ := h.freshScope 0
    have here : id.index = s.scopes.size ↔ id'.index = s'.scopes.size := by
      rw [ScopeId.index_inj (b := ⟨s.scopes.size⟩), ScopeId.index_inj (b := ⟨s'.scopes.size⟩)]
      exact scope_eq pair new
    simp only [Store.addScope, Array.getElem?_push]
    by_cases same : id.index = s.scopes.size
    · rw [if_pos same, if_pos (here.1 same)]
      exact .some ⟨.some paired, fun _ => .none⟩
    · rw [if_neg same, if_neg fun same' => same (here.2 same')]
      exact h.scopes pair
  objects := h.objects
  freshScope k := by
    simpa [Store.addScope, Nat.add_assoc, Nat.add_comm 1] using h.freshScope (k + 1)
  freshObject := h.freshObject
  freshIdentity := h.freshIdentity
  left _ given := (h.left _ given).addScope ⟨_, h.freshScope 0⟩ _ _
  right _ given := (h.right _ given).addScope ⟨_, h.freshScope 0⟩ _ _

/-- New objects take paired places. -/
theorem addObject (h : π.Stores b b' s s') {t t' : Table Value} (tables : π.Tables t t') :
    π.Stores b b' (s.addObject t).2 (s'.addObject t').2 where
  scopes := h.scopes
  objects id id' pair := by
    have new : π.object ⟨s.objects.size⟩ ⟨s'.objects.size⟩ := h.freshObject 0
    have here : id.index = s.objects.size ↔ id'.index = s'.objects.size := by
      rw [ObjectId.index_inj (b := ⟨s.objects.size⟩), ObjectId.index_inj (b := ⟨s'.objects.size⟩)]
      exact π.object_eq pair new
    simp only [Store.addObject, Array.getElem?_push]
    by_cases same : id.index = s.objects.size
    · rw [if_pos same, if_pos (here.1 same)]
      exact .some tables
    · rw [if_neg same, if_neg fun same' => same (here.2 same')]
      exact h.objects _ _ pair
  freshScope := h.freshScope
  freshObject k := by
    simpa [Store.addObject, Nat.add_assoc, Nat.add_comm 1] using h.freshObject (k + 1)
  freshIdentity := h.freshIdentity
  left _ given := (h.left _ given).addObject ⟨_, h.freshObject 0⟩ _
  right _ given := (h.right _ given).addObject ⟨_, h.freshObject 0⟩ _

theorem mint (h : π.Stores b b' s s') (count : Nat) :
    π.Stores b b' (s.mint count).2 (s'.mint count).2 where
  scopes := h.scopes
  objects := h.objects
  freshScope := h.freshScope
  freshObject := h.freshObject
  freshIdentity k := by simpa [Store.mint, Nat.add_assoc] using h.freshIdentity (count + k)
  left _ given := ⟨(h.left _ given).scopes, (h.left _ given).objects⟩
  right _ given := ⟨(h.right _ given).scopes, (h.right _ given).objects⟩

end Pairing.Stores

end SloScript
