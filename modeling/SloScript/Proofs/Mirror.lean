import Mathlib.Logic.Relation
import SloScript.Proofs.Simulation

/-!
# What leads where, and copies of it

Scopes and objects lead to each other: a scope to its parent and to what the values that it binds
refer to, an object to what its properties refer to. A value refers to the object that it is, or, if
it is a function, to the scope that it was declared in. Everything else stands for itself.

The simplest pairing takes every scope and object of a given set for itself (`Pairing.within`). Two
stores correspond to each other under it just when the second one repeats the first on that set, up
to a relocation of spans, and nothing leads out of the set (`Stores.mirrors`,
`Stores.of_mirrors`).
-/

namespace SloScript

/-! ## References -/

/-- A scope or an object. -/
inductive Node where
  | scope (id : ScopeId)
  | object (id : ObjectId)

/-- The value is an object, or a function that was declared in a scope. -/
inductive Value.RefersTo : Value → Node → Prop
  | object (id : ObjectId) : RefersTo (.object id) (.object id)
  | function (c : Closure) : RefersTo (.function c) (.scope c.scope)

/-- The scope has a parent, or binds a value that refers to something. -/
inductive Scope.RefersTo (scope : Scope) : Node → Prop
  | parent {id : ScopeId} : scope.parent = some id → RefersTo scope (.scope id)
  | bound {name : String} {b : Binding} {n : Node} :
      scope.bindings.get? name = some b → b.value.RefersTo n → RefersTo scope n

/-- One of the properties has a value that refers to something. -/
def Table.RefersTo (t : Table Value) (n : Node) : Prop :=
  ∃ key v, t.get? key = some v ∧ v.RefersTo n

namespace Store

/-- One step from a scope or an object to what it holds. -/
inductive LeadsTo (s : Store) : Node → Node → Prop
  | scope {id : ScopeId} {scope : Scope} {n : Node} :
      s.scopes[id.index]? = some scope → scope.RefersTo n → LeadsTo s (.scope id) n
  | object {id : ObjectId} {t : Table Value} {n : Node} :
      s.objects[id.index]? = some t → t.RefersTo n → LeadsTo s (.object id) n

/-- The store has the scope or object. -/
def Holds (s : Store) : Node → Prop
  | .scope id => id.index < s.scopes.size
  | .object id => id.index < s.objects.size

/-- Both stores hold the same there. -/
def AgreesAt (s s' : Store) : Node → Prop
  | .scope id => s'.scopes[id.index]? = s.scopes[id.index]?
  | .object id => s'.objects[id.index]? = s.objects[id.index]?

theorem AgreesAt.refl (s : Store) (n : Node) : s.AgreesAt s n := by
  cases n <;> rfl

theorem AgreesAt.trans {s t u : Store} {n : Node} (first : s.AgreesAt t n)
    (second : t.AgreesAt u n) : s.AgreesAt u n := by
  cases n with
  | scope _ => exact Eq.trans second first
  | object _ => exact Eq.trans second first

theorem AgreesAt.symm {s t : Store} {n : Node} (h : s.AgreesAt t n) : t.AgreesAt s n := by
  cases n with
  | scope _ => exact Eq.symm h
  | object _ => exact Eq.symm h

/-- The stores give the same identities to what is made next. -/
structure SameFresh (s s' : Store) : Prop where
  scopes : s'.scopes.size = s.scopes.size
  objects : s'.objects.size = s.objects.size
  minted : s'.minted = s.minted

end Store

/-! ## Values, scopes and tables with other spans -/

/-- A value with the spans of its body replaced. -/
def Value.relocate (r : Relocation) : Value → Value
  | .function c => .function { c with body := relocateBody r c.body }
  | v => v

/-- A binding with the spans of its value replaced. -/
def Binding.relocate (r : Relocation) (b : Binding) : Binding := ⟨b.value.relocate r, b.constant⟩

namespace Table

variable {α β : Type}

/-- The table with every value replaced. -/
def map (f : α → β) (t : Table α) : Table β where
  entries := t.entries.map fun entry => (entry.1, f entry.2)
  sorted := by
    refine List.pairwise_map.2 ?_
    exact t.sorted

theorem get?_map (f : α → β) (t : Table α) (key : String) :
    (t.map f).get? key = (t.get? key).map f := by
  show Entries.get? key (t.entries.map _) = (Entries.get? key t.entries).map f
  induction t.entries with
  | nil => rfl
  | cons entry rest ih =>
    rw [List.map_cons, Entries.get?, Entries.get?]
    split
    · rfl
    · exact ih

/-- Tables that agree on every key are equal. -/
theorem ext_get? {t t' : Table α} (h : ∀ key, t'.get? key = t.get? key) : t' = t := by
  have related : ∀ key, Option.Rel Eq (t'.get? key) (t.get? key) := by
    intro key
    rw [h key]
    cases t.get? key with
    | none => exact .none
    | some a => exact .some rfl
  have entries := (Entries.rel_iff_forall₂ t'.sorted t.sorted).1 related
  have same : t'.entries = t.entries := by
    rw [← List.forall₂_eq_eq_eq]
    exact entries.imp fun _ _ both => Prod.ext both.1 both.2
  cases t
  cases t'
  exact Table.mk.injEq .. ▸ same

end Table

/-- A scope with the spans of its values replaced. -/
def Scope.relocate (r : Relocation) (scope : Scope) : Scope :=
  ⟨scope.parent, scope.bindings.map (Binding.relocate r)⟩

theorem Value.relocate_keep (v : Value) : v.relocate .keep = v := by
  cases v with
  | function c => exact congrArg Value.function (by rw [relocateBody_keep])
  | _ => rfl

theorem Table.map_relocate_keep (t : Table Value) : t.map (Value.relocate .keep) = t := by
  refine ext_get? fun key => ?_
  rw [get?_map]
  cases t.get? key with
  | none => rfl
  | some v => exact congrArg some v.relocate_keep

theorem Scope.relocate_keep (scope : Scope) : scope.relocate .keep = scope := by
  obtain ⟨parent, bindings⟩ := scope
  refine congrArg (Scope.mk parent) (Table.ext_get? fun name => ?_)
  rw [Table.get?_map]
  cases bindings.get? name with
  | none => rfl
  | some b => exact congrArg some (congrArg (Binding.mk · b.constant) b.value.relocate_keep)

theorem Value.relocate_again (r : Relocation) (v : Value) :
    (v.relocate r).relocate r = v.relocate r := by
  cases v with
  | function c => exact congrArg Value.function (by rw [relocateBody_again])
  | _ => rfl

theorem Table.map_again {α : Type} {f : α → α} (again : ∀ a, f (f a) = f a) (t : Table α) :
    (t.map f).map f = t.map f := by
  refine ext_get? fun key => ?_
  rw [get?_map, get?_map, Option.map_map]
  exact congrArg (Option.map · (t.get? key)) (funext again)

theorem Scope.relocate_again (r : Relocation) (scope : Scope) :
    (scope.relocate r).relocate r = scope.relocate r := by
  refine congrArg (Scope.mk scope.parent) (Table.map_again (fun b => ?_) scope.bindings)
  exact congrArg (Binding.mk · b.constant) (b.value.relocate_again r)

/-! ## Copies -/

/-- The second store repeats the first one on a set of scopes and objects, up to spans. Nothing
leads out of the set, and everything that is still to be made belongs to it. -/
structure Store.Mirrors (inside : Node → Prop) (r : Relocation) (s s' : Store) : Prop where
  counts : s.SameFresh s'
  scopes : ∀ id, inside (.scope id) →
    s'.scopes[id.index]? = (s.scopes[id.index]?).map (Scope.relocate r)
  objects : ∀ id, inside (.object id) →
    s'.objects[id.index]? = (s.objects[id.index]?).map (Table.map (Value.relocate r))
  closed : ∀ m n, inside m → s.LeadsTo m n → inside n
  fresh : ∀ n, ¬s.Holds n → inside n

namespace Pairing

/-- Every scope and object of a set stands for itself. -/
def within (inside : Node → Prop) (r : Relocation) : Pairing where
  scope a a' := a' = a ∧ inside (.scope a)
  object a a' := a' = a ∧ inside (.object a)
  identity a a' := a' = a
  spans := r
  scope_lt := by
    rintro a _ b _ ⟨rfl, _⟩ ⟨rfl, _⟩
    exact Iff.rfl
  object_eq := by
    rintro a _ b _ ⟨rfl, _⟩ ⟨rfl, _⟩
    exact Iff.rfl
  identity_eq := by
    rintro a _ b _ rfl rfl
    exact Iff.rfl

variable {inside : Node → Prop} {r : Relocation}

theorem values_within_iff {v v' : Value} :
    (within inside r).Values v v' ↔ v' = v.relocate r ∧ ∀ n, v.RefersTo n → inside n := by
  constructor
  · intro h
    cases h with
    | object paired =>
      obtain ⟨rfl, h⟩ := paired
      refine ⟨rfl, ?_⟩
      rintro _ ⟨_⟩
      exact h
    | function identities scopes =>
      obtain rfl : _ = _ := identities
      obtain ⟨rfl, h⟩ := scopes
      refine ⟨rfl, ?_⟩
      rintro _ ⟨_⟩
      exact h
    | native identities =>
      obtain rfl : _ = _ := identities
      exact ⟨rfl, nofun⟩
    | _ => exact ⟨rfl, nofun⟩
  · rintro ⟨rfl, h⟩
    cases v with
    | null => exact .null
    | bool b => exact .bool b
    | number x => exact .number x
    | string s => exact .string s
    | object id => exact .object ⟨rfl, h _ (.object id)⟩
    | function c => exact .function rfl ⟨rfl, h _ (.function c)⟩
    | native n => exact .native rfl

theorem tables_within_iff {t t' : Table Value} :
    (within inside r).Tables t t' ↔
      t' = t.map (Value.relocate r) ∧ ∀ n, t.RefersTo n → inside n := by
  constructor
  · intro h
    refine ⟨Table.ext_get? fun key => ?_, ?_⟩
    · rw [Table.get?_map]
      rcases rel_cases (h key) with ⟨hv, hv'⟩ | ⟨v, v', hv, hv', values⟩
      · rw [hv, hv']
        rfl
      · rw [hv, hv', (values_within_iff.1 values).1]
        rfl
    · rintro n ⟨key, v, found, refers⟩
      rcases rel_cases (h key) with ⟨hv, -⟩ | ⟨w, w', hv, hv', values⟩
      · cases hv.symm.trans found
      · cases hv.symm.trans found
        exact (values_within_iff.1 values).2 n refers
  · rintro ⟨rfl, closed⟩ key
    rw [Table.get?_map]
    cases found : t.get? key with
    | none => exact .none
    | some v =>
      refine .some (values_within_iff.2 ⟨rfl, fun n refers => ?_⟩)
      exact closed n ⟨key, v, found, refers⟩

theorem scopes_within_iff {scope scope' : Scope} :
    (within inside r).Scopes scope scope' ↔
      scope' = scope.relocate r ∧ ∀ n, scope.RefersTo n → inside n := by
  constructor
  · intro h
    have parents : scope'.parent = scope.parent := by
      rcases rel_cases h.parent with ⟨hp, hp'⟩ | ⟨id, id', hp, hp', rfl, -⟩
      · rw [hp, hp']
      · rw [hp, hp']
    have bindings : scope'.bindings = scope.bindings.map (Binding.relocate r) := by
      refine Table.ext_get? fun name => ?_
      rw [Table.get?_map]
      rcases rel_cases (h.bindings name) with ⟨hb, hb'⟩ | ⟨b, b', hb, hb', related⟩
      · rw [hb, hb']
        rfl
      · obtain ⟨value, constant⟩ := b'
        obtain ⟨values, rfl⟩ := related
        obtain ⟨rfl, -⟩ := values_within_iff.1 values
        rw [hb, hb']
        rfl
    refine ⟨?_, ?_⟩
    · obtain ⟨parent', bindings'⟩ := scope'
      obtain rfl : parent' = scope.parent := parents
      obtain rfl : bindings' = _ := bindings
      rfl
    · rintro n (@⟨id, outer⟩ | @⟨name, b, _, found, refers⟩)
      · rcases rel_cases h.parent with ⟨hp, -⟩ | ⟨id, id', hp, -, -, closed⟩
        · cases hp.symm.trans outer
        · cases hp.symm.trans outer
          exact closed
      · rcases rel_cases (h.bindings name) with ⟨hb, -⟩ | ⟨b, b', hb, -, related⟩
        · cases hb.symm.trans found
        · cases hb.symm.trans found
          exact (values_within_iff.1 related.value).2 n refers
  · rintro ⟨rfl, closed⟩
    refine ⟨?_, fun name => ?_⟩
    · show Option.Rel _ scope.parent scope.parent
      cases outer : scope.parent with
      | none => exact .none
      | some id => exact .some ⟨rfl, closed _ (.parent outer)⟩
    · show Option.Rel _ _ ((scope.bindings.map _).get? name)
      rw [Table.get?_map]
      cases found : scope.bindings.get? name with
      | none => exact .none
      | some b =>
        refine .some ⟨values_within_iff.2 ⟨rfl, fun n refers => ?_⟩, rfl⟩
        exact closed n (.bound found refers)

/-- What two corresponding stores look like. -/
theorem Stores.mirrors {b b' : Option Store} {s s' : Store}
    (h : (within inside r).Stores b b' s s') : s.Mirrors inside r s' where
  counts := by
    have scopes := congrArg ScopeId.index (h.freshScope 0).1
    have objects := congrArg ObjectId.index (h.freshObject 0).1
    exact ⟨scopes, objects, h.freshIdentity 0⟩
  scopes id member := by
    rcases rel_cases (h.scopes ⟨rfl, member⟩) with ⟨hs, hs'⟩ | ⟨_, _, hs, hs', scopes⟩
    · rw [hs, hs']
      rfl
    · rw [hs, hs', (scopes_within_iff.1 scopes).1]
      rfl
  objects id member := by
    rcases rel_cases (h.objects _ _ ⟨rfl, member⟩) with ⟨hs, hs'⟩ | ⟨_, _, hs, hs', tables⟩
    · rw [hs, hs']
      rfl
    · rw [hs, hs', (tables_within_iff.1 tables).1]
      rfl
  closed m n member leads := by
    cases leads with
    | scope found refers =>
      rcases rel_cases (h.scopes ⟨rfl, member⟩) with ⟨hs, -⟩ | ⟨_, _, hs, -, scopes⟩
      · cases hs.symm.trans found
      · cases hs.symm.trans found
        exact (scopes_within_iff.1 scopes).2 n refers
    | object found refers =>
      rcases rel_cases (h.objects _ _ ⟨rfl, member⟩) with ⟨hs, -⟩ | ⟨_, _, hs, -, tables⟩
      · cases hs.symm.trans found
      · cases hs.symm.trans found
        exact (tables_within_iff.1 tables).2 n refers
  fresh n absent := by
    cases n with
    | scope id =>
      obtain ⟨k, later⟩ := Nat.exists_eq_add_of_le (Nat.le_of_not_lt absent)
      obtain rfl : id = ⟨s.scopes.size + k⟩ := ScopeId.index_inj.1 later
      exact (h.freshScope k).2
    | object id =>
      obtain ⟨k, later⟩ := Nat.exists_eq_add_of_le (Nat.le_of_not_lt absent)
      obtain rfl : id = ⟨s.objects.size + k⟩ := ObjectId.index_inj.1 later
      exact (h.freshObject k).2

/-- A store that repeats another one on a set corresponds to it there, if both hold outside of the
set what the stores that they have come from hold. -/
theorem Stores.of_mirrors_kept {b b' : Option Store} {s s' : Store} (h : s.Mirrors inside r s')
    (left : ∀ origin ∈ b, ∀ n, ¬inside n → origin.AgreesAt s n)
    (right : ∀ origin ∈ b', ∀ n, ¬inside n → origin.AgreesAt s' n) :
    (within inside r).Stores b b' s s' where
  scopes {_ id} := by
    rintro ⟨rfl, member⟩
    rw [h.scopes id member]
    cases found : s.scopes[id.index]? with
    | none => exact .none
    | some scope =>
      refine .some (scopes_within_iff.2 ⟨rfl, fun n refers => ?_⟩)
      exact h.closed _ n member (.scope found refers)
  objects _ id := by
    rintro ⟨rfl, member⟩
    rw [h.objects id member]
    cases found : s.objects[id.index]? with
    | none => exact .none
    | some t =>
      refine .some (tables_within_iff.2 ⟨rfl, fun n refers => ?_⟩)
      exact h.closed _ n member (.object found refers)
  freshScope k := by
    rw [h.counts.scopes]
    exact ⟨rfl, h.fresh _ (Nat.not_lt.2 (Nat.le_add_right _ k))⟩
  freshObject k := by
    rw [h.counts.objects]
    exact ⟨rfl, h.fresh _ (Nat.not_lt.2 (Nat.le_add_right _ k))⟩
  freshIdentity k := congrArg (· + k) h.counts.minted
  left origin given :=
    ⟨fun id outside => left origin given (.scope id) fun member => outside ⟨id, rfl, member⟩,
      fun id outside => left origin given (.object id) fun member => outside ⟨id, rfl, member⟩⟩
  right origin given :=
    ⟨fun id outside => right origin given (.scope id) fun member => outside ⟨id, rfl, member⟩,
      fun id outside => right origin given (.object id) fun member => outside ⟨id, rfl, member⟩⟩

/-- A store that repeats another one on a set corresponds to it there, whatever lies outside. -/
theorem Stores.of_mirrors {s s' : Store} (h : s.Mirrors inside r s') :
    (within inside r).Stores none none s s' :=
  of_mirrors_kept h nofun nofun

end Pairing

end SloScript
