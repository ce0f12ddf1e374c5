import SloScript.Proofs.Change

/-!
# Nothing is taken back

A state only grows while a program runs. A scope keeps its parent and every name it binds, as a
constant or as a variable just as before; what a constant stands for never changes, although the
object it stands for may. An object keeps its keys, and what has been printed stays printed. This
holds for runs that stop with an error just as for those that yield a value.

The relation `State.Grows` is reflexive and transitive, every `Change` respects it, and evaluation
is a chain of changes, so the last section only puts these together.
-/

namespace SloScript

/-! ## Growing states -/

/-- A binding is of the same sort as before, and if it is a constant it has the same value. -/
structure Binding.Kept (before after : Binding) : Prop where
  constant : after.constant = before.constant
  value : before.constant = true → after.value = before.value

/-- A scope has the same parent as before and binds every name that it bound. -/
structure Scope.Kept (before after : Scope) : Prop where
  parent : after.parent = before.parent
  bindings : ∀ name b, before.bindings.get? name = some b →
    ∃ b', after.bindings.get? name = some b' ∧ b.Kept b'

/-- An object has every key that it had. -/
def Table.KeysKept (before after : Table Value) : Prop :=
  ∀ key, before.contains key = true → after.contains key = true

/-- Every scope and every object of a state is still there in a later one, and the later output
continues the earlier one. -/
structure State.Grows (before after : State) : Prop where
  scopes : ∀ (i : Nat) scope, before.store.scopes[i]? = some scope →
    ∃ scope', after.store.scopes[i]? = some scope' ∧ scope.Kept scope'
  objects : ∀ (i : Nat) table, before.store.objects[i]? = some table →
    ∃ table', after.store.objects[i]? = some table' ∧ table.KeysKept table'
  output : ∃ text, after.output = before.output ++ text

namespace Binding.Kept

theorem refl (b : Binding) : b.Kept b := ⟨rfl, fun _ => rfl⟩

theorem trans {a b c : Binding} (first : a.Kept b) (last : b.Kept c) : a.Kept c where
  constant := last.constant.trans first.constant
  value h := (last.value (first.constant.trans h)).trans (first.value h)

end Binding.Kept

namespace Scope.Kept

theorem refl (s : Scope) : s.Kept s := ⟨rfl, fun _ b h => ⟨b, h, .refl b⟩⟩

theorem trans {a b c : Scope} (first : a.Kept b) (last : b.Kept c) : a.Kept c where
  parent := last.parent.trans first.parent
  bindings name x h := by
    obtain ⟨y, hy, hxy⟩ := first.bindings name x h
    obtain ⟨z, hz, hyz⟩ := last.bindings name y hy
    exact ⟨z, hz, hxy.trans hyz⟩

/-- Binding a name keeps a scope if the name was not bound before, or was a variable and stays
one. -/
theorem insert (s : Scope) {name : String} {b : Binding}
    (h : ∀ old, s.bindings.get? name = some old → old.Kept b) :
    s.Kept { s with bindings := s.bindings.insert name b } where
  parent := rfl
  bindings other old hold := by
    rw [Table.get?_insert]
    split
    · next same => exact ⟨b, rfl, h old (same ▸ hold)⟩
    · exact ⟨old, hold, .refl old⟩

end Scope.Kept

namespace Table.KeysKept

theorem refl (t : Table Value) : t.KeysKept t := fun _ h => h

theorem trans {a b c : Table Value} (first : a.KeysKept b) (last : b.KeysKept c) : a.KeysKept c :=
  fun key h => last key (first key h)

theorem insert (t : Table Value) (key : String) (value : Value) :
    t.KeysKept (t.insert key value) := by
  intro other h
  unfold contains at h ⊢
  rw [get?_insert]
  split
  · rfl
  · exact h

end Table.KeysKept

namespace State.Grows

theorem refl (st : State) : st.Grows st where
  scopes _ s h := ⟨s, h, .refl s⟩
  objects _ t h := ⟨t, h, .refl t⟩
  output := ⟨"", by simp⟩

theorem trans {a b c : State} (first : a.Grows b) (last : b.Grows c) : a.Grows c where
  scopes i s h := by
    obtain ⟨s', h', hs⟩ := first.scopes i s h
    obtain ⟨s'', h'', hs'⟩ := last.scopes i s' h'
    exact ⟨s'', h'', hs.trans hs'⟩
  objects i t h := by
    obtain ⟨t', h', ht⟩ := first.objects i t h
    obtain ⟨t'', h'', ht'⟩ := last.objects i t' h'
    exact ⟨t'', h'', ht.trans ht'⟩
  output := by
    obtain ⟨text, h⟩ := first.output
    obtain ⟨more, h'⟩ := last.output
    exact ⟨text ++ more, by rw [h', h, String.append_assoc]⟩

/-! ## One change -/

/-- A state that has the same scopes, objects and output has grown. -/
theorem of_same {st st' : State} (hs : st'.store.scopes = st.store.scopes)
    (ho : st'.store.objects = st.store.objects) (ht : st'.output = st.output) : st.Grows st' where
  scopes _ s h := ⟨s, hs ▸ h, .refl s⟩
  objects _ t h := ⟨t, ho ▸ h, .refl t⟩
  output := ⟨"", by simp [ht]⟩

/-- Binding a name in one scope is growth if what the name stood for there is kept. -/
theorem of_bindIn (st : State) {id : ScopeId} {name : String} {b : Binding}
    (h : ∀ old, st.store.binding? id name = some old → old.Kept b) :
    st.Grows { st with store := st.store.bindIn id name b } where
  scopes i s hi := by
    simp only [Store.bindIn, Array.getElem?_modify]
    split
    · next same =>
      subst same
      refine ⟨_, by rw [hi]; rfl, .insert s fun old hold => h old ?_⟩
      simp [Store.binding?, hi, hold]
    · exact ⟨s, hi, .refl s⟩
  objects _ t ht := ⟨t, ht, .refl t⟩
  output := ⟨"", by simp⟩

/-- What an assignment finds is a variable, which it keeps as one. -/
theorem kept_of_isConstant_eq_false {s : Store} {id : ScopeId} {name : String} {old : Binding}
    (hk : s.isConstant id name = false) (h : s.binding? id name = some old) (value : Value) :
    old.Kept ⟨value, false⟩ := by
  have hold : old.constant = false := by simpa [Store.isConstant, h] using hk
  exact ⟨hold.symm, fun hc => by simp [hold] at hc⟩

variable {foreign : State → State → Prop} {own : ScopeId → Prop}

/-- Every change is growth, if what comes from outside is. -/
theorem of_change (outside : ∀ st st', foreign st st' → st.Grows st') {st st' : State}
    (hc : Change foreign own st st') : st.Grows st' := by
  cases hc with
  | note e => exact of_same rfl rfl rfl
  | answer => exact of_same rfl rfl rfl
  | mint count => exact of_same rfl rfl rfl
  | print text =>
    exact ⟨fun _ s h => ⟨s, h, .refl s⟩, fun _ t h => ⟨t, h, .refl t⟩, text, rfl⟩
  | declare b _ hb =>
    -- The scope does not bind the name yet, so there is no old binding to keep.
    refine of_bindIn st fun old h => ?_
    simp [Store.binds, h] at hb
  | assign value _ hk =>
    exact of_bindIn st fun old h => kept_of_isConstant_eq_false hk h value
  | newScope parent =>
    refine ⟨fun i s h => ⟨s, ?_, .refl s⟩, fun _ t h => ⟨t, h, .refl t⟩, "", by simp⟩
    have hi := (Array.getElem?_eq_some_iff.1 h).1
    simp only [Store.addScope, Array.getElem?_push, Nat.ne_of_lt hi, if_false, h]
  | newObject properties =>
    refine ⟨fun _ s h => ⟨s, h, .refl s⟩, fun i t h => ⟨t, ?_, .refl t⟩, "", by simp⟩
    have hi := (Array.getElem?_eq_some_iff.1 h).1
    simp only [Store.addObject, Array.getElem?_push, Nat.ne_of_lt hi, if_false, h]
  | setProperty id key value =>
    refine ⟨fun _ s h => ⟨s, h, .refl s⟩, fun i t h => ?_, "", by simp⟩
    simp only [Store.setProperty, Array.getElem?_modify]
    split
    · exact ⟨_, by rw [h]; rfl, .insert t key value⟩
    · exact ⟨t, h, .refl t⟩
  | hosted step => exact outside st st' step

/-! ## Whole runs -/

/-- A chain of changes is growth. -/
theorem of_changes (outside : ∀ st st', foreign st st' → st.Grows st') {st st' : State}
    (h : Changes foreign own st st') : st.Grows st' := by
  induction h with
  | refl => exact .refl st
  | tail _ hc ih => exact ih.trans (of_change outside hc)

end State.Grows

/-- A function of the host that touches neither scopes nor objects and prints nothing. It may fail,
answer as it likes, and remember whatever it wants. -/
structure HostFunction.TouchesNothing (f : HostFunction) : Prop where
  scopes : ∀ scope args span st, (f scope args span st).2.store.scopes = st.store.scopes
  objects : ∀ scope args span st, (f scope args span st).2.store.objects = st.store.objects
  output : ∀ scope args span st, (f scope args span st).2.output = st.output

theorem HostFunction.TouchesNothing.keepsScopes {f : HostFunction} (h : f.TouchesNothing) :
    f.KeepsScopes :=
  fun scope args span st => Nat.le_of_eq (congrArg Array.size (h.scopes scope args span st).symm)

/-- A step of functions that touch nothing is growth. -/
theorem Host.Does.grows {host : Host} (touches : ∀ f ∈ host.callbacks, f.TouchesNothing)
    {st st' : State} (step : host.Does st st') : st.Grows st' := by
  obtain ⟨f, member, scope, args, span, rfl⟩ := step
  have still := touches f member
  exact .of_same (still.scopes scope args span st) (still.objects scope args span st)
    (still.output scope args span st)

/-- Running a program in any scope, and calling any value with any arguments, only lets the state
grow: scopes keep their parents and names, constants their values, objects their keys, and the
output what it holds. It does not matter how many calls may be nested, nor whether the run ends
with a value or with an error. -/
theorem evaluation_grows (host : Host) (touches : ∀ f ∈ host.callbacks, f.TouchesNothing)
    (scope : ScopeId) (st : State) :
    (∀ p : Program, st.Grows (p.eval host scope st).2) ∧
    ∀ (callee : Value) (args : List Value) (span : Span),
      st.Grows (callValue host callee args scope span st).2 := by
  have keeps (f : HostFunction) (member : f ∈ host.callbacks) := (touches f member).keepsScopes
  have outside (st st' : State) (step : host.Does st st') : st.Grows st' := step.grows touches
  exact ⟨fun p => .of_changes outside (p.eval_confined keeps scope st),
    fun callee args span =>
      .of_changes outside (callValue_confined keeps callee args scope span st)⟩

/-- A function of the host that notes each call and yields how many there were. It keeps the count
for itself, so that a state holding an object has grown after any call of it. -/
theorem evaluation_grows_counter :
    let counter : HostFunction := fun _ _ _ st =>
      (.ok (.number (.ofNat st.memory.length)), { st with memory := .null :: st.memory })
    let host : Host := ⟨200, fun _ => ⟨0, 0, 0, 1, 1, 2026⟩, fun _ => 0, fun _ => none, #[counter]⟩
    let st : State :=
      { State.initial with store := ⟨#[⟨none, .empty⟩], #[Table.empty.insert "a" .null], 0⟩ }
    let native : Value := .native ⟨0, "Stej", none, .hosted 0⟩
    let run := callValue host native [.null] ⟨0⟩ ⟨1, 1, 1, 1⟩ st
    st.Grows run.2 ∧ run.1.isOk = true ∧ run.2.memory = [.null] := by
  intro counter host st native run
  have touches (f : HostFunction) (member : f ∈ host.callbacks) : f.TouchesNothing := by
    obtain rfl : f = counter := by simpa [host] using member
    exact ⟨fun _ _ _ _ => rfl, fun _ _ _ _ => rfl, fun _ _ _ _ => rfl⟩
  exact ⟨(evaluation_grows host touches ⟨0⟩ st).2 native [.null] ⟨1, 1, 1, 1⟩, rfl, rfl⟩

end SloScript
