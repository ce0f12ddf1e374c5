import Mathlib.Logic.Relation
import SloScript.Proofs.Mirror

/-!
# Only what can be reached matters

What a program that runs in a scope can get at is what can be reached from that scope: outward along
parents, and through values to the objects that they are and the scopes that functions were declared
in. A program touches nothing else, and nothing else has an influence on it, although the reachable
part changes all the time while it runs. So what is local to a caller, to a finished call or to an
unrelated function cannot be changed or noticed by a function that was not declared inside of it.
The functions of the host are asked to keep to the same rule: they get at what can be reached from
the calling scope and from their arguments. There they may write, and they may make things. As far
as only their influence matters, they may even write elsewhere.

Both facts come from one comparison of two runs, in which everything reachable at the start, and
everything that is made later, stands for itself. For the first fact a run is compared with itself.

Results:
1. `eval_keeps_unreachable`: what cannot be reached stays as it is, and out of reach.
2. `eval_reachable_only`: stores that agree on what can be reached give the same run.
-/

namespace SloScript

namespace Store

/-! ## Reachability -/

/-- Any number of steps from scopes and objects to what they hold. -/
abbrev Reaches (s : Store) : Node → Node → Prop := Relation.ReflTransGen s.LeadsTo

/-- The part of a store that can be reached from a scope or from one of some values. -/
def ReachedBy (s : Store) (scope : ScopeId) (values : List Value) (n : Node) : Prop :=
  s.Reaches (.scope scope) n ∨ ∃ v ∈ values, ∃ m, v.RefersTo m ∧ s.Reaches m n

/-- What can be reached from a scope or from one of some values, or is still to be made. -/
def Near (s : Store) (scope : ScopeId) (values : List Value) (n : Node) : Prop :=
  s.ReachedBy scope values n ∨ ¬s.Holds n

theorem reachedBy_nil {s : Store} {scope : ScopeId} {n : Node} :
    s.ReachedBy scope [] n ↔ s.Reaches (.scope scope) n := by
  simp [ReachedBy]

theorem LeadsTo.holds {s : Store} {m n : Node} (h : s.LeadsTo m n) : s.Holds m := by
  cases h with
  | scope found _ => exact (Array.getElem?_eq_some_iff.1 found).1
  | object found _ => exact (Array.getElem?_eq_some_iff.1 found).1

theorem AgreesAt.holds {s s' : Store} {n : Node} (h : s.AgreesAt s' n) (held : s.Holds n) :
    s'.Holds n := by
  cases n with
  | scope id =>
    have found := Eq.trans h (Array.getElem?_eq_getElem held)
    exact (Array.getElem?_eq_some_iff.1 found).1
  | object id =>
    have found := Eq.trans h (Array.getElem?_eq_getElem held)
    exact (Array.getElem?_eq_some_iff.1 found).1

/-- What a scope or an object leads to depends on what it holds. -/
theorem AgreesAt.leadsTo {s s' : Store} {m n : Node} (h : s.AgreesAt s' m)
    (leads : s.LeadsTo m n) : s'.LeadsTo m n := by
  cases leads with
  | scope found refers => exact .scope (Eq.trans h found) refers
  | object found refers => exact .object (Eq.trans h found) refers

/-- If no step leads out of a set then no path does. -/
theorem Reaches.inside {s : Store} {inside : Node → Prop} {m n : Node} (path : s.Reaches m n)
    (closed : ∀ m n, inside m → s.LeadsTo m n → inside n) (start : inside m) : inside n := by
  induction path with
  | refl => exact start
  | tail _ last ih => exact closed _ _ ih last

/-- What is near is not left by a step. -/
theorem Near.step {s : Store} {scope : ScopeId} {values : List Value} {m n : Node}
    (h : s.Near scope values m) (leads : s.LeadsTo m n) : s.Near scope values n := by
  rcases h with (path | ⟨v, member, k, refers, path⟩) | absent
  · exact .inl (.inl (path.tail leads))
  · exact .inl (.inr ⟨v, member, k, refers, path.tail leads⟩)
  · exact absurd leads.holds absent

theorem near_of_mem {s : Store} {scope : ScopeId} {values : List Value} {v : Value}
    (member : v ∈ values) {n : Node} (refers : v.RefersTo n) : s.Near scope values n :=
  .inl (.inr ⟨v, member, n, refers, .refl⟩)

/-- Nothing is changed outside of a set, and nothing in the set leads out of it afterwards. -/
structure ChangesWithin (inside : Node → Prop) (s s' : Store) : Prop where
  untouched : ∀ n, ¬inside n → s.AgreesAt s' n
  closed : ∀ m n, inside m → s'.LeadsTo m n → inside n

/-- The set may be larger, as long as nothing led out of it before. -/
theorem ChangesWithin.mono {near inside : Node → Prop} {s s' : Store} (h : s.ChangesWithin near s')
    (sub : ∀ n, near n → inside n) (closed : ∀ m n, inside m → s.LeadsTo m n → inside n) :
    s.ChangesWithin inside s' where
  untouched n outside := h.untouched n fun member => outside (sub n member)
  closed m n member leads := by
    by_cases within : near m
    · exact sub n (h.closed m n within leads)
    · exact closed m n member ((h.untouched m within).symm.leadsTo leads)

namespace Mirrors

variable {inside : Node → Prop} {r : Relocation} {s s' : Store}

theorem inside_of_reachedBy (h : s.Mirrors inside r s') {scope : ScopeId} {values : List Value}
    (start : inside (.scope scope)) (refer : ∀ v ∈ values, ∀ n, v.RefersTo n → inside n) {n : Node}
    (reached : s.ReachedBy scope values n) : inside n := by
  rcases reached with path | ⟨v, member, m, refers, path⟩
  · exact path.inside h.closed start
  · exact path.inside h.closed (refer v member m refers)

theorem inside_of_near (h : s.Mirrors inside r s') {scope : ScopeId} {values : List Value}
    (start : inside (.scope scope)) (refer : ∀ v ∈ values, ∀ n, v.RefersTo n → inside n) (n : Node)
    (near : s.Near scope values n) : inside n := by
  rcases near with reached | absent
  · exact h.inside_of_reachedBy start refer reached
  · exact h.fresh n absent

theorem agreesAt (h : s.Mirrors inside .keep s') {n : Node} (member : inside n) :
    s.AgreesAt s' n := by
  cases n with
  | scope id =>
    show s'.scopes[id.index]? = _
    rw [h.scopes id member, funext Scope.relocate_keep, Option.map_id']
  | object id =>
    show s'.objects[id.index]? = _
    rw [h.objects id member, funext Table.map_relocate_keep, Option.map_id']

/-- Stores that agree on a set which nothing leads out of repeat each other there. -/
theorem of_agree (counts : s.SameFresh s') (agree : ∀ n, inside n → s.AgreesAt s' n)
    (closed : ∀ m n, inside m → s.LeadsTo m n → inside n) (fresh : ∀ n, ¬s.Holds n → inside n) :
    s.Mirrors inside .keep s' where
  counts := counts
  scopes id member := by
    rw [funext Scope.relocate_keep, Option.map_id']
    exact agree _ member
  objects id member := by
    rw [funext Table.map_relocate_keep, Option.map_id']
    exact agree _ member
  closed := closed
  fresh := fresh

end Mirrors

/-- Stores that agree on what can be reached repeat each other there. -/
theorem mirrors_near {s s' : Store} {scope : ScopeId} {values : List Value}
    (counts : s.SameFresh s') (agree : ∀ n, s.ReachedBy scope values n → s.AgreesAt s' n) :
    s.Mirrors (s.Near scope values) .keep s' := by
  refine .of_agree counts (fun n near => ?_) (fun m n near leads => near.step leads) fun _ => .inr
  rcases near with reached | absent
  · exact agree n reached
  · -- Neither store holds it.
    cases n with
    | scope id =>
      have absent : s.scopes.size ≤ id.index := Nat.le_of_not_lt absent
      show s'.scopes[id.index]? = s.scopes[id.index]?
      rw [Array.getElem?_eq_none absent, Array.getElem?_eq_none (counts.scopes ▸ absent)]
    | object id =>
      have absent : s.objects.size ≤ id.index := Nat.le_of_not_lt absent
      show s'.objects[id.index]? = s.objects[id.index]?
      rw [Array.getElem?_eq_none absent, Array.getElem?_eq_none (counts.objects ▸ absent)]

end Store

/-! ## The functions of the host -/

/-- A function of the host that keeps to what can be reached from the calling scope and from its
arguments: it changes nothing else, and what it yields and leaves there refers to nothing else but
what it has made. -/
structure HostFunction.StaysInReach (f : HostFunction) : Prop where
  within : ∀ scope args span (st : State),
    st.store.ChangesWithin (st.store.Near scope args) (f scope args span st).2.store
  yields : ∀ scope args span (st : State) v, (f scope args span st).1 = .ok v →
    ∀ n, v.RefersTo n → st.store.Near scope args n

/-- A function of the host that writes to nothing that is there stays in reach, if what it makes and
what it yields refers to what can be reached from its arguments or has been made by it. -/
theorem HostFunction.StaysInReach.of_writes_nothing {f : HostFunction}
    (kept : ∀ scope args span (st : State) n, st.store.Holds n →
      st.store.AgreesAt (f scope args span st).2.store n)
    (made : ∀ scope args span (st : State) m n, ¬st.store.Holds m →
      (f scope args span st).2.store.LeadsTo m n → st.store.Near scope args n)
    (yields : ∀ scope args span (st : State) v, (f scope args span st).1 = .ok v →
      ∀ n, v.RefersTo n → st.store.Near scope args n) : f.StaysInReach where
  within scope args span st := by
    refine ⟨fun n outside => ?_, fun m n near leads => ?_⟩
    · exact kept scope args span st n (not_not.1 fun absent => outside (.inr absent))
    · by_cases held : st.store.Holds m
      · exact near.step ((kept scope args span st m held).symm.leadsTo leads)
      · exact made scope args span st m n held leads
  yields := yields

/-- Runs, from `st` and from `st'`, that yield and print the same, ask for and make as much, and
leave stores that agree on a set. -/
structure RunsAgree (inside : Node → Prop) (st st' : State)
    (run run' : Except EvalError Value × State) : Prop where
  result : run'.1 = run.1
  output : ∃ text, run.2.output = st.output ++ text ∧ run'.2.output = st'.output ++ text
  requests : run'.2.requests = run.2.requests
  fresh : run.2.store.SameFresh run'.2.store
  agree : ∀ n, inside n → run.2.store.AgreesAt run'.2.store n

/-- What a function of the host does depends on its arguments and on what can be reached from them
and from the calling scope. It may write elsewhere as well, say to an object that the host has kept.
But what it yields refers to nothing else than it can reach or has made, and it makes nothing lead
to anything else that it did not reach before. Where two states agree on what the function can
reach, it does the same, and it leaves the same there, and also wherever they agree on all that can
be reached from a place. Nothing vanishes that is out of its reach. -/
structure HostFunction.Lexical (f : HostFunction) : Prop where
  stays : ∀ scope args span (st : State) n, ¬st.store.Near scope args n →
    (f scope args span st).2.store.Holds n
  leads : ∀ scope args span (st : State) m n, (f scope args span st).2.store.LeadsTo m n →
    st.store.Near scope args n ∨ st.store.Reaches m n
  yields : ∀ scope args span (st : State) v, (f scope args span st).1 = .ok v →
    ∀ n, v.RefersTo n → st.store.Near scope args n
  depends : ∀ scope args span (st st' : State), st.store.SameFresh st'.store →
    st'.requests = st.requests →
    (∀ n, st.store.ReachedBy scope args n → st.store.AgreesAt st'.store n) →
    RunsAgree
      (fun n => st.store.Near scope args n ∨
        ∀ k, st.store.Reaches n k → st.store.AgreesAt st'.store k)
      st st' (f scope args span st) (f scope args span st')

namespace Pairing

variable {inside : Node → Prop}

theorem eq_of_values_keep {args args' : List Value}
    (values : List.Forall₂ (within inside .keep).Values args args') :
    args' = args ∧ ∀ v ∈ args, ∀ n, v.RefersTo n → inside n := by
  induction values with
  | nil => exact ⟨rfl, by simp⟩
  | cons head _ ih =>
    obtain ⟨rfl, refer⟩ := values_within_iff.1 head
    rw [Value.relocate_keep, ih.1]
    exact ⟨rfl, List.forall_mem_cons.2 ⟨refer, ih.2⟩⟩

theorem values_keep {args : List Value} (refer : ∀ v ∈ args, ∀ n, v.RefersTo n → inside n) :
    List.Forall₂ (within inside .keep).Values args args := by
  refine List.forall₂_same.2 fun v member => values_within_iff.2 ⟨?_, refer v member⟩
  exact v.relocate_keep.symm

/-- A result corresponds to itself if it refers to nothing outside. -/
theorem Results.same {result : Except EvalError Value}
    (refer : ∀ v, result = .ok v → ∀ n, v.RefersTo n → inside n) :
    (within inside .keep).Results (within inside .keep).Values result result := by
  cases result with
  | error e => exact .error rfl
  | ok v => exact .ok (values_within_iff.2 ⟨v.relocate_keep.symm, refer v rfl⟩)

/-- Results that correspond to each other are the same and refer to nothing outside. -/
theorem Results.eq {result result' : Except EvalError Value}
    (h : (within inside .keep).Results (within inside .keep).Values result result') :
    result' = result ∧ ∀ v ∈ result.toOption.toList, ∀ n, v.RefersTo n → inside n := by
  cases h with
  | error same => exact ⟨congrArg Except.error same.symm, by simp [Except.toOption]⟩
  | ok values =>
    obtain ⟨rfl, refer⟩ := values_within_iff.1 values
    rw [Value.relocate_keep]
    exact ⟨rfl, by simpa [Except.toOption] using refer⟩

namespace Stores

variable {b b' s s' t t' : Store}

/-- What lies outside is what it was at the start. -/
theorem agreesAt_left (h : (within inside .keep).Stores (some b) (some b') s s') {n : Node}
    (outside : ¬inside n) : b.AgreesAt s n := by
  have kept := h.left b rfl
  cases n with
  | scope id => exact kept.scopes id fun ⟨_, _, member⟩ => outside member
  | object id => exact kept.objects id fun ⟨_, _, member⟩ => outside member

theorem agreesAt_right (h : (within inside .keep).Stores (some b) (some b') s s') {n : Node}
    (outside : ¬inside n) : b'.AgreesAt s' n := by
  have kept := h.right b' rfl
  cases n with
  | scope id => exact kept.scopes id fun ⟨_, same, member⟩ => outside (same ▸ member)
  | object id => exact kept.objects id fun ⟨_, same, member⟩ => outside (same ▸ member)

/-- Stores still correspond to each other after changes inside that lead to the same there. -/
theorem change (h : (within inside .keep).Stores (some b) (some b') s s')
    (left : s.ChangesWithin inside t) (right : s'.ChangesWithin inside t')
    (counts : t.SameFresh t') (agree : ∀ n, inside n → t.AgreesAt t' n) :
    (within inside .keep).Stores (some b) (some b') t t' := by
  have fresh (n : Node) (absent : ¬t.Holds n) : inside n := by
    by_contra outside
    have held : s.Holds n := not_not.1 fun none => outside (h.mirrors.fresh n none)
    exact absent ((left.untouched n outside).holds held)
  refine .of_mirrors_kept (.of_agree counts agree left.closed fresh) ?_ ?_
  · rintro _ ⟨rfl⟩ n outside
    exact (h.agreesAt_left outside).trans (left.untouched n outside)
  · rintro _ ⟨rfl⟩ n outside
    exact (h.agreesAt_right outside).trans (right.untouched n outside)

end Stores

end Pairing

open Pairing

namespace Comparison

variable {inside : Node → Prop}

/-- A run that starts from the store `b`, compared with itself on a set of scopes and objects. What
is not in the set is to stay as it was. -/
def itself (inside : Node → Prop) (b : Store) : Comparison where
  toPairing := within inside .keep
  left := some b
  right := some b
  traces := Eq
  traces_print text same := congrArg (Trace.print · text) same
  traces_note e same := congrArg (Trace.note · e) same

/-- Runs that start from the states `b` and `b'`, compared on a set of scopes and objects, and in
what they print. -/
def printing (inside : Node → Prop) (b b' : State) : Comparison where
  toPairing := within inside .keep
  left := none
  right := none
  traces t t' := ∃ text, t.output = b.output ++ text ∧ t'.output = b'.output ++ text
  traces_print more same := by
    obtain ⟨text, left, right⟩ := same
    refine ⟨text ++ more, ?_, ?_⟩
    · rw [Trace.print, left, String.append_assoc]
    · rw [Trace.print, right, String.append_assoc]
  traces_note _ same := same

theorem printing_start {b b' : State} (mirrors : b.store.Mirrors inside .keep b'.store)
    (requests : b'.requests = b.requests) : (printing inside b b').States b b' where
  stores := .of_mirrors mirrors
  traces := ⟨"", by simp [State.trace], by simp [State.trace]⟩
  requests := requests

/-- What is printed on from states that have printed the same is the same as well. -/
theorem printing_more {b b' st st' after after' : State}
    (before : (printing inside b b').traces st.trace st'.trace)
    (more : ∃ text, after.output = st.output ++ text ∧ after'.output = st'.output ++ text) :
    (printing inside b b').traces after.trace after'.trace := by
  obtain ⟨text, left, right⟩ := before
  obtain ⟨more, left', right'⟩ := more
  refine ⟨text ++ more, ?_, ?_⟩
  · rw [← String.append_assoc, ← left]
    exact left'
  · rw [← String.append_assoc, ← right]
    exact right'

/-- A run that is compared with itself stays the same run: what lies inside is repeated, and what
lies outside is what it was. -/
theorem States.eq_self {b : Store} {st st' : State} (h : (itself inside b).States st st') :
    st' = st := by
  have mirrors := h.stores.mirrors
  have everywhere : ∀ n, st.store.AgreesAt st'.store n := by
    intro n
    by_cases member : inside n
    · exact mirrors.agreesAt member
    · exact (h.stores.agreesAt_left member).symm.trans (h.stores.agreesAt_right member)
  have scopes : st'.store.scopes = st.store.scopes :=
    Array.ext_getElem? fun i => everywhere (.scope ⟨i⟩)
  have objects : st'.store.objects = st.store.objects :=
    Array.ext_getElem? fun i => everywhere (.object ⟨i⟩)
  obtain ⟨output, journal, memory⟩ := Trace.mk.inj h.traces
  have requests := h.requests
  have minted := mirrors.counts.minted
  obtain ⟨⟨_, _, _⟩, _, _, _, _⟩ := st
  obtain ⟨⟨_, _, _⟩, _, _, _, _⟩ := st'
  simp_all

/-- Functions that stay in reach do so when a run is compared with itself. -/
theorem answers_of_staysInReach {f : HostFunction} (stays : f.StaysInReach) (b : Store) :
    (itself inside b).Answers f f := by
  rintro _ scope ⟨rfl, member⟩ _ args values span span' place st st' states
  have here : span = span' := place
  subst here
  have mirrors := states.stores.mirrors
  obtain ⟨rfl, refer⟩ := eq_of_values_keep values
  obtain rfl := states.eq_self
  have near := mirrors.inside_of_near member refer
  have changes := (stays.within scope args span st').mono near mirrors.closed
  refine ⟨.same fun v result n refers => ?_, ?_, rfl, rfl⟩
  · exact near n (stays.yields scope args span st' v result n refers)
  · exact states.stores.change changes changes ⟨rfl, rfl, rfl⟩ fun n _ => .refl _ n

/-- Functions that depend on what can be reached do the same on both sides. -/
theorem answers_of_lexical {f : HostFunction} (lexical : f.Lexical) (b b' : State) :
    (printing inside b b').Answers f f := by
  rintro _ scope ⟨rfl, member⟩ _ args values span span' place st st' states
  have here : span = span' := place
  subst here
  have mirrors := states.stores.mirrors
  obtain ⟨rfl, refer⟩ := eq_of_values_keep values
  have near := mirrors.inside_of_near member refer
  have run := lexical.depends scope args span st st' mirrors.counts states.requests fun n reached =>
    mirrors.agreesAt (near n (.inl reached))
  refine ⟨?_, .of_mirrors (.of_agree run.fresh ?_ ?_ ?_), printing_more states.traces run.output,
    run.requests⟩
  · rw [run.result]
    refine .same fun v result n refers => ?_
    exact near n (lexical.yields scope args span st v result n refers)
  · intro n inner
    exact run.agree n (.inr fun k path => mirrors.agreesAt (path.inside mirrors.closed inner))
  · intro m n inner leads
    rcases lexical.leads scope args span st m n leads with reached | path
    · exact near n reached
    · exact path.inside mirrors.closed inner
  · intro n absent
    by_contra outside
    exact absent (lexical.stays scope args span st n fun reached => outside (near n reached))

end Comparison

/-- A function that does corresponding things wherever it is compared with itself depends on what
can be reached only. What is made of the actions of programs does. -/
theorem HostFunction.Lexical.of_answers {f : HostFunction}
    (answers : ∀ inside b b', (Comparison.printing inside b b').Answers f f) : f.Lexical := by
  have compared (scope : ScopeId) (args : List Value) (span : Span) {st st' : State}
      {inside : Node → Prop} (mirrors : st.store.Mirrors inside .keep st'.store)
      (requests : st'.requests = st.requests) (near : ∀ n, st.store.Near scope args n → inside n) :=
    have here : (Comparison.printing inside st st').spans.place span = span := rfl
    answers inside st st' ⟨rfl, near _ (.inl (.inl .refl))⟩
      (values_keep fun _ member n refers => near n (Store.near_of_mem member refers))
      (here.trans here.symm) st st' (Comparison.printing_start mirrors requests)
  have alone (scope : ScopeId) (args : List Value) (span : Span) (st : State) :=
    have mirrors : st.store.Mirrors (st.store.Near scope args) .keep st.store :=
      Store.mirrors_near ⟨rfl, rfl, rfl⟩ fun n _ => .refl _ n
    compared scope args span mirrors (Eq.refl st.requests) fun _ => id
  refine ⟨fun scope args span st n outside => ?_, fun scope args span st m n leads => ?_, ?_, ?_⟩
  · by_contra absent
    exact outside ((alone scope args span st).2.stores.mirrors.fresh n absent)
  · -- What can be reached from `m` is compared as well.
    let inside (k : Node) : Prop := st.store.Near scope args k ∨ st.store.Reaches m k
    have closed (j k : Node) (member : inside j) (step : st.store.LeadsTo j k) : inside k :=
      member.imp (fun near => near.step step) fun path => path.tail step
    have mirrors : st.store.Mirrors inside .keep st.store :=
      .of_agree ⟨rfl, rfl, rfl⟩ (fun n _ => .refl _ n) closed fun n absent => .inl (.inr absent)
    have states := (compared scope args span mirrors rfl fun _ => .inl).2
    exact states.stores.mirrors.closed m n (.inr .refl) leads
  · intro scope args span st v result
    exact (alone scope args span st).1.eq.2 v (by simp [result, Except.toOption])
  · intro scope args span st st' fresh requests agree
    -- So is everything else on which the two states agree.
    let inside (n : Node) : Prop := st.store.Near scope args n ∨
      ∀ k, st.store.Reaches n k → st.store.AgreesAt st'.store k
    have known := Store.mirrors_near fresh agree
    have mirrors : st.store.Mirrors inside .keep st'.store := by
      refine .of_agree fresh (fun n member => ?_) (fun m n member step => ?_) fun n absent => ?_
      · exact member.elim known.agreesAt fun h => h n .refl
      · exact member.imp (fun near => near.step step) fun h k path => h k (path.head step)
      · exact .inl (.inr absent)
    obtain ⟨results, states⟩ := compared scope args span mirrors requests fun _ => .inl
    have after := states.stores.mirrors
    exact ⟨results.eq.1, states.traces, states.requests, after.counts,
      fun n member => after.agreesAt member⟩

/-! ## Whole runs -/

/-- A program changes nothing that cannot be reached from the scope it runs in, whether it ends in a
value or in an error, if the functions of the host stay in reach. What was there before and can be
reached afterwards, from the scope or from the value, could be reached from the scope before. -/
theorem eval_keeps_unreachable (host : Host) (stays : ∀ f ∈ host.callbacks, f.StaysInReach)
    (scope : ScopeId) (p : Program) (st : State) :
    let (result, after) := p.eval host scope st
    (∀ n, st.store.Holds n → ¬st.store.Reaches (.scope scope) n →
      st.store.AgreesAt after.store n) ∧
    ∀ n, st.store.Holds n → after.store.ReachedBy scope result.toOption.toList n →
      st.store.Reaches (.scope scope) n := by
  let inside := st.store.Near scope []
  -- The run is compared with itself, on what it can reach and what it makes.
  have mirrors : st.store.Mirrors inside .keep st.store :=
    Store.mirrors_near ⟨rfl, rfl, rfl⟩ fun n _ => .refl _ n
  have start : (Comparison.itself inside st.store).States st st := by
    refine ⟨.of_mirrors_kept mirrors ?_ ?_, rfl, rfl⟩
    all_goals
      rintro _ ⟨rfl⟩ n -
      exact .refl _ n
  have paired : (within inside .keep).scope scope scope := ⟨rfl, .inl (.inl .refl)⟩
  have hosts : (Comparison.itself inside st.store).Hosts host host :=
    .same fun f member => Comparison.answers_of_staysInReach (stays f member) st.store
  obtain ⟨results, states⟩ := Program.eval_simulates hosts paired p st st start
  have refer := results.eq.2
  have inside_of_held (n : Node) (held : st.store.Holds n) (member : inside n) :
      st.store.Reaches (.scope scope) n :=
    Store.reachedBy_nil.1 (member.resolve_right (not_not_intro held))
  refine ⟨fun n held unreached => ?_, fun n held reached => ?_⟩
  · exact states.stores.agreesAt_left fun member => unreached (inside_of_held n held member)
  · exact inside_of_held n held
      (states.stores.mirrors.inside_of_reachedBy (.inl (.inl .refl)) refer reached)

/-- A function of the host that makes an object which holds its first argument. -/
def HostFunction.wrap : HostFunction := fun _ args _ =>
  Action.newObject (Table.empty.insert "first" (args.headD .null))

/-- What it makes holds an argument, and it writes to nothing that was there. -/
theorem HostFunction.staysInReach_wrap : wrap.StaysInReach := by
  refine .of_writes_nothing (fun scope args span st n held => ?_) ?_ ?_
  · cases n with
    | scope id => exact rfl
    | object id =>
      show (st.store.objects.push _)[id.index]? = _
      rw [Array.getElem?_push, if_neg (Nat.ne_of_lt held)]
  · intro scope args span st m n absent leads
    cases leads with
    | scope found _ => exact absurd (Array.getElem?_eq_some_iff.1 found).1 absent
    | @object id t _ found refers =>
      let made : Table Value := Table.empty.insert "first" (args.headD .null)
      have found : (st.store.objects.push made)[id.index]? = some t := found
      rw [Array.getElem?_push] at found
      split at found
      · obtain rfl := Option.some.inj found
        obtain ⟨key, v, bound, refers⟩ := refers
        rw [Table.get?_insert, Table.get?_empty] at bound
        split at bound
        · obtain rfl := Option.some.inj bound
          cases args with
          | nil => cases refers
          | cons v args => exact Store.near_of_mem List.mem_cons_self refers
        · cases bound
      · exact absurd (Array.getElem?_eq_some_iff.1 found).1 absent
  · rintro scope args span st v ⟨⟩ n ⟨_⟩
    exact .inr (Nat.lt_irrefl _)

/-- The store after a call has ended: the first scope binds an object and a function of the host,
and the scope of the call, which nothing leads to any more, binds a value of its own. -/
def Store.leftBehind (own : Value) : Store where
  scopes := #[
    ⟨none, (Table.empty.insert "g" ⟨.native ⟨0, "g", some 1, .hosted 0⟩, true⟩).insert "o"
      ⟨.object ⟨0⟩, false⟩⟩,
    ⟨some ⟨0⟩, Table.empty.insert "own" ⟨own, false⟩⟩]
  objects := #[.empty, .empty]
  minted := 1

theorem Store.leftBehind_reaches {own : Value} {n : Node}
    (path : (leftBehind own).Reaches (.scope ⟨0⟩) n) : n = .scope ⟨0⟩ ∨ n = .object ⟨0⟩ := by
  suffices closed : ∀ m n : Node, m = .scope ⟨0⟩ ∨ m = .object ⟨0⟩ →
      (leftBehind own).LeadsTo m n → n = .scope ⟨0⟩ ∨ n = .object ⟨0⟩ from
    path.inside closed (.inl rfl)
  rintro _ n (rfl | rfl) leads
  · obtain @⟨_, scope, _, found, refers⟩ := leads
    obtain rfl : Scope.mk _ (Table.insert _ _ _) = scope := Option.some.inj found
    obtain parent | @⟨name, b, _, bound, refers⟩ := refers
    · cases parent
    · rw [Table.get?_insert, Table.get?_insert, Table.get?_empty] at bound
      split at bound
      · cases bound
        cases refers
        exact .inr rfl
      · split at bound
        · cases bound
          cases refers
        · cases bound
  · obtain ⟨⟩ | @⟨_, t, _, found, key, v, bound, -⟩ := leads
    obtain rfl := Option.some.inj found
    cases bound

/-- A function of the host makes an object that holds `o`, and `o` is made to hold that object in
turn. Another object, which only a scope left behind refers to, is not touched by this. -/
theorem eval_keeps_unreachable_object :
    let host : Host := ⟨2, fun _ => ⟨0, 0, 0, 1, 1, 2000⟩, fun _ => 0, fun _ => none, #[.wrap]⟩
    let name (text : String) : Ident := ⟨text, .nowhere⟩
    let call : Expr := .call (.name (name "g")) [.name (name "o")] .nowhere
    let p : Program :=
      [.expr (.assign (.member (.name (name "o")) (name "x") .nowhere) call .nowhere)]
    let st : State := { State.initial with store := .leftBehind (.object ⟨1⟩) }
    let after := (p.eval host ⟨0⟩ st).2
    HostFunction.wrap.StaysInReach ∧ st.store.Holds (.object ⟨1⟩) ∧
      ¬st.store.Reaches (.scope ⟨0⟩) (.object ⟨1⟩) ∧
      after.store.property ⟨0⟩ "x" = .object ⟨2⟩ ∧
      after.store.property ⟨2⟩ "first" = .object ⟨0⟩ ∧
      st.store.AgreesAt after.store (.object ⟨1⟩) := by
  intro host name call p st after
  have stays := HostFunction.staysInReach_wrap
  have held : st.store.Holds (.object ⟨1⟩) := Nat.one_lt_two
  have unreached : ¬st.store.Reaches (.scope ⟨0⟩) (.object ⟨1⟩) := by
    intro path
    simpa using Store.leftBehind_reaches path
  refine ⟨stays, held, unreached, by with_unfolding_all rfl, by with_unfolding_all rfl, ?_⟩
  exact (eval_keeps_unreachable host (by simpa [host] using stays) ⟨0⟩ p st).1 _ held unreached

/-- A program does the same in stores that agree on what can be reached from the scope it runs in,
if the functions of the host depend on what can be reached: it yields the same, it prints the same,
and it leaves stores that agree on what can be reached from the scope and from the value. -/
theorem eval_reachable_only (host : Host) (lexical : ∀ f ∈ host.callbacks, f.Lexical)
    (scope : ScopeId) (p : Program) (st st' : State) (fresh : st.store.SameFresh st'.store)
    (requests : st'.requests = st.requests)
    (agree : ∀ n, st.store.Reaches (.scope scope) n → st.store.AgreesAt st'.store n) :
    let (result, after) := p.eval host scope st
    let (result', after') := p.eval host scope st'
    result' = result ∧
      (∃ text, after.output = st.output ++ text ∧ after'.output = st'.output ++ text) ∧
      after.store.SameFresh after'.store ∧
      ∀ n, after.store.ReachedBy scope result.toOption.toList n →
        after.store.AgreesAt after'.store n := by
  let inside := st.store.Near scope []
  have mirrors : st.store.Mirrors inside .keep st'.store :=
    Store.mirrors_near fresh fun n reached => agree n (Store.reachedBy_nil.1 reached)
  have start := Comparison.printing_start mirrors requests
  have paired : (within inside .keep).scope scope scope := ⟨rfl, .inl (.inl .refl)⟩
  have hosts : (Comparison.printing inside st st').Hosts host host :=
    .same fun f member => Comparison.answers_of_lexical (lexical f member) st st'
  have run := Program.eval_simulates hosts paired p st st' start
  rw [show (Comparison.printing inside st st').spans = .keep from rfl, relocateBody_keep] at run
  obtain ⟨results, states⟩ := run
  have mirrors := states.stores.mirrors
  obtain ⟨same, refer⟩ := results.eq
  refine ⟨same, states.traces, mirrors.counts, fun n reached => mirrors.agreesAt ?_⟩
  exact mirrors.inside_of_reachedBy (.inl (.inl .refl)) refer reached

/-- A function of the host that makes an object which holds its first argument, and makes this
argument refer to the new object in turn. -/
def HostFunction.adopt : HostFunction := fun _ args _ => do
  let made ← Action.newObject (Table.empty.insert "first" (args.headD .null))
  match args.headD .null with
  | .object id => Action.setProperty id "owner" made
  | _ => pure made

/-- It is made of the actions of programs. -/
theorem HostFunction.lexical_adopt : adopt.Lexical := by
  refine .of_answers fun inside b b' scope scope' paired args args' values _ _ _ => ?_
  have first := Values.headD values
  refine .bind (.newObject (.insert .empty "first" first)) fun made made' related => ?_
  generalize args.headD .null = v, args'.headD .null = v' at first
  cases first with
  | object held => exact .setProperty held "owner" related
  | _ => exact .pure related

/-- What a scope that was left behind binds makes no difference to a program that runs outside of
it, which gets an object from a function of the host that also writes to another one. -/
theorem eval_reachable_only_left_behind :
    let host : Host := ⟨2, fun _ => ⟨0, 0, 0, 1, 1, 2000⟩, fun _ => 0, fun _ => none, #[.adopt]⟩
    let name (text : String) : Ident := ⟨text, .nowhere⟩
    let p : Program := [.expr (.call (.name (name "g")) [.name (name "o")] .nowhere)]
    let st (own : Value) : State := { State.initial with store := .leftBehind own }
    let run (own : Value) := p.eval host ⟨0⟩ (st own)
    HostFunction.adopt.Lexical ∧ (st .null).store.SameFresh (st (.bool true)).store ∧
      (∀ n, (st .null).store.Reaches (.scope ⟨0⟩) n →
        (st .null).store.AgreesAt (st (.bool true)).store n) ∧
      (run .null).1 = .ok (.object ⟨2⟩) ∧ (run .null).2.store.property ⟨0⟩ "owner" = .object ⟨2⟩ ∧
      (run (.bool true)).1 = (run .null).1 ∧
      (run (.bool true)).2.store.objects[2]? = (run .null).2.store.objects[2]? := by
  intro host name p st run
  have lexical := HostFunction.lexical_adopt
  have fresh : (st .null).store.SameFresh (st (.bool true)).store := ⟨rfl, rfl, rfl⟩
  have agree : ∀ n, (st .null).store.Reaches (.scope ⟨0⟩) n →
      (st .null).store.AgreesAt (st (.bool true)).store n := by
    intro n path
    rcases Store.leftBehind_reaches path with rfl | rfl <;> rfl
  have yields : (run .null).1 = .ok (.object ⟨2⟩) := by with_unfolding_all rfl
  have writes : (run .null).2.store.property ⟨0⟩ "owner" = .object ⟨2⟩ := by
    with_unfolding_all rfl
  have reached : (run .null).2.store.ReachedBy ⟨0⟩ (run .null).1.toOption.toList (.object ⟨2⟩) := by
    rw [yields]
    exact .inr ⟨.object ⟨2⟩, List.mem_singleton.2 rfl, _, .object ⟨2⟩, .refl⟩
  obtain ⟨same, -, -, agrees⟩ :=
    eval_reachable_only host (by simpa [host] using lexical) ⟨0⟩ p _ _ fresh rfl agree
  exact ⟨lexical, fresh, agree, yields, writes, same, agrees (.object ⟨2⟩) reached⟩

end SloScript
