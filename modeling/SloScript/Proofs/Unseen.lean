import SloScript.Proofs.Noninterference
import SloScript.Session

/-!
# What is printed and noted is not seen

A run adds to the output and to the journal and never looks at them. So from two states with the
same store, in which the host will answer the same, a run does the same: it yields the same, leaves
the same store, and prints the same, whatever was printed and noted before. The host's own functions
are asked for as much: what they do is to depend on their arguments, the calling scope and the
store, and not on what they remember.
-/

namespace SloScript

/-- Runs, from `st` and from `st'`, that are the same but for what was printed and noted before and
for what functions of the host remember. -/
structure RunsSame {α : Type} (st st' : State) (run run' : α × State) : Prop where
  result : run'.1 = run.1
  store : run'.2.store = run.2.store
  output : ∃ text, run.2.output = st.output ++ text ∧ run'.2.output = st'.output ++ text
  requests : run'.2.requests = run.2.requests

/-- States in which nothing but the output, the journal and what functions of the host remember may
differ. -/
structure State.SameBut (st st' : State) : Prop where
  store : st'.store = st.store
  requests : st'.requests = st.requests

theorem RunsSame.sameBut {α : Type} {st st' : State} {run run' : α × State}
    (h : RunsSame st st' run run') : run.2.SameBut run'.2 :=
  ⟨h.store, h.requests⟩

/-- What a function of the host does depends on its arguments, the calling scope and the store. -/
def HostFunction.ReadsStore (f : HostFunction) : Prop :=
  ∀ scope args span (st st' : State), st.SameBut st' →
    RunsSame st st' (f scope args span st) (f scope args span st')

namespace Pairing

/-- Every scope and every object stands for itself, with all spans. -/
abbrev identical : Pairing := within (fun _ => True) .keep

theorem Stores.eq_of_identical {s s' : Store} (h : identical.Stores none none s s') : s' = s := by
  have mirrors := h.mirrors
  have scopes : s'.scopes = s.scopes :=
    Array.ext_getElem? fun i => mirrors.agreesAt (n := .scope ⟨i⟩) trivial
  have objects : s'.objects = s.objects :=
    Array.ext_getElem? fun i => mirrors.agreesAt (n := .object ⟨i⟩) trivial
  have minted := mirrors.counts.minted
  obtain ⟨_, _, _⟩ := s
  obtain ⟨_, _, _⟩ := s'
  simp_all

theorem Stores.identical_of_eq {s s' : Store} (same : s' = s) :
    identical.Stores none none s s' := by
  subst same
  refine .of_mirrors (.of_agree ⟨rfl, rfl, rfl⟩ (fun n _ => .refl _ n) ?_ ?_)
  · exact fun _ _ _ _ => trivial
  · exact fun _ _ => trivial

theorem scope_identical (scope : ScopeId) : identical.scope scope scope := ⟨rfl, trivial⟩

theorem values_identical (args : List Value) : List.Forall₂ identical.Values args args :=
  values_keep fun _ _ _ _ => trivial

end Pairing

open Pairing

namespace Comparison

/-- Runs from `b` and from `b'` in which every scope and every object stands for itself. -/
abbrev everything (b b' : State) : Comparison := printing (fun _ => True) b b'

/-- A function that looks at the store only does the same on both sides. -/
theorem answers_of_readsStore {f : HostFunction} (reads : f.ReadsStore) (b b' : State) :
    (everything b b').Answers f f := by
  rintro _ scope ⟨rfl, -⟩ _ args values span span' place st st' states
  have here : span = span' := place
  subst here
  obtain ⟨rfl, -⟩ := eq_of_values_keep (show List.Forall₂ identical.Values _ args from values)
  have run := reads scope args span st st' ⟨states.stores.eq_of_identical, states.requests⟩
  refine ⟨?_, .identical_of_eq run.store, printing_more states.traces run.output, run.requests⟩
  rw [run.result]
  exact .same fun _ _ _ _ => trivial

theorem hosts_everything {host : Host} (reads : ∀ f ∈ host.callbacks, f.ReadsStore)
    (b b' : State) : (everything b b').Hosts host host :=
  .same fun f member => answers_of_readsStore (reads f member) b b'

theorem calls_everything {host : Host} (reads : ∀ f ∈ host.callbacks, f.ReadsStore)
    (b b' : State) :
    Evaluator.CallsSimulate (everything b b') (callValue host) (callValue host) :=
  Evaluator.invoke_simulates (hosts_everything reads b b') host.limit

end Comparison

namespace State.SameBut

open Comparison

variable {st st' : State}

/-- What is simulated from equal stores is the same. -/
theorem runsSame (h : st.SameBut st') {m : Action Value}
    (simulates : (everything st st').Simulates identical.Values m m) :
    RunsSame st st' (m st) (m st') := by
  have start : (everything st st').States st st' :=
    ⟨.identical_of_eq h.store, ⟨"", by simp [State.trace], by simp [State.trace]⟩, h.requests⟩
  obtain ⟨results, states⟩ := simulates st st' start
  exact ⟨results.eq.1, states.stores.eq_of_identical, states.traces, states.requests⟩

variable {host : Host} (reads : ∀ f ∈ host.callbacks, f.ReadsStore)

include reads

/-- A statement does the same. -/
theorem stmt_same (h : st.SameBut st') (scope : ScopeId) (s : Stmt) :
    RunsSame st st' (Evaluator.evalStmt (callValue host) scope s st)
      (Evaluator.evalStmt (callValue host) scope s st') := by
  have simulates := Evaluator.evalStmt_simulates (calls_everything reads st st')
    (scope_identical scope) s
  rw [show (everything st st').spans = .keep from rfl, Stmt.relocate_keep] at simulates
  exact h.runsSame simulates

/-- A program does the same. -/
theorem eval_same (h : st.SameBut st') (scope : ScopeId) (p : Program) :
    RunsSame st st' (p.eval host scope st) (p.eval host scope st') := by
  have simulates := Program.eval_simulates (hosts_everything reads st st')
    (scope_identical scope) p
  rw [show (everything st st').spans = .keep from rfl, relocateBody_keep] at simulates
  exact h.runsSame simulates

/-- A source text does the same. -/
theorem evalSource_same (h : st.SameBut st') (scope : ScopeId) (source : String) :
    RunsSame st st' (st.evalSource host scope source) (st'.evalSource host scope source) := by
  have unread : ∃ text, st.output = st.output ++ text ∧ st'.output = st'.output ++ text :=
    ⟨"", by simp, by simp⟩
  unfold evalSource
  cases tokenize source with
  | error e => exact ⟨rfl, h.store, unread, h.requests⟩
  | ok tokens =>
    dsimp only
    cases parseTokens tokens with
    | error e => exact ⟨rfl, h.store, unread, h.requests⟩
    | ok p =>
      let noted (st : State) : State :=
        (st.record (.tokensProduced tokens.length)).record (.statementsParsed p.length)
      have states : (noted st).SameBut (noted st') := ⟨h.store, h.requests⟩
      have same := states.eval_same reads scope p
      dsimp only [noted] at same ⊢
      generalize p.eval host scope _ = run at same ⊢
      generalize p.eval host scope _ = run' at same ⊢
      obtain ⟨result, after⟩ := run
      obtain ⟨result', after'⟩ := run'
      obtain rfl : result' = result := same.result
      cases result' <;> exact ⟨rfl, same.store, same.output, same.requests⟩

end State.SameBut

end SloScript
