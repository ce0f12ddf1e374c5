import SloScript.Proofs.Growth
import SloScript.Proofs.Installation
import SloScript.Proofs.Piecewise
import SloScript.Proofs.Unseen
import SloScript.Repl

/-!
# The names of a dialogue

A dialogue is a sequence of lines and resets. Some lines cannot be read, some fail on the way, and
some declare names inside branches and functions only. The list of names that the user declared is
kept by none of them: it is read off the global scope, from which the prelude is left out.

Results:
1. `Session.binds_eval`: the names that a text adds are those that its completed statements declare.
2. `Repl.listed_eq`, `Repl.mem_declared_iff`: what is listed, in terms of the global scope.
3. `Repl.after_continues`: whatever was done, the global scope has only grown since the start or the
   last reset.
4. `Repl.SameAfter.evalLines`: what was printed and noted before a line makes no difference to it.
5. `Repl.dialogue_invariant`: all of it together.
-/

namespace SloScript

/-! ## Statements that are completed -/

/-- The statements of a program that yield a value when it is run, up to the first one that
fails. -/
def Program.completed (host : Host) (scope : ScopeId) : State → Program → List Stmt
  | _, [] => []
  | st, s :: rest =>
    match Evaluator.evalStmt (callValue host) scope s st with
    | (.ok _, after) => s :: completed host scope after rest
    | (.error _, _) => []

namespace Evaluator

variable {foreign : State → State → Prop} {call : Caller} {scope : ScopeId} {st after : State}

theorem not_binds_of_declareAt {id : Ident} {v w : Value} {constant : Bool}
    (h : declareAt scope id v constant st = (.ok w, after)) :
    st.store.binds scope id.name = false := by
  unfold declareAt Action.locate Action.declare Action.bindIn at h
  cases place : st.store.declaringScope scope id.name with
  | error fault =>
    simp only [place] at h
    cases h
  | ok owner => exact (Store.declaringScope_eq_ok.1 place).2

/-- A declaration succeeds only for a name that was not bound before its value was computed. -/
theorem not_binds_of_bind_declareAt (outside : ∀ st st', foreign st st' → st.KeepsNames st')
    {α : Type} {m : Action α} (hm : m.Confined foreign noScope) (present : ¬st.Fresh scope)
    {id : Ident} {f : α → Value} {w : Value} {constant : Bool}
    (h : (m >>= fun a => declareAt scope id (f a) constant) st = (.ok w, after)) :
    st.store.binds scope id.name = false := by
  have kept := hm.keepsNames outside st scope present id.name
  rw [Action.bind_run] at h
  generalize m st = run at h kept
  obtain ⟨e | a, mid⟩ := run
  · cases h
  · exact kept ▸ not_binds_of_declareAt h

/-- A statement succeeds only if the name that it declares was not bound before. -/
theorem not_binds_of_evalStmt (outside : ∀ st st', foreign st st' → st.KeepsNames st')
    (calls : CallConfined foreign call) (present : ¬st.Fresh scope) {s : Stmt}
    {v : Value} (h : evalStmt call scope s st = (.ok v, after)) {name : String}
    (declared : s.declared? = some name) : st.store.binds scope name = false := by
  cases s with
  | letVar id init span =>
    obtain rfl := Option.some.inj declared
    cases init with
    | none => exact not_binds_of_declareAt (by rwa [evalStmt] at h)
    | some init =>
      rw [evalStmt] at h
      exact not_binds_of_bind_declareAt outside (evalExpr_confined calls scope init) present h
  | letConst id init span =>
    obtain rfl := Option.some.inj declared
    rw [evalStmt] at h
    exact not_binds_of_bind_declareAt outside (evalExpr_confined calls scope init) present h
  | function id params body span =>
    obtain rfl := Option.some.inj declared
    rw [evalStmt] at h
    exact not_binds_of_bind_declareAt outside (.mint 1) present h
  | branch test yes no span => cases declared
  | expr e => cases declared

end Evaluator

namespace Program

variable {host : Host} {scope : ScopeId}

section

variable (declares : ∀ f ∈ host.callbacks, f.DeclaresNothing)

include declares

/-- A run adds the names that its completed statements declare, and no other. -/
theorem binds_evalBody (p : Program) {st : State} (present : ¬st.Fresh scope) (last : Value)
    (name : String) :
    (Evaluator.evalBody (callValue host) scope last p st).2.store.binds scope name = true ↔
      st.store.binds scope name = true ∨
        ∃ s ∈ p.completed host scope st, s.declared? = some name := by
  have calls := callValue_confined fun f member => (declares f member).keepsScopes
  induction p generalizing st last with
  | nil => simp [Evaluator.evalBody, completed, Action.pure_run]
  | cons s rest ih =>
    have first := Evaluator.evalStmt_declares (fun _ _ => Host.Does.keepsNames declares) calls scope
      s st scope present name
    have grown := ((Evaluator.evalStmt_confined calls scope s) st).size_le
    rw [Evaluator.evalBody, Action.bind_run, completed]
    generalize Evaluator.evalStmt (callValue host) scope s st = run at first grown ⊢
    obtain ⟨e | v, mid⟩ := run
    · simpa using first
    · have still : ¬mid.Fresh scope := fun fresh => present (Nat.le_trans grown fresh)
      refine (ih still v).trans ?_
      rw [first]
      simp [or_assoc]

/-- What a completed statement declares was not bound before the run. -/
theorem not_binds_of_completed (p : Program) {st : State} (present : ¬st.Fresh scope) {s : Stmt}
    (member : s ∈ p.completed host scope st) {name : String} (h : s.declared? = some name) :
    st.store.binds scope name = false := by
  have calls := callValue_confined fun f member => (declares f member).keepsScopes
  have outside (st st' : State) (step : host.Does st st') : st.KeepsNames st' :=
    step.keepsNames declares
  induction p generalizing st with
  | nil => cases member
  | cons first rest ih =>
    have adds := Evaluator.evalStmt_declares outside calls scope first st scope present name
    have grown := ((Evaluator.evalStmt_confined calls scope first) st).size_le
    rw [completed] at member
    cases run : Evaluator.evalStmt (callValue host) scope first st with
    | mk result mid =>
      rw [run] at member adds grown
      cases result with
      | error e => cases member
      | ok v =>
        rcases List.mem_cons.1 member with rfl | later
        · exact Evaluator.not_binds_of_evalStmt outside calls present run h
        · have still : ¬mid.Fresh scope := fun fresh => present (Nat.le_trans grown fresh)
          have unbound := ih still later
          exact Bool.eq_false_iff.2 fun bound => by simp [adds.2 (.inl bound)] at unbound

end

/-- If a run yields a value, all statements were completed. -/
theorem completed_of_ok (p : Program) {st after : State} {last v : Value}
    (run : Evaluator.evalBody (callValue host) scope last p st = (.ok v, after)) :
    p.completed host scope st = p := by
  induction p generalizing st last with
  | nil => rfl
  | cons s rest ih =>
    rw [Evaluator.evalBody, Action.bind_run] at run
    rw [completed]
    generalize Evaluator.evalStmt (callValue host) scope s st = first at run ⊢
    obtain ⟨e | w, mid⟩ := first
    · cases run
    · exact congrArg (s :: ·) (ih run)

/-- What was printed and noted makes no difference to what is completed. -/
theorem completed_same (reads : ∀ f ∈ host.callbacks, f.ReadsStore) (p : Program)
    {st st' : State} (states : st.SameBut st') :
    p.completed host scope st' = p.completed host scope st := by
  induction p generalizing st st' with
  | nil => rfl
  | cons s rest ih =>
    have same := states.stmt_same reads scope s
    rw [completed, completed]
    generalize Evaluator.evalStmt (callValue host) scope s st = run at same ⊢
    generalize Evaluator.evalStmt (callValue host) scope s st' = run' at same ⊢
    obtain ⟨result, mid⟩ := run
    obtain ⟨result', mid'⟩ := run'
    obtain rfl : result' = result := same.result
    cases result' with
    | error e => rfl
    | ok v => exact congrArg (s :: ·) (ih same.sameBut)

end Program

/-! ## Lines -/

/-- What is bound stays bound: as a constant to the same value, and otherwise as a variable. -/
theorem State.Grows.binding? {before after : State} (h : before.Grows after) {id : ScopeId}
    {name : String} {b : Binding} (found : before.store.binding? id name = some b) :
    ∃ b', after.store.binding? id name = some b' ∧ b.Kept b' := by
  obtain ⟨scope, present, bound⟩ := Option.bind_eq_some_iff.1 found
  obtain ⟨scope', present', kept⟩ := h.scopes _ scope present
  obtain ⟨b', bound', same⟩ := kept.bindings name b bound
  exact ⟨b', by rw [Store.binding?, present']; exact bound', same⟩

theorem State.not_fresh_of_binding? {st : State} {id : ScopeId} {name : String} {b : Binding}
    (found : st.store.binding? id name = some b) : ¬st.Fresh id := by
  obtain ⟨scope, present, -⟩ := Option.bind_eq_some_iff.1 found
  exact Nat.not_le.2 (Array.getElem?_eq_some_iff.1 present).1

namespace Session

/-- A text that cannot be read is answered with that. It is noted, and nothing else happens. -/
theorem eval_of_unread (s : Session) {source : String} {e : ParseError}
    (unread : parse source = .error e) : ∃ journal,
      s.eval source = (.error (.parse e), { s with state := { s.state with journal } }) := by
  unfold eval State.evalSource
  unfold parse at unread
  cases cut : tokenize source with
  | error fault =>
    rw [cut] at unread
    cases unread
    exact ⟨s.state.journal, rfl⟩
  | ok tokens =>
    simp only [cut] at unread ⊢
    rw [unread]
    exact ⟨.tokensProduced tokens.length :: s.state.journal, rfl⟩

/-- The state only grows while a text is run. -/
theorem eval_grows (s : Session) (touches : ∀ f ∈ s.host.callbacks, f.TouchesNothing)
    (source : String) : s.state.Grows (s.eval source).2.state := by
  cases read : parse source with
  | error e =>
    obtain ⟨journal, same⟩ := s.eval_of_unread read
    rw [same]
    exact .of_same rfl rfl rfl
  | ok p =>
    obtain ⟨notes, run⟩ := eval_of_parse read
    have noted : s.state.Grows { s.state with journal := notes ++ s.state.journal } :=
      .of_same rfl rfl rfl
    rw [run s]
    have calls := callValue_confined fun f member => (touches f member).keepsScopes
    exact noted.trans (.of_changes (fun _ _ => Host.Does.grows touches)
      (Evaluator.evalBody_confined calls s.globals p .null _))

/-- The names that a text adds are those that its completed statements declare. -/
theorem binds_eval (s : Session) (declares : ∀ f ∈ s.host.callbacks, f.DeclaresNothing)
    (reads : ∀ f ∈ s.host.callbacks, f.ReadsStore) (present : ¬s.state.Fresh s.globals)
    (source name : String) :
    (s.eval source).2.state.store.binds s.globals name = true ↔
      s.state.store.binds s.globals name = true ∨
        ∃ p, parse source = .ok p ∧
          ∃ stmt ∈ p.completed s.host s.globals s.state, stmt.declared? = some name := by
  cases read : parse source with
  | error e =>
    obtain ⟨journal, same⟩ := s.eval_of_unread read
    rw [same]
    simp
  | ok p =>
    obtain ⟨notes, run⟩ := eval_of_parse read
    let noted : State := { s.state with journal := notes ++ s.state.journal }
    have states : s.state.SameBut noted := ⟨rfl, rfl⟩
    have run : (s.eval source).2.state =
        (Evaluator.evalBody (callValue s.host) s.globals .null p noted).2 := by rw [run s]
    rw [run, p.binds_evalBody declares (show ¬noted.Fresh s.globals from present),
      p.completed_same reads states]
    simp [noted]

/-- A text that yields a value can be read, and all its statements are completed. -/
theorem completed_of_eval_ok (s : Session) (reads : ∀ f ∈ s.host.callbacks, f.ReadsStore)
    {source : String} {v : Value} (yields : (s.eval source).1 = .ok v) :
    ∃ p, parse source = .ok p ∧ p.completed s.host s.globals s.state = p := by
  cases read : parse source with
  | error e =>
    obtain ⟨journal, same⟩ := s.eval_of_unread read
    rw [same] at yields
    cases yields
  | ok p =>
    obtain ⟨notes, run⟩ := eval_of_parse read
    let noted : State := { s.state with journal := notes ++ s.state.journal }
    have states : s.state.SameBut noted := ⟨rfl, rfl⟩
    refine ⟨p, rfl, (p.completed_same reads states).symm.trans ?_⟩
    rw [run s] at yields
    dsimp only at yields
    cases body : Evaluator.evalBody (callValue s.host) s.globals .null p noted with
    | mk result after =>
      cases result with
      | error e => simp [noted, body, Except.mapError] at yields
      | ok w => exact p.completed_of_ok body

end Session

namespace Repl

/-! ## What is listed -/

/-- What a name stands for globally. -/
def global? (r : Repl) (name : String) : Option Binding :=
  r.session.state.store.binding? r.session.globals name

/-- The names that the user declared. -/
def listed (r : Repl) : List String := r.declared.map Variable.name

/-- The list shows the global names, except for those of the prelude. -/
theorem listed_eq (r : Repl) :
    r.listed = r.session.names.filter fun name => !Prelude.names.contains name := by
  unfold listed declared
  rw [List.map_filterMap, ← List.filterMap_eq_filter]
  refine List.filterMap_congr fun name member => ?_
  have bound : (r.session.state.store.binding? r.session.globals name).isSome :=
    Store.mem_names_iff.1 member
  obtain ⟨b, found⟩ := Option.isSome_iff_exists.1 bound
  rw [found, Option.guard]
  cases Prelude.names.contains name <;> rfl

theorem listed_sorted (r : Repl) : r.listed.Pairwise (· < ·) := by
  rw [listed_eq]
  exact .filter _ (r.session.state.store.names_sorted r.session.globals)

theorem mem_listed_iff {r : Repl} {name : String} :
    name ∈ r.listed ↔ name ∉ Prelude.names ∧
      r.session.state.store.binds r.session.globals name = true := by
  rw [listed_eq, List.mem_filter, Session.names, Store.mem_names_iff]
  simp [and_comm]

/-- What is listed for a name is what the name stands for. -/
theorem mem_declared_iff {r : Repl} {v : Variable} :
    v ∈ r.declared ↔ v.name ∉ Prelude.names ∧ ∃ b, r.global? v.name = some b ∧
      v.constant = b.constant ∧ v.value = b.value.display r.session.state.store.objects := by
  simp only [declared, List.mem_filterMap, Store.mem_names_iff]
  constructor
  · rintro ⟨name, -, shown⟩
    split at shown
    · cases shown
    · next user =>
      obtain ⟨b, found, rfl⟩ := Option.map_eq_some_iff.1 shown
      exact ⟨by simpa using user, b, found, rfl, rfl⟩
  · obtain ⟨name, constant, value⟩ := v
    rintro ⟨user, b, found, rfl, rfl⟩
    refine ⟨name, Option.isSome_iff_exists.2 ⟨b, found⟩, ?_⟩
    rw [if_neg (by simpa using user)]
    exact Option.map_eq_some_iff.2 ⟨b, found, rfl⟩

/-! ## What lines do -/

/-- A line does what its text does, and a failure is noted. -/
theorem evalLine_session (r : Repl) (line : String) :
    ∃ journal, (r.evalLine line).2.session =
      { r.session with state := { (r.session.eval line).2.state with journal } } := by
  unfold evalLine Session.eval
  generalize r.session.state.evalSource r.session.host r.session.globals line = run
  obtain ⟨e | v, after⟩ := run
  · exact ⟨_, rfl⟩
  · exact ⟨after.journal, rfl⟩

theorem evalLine_ok (r : Repl) {line : String} {v : Value} (yields : (r.evalLine line).1 = .ok v) :
    (r.session.eval line).1 = .ok v := by
  unfold evalLine at yields
  generalize r.session.eval line = run at yields ⊢
  obtain ⟨e | w, after⟩ := run
  · cases yields
  · exact congrArg Except.ok (Except.ok.inj yields)

/-- Runs lines one after the other. -/
def evalLines (r : Repl) : List String → List Answer × Repl
  | [] => ([], r)
  | line :: lines =>
    let (answer, next) := r.evalLine line
    let (answers, last) := next.evalLines lines
    (answer :: answers, last)

/-- What can be done in a dialogue. -/
inductive Command where
  | line (text : String)
  | reset
  deriving DecidableEq, Repr

/-- Carries out a command. The answer to a line is left aside. -/
def obey (r : Repl) : Command → Repl
  | .line text => (r.evalLine text).2
  | .reset => r.reset

/-- A dialogue in which commands were carried out one after the other. -/
def after (host : Host) (commands : List Command) : Repl := commands.foldl obey (start host)

/-- The second dialogue goes on from the first: it is about the same scope, which has only grown. -/
structure Continues (origin r : Repl) : Prop where
  host : r.session.host = origin.session.host
  globals : r.session.globals = origin.session.globals
  grows : origin.session.state.Grows r.session.state

namespace Continues

variable {origin r : Repl}

theorem refl (r : Repl) : r.Continues r := ⟨rfl, rfl, .refl _⟩

theorem evalLine (touches : ∀ f ∈ origin.session.host.callbacks, f.TouchesNothing)
    (h : origin.Continues r) (line : String) : origin.Continues (r.evalLine line).2 := by
  obtain ⟨journal, same⟩ := r.evalLine_session line
  have grown := h.grows.trans (r.session.eval_grows (h.host ▸ touches) line)
  constructor <;> rw [same]
  · exact h.host
  · exact h.globals
  · exact grown.trans (.of_same rfl rfl rfl)

theorem evalLines (touches : ∀ f ∈ origin.session.host.callbacks, f.TouchesNothing)
    (h : origin.Continues r) (lines : List String) : origin.Continues (r.evalLines lines).2 := by
  induction lines generalizing r with
  | nil => exact h
  | cons line lines ih => exact ih (h.evalLine touches line)

/-- A name that is bound stays bound, as a constant to the same value. -/
theorem global? (h : origin.Continues r) {name : String} {b : Binding}
    (found : origin.global? name = some b) : ∃ b', r.global? name = some b' ∧ b.Kept b' := by
  obtain ⟨b', found', kept⟩ := h.grows.binding? found
  exact ⟨b', by rw [Repl.global?, h.globals]; exact found', kept⟩

/-- A name that is listed stays listed, as what it is. -/
theorem declared (h : origin.Continues r) {v : Variable} (listed : v ∈ origin.declared) :
    ∃ v' ∈ r.declared, v'.name = v.name ∧ v'.constant = v.constant := by
  obtain ⟨user, b, found, sort, -⟩ := mem_declared_iff.1 listed
  obtain ⟨b', found', kept⟩ := h.global? found
  exact ⟨⟨v.name, b'.constant, _⟩, mem_declared_iff.2 ⟨user, b', found', rfl, rfl⟩, rfl,
    kept.constant.trans sort.symm⟩

end Continues

/-! ## What a new dialogue is like -/

/-- A dialogue has no functions of the host, so nothing has to be asked of them. -/
theorem start_hosted (host : Host) (p : HostFunction → Prop) :
    ∀ f ∈ (start host).session.host.callbacks, p f := by
  have none : (start host).session.host.callbacks = #[] := rfl
  simp [none]

theorem Continues.hosted {host : Host} {r : Repl} (h : (start host).Continues r)
    (p : HostFunction → Prop) : ∀ f ∈ r.session.host.callbacks, p f :=
  h.host ▸ start_hosted host p

/-- After a reset a dialogue goes on from a new one, although the old one did not go on. -/
theorem Continues.reset {host : Host} {r : Repl} (h : (start host).Continues r) :
    (start host).Continues r.reset := by
  have same : r.session.host = { host with callbacks := #[] } := h.host
  unfold Repl.reset
  rw [same]
  exact ⟨rfl, rfl, fun _ s here => ⟨s, here, .refl s⟩, fun _ t here => ⟨t, here, .refl t⟩,
    r.session.state.output, String.empty_append.symm⟩

theorem after_continues (host : Host) (commands : List Command) :
    (start host).Continues (after host commands) := by
  refine List.foldlRecOn commands obey (.refl _) fun r h command _ => ?_
  cases command with
  | line text => exact h.evalLine (start_hosted host _) text
  | reset => exact h.reset

/-- A new dialogue whose host has answered as many requests as that of another one. -/
def anew (r : Repl) : Repl :=
  let fresh := (start r.session.host).session
  ⟨{ fresh with state := { fresh.state with requests := r.session.state.requests } }⟩

/-- The second dialogue is like the first, but for what was noted in it and for a text that was
printed before it. -/
structure SameAfter (text : String) (r r' : Repl) : Prop where
  host : r'.session.host = r.session.host
  globals : r'.session.globals = r.session.globals
  states : r.session.state.SameBut r'.session.state
  output : r'.session.state.output = text ++ r.session.state.output

theorem sameAfter_reset (r : Repl) : SameAfter r.session.state.output r.anew r.reset :=
  ⟨rfl, rfl, ⟨rfl, rfl⟩, String.append_empty.symm⟩

namespace SameAfter

variable {text : String} {r r' : Repl}

theorem declared (h : SameAfter text r r') : r'.declared = r.declared := by
  unfold Repl.declared
  rw [h.globals, h.states.store]

/-- The same line gets the same answer. -/
theorem evalLine (reads : ∀ f ∈ r.session.host.callbacks, f.ReadsStore) (h : SameAfter text r r')
    (line : String) :
    (r'.evalLine line).1 = (r.evalLine line).1 ∧
      SameAfter text (r.evalLine line).2 (r'.evalLine line).2 := by
  have same := h.states.evalSource_same reads r.session.globals line
  unfold Repl.evalLine Session.eval
  rw [h.host, h.globals]
  generalize r.session.state.evalSource r.session.host r.session.globals line = run at same ⊢
  generalize r'.session.state.evalSource r.session.host r.session.globals line = run' at same ⊢
  obtain ⟨result, after⟩ := run
  obtain ⟨result', after'⟩ := run'
  obtain ⟨printed, out, out'⟩ := same.output
  have outputs : after'.output = text ++ after.output := by
    rw [out, out', h.output, String.append_assoc]
  obtain rfl : result' = result := same.result
  cases result' <;> exact ⟨rfl, rfl, rfl, ⟨same.store, same.requests⟩, outputs⟩

theorem evalLines (reads : ∀ f ∈ r.session.host.callbacks, f.ReadsStore) (h : SameAfter text r r')
    (lines : List String) :
    (r'.evalLines lines).1 = (r.evalLines lines).1 ∧
      SameAfter text (r.evalLines lines).2 (r'.evalLines lines).2 := by
  induction lines generalizing r r' with
  | nil => exact ⟨rfl, h⟩
  | cons line lines ih =>
    obtain ⟨answer, next⟩ := h.evalLine reads line
    obtain ⟨journal, same⟩ := r.evalLine_session line
    obtain ⟨answers, last⟩ := ih (by rw [same]; exact reads) next
    exact ⟨congrArg₂ List.cons answer answers, last⟩

end SameAfter

end Repl

/-! ## The prelude -/

namespace Repl

theorem start_global? (host : Host) {entry : String × (Nat → Value)}
    (member : entry ∈ Prelude.entries) :
    ∃ id, (start host).global? entry.1 = some ⟨entry.2 id, true⟩ :=
  Prelude.binding?_seed (Prelude.seed .empty).2 member

/-- Every name of the prelude still stands for what it stood for at the start. -/
theorem Continues.prelude {host : Host} {r : Repl} (h : (start host).Continues r)
    {entry : String × (Nat → Value)} (member : entry ∈ Prelude.entries) :
    ∃ id, (start host).global? entry.1 = some ⟨entry.2 id, true⟩ ∧
      r.global? entry.1 = some ⟨entry.2 id, true⟩ := by
  obtain ⟨id, found⟩ := start_global? host member
  obtain ⟨⟨value, constant⟩, found', sort, same⟩ := h.global? found
  obtain rfl : value = entry.2 id := same rfl
  obtain rfl : constant = true := sort
  exact ⟨id, found, found'⟩

/-- The names that a line adds to the list are those that its completed statements declare. None of
them is a name of the prelude, since those are taken. -/
theorem Continues.mem_listed_evalLine {host : Host} {r : Repl} (h : (start host).Continues r)
    (line name : String) :
    name ∈ (r.evalLine line).2.listed ↔ name ∈ r.listed ∨ ∃ p, parse line = .ok p ∧
      ∃ s ∈ p.completed r.session.host r.session.globals r.session.state,
        s.declared? = some name := by
  have present : ¬r.session.state.Fresh r.session.globals := by
    obtain ⟨_, -, found⟩ := h.prelude List.mem_cons_self
    exact State.not_fresh_of_binding? found
  have adds := r.session.binds_eval (h.hosted _) (h.hosted _) present line name
  obtain ⟨journal, next⟩ := r.evalLine_session line
  rw [mem_listed_iff, mem_listed_iff, next]
  dsimp only
  rw [adds, and_or_left]
  refine or_congr_right (and_iff_right_of_imp ?_)
  rintro ⟨p, -, s, completed, declares⟩ taken
  have unbound := p.not_binds_of_completed (h.hosted _) present completed declares
  obtain ⟨entry, member, rfl⟩ := List.mem_map.1 taken
  obtain ⟨_, -, found⟩ := h.prelude member
  exact Bool.false_ne_true (unbound.symm.trans (Option.isSome_iff_exists.2 ⟨_, found⟩))

/-- Whatever lines were run and forgotten in a dialogue, the list of the user's names is in
increasing order and shows no name of the prelude. A line adds the names that its statements up to
the first failing one declare at the top: all its names if none fails, and no name if it cannot be
read. What is listed stays listed as what it is, a variable or a constant, for as long as nothing is
forgotten. The names of the prelude stand for their values all the time. After a reset, everything
is as in a new dialogue, which prints after what was printed before. -/
theorem dialogue_invariant (host : Host) (commands : List Command) :
    let r := after host commands
    (r.listed.Pairwise (· < ·) ∧ ∀ name ∈ r.listed, name ∉ Prelude.names) ∧
    (∀ line, (∀ name, name ∈ (r.evalLine line).2.listed ↔ name ∈ r.listed ∨
        ∃ p, parse line = .ok p ∧
          ∃ s ∈ p.completed r.session.host r.session.globals r.session.state,
            s.declared? = some name) ∧
      ∀ v, (r.evalLine line).1 = .ok v → ∃ p, parse line = .ok p ∧
        p.completed r.session.host r.session.globals r.session.state = p) ∧
    (∀ lines, ∀ v ∈ r.declared,
      ∃ v' ∈ (r.evalLines lines).2.declared, v'.name = v.name ∧ v'.constant = v.constant) ∧
    (∀ entry ∈ Prelude.entries, ∃ id, (start host).global? entry.1 = some ⟨entry.2 id, true⟩ ∧
      r.global? entry.1 = some ⟨entry.2 id, true⟩) ∧
    ∀ lines,
      let (answers, last) := r.anew.evalLines lines
      let (answers', last') := r.reset.evalLines lines
      answers' = answers ∧ last'.declared = last.declared ∧
        last'.session.state.output = r.session.state.output ++ last.session.state.output := by
  intro r
  have continues : (start host).Continues r := after_continues host commands
  refine ⟨⟨r.listed_sorted, fun name member => (mem_listed_iff.1 member).1⟩, fun line => ⟨?_, ?_⟩,
    fun lines v listed => ?_, fun entry member => continues.prelude member, fun lines => ?_⟩
  · exact continues.mem_listed_evalLine line
  · intro v yields
    exact r.session.completed_of_eval_ok (continues.hosted _) (r.evalLine_ok yields)
  · exact ((Continues.refl r).evalLines (continues.hosted _) lines).declared listed
  · have reads : ∀ f ∈ r.anew.session.host.callbacks, f.ReadsStore := start_hosted _ _
    obtain ⟨answers, alike⟩ := r.sameAfter_reset.evalLines reads lines
    exact ⟨answers, alike.declared, alike.output⟩

/-- A line that declares a constant, declares another name in a block, and then fails. -/
theorem dialogue_invariant_failing_line :
    let host : Host := ⟨1, fun _ => ⟨0, 0, 0, 1, 1, 2000⟩, fun _ => 0, fun _ => none, #[]⟩
    let r := after host [.line "rezerviraj a = null;", .reset, .line "rezerviraj a = true;"]
    let line := "konstanta b = a; ce (b) \x7b rezerviraj c; \x7d x; rezerviraj d;"
    "b" ∈ (r.evalLine line).2.listed ∧
      (∀ name ∈ ["c", "d", "x"], name ∉ (r.evalLine line).2.listed) ∧
      ∃ v ∈ (r.evalLines [line]).2.declared, v.name = "a" ∧ v.constant = false := by
  intro host r line
  let p : Program := (parse line).toOption.getD []
  let declares := (p.completed r.session.host r.session.globals r.session.state).map Stmt.declared?
  have read : parse line = .ok p := eq_ok_of_isOk (by decide +kernel) []
  have completed : declares = [some "b", none] := by decide +kernel
  have declared : r.declared = [⟨"a", false, "true"⟩] := by decide +kernel
  have listed : r.listed = ["a"] := congrArg (List.map Variable.name) declared
  obtain ⟨-, adds, keeps, -⟩ :=
    dialogue_invariant host
      [.line "rezerviraj a = null;", .reset, .line "rezerviraj a = true;"]
  have names (name : String) : name ∈ (r.evalLine line).2.listed ↔ name = "a" ∨ name = "b" := by
    rw [(adds line).1 name, ← show some name ∈ declares ↔ name = "b" by simp [completed],
      List.mem_map]
    refine or_congr (listed ▸ List.mem_singleton) ?_
    constructor
    · rintro ⟨p', read', found⟩
      exact Except.ok.inj (read.symm.trans read') ▸ found
    · exact fun found => ⟨p, read, found⟩
  refine ⟨(names "b").2 (.inr rfl), fun name member => mt (names name).1 ?_, ?_⟩
  · revert name
    decide
  · exact keeps [line] ⟨"a", false, "true"⟩ (declared ▸ List.mem_singleton_self _)

end Repl

end SloScript
