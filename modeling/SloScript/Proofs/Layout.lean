import SloScript.Proofs.Mirror
import SloScript.Proofs.Tracking

/-!
# Layout never changes meaning

Sources whose tokens agree in kinds and texts differ in how they are laid out only, and what comes
of them differs in spans only: the programs, what is reported when there is none, and everything
that a run of them yields, prints and leaves behind. Function values keep the spans of their bodies
in the store, so states are compared up to spans as well.

A run is compared with one in which there are no spans at all. Two runs that differ in spans have
the same one for that.

Results:
1. `parseTokens_alike`: the programs are the same up to spans, or the faults are the same.
2. `evalBody_alike`: runs of such programs are, from states that are the same up to spans.
3. `layout_irrelevant`: both together.
-/

namespace SloScript

/-! ## Without spans -/

/-- A value without the spans of its body. -/
def Value.bare (v : Value) : Value := v.relocate .erase

/-- A store without the spans of the functions in it. -/
def Store.bare (s : Store) : Store where
  scopes := s.scopes.map (Scope.relocate .erase)
  objects := s.objects.map (Table.map Value.bare)
  minted := s.minted

/-- A state without the spans of the functions in it. -/
def State.bare (st : State) : State :=
  { st with store := st.store.bare, memory := st.memory.map Value.bare }

/-- What an action yields without spans: a value, or the cause of an error. -/
def bareResult (result : Except EvalError Value) : Except EvalFault Value :=
  (result.mapError Located.cause).map Value.bare

/-- What a function of the host does looks the same, as far as is seen of a state, wherever it is
called from and whatever spans there are in the values that it is given. -/
def HostFunction.IgnoresPlaces (f : HostFunction) (view : State → State) : Prop :=
  ∀ scope args args' span span' st st', args.map Value.bare = args'.map Value.bare →
    view st = view st' →
      bareResult (f scope args span st).1 = bareResult (f scope args' span' st').1 ∧
        view (f scope args span st).2 = view (f scope args' span' st').2

/-- A function of the host without the spans of what it yields and leaves. -/
def HostFunction.bare (f : HostFunction) : HostFunction := fun scope args span st =>
  let (result, after) := f scope args span st
  ((bareResult result).mapError fun fault => ⟨fault, .nowhere⟩, after.bare)

/-- A host without the spans of what its functions yield and leave. -/
def Host.bare (host : Host) : Host :=
  { host with callbacks := host.callbacks.map HostFunction.bare }

/-! ## Reading -/

/-- What a token says, wherever it stands. -/
def Token.content (t : Token) : Kind × String := (t.kind, t.text)

theorem map_erase_of_content {ts ts' : List Token}
    (same : ts.map Token.content = ts'.map Token.content) :
    ts.map (Token.relocate .erase) = ts'.map (Token.relocate .erase) := by
  have erased : ∀ us : List Token, us.map (Token.relocate .erase) =
      (us.map Token.content).map fun content => ⟨content.1, content.2, .nowhere⟩ := by
    intro us
    rw [List.map_map]
    rfl
  rw [erased, erased, same]

/-- What is read, without spans: a program, or the cause of an error. -/
def bareProgram (result : Except ParseError Program) : Except ParseFault Program :=
  (result.mapError Located.cause).map bareBody

theorem bareProgram_parse (c : Cursor) :
    bareProgram c.parse.result = (c.relocate .erase).parse.result.mapError Located.cause := by
  rw [Cursor.parse_relocate, funext relocateBody_erase]
  cases c.parse.result <;> rfl

/-- Token lists that say the same are read alike. -/
theorem parseTokens_alike {ts ts' : List Token}
    (same : ts.map Token.content = ts'.map Token.content) :
    bareProgram (parseTokens ts) = bareProgram (parseTokens ts') := by
  rw [parseTokens_eq, parseTokens_eq, bareProgram_parse, bareProgram_parse,
    ← Cursor.ofTokens_erase, ← Cursor.ofTokens_erase, map_erase_of_content same]

/-! ## Running -/

theorem Store.mirrors_bare (s : Store) : s.Mirrors (fun _ => True) .erase s.bare where
  counts := ⟨Array.size_map, Array.size_map, rfl⟩
  scopes _ _ := Array.getElem?_map
  objects _ _ := Array.getElem?_map
  closed _ _ _ _ := trivial
  fresh _ _ := trivial

theorem Store.Mirrors.eq_bare {s s' : Store} (h : s.Mirrors (fun _ => True) .erase s') :
    s' = s.bare := by
  have scopes : s'.scopes = s.bare.scopes :=
    Array.ext_getElem? fun i => (h.scopes ⟨i⟩ trivial).trans Array.getElem?_map.symm
  have objects : s'.objects = s.bare.objects :=
    Array.ext_getElem? fun i => (h.objects ⟨i⟩ trivial).trans Array.getElem?_map.symm
  have minted : s'.minted = s.bare.minted := h.counts.minted
  obtain ⟨_, _, _⟩ := s'
  simp_all

theorem Value.bare_bare (v : Value) : v.bare.bare = v.bare := v.relocate_again .erase

theorem map_bare_bare (vs : List Value) :
    (vs.map Value.bare).map Value.bare = vs.map Value.bare := by
  rw [List.map_map]
  exact List.map_congr_left fun v _ => v.bare_bare

theorem Store.bare_bare (s : Store) : s.bare.bare = s.bare := by
  have scopes : (s.scopes.map (Scope.relocate .erase)).map (Scope.relocate .erase) =
      s.scopes.map (Scope.relocate .erase) := by
    rw [Array.map_map]
    exact congrArg (Array.map · s.scopes) (funext (Scope.relocate_again .erase))
  have objects : (s.objects.map (Table.map Value.bare)).map (Table.map Value.bare) =
      s.objects.map (Table.map Value.bare) := by
    rw [Array.map_map]
    exact congrArg (Array.map · s.objects) (funext (Table.map_again Value.bare_bare))
  exact Store.mk.injEq .. ▸ ⟨scopes, objects, rfl⟩

namespace Pairing

/-- Everything stands for itself, and spans are left out. -/
abbrev withoutSpans : Pairing := within (fun _ => True) .erase

theorem values_withoutSpans_iff {v v' : Value} : withoutSpans.Values v v' ↔ v' = v.bare := by
  rw [values_within_iff]
  exact ⟨fun h => h.1, fun h => ⟨h, fun _ _ => trivial⟩⟩

theorem args_withoutSpans {args args' : List Value}
    (h : List.Forall₂ withoutSpans.Values args args') : args' = args.map Value.bare := by
  induction h with
  | nil => rfl
  | cons head _ ih => rw [List.map_cons, ih, values_withoutSpans_iff.1 head]

theorem stores_withoutSpans {s s' : Store} (same : s' = s.bare) :
    withoutSpans.Stores none none s s' :=
  .of_mirrors (same ▸ s.mirrors_bare)

theorem bareResult_eq {result result' : Except EvalError Value}
    (h : withoutSpans.Results withoutSpans.Values result result') :
    bareResult result = result'.mapError Located.cause := by
  cases h with
  | ok values =>
    rw [values_withoutSpans_iff.1 values]
    rfl
  | error same => exact congrArg Except.error (Located.mk.inj same).1

/-- A result corresponds to one that is the same up to spans, when it has none. -/
theorem results_withoutSpans {result result' : Except EvalError Value}
    (same : bareResult result = bareResult result') :
    withoutSpans.Results withoutSpans.Values result
      ((bareResult result').mapError fun fault => ⟨fault, .nowhere⟩) := by
  rw [← same]
  cases result with
  | ok v => exact .ok (values_withoutSpans_iff.2 rfl)
  | error e => exact .error rfl

end Pairing

open Pairing

/-- A state without spans, and with what is kept of its journal. -/
def State.bareWith (keep : List Event → List Event) (st : State) : State :=
  { st.bare with journal := keep st.journal }

/-- What is kept of two journals stays the same when the same event is noted in both. -/
def KeptAlike (keep : List Event → List Event) : Prop :=
  ∀ e notes notes', keep notes' = keep notes → keep (e :: notes') = keep (e :: notes)

theorem keptAlike_id : KeptAlike id := fun e _ _ same => congrArg (List.cons e) same

theorem keptAlike_nil : KeptAlike fun _ => [] := fun _ _ _ _ => rfl

section Keeping

variable {keep : List Event → List Event} (keeps : KeptAlike keep)

/-- Runs compared with runs without spans. Of their journals the same is kept. -/
def Comparison.erasing : Comparison where
  toPairing := withoutSpans
  left := none
  right := none
  traces t t' := t'.output = t.output ∧ keep t'.journal = keep t.journal ∧
    t'.memory = t.memory.map Value.bare
  traces_print text := by
    rintro ⟨output, same⟩
    exact ⟨congrArg (· ++ text) output, same⟩
  traces_note e := by
    rintro ⟨output, journal, memory⟩
    exact ⟨output, keeps e _ _ journal, memory⟩

namespace Comparison

variable {keeps} {st st' : State}

/-- The state without spans is the one that corresponds to a state. -/
theorem erasing_of_eq (same : st.bareWith keep = { st' with journal := keep st'.journal }) :
    (erasing keeps).States st st' := by
  obtain ⟨store, output, journal, requests, memory⟩ := State.mk.inj same
  exact ⟨stores_withoutSpans store.symm, ⟨output.symm, journal.symm, memory.symm⟩,
    requests.symm⟩

theorem eq_of_erasing (h : (erasing keeps).States st st') :
    st.bareWith keep = { st' with journal := keep st'.journal } := by
  have stores : withoutSpans.Stores none none st.store st'.store := h.stores
  obtain ⟨output, journal, memory⟩ := h.traces
  exact State.mk.injEq .. ▸
    ⟨stores.mirrors.eq_bare.symm, output.symm, journal.symm, h.requests.symm, memory.symm⟩

theorem bareWith_eq_of_erasing (h : (erasing keeps).States st st') :
    st.bareWith keep = st'.bareWith keep := by
  obtain ⟨store, output, journal, requests, memory⟩ := State.mk.inj (eq_of_erasing h)
  refine State.mk.injEq .. ▸ ⟨?_, output, journal, requests, ?_⟩
  · show st.store.bare = st'.store.bare
    rw [← store]
    exact st.store.bare_bare.symm
  · show st.memory.map Value.bare = st'.memory.map Value.bare
    rw [← memory]
    exact (map_bare_bare st.memory).symm

/-- A function that ignores places does the same as the one without spans. -/
theorem answers_of_ignores {f : HostFunction} (ignores : f.IgnoresPlaces (State.bareWith keep)) :
    (erasing keeps).Answers f f.bare := by
  rintro _ scope ⟨rfl, -⟩ args args' values span span' - st st' states
  have same := args_withoutSpans values
  have bare : args.map Value.bare = args'.map Value.bare := by rw [same, map_bare_bare]
  obtain ⟨results, afters⟩ :=
    ignores scope args args' span span' st st' bare (bareWith_eq_of_erasing states)
  exact ⟨results_withoutSpans results, erasing_of_eq afters⟩

theorem hosts_bare {host : Host}
    (ignores : ∀ f ∈ host.callbacks, f.IgnoresPlaces (State.bareWith keep)) :
    (erasing keeps).Hosts host host.bare where
  limit := rfl
  clock := rfl
  draw := rfl
  refuses := rfl
  callbacks slot := by
    show Option.Rel _ _ (host.callbacks.map HostFunction.bare)[slot]?
    rw [Array.getElem?_map]
    cases found : host.callbacks[slot]? with
    | none => exact .none
    | some f => exact .some (answers_of_ignores (ignores f (Array.mem_of_getElem? found)))

/-- Runs that correspond to the same one are the same up to spans. -/
theorem alike_of_erasing {run run' other : Except EvalError Value × State}
    (left : (erasing keeps).Results withoutSpans.Values run.1 other.1 ∧
      (erasing keeps).States run.2 other.2)
    (right : (erasing keeps).Results withoutSpans.Values run'.1 other.1 ∧
      (erasing keeps).States run'.2 other.2) :
    bareResult run.1 = bareResult run'.1 ∧ run.2.bareWith keep = run'.2.bareWith keep :=
  ⟨(bareResult_eq left.1).trans (bareResult_eq right.1).symm,
    (eq_of_erasing left.2).trans (eq_of_erasing right.2).symm⟩

end Comparison

include keeps

/-- A function that does corresponding things to what has no spans ignores places. What is made of
the actions of programs does. -/
theorem HostFunction.IgnoresPlaces.of_answers {f : HostFunction}
    (answers : (Comparison.erasing keeps).Answers f f) :
    f.IgnoresPlaces (State.bareWith keep) := by
  intro scope args args' span span' st st' bare states
  have paired : withoutSpans.scope scope scope := ⟨rfl, trivial⟩
  have values : List.Forall₂ withoutSpans.Values args (args.map Value.bare) :=
    List.forall₂_map_right_iff.2 (List.forall₂_same.2 fun _ _ => values_withoutSpans_iff.2 rfl)
  have values' : List.Forall₂ withoutSpans.Values args' (args.map Value.bare) := by
    rw [bare]
    exact List.forall₂_map_right_iff.2
      (List.forall₂_same.2 fun _ _ => values_withoutSpans_iff.2 rfl)
  have erased (a b : Span) : (Comparison.erasing keeps).spans.place a =
      (Comparison.erasing keeps).spans.place b := rfl
  exact Comparison.alike_of_erasing
    (answers paired values (erased span span) st st.bare (Comparison.erasing_of_eq rfl))
    (answers paired values' (erased span' span) st' st.bare (Comparison.erasing_of_eq states.symm))

/-- Statements that are the same up to spans do the same, up to spans, to states that are the same
up to spans and up to what is not kept of their journals. -/
theorem evalBody_alike {host : Host}
    (ignores : ∀ f ∈ host.callbacks, f.IgnoresPlaces (State.bareWith keep)) (scope : ScopeId)
    {body body' : List Stmt} (bodies : bareBody body = bareBody body') {st st' : State}
    (states : st.bareWith keep = st'.bareWith keep) :
    let (result, after) := Evaluator.evalBody (callValue host) scope .null body st
    let (result', after') := Evaluator.evalBody (callValue host) scope .null body' st'
    bareResult result = bareResult result' ∧ after.bareWith keep = after'.bareWith keep := by
  have calls : Evaluator.CallsSimulate (.erasing keeps) (callValue host) (callValue host.bare) :=
    Evaluator.invoke_simulates (Comparison.hosts_bare ignores) host.limit
  have paired : withoutSpans.scope scope scope := ⟨rfl, trivial⟩
  -- Both runs are compared with the run of the statements without spans, from the state without.
  have left := Evaluator.evalBody_simulates calls paired body .null st st.bare
    (Comparison.erasing_of_eq rfl)
  have right := Evaluator.evalBody_simulates calls paired body' .null st' st.bare
    (Comparison.erasing_of_eq states.symm)
  rw [show (Comparison.erasing keeps).spans = .erase from rfl, relocateBody_erase] at left right
  rw [← bodies] at right
  exact Comparison.alike_of_erasing left right

end Keeping

/-- A program is run as its statements, after their number is noted. -/
theorem Program.eval_run (host : Host) (scope : ScopeId) (p : Program) (st : State) :
    p.eval host scope st = Evaluator.evalBody (callValue host) scope .null p
      { st with journal := .evaluating p.length :: st.journal } := rfl

theorem length_of_bareBody {p p' : Program} (h : bareBody p = bareBody p') :
    p.length = p'.length := by
  rw [← relocateBody_erase, ← relocateBody_erase] at h
  rw [← length_relocateBody (r := .erase) p, h, length_relocateBody]

/-- Layout never changes meaning. Sources whose tokens agree in kinds and texts are read as programs
that are the same up to spans, or both are refused for the same reason. From states that are the
same up to spans, the programs yield the same value up to spans or fail for the same reason, and
leave states that are the same up to spans, with the same output. -/
theorem layout_irrelevant (source source' : String) {ts ts' : List Token}
    (cut : tokenize source = .ok ts) (cut' : tokenize source' = .ok ts')
    (same : ts.map Token.content = ts'.map Token.content) :
    bareProgram (parse source) = bareProgram (parse source') ∧
    ∀ p p', parse source = .ok p → parse source' = .ok p' →
      ∀ host : Host, (∀ f ∈ host.callbacks, f.IgnoresPlaces State.bare) →
      ∀ (scope : ScopeId) (st st' : State), st.bare = st'.bare →
        let (result, after) := p.eval host scope st
        let (result', after') := p'.eval host scope st'
        bareResult result = bareResult result' ∧ after.bare = after'.bare := by
  have parsed : parse source = parseTokens ts := by rw [parse, cut]
  have parsed' : parse source' = parseTokens ts' := by rw [parse, cut']
  have programs : bareProgram (parse source) = bareProgram (parse source') := by
    rw [parsed, parsed', parseTokens_alike same]
  refine ⟨programs, fun p p' read read' host ignores scope st st' alike => ?_⟩
  rw [read, read'] at programs
  have bodies : bareBody p = bareBody p' := Except.ok.inj programs
  obtain ⟨stores, outputs, journals, requests, memories⟩ := State.mk.inj alike
  rw [Program.eval_run, Program.eval_run, ← length_of_bareBody bodies]
  have notes := congrArg (Event.evaluating p.length :: ·) journals
  exact evalBody_alike keptAlike_id ignores scope bodies
    (State.mk.injEq .. ▸ ⟨stores, outputs, notes, requests, memories⟩)

/-- A function of the host that declares its argument as a constant, and then fails. -/
def HostFunction.declareAndFail : HostFunction := fun scope args span => do
  let _ ← Action.declare scope "k" (args.headD .null) true
  Action.fail .divisionByZero span

theorem HostFunction.declareAndFail_ignoresPlaces : declareAndFail.IgnoresPlaces State.bare :=
  .of_answers keptAlike_id fun paired _ _ values _ _ places =>
    .bind (.declare paired "k" (Values.headD values) true) fun _ _ _ => .fail _ places

/-- A function of the host is called on one line or on two, in states that hold a function from
another place. It declares a constant and fails, in both cases for the same reason. -/
theorem layout_irrelevant_lines :
    let source := "g(\"x\")"
    let source' := "g\n\t( \"x\" )"
    let ts : List Token := [
      ⟨.identifier, "g", ⟨0, 1, 1, 1⟩⟩, ⟨.openParen, "(", ⟨1, 2, 1, 2⟩⟩,
      ⟨.string, "x", ⟨2, 5, 1, 3⟩⟩, ⟨.closeParen, ")", ⟨5, 6, 1, 6⟩⟩,
      ⟨.endOfFile, "EndOfFile", ⟨6, 6, 1, 7⟩⟩]
    let ts' : List Token := [
      ⟨.identifier, "g", ⟨0, 1, 1, 1⟩⟩, ⟨.openParen, "(", ⟨3, 4, 2, 2⟩⟩,
      ⟨.string, "x", ⟨5, 8, 2, 4⟩⟩, ⟨.closeParen, ")", ⟨9, 10, 2, 8⟩⟩,
      ⟨.endOfFile, "EndOfFile", ⟨10, 10, 2, 9⟩⟩]
    let host : Host :=
      ⟨2, fun _ => ⟨0, 0, 0, 1, 1, 2000⟩, fun _ => 0, fun _ => none, #[.declareAndFail]⟩
    let old (span : Span) : Value := .function ⟨1, "h", [], [.expr (.text "x" span)], ⟨0⟩⟩
    let globals (span : Span) : Table Binding :=
      (Table.empty.insert "g" ⟨.native ⟨0, "g", some 1, .hosted 0⟩, true⟩).insert "h"
        ⟨old span, true⟩
    let st (span : Span) : State :=
      { State.initial with store := ⟨#[⟨none, globals span⟩], #[], 2⟩ }
    let here : State := st ⟨0, 3, 1, 1⟩
    let there : State := st ⟨7, 10, 2, 4⟩
    tokenize source = .ok ts ∧ tokenize source' = .ok ts' ∧
      ts.map Token.content = ts'.map Token.content ∧
      HostFunction.declareAndFail.IgnoresPlaces State.bare ∧ here.bare = there.bare ∧
      ∃ p p', parse source = .ok p ∧ parse source' = .ok p' ∧ bareBody p = bareBody p' ∧
        (bareResult (p.eval host ⟨0⟩ here).1).map Value.type = .error .divisionByZero ∧
        (p.eval host ⟨0⟩ here).2.store.isConstant ⟨0⟩ "k" = true ∧
        bareResult (p'.eval host ⟨0⟩ there).1 = bareResult (p.eval host ⟨0⟩ here).1 ∧
        (p'.eval host ⟨0⟩ there).2.bare = (p.eval host ⟨0⟩ here).2.bare := by
  intro source source' ts ts' host old globals st here there
  have cut : tokenize source = .ok ts := by decide +kernel
  have cut' : tokenize source' = .ok ts' := by decide +kernel
  have same : ts.map Token.content = ts'.map Token.content := by decide
  have ignores := HostFunction.declareAndFail_ignoresPlaces
  have alike : here.bare = there.bare := by with_unfolding_all rfl
  have fails : (parse source).toOption.map (fun p =>
      (bareResult (p.eval host ⟨0⟩ here).1).map Value.type) = some (.error .divisionByZero) := by
    decide +kernel
  have declares : (parse source).toOption.map (fun p =>
      (p.eval host ⟨0⟩ here).2.store.isConstant ⟨0⟩ "k") = some true := by
    decide +kernel
  let p' : Program := (parse source').toOption.getD []
  have read' : parse source' = .ok p' := eq_ok_of_isOk (by decide +kernel) []
  obtain ⟨programs, runs⟩ := layout_irrelevant source source' cut cut' same
  refine ⟨cut, cut', same, ignores, alike, ?_⟩
  cases read : parse source with
  | error e => cases read ▸ fails
  | ok p =>
    rw [read] at fails declares
    rw [read, read'] at programs
    have run := runs p p' read read' host (by simpa [host] using ignores) ⟨0⟩ here there alike
    exact ⟨p, p', rfl, read', Except.ok.inj programs, Option.some.inj fails,
      Option.some.inj declares, run.1.symm, run.2.symm⟩

end SloScript
