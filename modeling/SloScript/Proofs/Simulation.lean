import SloScript.Evaluator
import SloScript.Proofs.Pairing

/-!
# Paired runs

A program does corresponding things to states that correspond to each other: it yields paired
values, or errors that differ in their spans at most, and the states that it leaves correspond to
each other again. It prints and notes the same on both sides, so what is asked of outputs and
journals only has to stay true when that happens. Every comparison of two runs is an instance: it
chooses a pairing and what it asks of outputs and journals, and checks that the states correspond to
each other at the start and that the functions of the host do corresponding things.

Results:
1. `evalExpr_simulates`, `evalBody_simulates`: syntax, if calls do corresponding things.
2. `invoke_simulates`: calls, by induction on the number of functions that may still be entered.
3. `eval_simulates`: so a program does, from corresponding states on.
-/

namespace SloScript

/-! ## States -/

/-- What a run leaves besides the store and the requests to the host. No program reads it. -/
structure Trace where
  output : String
  journal : List Event
  memory : List Value

namespace Trace

/-- What is left when a text is printed as well. -/
def print (t : Trace) (text : String) : Trace := { t with output := t.output ++ text }

/-- What is left when an event is noted as well. -/
def note (t : Trace) (e : Event) : Trace := { t with journal := e :: t.journal }

end Trace

/-- What a state holds besides its store and the requests to the host. -/
def State.trace (st : State) : Trace := ⟨st.output, st.journal, st.memory⟩

/-- What two runs are compared by: a pairing of what is in their stores, the stores that they have
come from if what is not paired is to stay as it was there, and what is asked of their traces. That
has to stay true when the same is printed or noted on both sides. -/
structure Comparison extends Pairing where
  left : Option Store
  right : Option Store
  traces : Trace → Trace → Prop
  traces_print : ∀ {t t'} text, traces t t' → traces (t.print text) (t'.print text)
  traces_note : ∀ {t t'} e, traces t t' → traces (t.note e) (t'.note e)

namespace Comparison

open Pairing

variable (C : Comparison)

/-- States that correspond to each other. -/
structure States (st st' : State) : Prop where
  stores : C.Stores C.left C.right st.store st'.store
  traces : C.traces st.trace st'.trace
  requests : st'.requests = st.requests

/-- Actions that do corresponding things to corresponding states. -/
def Simulates {α β : Type} (A : α → β → Prop) (m : Action α) (m' : Action β) : Prop :=
  ∀ st st', C.States st st' → C.Results A (m st).1 (m' st').1 ∧ C.States (m st).2 (m' st').2

/-- Functions of hosts that do corresponding things, wherever they are called from. -/
def Answers (f f' : HostFunction) : Prop :=
  ∀ {scope scope'}, C.scope scope scope' → ∀ {args args'}, List.Forall₂ C.Values args args' →
    ∀ {span span'}, C.spans.place span = C.spans.place span' →
      C.Simulates C.Values (f scope args span) (f' scope' args' span')

/-- Hosts that differ in their functions at most, which do corresponding things. -/
structure Hosts (host host' : Host) : Prop where
  limit : host'.limit = host.limit
  clock : host'.clock = host.clock
  draw : host'.draw = host.draw
  refuses : host'.refuses = host.refuses
  callbacks : ∀ slot : Nat, Option.Rel C.Answers host.callbacks[slot]? host'.callbacks[slot]?

variable {C}

theorem Hosts.same {host : Host} (answers : ∀ f ∈ host.callbacks, C.Answers f f) :
    C.Hosts host host where
  limit := rfl
  clock := rfl
  draw := rfl
  refuses := rfl
  callbacks slot := by
    cases found : host.callbacks[slot]? with
    | none => exact .none
    | some f => exact .some (answers f (Array.mem_of_getElem? found))

/-! ## Actions -/

namespace Simulates

variable {α β γ δ : Type} {A : α → β → Prop} {B : γ → δ → Prop}

theorem pure {a : α} {a' : β} (h : A a a') :
    C.Simulates A (Pure.pure a) (Pure.pure a') :=
  fun _ _ states => ⟨.ok h, states⟩

theorem fail (fault : EvalFault) {span span' : Span}
    (places : C.spans.place span = C.spans.place span') :
    C.Simulates A (Action.fail fault span) (Action.fail fault span') :=
  fun _ _ states => ⟨.error (congrArg (Located.mk fault) places), states⟩

/-- A fault that is reported at the replaced span. -/
theorem fail_place (fault : EvalFault) (span : Span) :
    C.Simulates A (Action.fail fault span) (Action.fail fault (C.spans.place span)) :=
  fail fault (C.spans.again span).symm

theorem settle {r : Except EvalFault α} {r' : Except EvalFault β} (h : Readings A r r')
    {span span' : Span} (places : C.spans.place span = C.spans.place span') :
    C.Simulates A (Action.settle span r) (Action.settle span' r') := by
  cases h with
  | ok related => exact pure related
  | error same =>
    subst same
    exact fail _ places

/-- One action after the other, if the second ones do corresponding things for all that the first
ones can yield. -/
theorem bind {m : Action α} {m' : Action β} {f : α → Action γ} {f' : β → Action δ}
    (hm : C.Simulates A m m')
    (hf : ∀ a a', A a a' → C.Simulates B (f a) (f' a')) :
    C.Simulates B (m >>= f) (m' >>= f') := by
  intro st st' states
  obtain ⟨results, mids⟩ := hm st st' states
  rw [Action.bind_run, Action.bind_run]
  rcases hs : m st with ⟨result, mid⟩
  rcases hs' : m' st' with ⟨result', mid'⟩
  rw [hs, hs'] at results mids
  cases results with
  | ok related => exact hf _ _ related mid mid' mids
  | error same => exact ⟨.error same, mids⟩

theorem locate {m : Action α} {m' : Action β} (hm : C.Simulates A m m') {span span' : Span}
    (places : C.spans.place span = C.spans.place span') :
    C.Simulates A (m.locate span) (m'.locate span') := by
  intro st st' states
  obtain ⟨results, after⟩ := hm st st' states
  unfold Action.locate
  rcases hs : m st with ⟨result, end₁⟩
  rcases hs' : m' st' with ⟨result', end₂⟩
  rw [hs, hs'] at results after
  cases results with
  | ok related => exact ⟨.ok related, after⟩
  | error same => exact ⟨.error (Located.relocate_orAt same places), after⟩

theorem locate_place {m : Action α} {m' : Action β} (hm : C.Simulates A m m')
    (span : Span) : C.Simulates A (m.locate span) (m'.locate (C.spans.place span)) :=
  hm.locate (C.spans.again span).symm

theorem read {f : Store → α} {f' : Store → β}
    (h : ∀ s s', C.Stores C.left C.right s s' → A (f s) (f' s')) :
    C.Simulates A (Action.read f) (Action.read f') :=
  fun _ _ states => ⟨.ok (h _ _ states.stores), states⟩

theorem record (e : Event) :
    C.Simulates (fun _ _ => True) (Action.record e) (Action.record e) :=
  fun _ _ states =>
    ⟨.ok trivial, states.stores, C.traces_note e states.traces, states.requests⟩

theorem printLine (line : String) :
    C.Simulates (fun _ _ => True) (Action.printLine line) (Action.printLine line) := by
  intro st st' states
  have traces := C.traces_print (line ++ "\n") states.traces
  unfold Trace.print at traces
  rw [← String.append_assoc, ← String.append_assoc] at traces
  exact ⟨.ok trivial, states.stores, traces, states.requests⟩

theorem request : C.Simulates Eq Action.request Action.request :=
  fun _ _ states => ⟨.ok states.requests.symm, states.stores, states.traces,
    congrArg (· + 1) states.requests⟩

theorem change {f : Store → α × Store} {f' : Store → β × Store}
    (h : ∀ s s', C.Stores C.left C.right s s' →
      A (f s).1 (f' s').1 ∧ C.Stores C.left C.right (f s).2 (f' s').2) :
    C.Simulates A (Action.change f) (Action.change f') :=
  fun _ _ states =>
    have ⟨yields, stores⟩ := h _ _ states.stores
    ⟨.ok yields, stores, states.traces, states.requests⟩

theorem newScope {parent parent' : ScopeId} (paired : C.scope parent parent') :
    C.Simulates C.scope (Action.newScope parent) (Action.newScope parent') :=
  change fun _ _ stores => ⟨stores.freshScope 0, stores.addScope paired⟩

theorem newObject {t t' : Table Value} (tables : C.Tables t t') :
    C.Simulates C.Values (Action.newObject t) (Action.newObject t') :=
  change fun _ _ stores => ⟨.object (stores.freshObject 0), stores.addObject tables⟩

theorem mint (count : Nat) :
    C.Simulates C.identity (Action.change fun s => s.mint count)
      (Action.change fun s => s.mint count) :=
  change fun _ _ stores => ⟨stores.freshIdentity 0, stores.mint count⟩

theorem setProperty {id id' : ObjectId} (paired : C.object id id') (key : String) {v v' : Value}
    (values : C.Values v v') :
    C.Simulates C.Values (Action.setProperty id key v) (Action.setProperty id' key v') :=
  bind (record _) fun _ _ _ =>
    change fun _ _ stores => ⟨values, stores.setProperty paired key values⟩

theorem lookup {scope scope' : ScopeId} (paired : C.scope scope scope') (name : String) :
    C.Simulates C.Values (Action.lookup scope name) (Action.lookup scope' name) := by
  intro st st' states
  have reading := states.stores.lookup paired name
  unfold Action.lookup
  generalize st.store.lookup scope name = r at reading ⊢
  generalize st'.store.lookup scope' name = r' at reading ⊢
  cases reading with
  | ok values => exact ⟨.ok values, states⟩
  | error same =>
    subst same
    exact ⟨.error rfl, states⟩

/-- A name is bound in paired scopes, wherever the stores decide on them. -/
theorem bindIn {place place' : Store → Except EvalFault ScopeId}
    (places : ∀ s s', C.Stores C.left C.right s s' → Readings C.scope (place s) (place' s'))
    (name : String) {binding binding' : Binding} (bindings : C.Bindings binding binding')
    (e : Event) :
    C.Simulates C.Values (Action.bindIn place name binding e)
      (Action.bindIn place' name binding' e) := by
  intro st st' states
  have reading := places _ _ states.stores
  unfold Action.bindIn
  generalize place st.store = r at reading ⊢
  generalize place' st'.store = r' at reading ⊢
  cases reading with
  | error same =>
    subst same
    exact ⟨.error rfl, states⟩
  | ok owners =>
    exact ⟨.ok bindings.value, states.stores.bindIn owners name bindings,
      C.traces_note e states.traces, states.requests⟩

theorem declare {scope scope' : ScopeId} (paired : C.scope scope scope') (name : String)
    {v v' : Value} (values : C.Values v v') (constant : Bool) :
    C.Simulates C.Values (Action.declare scope name v constant)
      (Action.declare scope' name v' constant) := by
  have bindings : C.Bindings ⟨v, constant⟩ ⟨v', constant⟩ := ⟨values, rfl⟩
  exact bindIn (fun _ _ stores => stores.declaringScope paired name) name bindings _

theorem assign {scope scope' : ScopeId} (paired : C.scope scope scope') (name : String)
    {v v' : Value} (values : C.Values v v') :
    C.Simulates C.Values (Action.assign scope name v) (Action.assign scope' name v') := by
  have bindings : C.Bindings ⟨v, false⟩ ⟨v', false⟩ := ⟨values, rfl⟩
  exact bindIn (fun _ _ stores => stores.assigningScope paired name) name bindings _

end Simulates

end Comparison

/-! ## Syntax -/

namespace Evaluator

open Pairing Comparison

variable {C : Comparison} {call call' : Caller}

/-- Calls of paired values with paired arguments do corresponding things. -/
def CallsSimulate (C : Comparison) (call call' : Caller) : Prop :=
  ∀ {f f'}, C.Values f f' → ∀ {args args'}, List.Forall₂ C.Values args args' →
    ∀ {scope scope'}, C.scope scope scope' →
    ∀ {span span'}, C.spans.place span = C.spans.place span' →
      C.Simulates C.Values (call f args scope span) (call' f' args' scope' span')

theorem ownerOf_simulates {v v' : Value} (values : C.Values v v') (key : String) (span : Span) :
    C.Simulates C.object (ownerOf v key span) (ownerOf v' key (C.spans.place span)) := by
  cases values with
  | object paired => exact .pure paired
  | _ => exact .fail_place _ _

theorem keyOf_simulates {v v' : Value} (values : C.Values v v') (span : Span) :
    C.Simulates Eq (keyOf v span) (keyOf v' (C.spans.place span)) := by
  cases values with
  | number | string => exact .pure rfl
  | _ => exact .fail_place _ _

theorem variableAt_simulates {scope scope' : ScopeId} (paired : C.scope scope scope')
    (id : Ident) :
    C.Simulates C.Values (variableAt scope id) (variableAt scope' (id.relocate C.spans)) :=
  (Simulates.lookup paired id.name).locate_place id.span

theorem declareAt_simulates {scope scope' : ScopeId} (paired : C.scope scope scope')
    (id : Ident) {v v' : Value} (values : C.Values v v') (constant : Bool) :
    C.Simulates C.Values (declareAt scope id v constant)
      (declareAt scope' (id.relocate C.spans) v' constant) :=
  (Simulates.declare paired id.name values constant).locate_place id.span

mutual

theorem evalExpr_simulates (hcall : CallsSimulate C call call') {scope scope' : ScopeId}
    (paired : C.scope scope scope') : ∀ e : Expr,
      C.Simulates C.Values (evalExpr call scope e)
        (evalExpr call' scope' (e.relocate C.spans))
  | .number x _ => by
    rw [Expr.relocate, evalExpr, evalExpr]
    exact .pure (.number x)
  | .text s _ => by
    rw [Expr.relocate, evalExpr, evalExpr]
    exact .pure (.string s)
  | .name id => by
    rw [Expr.relocate, evalExpr, evalExpr]
    exact variableAt_simulates paired id
  | .assign (.name id) value _ => by
    rw [Expr.relocate, Expr.relocate, evalExpr, evalExpr]
    refine .bind (evalExpr_simulates hcall paired value) fun v v' values => ?_
    exact (Simulates.assign paired id.name values).locate_place id.span
  | .assign (.member object key span) value _ => by
    rw [Expr.relocate, Expr.relocate, evalExpr, evalExpr]
    refine .bind (evalExpr_simulates hcall paired object) fun o o' objects => ?_
    refine .bind (ownerOf_simulates objects key.name span) fun owner owner' owners => ?_
    refine .bind (evalExpr_simulates hcall paired value) fun v v' values => ?_
    exact .setProperty owners key.name values
  | .assign (.index object key span) value _ => by
    rw [Expr.relocate, Expr.relocate, evalExpr, evalExpr, Expr.span_relocate]
    refine .bind (evalExpr_simulates hcall paired object) fun o o' objects => ?_
    refine .bind (evalExpr_simulates hcall paired key) fun k k' keys => ?_
    refine .bind (keyOf_simulates keys key.span) ?_
    rintro name _ rfl
    refine .bind (ownerOf_simulates objects name span) fun owner owner' owners => ?_
    refine .bind (evalExpr_simulates hcall paired value) fun v v' values => ?_
    exact .setProperty owners name values
  | .assign (.number _ _) _ _ | .assign (.text _ _) _ _ | .assign (.assign _ _ _) _ _
  | .assign (.binary _ _ _ _) _ _ | .assign (.call _ _ _) _ _ | .assign (.object _ _) _ _ => by
    -- Such a target is refused before anything is evaluated.
    simp only [Expr.relocate, evalExpr, Expr.span]
    exact .fail_place _ _
  | .binary op left right span => by
    rw [Expr.relocate, evalExpr, evalExpr]
    refine .bind (evalExpr_simulates hcall paired left) fun x x' lefts => ?_
    refine .bind (evalExpr_simulates hcall paired right) fun y y' rights => ?_
    exact .settle (lefts.apply op rights) (C.spans.again span).symm
  | .member object key span => by
    rw [Expr.relocate, evalExpr, evalExpr]
    refine .bind (evalExpr_simulates hcall paired object) fun o o' objects => ?_
    refine .bind (ownerOf_simulates objects key.name span) fun owner owner' owners => ?_
    exact .read fun _ _ stores => stores.property owners key.name
  | .index object key span => by
    rw [Expr.relocate, evalExpr, evalExpr, Expr.span_relocate]
    refine .bind (evalExpr_simulates hcall paired object) fun o o' objects => ?_
    refine .bind (evalExpr_simulates hcall paired key) fun k k' keys => ?_
    refine .bind (keyOf_simulates keys key.span) ?_
    rintro name _ rfl
    refine .bind (ownerOf_simulates objects name span) fun owner owner' owners => ?_
    exact .read fun _ _ stores => stores.property owners name
  | .call callee args span => by
    rw [Expr.relocate, evalExpr, evalExpr]
    refine .bind (evalArgs_simulates hcall paired args) fun vs vs' values => ?_
    refine .bind (evalExpr_simulates hcall paired callee) fun f f' callees => ?_
    exact hcall callees values paired (C.spans.again span).symm
  | .object properties _ => by
    rw [Expr.relocate, evalExpr, evalExpr]
    refine .bind (evalProperties_simulates hcall paired properties .empty) fun t t' tables => ?_
    exact .newObject tables

theorem evalArgs_simulates (hcall : CallsSimulate C call call') {scope scope' : ScopeId}
    (paired : C.scope scope scope') : ∀ args : List Expr,
      C.Simulates (List.Forall₂ C.Values) (evalArgs call scope args)
        (evalArgs call' scope' (relocateArgs C.spans args))
  | [] => by
    rw [relocateArgs, evalArgs, evalArgs]
    exact .pure .nil
  | arg :: args => by
    rw [relocateArgs, evalArgs, evalArgs]
    refine .bind (evalExpr_simulates hcall paired arg) fun v v' value => ?_
    refine .bind (evalArgs_simulates hcall paired args) fun vs vs' values => ?_
    exact .pure (.cons value values)

theorem evalProperties_simulates (hcall : CallsSimulate C call call')
    {scope scope' : ScopeId} (paired : C.scope scope scope') :
    ∀ (properties : List Property) {t t' : Table Value}, C.Tables t t' →
      C.Simulates C.Tables (evalProperties call scope t properties)
        (evalProperties call' scope' t' (relocateProperties C.spans properties))
  | [], _, _, tables => by
    rw [relocateProperties, evalProperties, evalProperties]
    exact .pure tables
  | .shorthand key :: rest, _, _, tables => by
    rw [relocateProperties, Property.relocate, evalProperties, evalProperties]
    refine .bind (variableAt_simulates paired key) fun v v' values => ?_
    exact evalProperties_simulates hcall paired rest (tables.insert key.name values)
  | .keyed key value _ :: rest, _, _, tables => by
    rw [relocateProperties, Property.relocate, evalProperties, evalProperties]
    refine .bind (evalExpr_simulates hcall paired value) fun v v' values => ?_
    exact evalProperties_simulates hcall paired rest (tables.insert key.name values)

end

mutual

theorem evalStmt_simulates (hcall : CallsSimulate C call call') {scope scope' : ScopeId}
    (paired : C.scope scope scope') : ∀ s : Stmt,
      C.Simulates C.Values (evalStmt call scope s)
        (evalStmt call' scope' (s.relocate C.spans))
  | .letVar name none _ => by
    rw [Stmt.relocate, Option.map_none, evalStmt, evalStmt]
    exact declareAt_simulates paired name .null false
  | .letVar name (some init) _ => by
    rw [Stmt.relocate, Option.map_some, evalStmt, evalStmt]
    refine .bind (evalExpr_simulates hcall paired init) fun v v' values => ?_
    exact declareAt_simulates paired name values false
  | .letConst name init _ => by
    rw [Stmt.relocate, evalStmt, evalStmt]
    refine .bind (evalExpr_simulates hcall paired init) fun v v' values => ?_
    exact declareAt_simulates paired name values true
  | .function name params body _ => by
    rw [Stmt.relocate, evalStmt, evalStmt, Ident.name_relocate]
    refine .bind (.mint 1) fun id id' identities => ?_
    exact declareAt_simulates paired name (.function identities paired) true
  | .branch test consequent alternate _ => by
    rw [Stmt.relocate, evalStmt, evalStmt]
    refine .bind (evalExpr_simulates hcall paired test) fun v v' values => ?_
    cases values with
    | bool truth =>
      cases truth with
      | true =>
        refine .bind (.newScope paired) fun inner inner' inners => ?_
        exact evalBody_simulates hcall inners consequent .null
      | false =>
        refine .bind (.newScope paired) fun inner inner' inners => ?_
        exact evalBody_simulates hcall inners alternate .null
    | _ => exact .pure .null
  | .expr e => by
    rw [Stmt.relocate, evalStmt, evalStmt]
    exact evalExpr_simulates hcall paired e

theorem evalBody_simulates (hcall : CallsSimulate C call call') {scope scope' : ScopeId}
    (paired : C.scope scope scope') :
    ∀ (body : List Stmt) {last last' : Value}, C.Values last last' →
      C.Simulates C.Values (evalBody call scope last body)
        (evalBody call' scope' last' (relocateBody C.spans body))
  | [], _, _, lasts => by
    rw [relocateBody, evalBody, evalBody]
    exact .pure lasts
  | stmt :: rest, _, _, _ => by
    rw [relocateBody, evalBody, evalBody]
    refine .bind (evalStmt_simulates hcall paired stmt) fun v v' values => ?_
    exact evalBody_simulates hcall paired rest values

end

/-! ## Calls -/

theorem bindParams_simulates {scope scope' : ScopeId} (paired : C.scope scope scope')
    {span span' : Span} (places : C.spans.place span = C.spans.place span')
    (names : List String) {args args' : List Value} (values : List.Forall₂ C.Values args args') :
    C.Simulates (fun _ _ => True) (bindParams scope span names args)
      (bindParams scope' span' names args') := by
  induction values generalizing names with
  | nil =>
    rw [bindParams, bindParams]
    · exact .pure trivial
    all_goals simp
  | cons head _ ih =>
    cases names with
    | nil =>
      rw [bindParams, bindParams]
      · exact .pure trivial
      all_goals simp
    | cons name names =>
      rw [bindParams, bindParams]
      refine .bind ((Simulates.declare paired name head false).locate places) fun _ _ _ => ?_
      exact ih names

theorem numberArg_eq (f : Builtin) {args args' : List Value}
    (values : List.Forall₂ C.Values args args') (index : Nat) :
    f.numberArg args' index = f.numberArg args index := by
  unfold Builtin.numberArg
  have both : Option.Rel C.Values args[index]? args'[index]? := by
    induction values generalizing index with
    | nil => exact .none
    | cons head _ ih =>
      cases index with
      | zero => exact .some head
      | succ index => exact ih index
  rcases rel_cases both with ⟨hv, hv'⟩ | ⟨v, v', hv, hv', related⟩
  · rw [hv, hv']
  · rw [hv, hv']
    cases related <;> rfl

theorem settle_same_simulates {α : Type} (r : Except EvalFault α) {span span' : Span}
    (places : C.spans.place span = C.spans.place span') :
    C.Simulates Eq (Action.settle span r) (Action.settle span' r) := by
  cases r with
  | ok a => exact .pure rfl
  | error fault => exact .fail fault places

/-- A built-in function reads numbers, and texts of values, which do not show identities. -/
theorem builtin_simulates {host host' : Host} (hosts : C.Hosts host host') (f : Builtin)
    {args args' : List Value} (values : List.Forall₂ C.Values args args') {span span' : Span}
    (places : C.spans.place span = C.spans.place span') :
    C.Simulates C.Values (f.run host args span) (f.run host' args' span') := by
  have numbers (f : Builtin) (index : Nat) :
      C.Simulates Eq (Action.settle span (f.numberArg args index))
        (Action.settle span' (f.numberArg args' index)) := by
    rw [numberArg_eq f values index]
    exact settle_same_simulates _ places
  unfold Builtin.run
  have writes (i : Nat) : host'.writes i = host.writes i := by
    rw [Host.writes, hosts.refuses, Host.writes]
  rw [hosts.clock, hosts.draw]
  split
  · refine .bind (A := Eq) (.read fun s s' stores => ?_) ?_
    · exact (map_eq_of_forall₂ values fun v v' related => display_eq stores.objects related).symm
    · rintro texts _ rfl
      refine .bind .request ?_
      rintro i _ rfl
      rw [writes]
      refine .bind (settle_same_simulates _ places) fun _ _ _ => ?_
      exact .bind (.printLine _) fun _ _ _ => .pure .null
  · refine .bind .request ?_
    rintro i _ rfl
    exact .pure (.string _)
  · refine .bind (numbers _ 0) ?_
    rintro low _ rfl
    refine .bind (numbers _ 1) ?_
    rintro high _ rfl
    refine .bind (settle_same_simulates _ places) ?_
    rintro ⟨l, h⟩ _ rfl
    refine .bind .request ?_
    rintro i _ rfl
    exact .pure (.number _)
  · refine .bind (numbers _ 0) ?_
    rintro x _ rfl
    exact .pure (.number _)

theorem runNative_simulates {host host' : Host} (hosts : C.Hosts host host') {id id' : Nat}
    {name : String} {arity : Option Nat} {behaviour : Behaviour} {args args' : List Value}
    (values : List.Forall₂ C.Values args args') {scope scope' : ScopeId}
    (paired : C.scope scope scope') {span span' : Span}
    (places : C.spans.place span = C.spans.place span') :
    C.Simulates C.Values
      (runNative host ⟨id, name, arity, behaviour⟩ args scope span)
      (runNative host' ⟨id', name, arity, behaviour⟩ args' scope' span') := by
  unfold runNative
  cases behaviour with
  | builtin f => exact builtin_simulates hosts f values places
  | muted => exact .pure .null
  | hosted slot =>
    dsimp only
    rcases rel_cases (hosts.callbacks slot) with ⟨hc, hc'⟩ | ⟨_, _, hc, hc', answers⟩
    · rw [hc, hc']
      exact .fail _ places
    · rw [hc, hc']
      exact answers paired values places

theorem dispatch_simulates {host host' : Host} (hosts : C.Hosts host host')
    {enter enter' : Closure → List Value → Span → Action Value}
    (henter : ∀ {c c'}, C.Values (.function c) (.function c') → ∀ {args args'},
      List.Forall₂ C.Values args args' → ∀ {span span'},
      C.spans.place span = C.spans.place span' →
      C.Simulates C.Values (enter c args span) (enter' c' args' span')) :
    CallsSimulate C (dispatch host enter) (dispatch host' enter') := by
  intro f f' callees args args' values scope scope' paired span span' places
  have counts : args'.length = args.length := values.length_eq.symm
  unfold dispatch
  rw [counts]
  cases callees with
  | function identities scopes =>
    dsimp only
    split
    · exact henter (.function identities scopes) values places
    · exact .fail _ places
  | native identities =>
    dsimp only
    split
    · refine .bind (.record _) fun _ _ _ => ?_
      exact (runNative_simulates hosts values paired places).locate places
    · exact .fail _ places
  | _ => exact .fail _ places

/-- Calls do corresponding things, however many functions may still be entered. -/
theorem invoke_simulates {host host' : Host} (hosts : C.Hosts host host')
    (remaining : Nat) : CallsSimulate C (invoke host remaining) (invoke host' remaining) := by
  induction remaining with
  | zero =>
    unfold invoke
    rw [hosts.limit]
    exact dispatch_simulates hosts fun _ _ _ _ _ _ places => .fail _ places
  | succ remaining ih =>
    unfold invoke
    rw [hosts.limit]
    refine dispatch_simulates hosts ?_
    intro c c' functions args args' values span span' places
    cases functions with
    | function identities scopes =>
      refine .bind (.record _) fun _ _ _ => .bind (.newScope scopes) fun inner inner' inners => ?_
      refine .bind (bindParams_simulates inners places _ values) fun _ _ _ => ?_
      exact evalBody_simulates ih inners _ .null

end Evaluator

/-- A program that runs in paired scopes does corresponding things. -/
theorem Program.eval_simulates {C : Comparison} {host host' : Host}
    (hosts : C.Hosts host host') {scope scope' : ScopeId} (paired : C.scope scope scope')
    (p : Program) :
    C.Simulates C.Values (p.eval host scope)
      (Program.eval host' scope' (relocateBody C.spans p)) := by
  unfold Program.eval callValue
  rw [length_relocateBody, hosts.limit]
  refine .bind (.record _) fun _ _ _ => ?_
  exact Evaluator.evalBody_simulates (Evaluator.invoke_simulates hosts _) paired p .null

end SloScript
