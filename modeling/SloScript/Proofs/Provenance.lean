import SloScript.Proofs.Change
import SloScript.Proofs.Nesting

/-!
# Where functions and errors come from

Whatever a run calls was declared in a source text, and whatever goes wrong goes wrong somewhere.
The faults of scopes, of built-in functions and of the host come without a place and get one on the
way; where they get it, the place of a node is at hand, either of the program that runs or of the
body of a function. So a run has to be followed together with the functions in its state.

`Code` says which nodes, functions and places a run can get to, and how they belong together.
`Action.Stays` says that an action keeps within the code: a state that contains no other functions
is left as such, values are of that sort too, and an error is at a place of the code or was given
its place by a function of the host. There is one rule for each way to build an action, and one for
each form of a node.

Results:
1. `callValue_stays`: a call keeps within the code, at any depth.
2. `Program.eval_stays`: so does a program.
-/

namespace SloScript

/-! ## Functions in a store -/

/-- A value that a name or a property stands for. -/
inductive Store.Contains (s : Store) : Value → Prop
  | binding {id : ScopeId} {name : String} {b : Binding} :
      s.binding? id name = some b → Contains s b.value
  | property {id : ObjectId} {key : String} {v : Value} :
      (s.properties id).get? key = some v → Contains s v

namespace Store.Contains

variable {s : Store} {v : Value}

theorem of_lookup {id : ScopeId} {name : String} (h : s.lookup id name = .ok v) : s.Contains v := by
  unfold lookup at h
  split at h
  · next b found =>
    obtain ⟨owner, -, bound⟩ := Option.bind_eq_some_iff.1 found
    exact Except.ok.inj h ▸ .binding bound
  · cases h

theorem of_bindIn {id : ScopeId} {name : String} {b : Binding}
    (h : (s.bindIn id name b).Contains v) : v = b.value ∨ s.Contains v := by
  cases h with
  | @binding other n b' found =>
    unfold binding? bindIn at found
    simp only [Array.getElem?_modify] at found
    split at found
    · cases old : s.scopes[other.index]? with
      | none => simp [old] at found
      | some scope =>
        simp only [old, Option.map_some, Option.bind_some, Table.get?_insert] at found
        split at found
        · exact .inl (congrArg Binding.value (Option.some.inj found)).symm
        · have kept : s.binding? other n = some b' := by rw [binding?, old]; exact found
          exact .inr (.binding kept)
    · exact .inr (.binding found)
  | property found => exact .inr (.property found)

theorem of_addScope {parent : Option ScopeId} {bindings : Table Binding}
    (h : (s.addScope parent bindings).2.Contains v) :
    (∃ name b, bindings.get? name = some b ∧ b.value = v) ∨ s.Contains v := by
  cases h with
  | @binding id name b found =>
    unfold binding? addScope at found
    simp only [Array.getElem?_push] at found
    split at found
    · exact .inl ⟨name, b, found, rfl⟩
    · exact .inr (.binding found)
  | property found => exact .inr (.property found)

theorem of_setProperty {id : ObjectId} {key : String} {value : Value}
    (h : (s.setProperty id key value).Contains v) : v = value ∨ s.Contains v := by
  cases h with
  | binding found => exact .inr (.binding found)
  | @property other k _ found =>
    unfold properties setProperty at found
    simp only [Array.getD_eq_getD_getElem?, Array.getElem?_modify] at found
    split at found
    · cases old : s.objects[other.index]? with
      | none => simp [old] at found
      | some table =>
        simp only [old, Option.map_some, Option.getD_some, Table.get?_insert] at found
        split at found
        · exact .inl (Option.some.inj found).symm
        · have kept : (s.properties other).get? k = some v := by simpa [properties, old] using found
          exact .inr (.property kept)
    · have kept : (s.properties other).get? k = some v := by simpa [properties] using found
      exact .inr (.property kept)

theorem of_addObject {table : Table Value} (h : (s.addObject table).2.Contains v) :
    (∃ key, table.get? key = some v) ∨ s.Contains v := by
  cases h with
  | binding found => exact .inr (.binding found)
  | @property other k _ found =>
    unfold properties addObject at found
    simp only [Array.getD_eq_getD_getElem?, Array.getElem?_push] at found
    split at found
    · exact .inl ⟨k, found⟩
    · have kept : (s.properties other).get? k = some v := by simpa [properties] using found
      exact .inr (.property kept)

theorem of_mint {count : Nat} (h : (s.mint count).2.Contains v) : s.Contains v := by
  cases h with
  | binding found => exact .binding found
  | property found => exact .property found

end Store.Contains

/-- If the value is a function, it is one of the given ones. -/
def Value.Within (known : Closure → Prop) (v : Value) : Prop := ∀ c, v = .function c → known c

/-- All values of a table are so. -/
def Table.Within (known : Closure → Prop) (t : Table Value) : Prop :=
  ∀ key v, t.get? key = some v → v.Within known

/-- All values in a store are so. -/
def Store.Within (known : Closure → Prop) (s : Store) : Prop := ∀ v, s.Contains v → v.Within known

theorem Table.Within.insert {known : Closure → Prop} {t : Table Value} (h : t.Within known)
    (key : String) {v : Value} (hv : v.Within known) : (t.insert key v).Within known := by
  intro other w found
  rw [get?_insert] at found
  split at found
  · exact Option.some.inj found ▸ hv
  · exact h other w found

namespace Store.Within

variable {known : Closure → Prop} {s : Store}

theorem bindIn (h : s.Within known) {b : Binding} (hb : b.value.Within known) (id : ScopeId)
    (name : String) : (s.bindIn id name b).Within known := by
  intro v member
  rcases member.of_bindIn with rfl | old
  · exact hb
  · exact h v old

theorem addScope (h : s.Within known) (parent : Option ScopeId) {bindings : Table Binding}
    (hb : ∀ name b, bindings.get? name = some b → b.value.Within known) :
    (s.addScope parent bindings).2.Within known := by
  intro v member
  rcases member.of_addScope with ⟨name, b, found, rfl⟩ | old
  · exact hb name b found
  · exact h v old

theorem setProperty (h : s.Within known) {value : Value} (hv : value.Within known) (id : ObjectId)
    (key : String) : (s.setProperty id key value).Within known := by
  intro v member
  rcases member.of_setProperty with rfl | old
  · exact hv
  · exact h v old

theorem addObject (h : s.Within known) {table : Table Value} (ht : table.Within known) :
    (s.addObject table).2.Within known := by
  intro v member
  rcases member.of_addObject with ⟨key, found⟩ | old
  · exact ht key v found
  · exact h v old

theorem mint (h : s.Within known) (count : Nat) : (s.mint count).2.Within known :=
  fun v member => h v member.of_mint

theorem property (h : s.Within known) (id : ObjectId) (key : String) :
    (s.property id key).Within known := by
  unfold Store.property
  cases found : (s.properties id).get? key with
  | none => exact nofun
  | some v => exact h v (.property found)

end Store.Within

/-! ## Code -/

/-- The code that a run can get to: nodes of programs, functions, and places. It has the children of
its nodes, the functions that they declare, and the bodies of its functions, and every node of it is
at one of its places. -/
structure Code where
  node : Part → Prop
  function : Closure → Prop
  place : Span → Prop
  child : ∀ {n m : Part}, node n → m ∈ n.children → node m
  declared : ∀ {name params body span}, node (.stmt (.function name params body span)) →
    ∀ id scope, function ⟨id, name.name, params.map Ident.name, body, scope⟩
  body : ∀ {c : Closure} {s : Stmt}, function c → s ∈ c.body → node (.stmt s)
  located : ∀ {n : Part}, node n → place n.span

/-- All functions in the state, those that functions of the host remember included, are so. -/
structure State.Within (known : Closure → Prop) (st : State) : Prop where
  store : st.store.Within known
  memory : ∀ v ∈ st.memory, v.Within known

/-- A function of the host that brings no function along: from a state and arguments in which all
functions are known it leads to such a state and yields such a value. -/
def HostFunction.Honest (known : Closure → Prop) (f : HostFunction) : Prop :=
  ∀ scope args span st, st.Within known → (∀ v ∈ args, v.Within known) →
    (f scope args span st).2.Within known ∧
      ∀ v, (f scope args span st).1 = .ok v → v.Within known

/-- The state was left by a function of the host that answered with the error. It was called from a
place as described, and the call was the last thing noted before. -/
def Host.Raised (host : Host) (place : Span → Prop) (e : EvalError) (st : State) : Prop :=
  ∃ f ∈ host.callbacks, ∃ name scope args span before, place span ∧
    before.journal.head? = some (.nativeCalled name) ∧ f scope args span before = (.error e, st)

/-- The error is at a place of the code, or a function of the host has given it its place. -/
def Code.Blamed (code : Code) (host : Host) (e : EvalError) (st : State) : Prop :=
  code.place e.span ∨ e.span.isNowhere = false ∧ host.Raised code.place e st

/-- The error has no place yet, or is blamed already. -/
def Code.Unplaced (code : Code) (host : Host) (e : EvalError) (st : State) : Prop :=
  e.span.isNowhere = true ∨ code.Blamed host e st

/-- From a state that contains functions of the code only, the action leads to such a state and to a
value as described, or to an error as described. -/
def Action.Stays {α : Type} (code : Code) (blamed : EvalError → State → Prop) (m : Action α)
    (good : α → Prop) : Prop :=
  ∀ st, st.Within code.function →
    (m st).2.Within code.function ∧
      match (m st).1 with
      | .ok a => good a
      | .error e => blamed e (m st).2

namespace Action.Stays

variable {α β : Type} {code : Code} {blamed : EvalError → State → Prop} {good : α → Prop}
  {host : Host}

theorem pure {a : α} (h : good a) : (Pure.pure a : Action α).Stays code blamed good :=
  fun _ within => ⟨within, h⟩

theorem fail {span : Span} (h : code.place span) (fault : EvalFault) :
    (Action.fail fault span).Stays code (code.Blamed host) good :=
  fun _ within => ⟨within, .inl h⟩

theorem settle {span : Span} (h : code.place span) {r : Except EvalFault α}
    (hr : ∀ a, r = .ok a → good a) : (Action.settle span r).Stays code (code.Blamed host) good := by
  cases r with
  | ok a => exact pure (hr a rfl)
  | error fault => exact fail h fault

/-- A result of which nothing has to be known. -/
theorem settle_any {span : Span} (h : code.place span) (r : Except EvalFault α) :
    (Action.settle span r).Stays code (code.Blamed host) fun _ => True :=
  settle h fun _ _ => trivial

theorem read {f : Store → α} (h : ∀ s, s.Within code.function → good (f s)) :
    (Action.read f).Stays code blamed good :=
  fun st within => ⟨within, h st.store within.store⟩

/-- Something read of which nothing has to be known. -/
theorem read_any (f : Store → α) : (Action.read f).Stays code blamed fun _ => True :=
  read fun _ _ => trivial

theorem change {f : Store → α × Store}
    (h : ∀ s, s.Within code.function → (f s).2.Within code.function ∧ good (f s).1) :
    (Action.change f).Stays code blamed good :=
  fun st within =>
    have changed := h st.store within.store
    ⟨⟨changed.1, within.memory⟩, changed.2⟩

theorem record (e : Event) : (Action.record e).Stays code blamed fun _ => True :=
  fun _ within => ⟨⟨within.store, within.memory⟩, trivial⟩

theorem request : Action.request.Stays code blamed fun _ => True :=
  fun _ within => ⟨⟨within.store, within.memory⟩, trivial⟩

theorem printLine (line : String) : (Action.printLine line).Stays code blamed fun _ => True :=
  fun _ within => ⟨⟨within.store, within.memory⟩, trivial⟩

theorem bind {m : Action α} {f : α → Action β} {fine : β → Prop} (hm : m.Stays code blamed good)
    (hf : ∀ a, good a → (f a).Stays code blamed fine) : (m >>= f).Stays code blamed fine := by
  intro st within
  have first := hm st within
  rw [bind_run]
  split
  · next a mid he =>
    rw [he] at first
    exact hf a first.2 mid first.1
  · next e mid he =>
    rw [he] at first
    exact first

theorem unplaced {m : Action α} (hm : m.Stays code (code.Blamed host) good) :
    m.Stays code (code.Unplaced host) good := by
  intro st within
  have run := hm st within
  generalize m st = result at run ⊢
  obtain ⟨_ | a, st'⟩ := result
  · exact ⟨run.1, .inr run.2⟩
  · exact run

/-- An error without a place gets the given one. -/
theorem locate {m : Action α} (hm : m.Stays code (code.Unplaced host) good) {span : Span}
    (h : code.place span) : (m.locate span).Stays code (code.Blamed host) good := by
  intro st within
  have run := hm st within
  unfold Action.locate
  generalize m st = result at run ⊢
  obtain ⟨e | a, st'⟩ := result
  · refine ⟨run.1, ?_⟩
    dsimp only at run ⊢
    unfold Located.orAt
    split
    · exact .inl h
    · next placed => exact run.2.resolve_left placed
  · exact run

theorem lookup (scope : ScopeId) (name : String) :
    (Action.lookup scope name).Stays code (code.Unplaced host) (Value.Within code.function) := by
  intro st within
  unfold Action.lookup
  split
  · next v found => exact ⟨within, within.store v (.of_lookup found)⟩
  · exact ⟨within, .inl rfl⟩

theorem bindIn (place : Store → Except EvalFault ScopeId) (name : String) {b : Binding}
    (hb : b.value.Within code.function) (e : Event) :
    (Action.bindIn place name b e).Stays code (code.Unplaced host)
      (Value.Within code.function) := by
  intro st within
  unfold Action.bindIn
  split
  · exact ⟨within, .inl rfl⟩
  · next owner _ => exact ⟨⟨within.store.bindIn hb owner name, within.memory⟩, hb⟩

theorem declare (scope : ScopeId) (name : String) {value : Value}
    (hv : value.Within code.function) (constant : Bool) :
    (Action.declare scope name value constant).Stays code (code.Unplaced host)
      (Value.Within code.function) :=
  bindIn _ name hv _

theorem assign (scope : ScopeId) (name : String) {value : Value} (hv : value.Within code.function) :
    (Action.assign scope name value).Stays code (code.Unplaced host) (Value.Within code.function) :=
  bindIn _ name hv _

theorem mint (count : Nat) :
    (Action.change fun s => s.mint count).Stays code blamed fun _ => True :=
  change fun _ within => ⟨within.mint count, trivial⟩

theorem newScope (parent : ScopeId) : (Action.newScope parent).Stays code blamed fun _ => True :=
  change fun _ within => ⟨within.addScope _ (by simp), trivial⟩

theorem newObject {table : Table Value} (ht : table.Within code.function) :
    (Action.newObject table).Stays code blamed (Value.Within code.function) :=
  change fun _ within => ⟨within.addObject ht, nofun⟩

theorem setProperty (id : ObjectId) (key : String) {value : Value}
    (hv : value.Within code.function) :
    (Action.setProperty id key value).Stays code blamed (Value.Within code.function) :=
  bind (record _) fun _ _ => change fun _ within => ⟨within.setProperty hv id key, hv⟩

end Action.Stays

/-! ## Evaluation -/

/-- No operator yields a function. -/
theorem Operator.apply_within {known : Closure → Prop} {op : Operator} {a b v : Value}
    (h : op.apply a b = .ok v) : v.Within known := by
  rintro c rfl
  have number (r : Except EvalFault Float) : r.map Value.number ≠ .ok (.function c) := by
    cases r <;> nofun
  cases op with
  | eq | ne => cases h
  | lt | le | gt | ge =>
    unfold apply at h
    dsimp only at h
    split at h <;> cases h
  | add | sub | mul | div | mod =>
    unfold apply at h
    dsimp only at h
    split at h
    · exact absurd h (number _)
    all_goals cases h

namespace Evaluator

variable {code : Code} {host : Host}

theorem builtin_stays {span : Span} (h : code.place span) (b : Builtin) (args : List Value) :
    (b.run host args span).Stays code (code.Blamed host) (Value.Within code.function) := by
  unfold Builtin.run
  split
  · refine .bind (.read_any _) fun _ _ => .bind .request fun _ _ => ?_
    refine .bind (.settle_any h _) fun _ _ => ?_
    exact .bind (.printLine _) fun _ _ => .pure nofun
  · exact .bind .request fun _ _ => .pure nofun
  · refine .bind (.settle_any h _) fun low _ => .bind (.settle_any h _) fun high _ => ?_
    exact .bind (.settle_any h _) fun _ _ => .bind .request fun _ _ => .pure nofun
  · exact .bind (.settle_any h _) fun _ _ => .pure nofun

/-- The answer of a function of the host. An error without a place is put where the call is. -/
theorem hosted_stays (honest : ∀ f ∈ host.callbacks, f.Honest code.function)
    {f : HostFunction} (member : f ∈ host.callbacks) {args : List Value}
    (hargs : ∀ v ∈ args, v.Within code.function) (scope : ScopeId) {span : Span}
    (h : code.place span) (name : String) :
    (do
      Action.record (.nativeCalled name)
      Action.locate (f scope args span) span).Stays code (code.Blamed host)
        (Value.Within code.function) := by
  intro st within
  let before : State := { st with journal := .nativeCalled name :: st.journal }
  have noted : before.Within code.function := ⟨within.store, within.memory⟩
  obtain ⟨kept, yields⟩ := honest f member scope args span before noted hargs
  rw [Action.bind_run]
  unfold Action.record Action.locate
  dsimp only
  cases answer : f scope args span before with
  | mk result after =>
    rw [answer] at kept yields
    cases result with
    | ok v => exact ⟨kept, yields v rfl⟩
    | error e =>
      refine ⟨kept, ?_⟩
      dsimp only
      unfold Located.orAt
      split
      · exact .inl h
      · next placed =>
        exact .inr ⟨by simpa using placed, f, member, name, scope, args, span, before, h, rfl,
          answer⟩

theorem native_stays (honest : ∀ f ∈ host.callbacks, f.Honest code.function)
    (n : Native) {args : List Value} (hargs : ∀ v ∈ args, v.Within code.function)
    (scope : ScopeId) {span : Span} (h : code.place span) :
    (do
      Action.record (.nativeCalled n.name)
      (runNative host n args scope span).locate span).Stays code
        (code.Blamed host) (Value.Within code.function) := by
  unfold runNative
  split
  · exact .bind (.record _) fun _ _ => .locate (.unplaced (builtin_stays h _ args)) h
  · exact .bind (.record _) fun _ _ => .locate (.pure nofun) h
  · split
    · next f found =>
      exact hosted_stays honest (Array.mem_of_getElem? found) hargs scope h n.name
    · exact .bind (.record _) fun _ _ => .locate (.unplaced (.fail h _)) h

theorem ownerOf_stays {span : Span} (h : code.place span) (v : Value) (key : String) :
    (ownerOf v key span).Stays code (code.Blamed host) fun _ => True := by
  unfold ownerOf
  split
  · exact .pure trivial
  · exact .fail h _

theorem keyOf_stays {span : Span} (h : code.place span) (v : Value) :
    (keyOf v span).Stays code (code.Blamed host) fun _ => True := by
  unfold keyOf
  split
  · exact .pure trivial
  · exact .pure trivial
  · exact .fail h _

theorem variableAt_stays {id : Ident} (h : code.node (.ident id)) (scope : ScopeId) :
    (variableAt scope id).Stays code (code.Blamed host) (Value.Within code.function) :=
  .locate (.lookup scope id.name) (code.located h)

theorem declareAt_stays {id : Ident} (h : code.node (.ident id)) (scope : ScopeId) {v : Value}
    (hv : v.Within code.function) (constant : Bool) :
    (declareAt scope id v constant).Stays code (code.Blamed host) (Value.Within code.function) :=
  .locate (.declare scope id.name hv constant) (code.located h)

/-- A call from a place of the code keeps within the code. -/
def CallStays (code : Code) (host : Host) (call : Caller) : Prop :=
  ∀ f args scope span, f.Within code.function → (∀ v ∈ args, v.Within code.function) →
    code.place span →
    (call f args scope span).Stays code (code.Blamed host) (Value.Within code.function)

mutual

/-- An expression of the code keeps within the code, if calls do. -/
theorem evalExpr_stays {call : Caller} (hcall : CallStays code host call) (scope : ScopeId) :
    ∀ e : Expr, code.node (.expr e) →
      (evalExpr call scope e).Stays code (code.Blamed host) (Value.Within code.function)
  | .number _ _, _ => by rw [evalExpr]; exact .pure nofun
  | .text _ _, _ => by rw [evalExpr]; exact .pure nofun
  | .name id, h => by
    rw [evalExpr]
    exact variableAt_stays (code.child h List.mem_cons_self) scope
  | .assign (.name id) value _, h => by
    have target := code.child h List.mem_cons_self
    have inner := code.child h (List.mem_cons_of_mem _ List.mem_cons_self)
    rw [evalExpr]
    refine .bind (evalExpr_stays hcall scope value inner) fun v hv => ?_
    exact .locate (.assign scope id.name hv) (code.located target)
  | .assign (.member object key span) value _, h => by
    have target := code.child h List.mem_cons_self
    have inner := code.child h (List.mem_cons_of_mem _ List.mem_cons_self)
    have owner := code.child target List.mem_cons_self
    rw [evalExpr]
    refine .bind (evalExpr_stays hcall scope object owner) fun o _ => ?_
    refine .bind (ownerOf_stays (code.located target) o _) fun _ _ => ?_
    exact .bind (evalExpr_stays hcall scope value inner) fun v hv => .setProperty _ _ hv
  | .assign (.index object key span) value _, h => by
    have target := code.child h List.mem_cons_self
    have inner := code.child h (List.mem_cons_of_mem _ List.mem_cons_self)
    have owner := code.child target List.mem_cons_self
    have bracket := code.child target (List.mem_cons_of_mem _ List.mem_cons_self)
    rw [evalExpr]
    refine .bind (evalExpr_stays hcall scope object owner) fun o _ => ?_
    refine .bind (evalExpr_stays hcall scope key bracket) fun k _ => ?_
    refine .bind (keyOf_stays (code.located bracket) k) fun _ _ => ?_
    refine .bind (ownerOf_stays (code.located target) o _) fun _ _ => ?_
    exact .bind (evalExpr_stays hcall scope value inner) fun v hv => .setProperty _ _ hv
  | .assign (.number _ _) _ _, h | .assign (.text _ _) _ _, h | .assign (.assign _ _ _) _ _, h
  | .assign (.binary _ _ _ _) _ _, h | .assign (.call _ _ _) _ _, h
  | .assign (.object _ _) _ _, h => by
    rw [evalExpr]
    · exact .fail (code.located (code.child h List.mem_cons_self)) _
    all_goals simp
  | .binary _ left right _, h => by
    have first := code.child h List.mem_cons_self
    have second := code.child h (List.mem_cons_of_mem _ List.mem_cons_self)
    rw [evalExpr]
    refine .bind (evalExpr_stays hcall scope left first) fun a _ => ?_
    refine .bind (evalExpr_stays hcall scope right second) fun b _ => ?_
    exact .settle (code.located h) fun v result => Operator.apply_within result
  | .member object key span, h => by
    rw [evalExpr]
    refine .bind (evalExpr_stays hcall scope object (code.child h List.mem_cons_self)) fun o _ => ?_
    refine .bind (ownerOf_stays (code.located h) o _) fun owner _ => ?_
    exact .read fun s within => within.property owner key.name
  | .index object key span, h => by
    have owner := code.child h List.mem_cons_self
    have bracket := code.child h (List.mem_cons_of_mem _ List.mem_cons_self)
    rw [evalExpr]
    refine .bind (evalExpr_stays hcall scope object owner) fun o _ => ?_
    refine .bind (evalExpr_stays hcall scope key bracket) fun k _ => ?_
    refine .bind (keyOf_stays (code.located bracket) k) fun name _ => ?_
    refine .bind (ownerOf_stays (code.located h) o _) fun owner _ => ?_
    exact .read fun s within => within.property owner name
  | .call callee args span, h => by
    have inner := code.child h List.mem_cons_self
    have others (arg : Expr) (member : arg ∈ args) : code.node (.expr arg) :=
      code.child h (List.mem_cons_of_mem _ (List.mem_map_of_mem member))
    rw [evalExpr]
    refine .bind (evalArgs_stays hcall scope args others) fun vs hvs => ?_
    refine .bind (evalExpr_stays hcall scope callee inner) fun f hf => ?_
    exact hcall f vs scope span hf hvs (code.located h)
  | .object properties _, h => by
    have entries (p : Property) (member : p ∈ properties) : code.node (.property p) :=
      code.child h (List.mem_map_of_mem member)
    have none : Table.empty.Within code.function := nofun
    rw [evalExpr]
    refine .bind (evalProperties_stays hcall scope properties none entries) fun table ht => ?_
    exact .newObject ht

theorem evalArgs_stays {call : Caller} (hcall : CallStays code host call) (scope : ScopeId) :
    ∀ args : List Expr, (∀ arg ∈ args, code.node (.expr arg)) →
      (evalArgs call scope args).Stays code (code.Blamed host)
        fun vs => ∀ v ∈ vs, v.Within code.function
  | [], _ => by rw [evalArgs]; exact .pure nofun
  | arg :: args, h => by
    obtain ⟨first, others⟩ := List.forall_mem_cons.1 h
    rw [evalArgs]
    refine .bind (evalExpr_stays hcall scope arg first) fun v hv => ?_
    refine .bind (evalArgs_stays hcall scope args others) fun vs hvs => ?_
    exact .pure (List.forall_mem_cons.2 ⟨hv, hvs⟩)

theorem evalProperties_stays {call : Caller} (hcall : CallStays code host call) (scope : ScopeId) :
    ∀ (properties : List Property) {table : Table Value}, table.Within code.function →
      (∀ p ∈ properties, code.node (.property p)) →
      (evalProperties call scope table properties).Stays code (code.Blamed host)
        (Table.Within code.function)
  | [], _, ht, _ => by rw [evalProperties]; exact .pure ht
  | .shorthand key :: rest, _, ht, h => by
    obtain ⟨first, others⟩ := List.forall_mem_cons.1 h
    have name := code.child first List.mem_cons_self
    rw [evalProperties]
    refine .bind (variableAt_stays name scope) fun v hv => ?_
    exact evalProperties_stays hcall scope rest (ht.insert key.name hv) others
  | .keyed key value _ :: rest, _, ht, h => by
    obtain ⟨first, others⟩ := List.forall_mem_cons.1 h
    have inner := code.child first (List.mem_cons_of_mem _ List.mem_cons_self)
    rw [evalProperties]
    refine .bind (evalExpr_stays hcall scope value inner) fun v hv => ?_
    exact evalProperties_stays hcall scope rest (ht.insert key.name hv) others

end

mutual

/-- A statement of the code keeps within the code, if calls do. -/
theorem evalStmt_stays {call : Caller} (hcall : CallStays code host call) (scope : ScopeId) :
    ∀ s : Stmt, code.node (.stmt s) →
      (evalStmt call scope s).Stays code (code.Blamed host) (Value.Within code.function)
  | .letVar name none _, h => by
    have null : Value.null.Within code.function := nofun
    rw [evalStmt]
    exact declareAt_stays (code.child h List.mem_cons_self) scope null false
  | .letVar name (some init) _, h | .letConst name init _, h => by
    have target := code.child h List.mem_cons_self
    have inner := code.child h (List.mem_cons_of_mem _ List.mem_cons_self)
    rw [evalStmt]
    refine .bind (evalExpr_stays hcall scope init inner) fun v hv => ?_
    exact declareAt_stays target scope hv _
  | .function name params body _, h => by
    have target := code.child h List.mem_cons_self
    rw [evalStmt]
    -- Nothing else brings a new function about.
    refine .bind (.mint 1) fun id _ => declareAt_stays target scope ?_ true
    rintro c ⟨⟩
    exact code.declared h id scope
  | .branch test consequent alternate _, h => by
    have condition := code.child h List.mem_cons_self
    have yes (s : Stmt) (member : s ∈ consequent) : code.node (.stmt s) :=
      code.child h (List.mem_cons_of_mem _ (List.mem_append_left _ (List.mem_map_of_mem member)))
    have no (s : Stmt) (member : s ∈ alternate) : code.node (.stmt s) :=
      code.child h (List.mem_cons_of_mem _ (List.mem_append_right _ (List.mem_map_of_mem member)))
    rw [evalStmt]
    refine .bind (evalExpr_stays hcall scope test condition) fun v _ => ?_
    split
    · exact .bind (.newScope scope) fun inner _ =>
        evalBody_stays hcall inner consequent yes nofun
    · exact .bind (.newScope scope) fun inner _ => evalBody_stays hcall inner alternate no nofun
    · exact .pure nofun
  | .expr e, h => by
    rw [evalStmt]
    exact evalExpr_stays hcall scope e (code.child h List.mem_cons_self)

theorem evalBody_stays {call : Caller} (hcall : CallStays code host call) (scope : ScopeId) :
    ∀ (body : List Stmt), (∀ s ∈ body, code.node (.stmt s)) → ∀ {last : Value},
      last.Within code.function →
      (evalBody call scope last body).Stays code (code.Blamed host) (Value.Within code.function)
  | [], _, _, hlast => by rw [evalBody]; exact .pure hlast
  | stmt :: rest, h, _, _ => by
    obtain ⟨first, others⟩ := List.forall_mem_cons.1 h
    rw [evalBody]
    refine .bind (evalStmt_stays hcall scope stmt first) fun v hv => ?_
    exact evalBody_stays hcall scope rest others hv

end

theorem bindParams_stays (scope : ScopeId) {span : Span} (h : code.place span)
    (names : List String) (args : List Value) (hargs : ∀ v ∈ args, v.Within code.function) :
    (bindParams scope span names args).Stays code (code.Blamed host) fun _ => True := by
  fun_induction bindParams scope span names args with
  | case1 name names v vs ih =>
    obtain ⟨hv, hvs⟩ := List.forall_mem_cons.1 hargs
    exact .bind (.locate (.declare scope name hv false) h) fun _ _ => ih hvs
  | case2 => exact .pure trivial

theorem dispatch_stays (honest : ∀ f ∈ host.callbacks, f.Honest code.function)
    {enter : Closure → List Value → Span → Action Value}
    (henter : ∀ c args span, code.function c → (∀ v ∈ args, v.Within code.function) →
      code.place span →
      (enter c args span).Stays code (code.Blamed host) (Value.Within code.function)) :
    CallStays code host (dispatch host enter) := by
  intro f args scope span hf hargs h
  unfold dispatch
  split
  · next c =>
    split
    · exact henter c args span (hf c rfl) hargs h
    · exact .fail h _
  · next n =>
    split
    · exact native_stays honest n hargs scope h
    · exact .fail h _
  · exact .fail h _

/-- A call keeps within the code, however many functions may still be entered. -/
theorem invoke_stays (honest : ∀ f ∈ host.callbacks, f.Honest code.function)
    (remaining : Nat) : CallStays code host (invoke host remaining) := by
  induction remaining with
  | zero => exact dispatch_stays honest fun _ _ _ _ _ h => .fail h _
  | succ remaining ih =>
    -- The body belongs to the code since its function does, and its calls may enter one function
    -- less.
    refine dispatch_stays honest fun c args span hc hargs h => ?_
    refine .bind (.record _) fun _ _ => .bind (.newScope c.scope) fun inner _ => ?_
    refine .bind (bindParams_stays inner h c.params args hargs) fun _ _ => ?_
    exact evalBody_stays ih inner c.body (fun s => code.body hc) nofun

end Evaluator

theorem callValue_stays {code : Code} {host : Host}
    (honest : ∀ f ∈ host.callbacks, f.Honest code.function) :
    Evaluator.CallStays code host (callValue host) :=
  Evaluator.invoke_stays honest host.limit

/-- A program of the code keeps within the code. -/
theorem Program.eval_stays (code : Code) {host : Host}
    (honest : ∀ f ∈ host.callbacks, f.Honest code.function) (scope : ScopeId)
    {p : Program} (h : ∀ s ∈ p, code.node (.stmt s)) :
    (p.eval host scope).Stays code (code.Blamed host) (Value.Within code.function) :=
  .bind (.record _) fun _ _ => Evaluator.evalBody_stays (callValue_stays honest) scope p h nofun

end SloScript
