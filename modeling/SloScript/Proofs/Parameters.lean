import SloScript.Proofs.CallDepth
import SloScript.Proofs.Isolation
import SloScript.Proofs.Origins

/-!
# Parameters can always be bound

A call binds the parameters of a function one after the other in a new scope, and a name that the
scope binds already would be refused. Two parameters of one name are refused when a function is
read, at any depth of the tree, and functions come about by declarations only. So all functions that
a run gets to see have different parameters, wherever they are kept, and the refusal is never met.

`Task.Known` says that a task of a machine is made of given code, and the functions that are called
during a request are followed along the tasks that it starts.

Results:
1. `parse_distinct`: in a program that was read, every declaration has different parameters.
2. `Machine.During.known`: a request stays within the code it was made with.
3. `enter_opens`: different parameters are bound to the arguments in a new scope.
4. `parameters_always_bind`: binding never fails, for any function that can be called.
-/

namespace SloScript

open Evaluator

/-! ## Programs that were read -/

namespace Part

/-- A declaration of a function names each parameter once. -/
def Distinct : Part → Prop
  | stmt (.function _ params _ _) => (params.map Ident.name).Nodup
  | _ => True

/-- All declarations at a node and below it do. -/
def AllDistinct (n : Part) : Prop := ∀ m, n.Has m → m.Distinct

theorem AllDistinct.of_children {n : Part} (here : n.Distinct)
    (below : ∀ child ∈ n.children, child.AllDistinct) : n.AllDistinct := by
  intro m has
  rcases Relation.ReflTransGen.cases_head has with rfl | ⟨child, member, rest⟩
  · exact here
  · exact below child member m rest

/-- Below an expression there is no statement. -/
theorem AllDistinct.of_expr {n : Part} (plain : ∀ s, n ≠ stmt s) : n.AllDistinct := by
  intro m has
  have still : ∀ s, m ≠ stmt s := by
    induction has with
    | refl => exact plain
    | @tail b c _ member ih =>
      rintro s rfl
      cases b with
      | stmt t => exact ih t rfl
      | expr e => cases e <;> simp [children] at member
      | property p => cases p <;> simp [children] at member
      | ident id => simp [children] at member
  cases m with
  | stmt s => exact absurd rfl (still s)
  | _ => trivial

end Part

/-- All declarations within a clause name each parameter once. -/
def Clause.AllDistinct : Clause → Prop
  | stmt s => (Part.stmt s).AllDistinct
  | stmts ss | alternative ss => ∀ s ∈ ss, (Part.stmt s).AllDistinct

open Part.AllDistinct in
theorem Derives.allDistinct {loose : Bool} {ts : List Token} {cl : Clause}
    (h : Derives loose ts cl) : cl.AllDistinct := by
  induction h with
  | letBare | letInit | letConst | expr | exprOpen =>
    refine of_children trivial fun child member => of_expr ?_
    rintro s rfl
    simp [Part.children] at member
  | @function _ _ _ _ _ _ _ _ params body _ _ _ _ _ distinct _ _ _ ih =>
    refine of_children distinct fun child member => ?_
    simp only [Part.children, List.mem_cons, List.mem_append, List.mem_map] at member
    rcases member with rfl | ⟨id, -, rfl⟩ | ⟨s, inBody, rfl⟩
    · exact of_expr nofun
    · exact of_expr nofun
    · exact ih s inBody
  | branch _ _ _ _ _ _ _ _ ihYes ihNo =>
    refine of_children trivial fun child member => ?_
    simp only [Part.children, List.mem_cons, List.mem_append, List.mem_map] at member
    rcases member with rfl | ⟨s, inYes, rfl⟩ | ⟨s, inNo, rfl⟩
    · exact of_expr nofun
    · exact ihYes s inYes
    · exact ihNo s inNo
  | noElse | nil => exact nofun
  | elseIf _ _ ih => exact List.forall_mem_singleton.2 ih
  | elseBlock _ _ _ _ ih => exact ih
  | cons _ _ ihFirst ihOthers => exact List.forall_mem_cons.2 ⟨ihFirst, ihOthers⟩

/-- In a program that was read, no declaration names a parameter twice, however deep it stands. -/
theorem parse_distinct {source : String} {p : Program} (h : parse source = .ok p) {n : Part}
    (has : p.HasPart n) : n.Distinct := by
  obtain ⟨words, finish, d, cut, -, -, read⟩ := parse_eq_ok h
  have derives := Parser.program_sound (.of_tokenize cut .nowhere) read
  obtain ⟨s, member, below⟩ := has
  exact derives.allDistinct s member n below

/-! ## Requests made of known code -/

namespace Machine

variable {code : Code} {host : Host}

namespace Task

/-- The task is made of code. -/
def Known (code : Code) : Task → Prop
  | expr _ e => code.node (.expr e)
  | stmt _ s => code.node (.stmt s)
  | body _ last stmts => last.Within code.function ∧ ∀ s ∈ stmts, code.node (.stmt s)
  | call callee args _ span =>
    callee.Within code.function ∧ (∀ v ∈ args, v.Within code.function) ∧ code.place span
  | function c args span =>
    code.function c ∧ (∀ v ∈ args, v.Within code.function) ∧ code.place span

/-- A task that is made of code keeps within it. -/
theorem Known.stays {t : Task} (known : t.Known code)
    (honest : ∀ f ∈ host.callbacks, f.Honest code.function) (depth : Nat) :
    (t.action host depth).Stays code (code.Blamed host) (Value.Within code.function) := by
  have calls := invoke_stays honest (host.limit - depth)
  cases t with
  | expr scope e => exact evalExpr_stays calls scope e known
  | stmt scope s => exact evalStmt_stays calls scope s known
  | body scope last stmts => exact evalBody_stays calls scope stmts known.2 known.1
  | call callee args scope span => exact calls callee args scope span known.1 known.2.1 known.2.2
  | function c args span =>
    have callee : (Value.function c).Within code.function := by
      rintro _ ⟨⟩
      exact known.1
    exact calls (.function c) args c.scope span callee known.2.1 known.2.2

theorem Known.ends {t : Task} (known : t.Known code)
    (honest : ∀ f ∈ host.callbacks, f.Honest code.function) {m after : Machine}
    {result : Except EvalError Value} (h : t.Ends host m result after)
    (within : m.state.Within code.function) :
    after.state.Within code.function ∧ ∀ v, result = .ok v → v.Within code.function := by
  have run := known.stays honest m.depth m.state within
  rw [h.action_eq] at run
  refine ⟨run.1, ?_⟩
  rintro v rfl
  exact run.2

theorem EndAll.known
    (honest : ∀ f ∈ host.callbacks, f.Honest code.function) {scope : ScopeId}
    {es : List Expr} {m after : Machine} {vs : List Value} (h : EndAll host scope es m vs after)
    (nodes : ∀ e ∈ es, code.node (.expr e)) (within : m.state.Within code.function) :
    after.state.Within code.function ∧ ∀ v ∈ vs, v.Within code.function := by
  induction h with
  | nil => exact ⟨within, List.forall_mem_nil _⟩
  | cons first _ ih =>
    obtain ⟨here, others⟩ := List.forall_mem_cons.1 nodes
    have known : (expr scope _).Known code := here
    obtain ⟨mid, value⟩ := known.ends honest first within
    obtain ⟨final, values⟩ := ih others mid
    exact ⟨final, List.forall_mem_cons.2 ⟨value _ rfl, values⟩⟩

end Task

/-- Operands are nodes below an expression. -/
theorem node_of_mem_operands {e o : Expr} (h : code.node (.expr e)) (member : o ∈ e.operands) :
    code.node (.expr o) := by
  have below : ∀ child ∈ (Part.expr e).children, code.node child := fun _ => code.child h
  cases e with
  | number x span | text s span | name id => cases member
  | assign target value span =>
    simp only [Part.children, List.forall_mem_cons] at below
    obtain ⟨left, right, -⟩ := below
    have inside : ∀ child ∈ (Part.expr target).children, code.node child := fun _ => code.child left
    cases target with
    | name id =>
      obtain rfl := List.mem_singleton.1 member
      exact right
    | member owner key _ =>
      simp only [Part.children, List.forall_mem_cons] at inside
      rcases List.mem_pair.1 member with rfl | rfl
      · exact inside.1
      · exact right
    | index owner key _ =>
      simp only [Part.children, List.forall_mem_cons] at inside
      rcases List.mem_cons.1 member with rfl | later
      · exact inside.1
      · rcases List.mem_pair.1 later with rfl | rfl
        · exact inside.2.1
        · exact right
    | _ => cases member
  | binary op left right span | index left right span =>
    simp only [Part.children, List.forall_mem_cons] at below
    rcases List.mem_pair.1 member with rfl | rfl
    · exact below.1
    · exact below.2.1
  | member owner key span =>
    obtain rfl := List.mem_singleton.1 member
    exact below _ List.mem_cons_self
  | call callee args span =>
    rcases List.mem_append.1 member with given | called
    · exact below _ (List.mem_cons_of_mem _ (List.mem_map_of_mem given))
    · obtain rfl := List.mem_singleton.1 called
      exact below _ List.mem_cons_self
  | object properties span =>
    obtain ⟨p, among, value⟩ := List.mem_filterMap.1 member
    have entry := below _ (List.mem_map_of_mem among)
    cases p with
    | shorthand key => cases value
    | keyed key value' _ =>
      obtain rfl := Option.some.inj value
      exact code.child entry (List.mem_cons_of_mem _ List.mem_cons_self)

theorem node_of_operand? {s : Stmt} {e : Expr} (h : code.node (.stmt s))
    (first : s.operand? = some e) : code.node (.expr e) := by
  refine code.child h ?_
  cases s with
  | letVar name init span =>
    obtain rfl : init = some e := first
    exact List.mem_cons_of_mem _ List.mem_cons_self
  | letConst name init span =>
    obtain rfl := Option.some.inj first
    exact List.mem_cons_of_mem _ List.mem_cons_self
  | function name params body span => cases first
  | branch test yes no span | expr test =>
    obtain rfl := Option.some.inj first
    exact List.mem_cons_self

/-- What a task that is made of code starts is made of that code. -/
theorem Task.Known.starts {t t' : Task} (known : t.Known code)
    (honest : ∀ f ∈ host.callbacks, f.Honest code.function) {m m' : Machine}
    (h : t.Starts host m t' m') (within : m.state.Within code.function) :
    t'.Known code ∧ m'.state.Within code.function := by
  cases h with
  | @operand _ e o before later _ _ _ order ended =>
    have nodes (o' : Expr) (among : o' ∈ e.operands) : code.node (.expr o') :=
      node_of_mem_operands known among
    rw [order] at nodes
    have done := ended.known honest (fun o' among => nodes o' (List.mem_append_left _ among)) within
    exact ⟨nodes o (by simp), done.1⟩
  | @called _ callee args _ _ _ _ _ ended =>
    obtain ⟨after, values⟩ :=
      ended.known honest (fun o among => node_of_mem_operands known among) within
    refine ⟨⟨?_, fun v among => ?_, code.located known⟩, after⟩
    · exact values _ (List.mem_append_right _ (List.mem_singleton_self _))
    · exact values v (List.mem_append_left _ among)
  | function => exact ⟨⟨known.1 _ rfl, known.2⟩, within⟩
  | first operand => exact ⟨node_of_operand? known operand, within⟩
  | @branch scope _ test yes no span b _ _ st tested opened =>
    have condition : (expr scope test).Known code := code.child known List.mem_cons_self
    have stays : (Action.newScope scope).Stays code (code.Blamed host) fun _ => True :=
      .newScope scope
    have inside := stays _ (condition.ends honest tested within).1
    rw [opened] at inside
    refine ⟨⟨.of_null _, fun s among => code.child known (List.mem_cons_of_mem _ ?_)⟩, inside.1⟩
    cases b with
    | true => exact List.mem_append_left _ (List.mem_map_of_mem among)
    | false => exact List.mem_append_right _ (List.mem_map_of_mem among)
  | @statement scope last v before later s _ _ ended =>
    have earlier : (body scope last before).Known code :=
      ⟨known.1, fun s' among => known.2 s' (List.mem_append_left _ among)⟩
    exact ⟨known.2 s (by simp), (earlier.ends honest ended within).1⟩

/-- Entering a function of the code leads to its body, which is made of the code. -/
theorem enter_known {c : Closure} {args : List Value} {span : Span}
    (known : (Task.function c args span).Known code) {m after : Machine} {inner : ScopeId}
    (h : enter host c args span m = some (.ok inner, after))
    (within : m.state.Within code.function) :
    (Task.body inner .null c.body).Known code ∧ after.state.Within code.function := by
  obtain ⟨-, -, prepared, -⟩ := enter_eq_ok h
  have stays : (prepare m.depth c args span).Stays code (code.Blamed host) fun _ => True :=
    .bind (.record _) fun _ _ => .bind (.newScope c.scope) fun inner _ =>
      .bind (bindParams_stays inner known.2.2 c.params args known.2.1) fun _ _ => .pure trivial
  have run := stays m.state within
  rw [prepared] at run
  exact ⟨⟨.of_null _, fun s => code.body known.1⟩, run.1⟩

/-- Everything that is started while a request is answered is made of the code that the request is
made of. -/
theorem During.known {m m' : Machine} {q : Request} {t : Task} {active : Nat}
    (h : m.During host q t m' active) (request : q.task.Known code)
    (honest : ∀ f ∈ host.callbacks, f.Honest code.function)
    (within : m.state.Within code.function) :
    t.Known code ∧ m'.state.Within code.function := by
  induction h with
  | request => cases q <;> exact ⟨request, within.store, within.memory⟩
  | within _ starts ih => exact ih.1.starts honest starts ih.2
  | entered _ success ih =>
    obtain ⟨body, inside⟩ := enter_known ih.1 success ih.2
    exact ⟨body, inside⟩

end Machine

/-! ## Binding parameters -/

theorem Store.bindIn_addScope_self (s : Store) (parent : Option ScopeId) (table : Table Binding)
    (name : String) (b : Binding) :
    (s.addScope parent table).2.bindIn ⟨s.scopes.size⟩ name b =
      (s.addScope parent (table.insert name b)).2 := by
  unfold bindIn addScope
  congr 1
  refine Array.ext_getElem? fun i => ?_
  rw [Array.getElem?_modify, Array.getElem?_push, Array.getElem?_push]
  by_cases last : i = s.scopes.size
  · simp [last]
  · simp [last, Ne.symm last]

/-- Names bound to values in order, as variables. -/
def Binding.ofArgs (names : List String) (args : List Value) : List (String × Binding) :=
  (names.zip args).map fun (name, v) => (name, ⟨v, false⟩)

theorem Binding.mem_ofArgs_iff {names : List String} {args : List Value} {name : String}
    {b : Binding} : (name, b) ∈ ofArgs names args ↔
      ∃ (i : Nat) (v : Value), names[i]? = some name ∧ args[i]? = some v ∧ b = ⟨v, false⟩ := by
  constructor
  · intro member
    obtain ⟨⟨name', v⟩, among, same⟩ := List.mem_map.1 member
    obtain ⟨rfl, rfl⟩ := Prod.mk.inj same
    obtain ⟨i, found⟩ := List.mem_iff_getElem?.1 among
    obtain ⟨left, right⟩ := List.getElem?_zip_eq_some.1 found
    exact ⟨i, v, left, right, rfl⟩
  · rintro ⟨i, v, left, right, rfl⟩
    have found : (names.zip args)[i]? = some (name, v) :=
      List.getElem?_zip_eq_some.2 ⟨left, right⟩
    exact List.mem_map.2 ⟨(name, v), List.mem_of_getElem? found, rfl⟩

theorem Binding.keys_ofArgs {names : List String} {args : List Value}
    (count : names.length = args.length) : (ofArgs names args).map Prod.fst = names :=
  calc (ofArgs names args).map Prod.fst
    _ = (names.zip args).map Prod.fst := List.map_map
    _ = names := List.map_fst_zip (Nat.le_of_eq count)

/-- Parameters with different names are all bound, one after the other, in a scope that binds none
of them yet. -/
theorem bindParams_ok {names : List String} (distinct : names.Nodup) (args : List Value)
    (span : Span) (s : Store) (parent : Option ScopeId) (table : Table Binding) (st : State)
    (free : ∀ name ∈ names, table.get? name = none) :
    ∃ notes,
      bindParams ⟨s.scopes.size⟩ span names args
          { st with store := (s.addScope parent table).2 } =
        (.ok (), { st with
          store := (s.addScope parent ((Binding.ofArgs names args).foldl
            (fun t (name, b) => t.insert name b) table)).2
          journal := notes }) := by
  induction names generalizing args table st with
  | nil => exact ⟨st.journal, rfl⟩
  | cons name names ih =>
    obtain _ | ⟨v, vs⟩ := args
    · exact ⟨st.journal, rfl⟩
    obtain ⟨here, later⟩ := List.nodup_cons.1 distinct
    obtain ⟨unbound, others⟩ := List.forall_mem_cons.1 free
    have still : ∀ other ∈ names, (table.insert name ⟨v, false⟩).get? other = none := by
      intro other among
      rw [Table.get?_insert, if_neg (by rintro rfl; exact here among), others other among]
    obtain ⟨notes, rest⟩ := ih later vs _ (st.record (.declared name false)) still
    refine ⟨notes, ?_⟩
    rw [bindParams, Action.bind_run, Action.locate, Action.declare, Action.bindIn,
      Store.declaringScope, Store.binds, Store.binding?_addScope_self, unbound]
    simp only [Option.isSome_none, Bool.false_eq_true, if_false, Store.bindIn_addScope_self]
    exact rest

namespace Machine

/-- A call of a function comes to its body, which starts in a new scope within the scope of the
function. The new scope binds the first parameter to the first argument and so on, as variables, and
nothing else. The rest of the store is as before. -/
def Opens (host : Host) (c : Closure) (args : List Value) (span : Span) (m : Machine) : Prop :=
  ∃ (table : Table Binding) (notes : List Event),
    enter host c args span m =
      some (.ok ⟨m.state.store.scopes.size⟩,
        ⟨{ m.state with
          store := (m.state.store.addScope (some c.scope) table).2
          journal := notes }, m.depth⟩) ∧
    ∀ name b, table.get? name = some b ↔
      ∃ (i : Nat) (v : Value), c.params[i]? = some name ∧ args[i]? = some v ∧ b = ⟨v, false⟩

theorem enter_opens {host : Host} {c : Closure} (distinct : c.params.Nodup) {args : List Value}
    (count : c.params.length = args.length) (span : Span) {m : Machine}
    (room : m.depth < host.limit) : m.Opens host c args span := by
  obtain ⟨notes, bound⟩ := bindParams_ok distinct args span m.state.store (some c.scope) .empty
    (m.state.record (.called c.name (m.depth + 1))) (fun _ _ => rfl)
  refine ⟨.ofList (Binding.ofArgs c.params args), notes, ?_, fun name b => ?_⟩
  · rw [enter, if_pos count, Routine.bind_run]
    simp only [Routine.activeCount, if_neg (Nat.not_le.2 room), Routine.perform, prepare,
      Action.bind_run, Action.record, Action.newScope, Action.change]
    have new : (m.state.store.addScope (some c.scope) .empty).1 = ⟨m.state.store.scopes.size⟩ := rfl
    rw [new]
    rw [State.record] at bound
    rw [bound]
    rfl
  · have different : ((Binding.ofArgs c.params args).map Prod.fst).Nodup := by
      rwa [Binding.keys_ofArgs count]
    rw [Table.get?_ofList_eq_some_iff different, Binding.mem_ofArgs_iff]

/-- With different parameters, a function is never refused for a name that is bound already. -/
theorem enter_error_cause {host : Host} {c : Closure} (distinct : c.params.Nodup)
    {args : List Value} {span : Span} {m after : Machine} {e : EvalError}
    (failed : enter host c args span m = some (.error e, after)) (name : String) :
    e.cause ≠ .alreadyDeclared name := by
  intro same
  by_cases count : c.params.length = args.length
  · by_cases room : m.depth < host.limit
    · obtain ⟨_, _, opened, -⟩ := enter_opens distinct count span room
      rw [opened] at failed
      cases failed
    · rw [enter, if_pos count, Routine.bind_run] at failed
      simp only [Routine.activeCount, if_pos (Nat.le_of_not_lt room)] at failed
      cases failed
      cases same
  · rw [enter, if_neg count] at failed
    cases failed
    cases same

end Machine

/-! ## States that arise -/

theorem Closure.Declared.distinct {c : Closure} (h : c.Declared) : c.params.Nodup := by
  obtain ⟨source, p, read, name, params, span, has, -, same⟩ := h
  rw [same]
  exact parse_distinct read has

/-- The code of all source texts. A call of the host has no place, so any place will do. -/
def Code.anywhere : Code where
  node n := ∃ source p, parse source = .ok p ∧ p.HasPart n
  function := Closure.Declared
  place _ := True
  child := by
    rintro n m ⟨source, p, read, s, top, below⟩ member
    exact ⟨source, p, read, s, top, below.child member⟩
  declared := by
    rintro name params body span ⟨source, p, read, has⟩ id scope
    exact ⟨source, p, read, name, params, span, has, rfl, rfl⟩
  body := by
    rintro c s ⟨source, p, read, declares⟩ member
    exact ⟨source, p, read, declares.hasPart ⟨s, member, .refl⟩⟩
  located _ := trivial

/-- A request to run a program that was read, or to call a value with arguments in which all
functions were declared in source texts. -/
def Machine.Request.Sourced : Machine.Request → Prop
  | eval _ p => ∃ source, parse source = .ok p
  | call callee args _ _ =>
    callee.Within Closure.Declared ∧ ∀ v ∈ args, v.Within Closure.Declared

theorem Machine.Request.Sourced.known {q : Machine.Request} (h : q.Sourced) :
    q.task.Known .anywhere := by
  cases q with
  | eval scope p =>
    obtain ⟨source, read⟩ := h
    exact ⟨.of_null _, fun s member => ⟨source, p, read, s, member, .refl⟩⟩
  | call callee args scope span => exact ⟨h.1, h.2, trivial⟩

/-- A state at any moment of any history: prelude scopes are created, programs that were read are
run in any scope, and functions are called, and each of them may fail. The functions that the host
brings along were declared in source texts as well. -/
inductive State.Arises : State → Prop
  | initial : Arises .initial
  | prelude {st : State} : Arises st → Arises (Prelude.createScope st).2
  | during {host : Host} {st : State} {q : Machine.Request} {t : Machine.Task} {m : Machine}
      {active : Nat} : Arises st → q.Sourced →
      (∀ f ∈ host.callbacks, f.Honest Closure.Declared) →
      Machine.During host ⟨st, 0⟩ q t m active → Arises m.state
  | ended {host : Host} {st : State} {q : Machine.Request} {t : Machine.Task} {m after : Machine}
      {active : Nat} {result : Except EvalError Value} : Arises st → q.Sourced →
      (∀ f ∈ host.callbacks, f.Honest Closure.Declared) →
      Machine.During host ⟨st, 0⟩ q t m active → t.Ends host m result after → Arises after.state

/-- Every function in such a state was declared in a source text. -/
theorem State.Arises.within {st : State} (h : st.Arises) :
    st.Within Closure.Declared := by
  induction h with
  | initial => exact .initial _
  | prelude _ ih => exact ⟨Prelude.seed_within ih.store, ih.memory⟩
  | during _ sourced honest during ih => exact (during.known sourced.known honest ih).2
  | ended _ sourced honest during ended ih =>
    obtain ⟨known, within⟩ := during.known sourced.known honest ih
    exact (known.ends honest ended within).1

/-- Parameters can always be bound. In every program that was read, every declaration of a function
has different parameters, however deep it stands. So has every function that is kept anywhere in a
state that arises, and a call of it with the right number of arguments, while another function may
be active, comes to its body. The same holds of every call that is made while a request is answered;
whatever else it is refused for, it is not for a name that is bound already. -/
theorem parameters_always_bind :
    (∀ source p, parse source = .ok p → ∀ name params body span,
      p.HasPart (.stmt (.function name params body span)) → (params.map Ident.name).Nodup) ∧
    (∀ st : State, st.Arises → ∀ c, st.store.Contains (.function c) →
      c.params.Nodup ∧ ∀ (host : Host) args span depth, c.params.length = args.length →
        depth < host.limit → Machine.Opens host c args span ⟨st, depth⟩) ∧
    ∀ (st : State) (host : Host) (q : Machine.Request), st.Arises → q.Sourced →
      (∀ f ∈ host.callbacks, f.Honest Closure.Declared) →
      ∀ c args span m active, Machine.During host ⟨st, 0⟩ q (.function c args span) m active →
        c.params.Nodup ∧
        (c.params.length = args.length → active < host.limit → m.Opens host c args span) ∧
        ∀ e after, Machine.enter host c args span m = some (.error e, after) →
          ∀ name, e.cause ≠ .alreadyDeclared name := by
  refine ⟨?_, ?_, ?_⟩
  · intro source p read name params body span has
    exact parse_distinct read has
  · intro st arises c kept
    have distinct := (arises.within.store _ kept c rfl).distinct
    refine ⟨distinct, fun host args span depth count room => ?_⟩
    exact Machine.enter_opens distinct count span room
  · intro st host q arises sourced honest c args span m active during
    have distinct := (during.known sourced.known honest arises.within).1.1.distinct
    obtain ⟨counted, -⟩ := during.depth_eq (.fresh st)
    refine ⟨distinct, fun count room => ?_, fun e after failed name => ?_⟩
    · exact Machine.enter_opens distinct count span (counted ▸ room)
    · exact Machine.enter_error_cause distinct failed name

/-- The function that a scope binds to a name. -/
def Store.closure? (s : Store) (id : ScopeId) (name : String) : Option Closure :=
  match s.binding? id name with
  | some ⟨.function c, _⟩ => some c
  | _ => none

theorem Store.contains_of_closure? {s : Store} {id : ScopeId} {name : String} {c : Closure}
    (h : s.closure? id name = some c) : s.Contains (.function c) := by
  unfold Store.closure? at h
  split at h
  · next c' _ found =>
    obtain rfl := Option.some.inj h
    exact .binding found
  · cases h

/-- A function within a function, each with two parameters: the outer one is declared next to the
prelude and can be called. -/
theorem parameters_always_bind_pair :
    let host : Host := ⟨1, fun _ => ⟨0, 0, 0, 1, 1, 2000⟩, fun _ => 0, fun _ => none, #[]⟩
    ∃ (st : State) (c : Closure), st.Arises ∧ st.store.Contains (.function c) ∧
      c.params = ["a", "b"] ∧ Machine.Opens host c [.bool true, .null] .nowhere ⟨st, 0⟩ := by
  intro host
  let source := "funkcija f(a, b) { funkcija g(b, a) { a } g(a, b) }"
  let p : Program := (parse source).toOption.getD []
  let q : Machine.Request := .eval ⟨0⟩ p
  let m : Machine := q.start ⟨(Prelude.createScope .initial).2, 0⟩
  let after : State := (q.task.action host 0 m.state).2
  have read : parse source = .ok p := eq_ok_of_isOk (by decide +kernel) []
  have sourced : q.Sourced := ⟨source, read⟩
  have honest : ∀ f ∈ host.callbacks, f.Honest Closure.Declared := by simp [host]
  have arises : after.Arises :=
    .ended (.prelude .initial) sourced honest .request (q.task.ends host m)
  have bound : (after.store.closure? ⟨0⟩ "f").map Closure.params = some ["a", "b"] := by
    decide +kernel
  obtain ⟨c, found, params⟩ := Option.map_eq_some_iff.1 bound
  have kept := Store.contains_of_closure? found
  have opens := (parameters_always_bind.2.1 after arises c kept).2 host [.bool true, .null]
  exact ⟨after, c, arises, kept, params, opens .nowhere 0 (by rw [params]; rfl) Nat.one_pos⟩

end SloScript
