import SloScript.Proofs.Provenance
import SloScript.Session

/-!
# The sources of a session

A session goes on for as long as its host likes: texts are run and fail or not, the host calls
functions, adds its own, and may do anything to the state in between. Whatever happens, a function
of the language comes about by its declaration in a text, possibly deep inside a body or a branch,
or the host puts one together itself. So the code that a text can get to consists of its own program
and the bodies of such functions, and an error that it stops with is at a node of either, unless a
function of the host has put it somewhere else.

Nothing is asked of the host. What it makes is written down next to the history of a session: a
function counts as made if an action of the host leaves it in the state or yields it without having
been given it. Parsed bodies are on real lines, whoever passes them on; a body that the host did not
get from the parser is the one thing that may be anywhere.

Results:
1. `Session.Reached.sound`: every function in a session comes from its texts or from its host.
2. `Session.Reached.eval_blamed`: an error of a text is blamed on the code that it can get to.
3. `Session.eval_error_located`: so it is located, and where.
-/

namespace SloScript

/-! ## Sources -/

/-- A program declares a function if the declaration stands anywhere in it. -/
def Program.Declares (p : Program) (c : Closure) : Prop :=
  ∃ name params span, p.HasPart (.stmt (.function name params c.body span)) ∧
    c.name = name.name ∧ c.params = params.map Ident.name

theorem Program.Declares.hasPart {p : Program} {c : Closure} (h : p.Declares c) {n : Part}
    (below : Program.HasPart c.body n) : p.HasPart n := by
  obtain ⟨name, params, span, ⟨s, member, above⟩, -, -⟩ := h
  obtain ⟨s', member', below⟩ := below
  have child : Part.stmt s' ∈ (Part.stmt (.function name params c.body span)).children :=
    List.mem_cons_of_mem _ (List.mem_append_right _ (List.mem_map_of_mem member'))
  exact ⟨s, member, (above.child child).trans below⟩

theorem Program.Declares.trans {p : Program} {c inner : Closure} (h : p.Declares c)
    (inside : Program.Declares c.body inner) : p.Declares inner := by
  obtain ⟨name, params, span, below, hn, hp⟩ := inside
  exact ⟨name, params, span, h.hasPart below, hn, hp⟩

/-- The function comes from a declaration in a source text. -/
def Closure.Declared (c : Closure) : Prop := ∃ source p, parse source = .ok p ∧ p.Declares c

/-- The function comes from a declaration in one of the source texts. -/
def Closure.DeclaredIn (sources : List String) (c : Closure) : Prop :=
  ∃ source ∈ sources, ∃ p, parse source = .ok p ∧ p.Declares c

theorem Closure.DeclaredIn.declared {sources : List String} {c : Closure}
    (h : c.DeclaredIn sources) : c.Declared := by
  obtain ⟨source, -, p, read, declares⟩ := h
  exact ⟨source, p, read, declares⟩

/-- The function comes from one of the source texts, or is one that the host has made, or is
declared in the body of such a one. -/
def Closure.Known (sources : List String) (made : Closure → Prop) (c : Closure) : Prop :=
  c.DeclaredIn sources ∨ ∃ outer, made outer ∧ (c = outer ∨ Program.Declares outer.body c)

section

variable {sources more : List String} {made others : Closure → Prop} {c inner : Closure}

theorem Closure.Known.of_made (h : made c) : c.Known sources made :=
  .inr ⟨c, h, .inl rfl⟩

theorem Closure.Known.mono (texts : ∀ source ∈ sources, source ∈ more)
    (functions : ∀ c, made c → others c) (h : c.Known sources made) : c.Known more others := by
  rcases h with ⟨source, member, declared⟩ | ⟨outer, byHost, inside⟩
  · exact .inl ⟨source, texts source member, declared⟩
  · exact .inr ⟨outer, functions outer byHost, inside⟩

/-- What the body of a known function declares is known. -/
theorem Closure.Known.declared (h : c.Known sources made)
    (inside : Program.Declares c.body inner) : inner.Known sources made := by
  rcases h with ⟨source, member, p, read, declares⟩ | ⟨outer, byHost, rfl | declares⟩
  · exact .inl ⟨source, member, p, read, declares.trans inside⟩
  · exact .inr ⟨c, byHost, .inr inside⟩
  · exact .inr ⟨outer, byHost, .inr (declares.trans inside)⟩

/-- A node in the body of a known function is in the body of one from a text or from the host. -/
theorem Closure.Known.origin (h : c.Known sources made) {n : Part}
    (below : Program.HasPart c.body n) :
    ∃ outer : Closure, (outer.DeclaredIn sources ∨ made outer) ∧
      Program.HasPart outer.body n := by
  rcases h with declared | ⟨outer, byHost, rfl | declares⟩
  · exact ⟨c, .inl declared, below⟩
  · exact ⟨c, .inr byHost, below⟩
  · exact ⟨outer, .inr byHost, declares.hasPart below⟩

end

/-- A node of a program, or of the body of a known function. -/
def Program.Reaches (sources : List String) (made : Closure → Prop) (p : Program) (n : Part) :
    Prop :=
  p.HasPart n ∨ ∃ c : Closure, c.Known sources made ∧ Program.HasPart c.body n

/-- What is declared at such a node is declared by the program, or known. -/
theorem Program.Reaches.declared {sources : List String} {made : Closure → Prop} {p : Program}
    {c : Closure} {name : Ident} {params : List Ident} {span : Span}
    (h : p.Reaches sources made (.stmt (.function name params c.body span)))
    (hn : c.name = name.name) (hp : c.params = params.map Ident.name) :
    p.Declares c ∨ c.Known sources made := by
  rcases h with here | ⟨outer, known, below⟩
  · exact .inl ⟨name, params, span, here, hn, hp⟩
  · exact .inr (known.declared ⟨name, params, span, below, hn, hp⟩)

/-- The code that a program can get to after the given source texts, when the host has made the
given functions. -/
def Code.running (sources : List String) (made : Closure → Prop) (p : Program) : Code where
  node := p.Reaches sources made
  function c := p.Declares c ∨ c.Known sources made
  place span := ∃ n, p.Reaches sources made n ∧ n.span = span
  child h member := by
    rcases h with ⟨s, top, below⟩ | ⟨c, known, s, top, below⟩
    · exact .inl ⟨s, top, below.child member⟩
    · exact .inr ⟨c, known, s, top, below.child member⟩
  declared h _ _ := h.declared rfl rfl
  body h member := by
    rcases h with declared | known
    · exact .inl (declared.hasPart ⟨_, member, .refl⟩)
    · exact .inr ⟨_, known, _, member, .refl⟩
  located h := ⟨_, h, rfl⟩

/-- The code that a call of the host can get to. It has no place itself, so any place will do. -/
def Code.called (sources : List String) (made : Closure → Prop) : Code where
  node := Program.Reaches sources made []
  function := Closure.Known sources made
  place _ := True
  child := (Code.running sources made []).child
  declared h _ _ := (h.declared rfl rfl).resolve_left nofun
  body h member := .inr ⟨_, h, _, member, .refl⟩
  located _ := trivial

/-- The nodes of a program that was read are on real lines. -/
theorem Program.HasPart.located {source : String} {p : Program} {n : Part} (has : p.HasPart n)
    (read : parse source = .ok p) : n.span.isNowhere = false := by
  obtain ⟨words, finish, -, tiling, row⟩ := row_of_parse read
  rw [Span.isNowhere, ((row.of_hasPart has).nests tiling).line]
  simp

/-- So are the nodes in the body of a function that was declared. -/
theorem Closure.Declared.located {c : Closure} (h : c.Declared) {n : Part}
    (below : Program.HasPart c.body n) : n.span.isNowhere = false := by
  obtain ⟨source, p, read, declares⟩ := h
  exact (declares.hasPart below).located read

/-! ## What the host makes -/

/-- A function of the language that the state contains, or that a function of the host remembers. -/
def State.Keeps (st : State) (c : Closure) : Prop :=
  st.store.Contains (.function c) ∨ .function c ∈ st.memory

theorem State.within_iff {known : Closure → Prop} {st : State} :
    st.Within known ↔ ∀ c, st.Keeps c → known c := by
  constructor
  · rintro ⟨store, memory⟩ c (kept | remembered)
    · exact store _ kept c rfl
    · exact memory _ remembered c rfl
  · intro h
    constructor
    · rintro v kept c rfl
      exact h c (.inl kept)
    · rintro v remembered c rfl
      exact h c (.inr remembered)

/-- An action makes a function if it leads from a state without it to one with it, or yields it. -/
def Action.Makes (m : Action Value) (c : Closure) : Prop :=
  ∃ st, ¬st.Keeps c ∧ ((m st).2.Keeps c ∨ (m st).1 = .ok (.function c))

/-- A function of the host makes a function if some call does that was not given it. -/
def HostFunction.Makes (f : HostFunction) (c : Closure) : Prop :=
  ∃ scope args span, .function c ∉ args ∧ (f scope args span).Makes c

/-- If everything that it makes is known, a function of the host brings nothing else along. -/
theorem HostFunction.Honest.of_makes {f : HostFunction} {known : Closure → Prop}
    (h : ∀ c, f.Makes c → known c) : f.Honest known := by
  intro scope args span st within given
  have brought {c : Closure} (has : (f scope args span st).2.Keeps c ∨
      (f scope args span st).1 = .ok (.function c)) : known c := by
    by_cases old : st.Keeps c
    · exact State.within_iff.1 within c old
    by_cases passed : .function c ∈ args
    · exact given _ passed c rfl
    exact h c ⟨scope, args, span, passed, st, old, has⟩
  refine ⟨State.within_iff.2 fun c kept => brought (.inl kept), ?_⟩
  rintro v answer c rfl
  exact brought (.inr answer)

/-! ## Sessions -/

theorem Value.Within.mono {known more : Closure → Prop} (h : ∀ c, known c → more c) {v : Value}
    (hv : v.Within known) : v.Within more :=
  fun c same => h c (hv c same)

theorem Value.Within.of_null (known : Closure → Prop) : Value.null.Within known := by
  intro c same
  cases same

theorem Value.Within.of_native (known : Closure → Prop) (n : Native) :
    (Value.native n).Within known :=
  nofun

theorem State.Within.mono {known more : Closure → Prop} (h : ∀ c, known c → more c) {st : State}
    (within : st.Within known) : st.Within more where
  store v member := (within.store v member).mono h
  memory v member := (within.memory v member).mono h

theorem State.Within.initial (known : Closure → Prop) : State.initial.Within known where
  store v member := by cases member with | binding found | property found => cases found
  memory := nofun

/-- A source text leaves functions in the state that come from it or were known before, and a fault
in it is blamed on the code that it can get to. -/
theorem State.evalSource_stays {host : Host} {sources : List String} {made : Closure → Prop}
    (makes : ∀ f ∈ host.callbacks, ∀ c, f.Makes c → made c)
    {st : State} (within : st.Within (Closure.Known sources made)) (scope : ScopeId)
    (source : String) :
    let (result, after) := st.evalSource host scope source
    after.Within (Closure.Known (source :: sources) made) ∧
      ∀ e, result = .error (.eval e) →
        ∃ p, parse source = .ok p ∧ (Code.running sources made p).Blamed host e after := by
  have older (c : Closure) : c.Known sources made → c.Known (source :: sources) made :=
    .mono (fun _ => List.mem_cons_of_mem _) fun _ => id
  unfold evalSource
  cases cut : tokenize source with
  | error e => exact ⟨within.mono older, fun _ failed => by cases failed⟩
  | ok tokens =>
    dsimp only
    cases read : parseTokens tokens with
    | error e =>
      have kept := within.mono older
      exact ⟨⟨kept.store, kept.memory⟩, fun _ failed => by cases failed⟩
    | ok p =>
      have read : parse source = .ok p := by rw [parse, cut]; exact read
      let noted := (st.record (.tokensProduced tokens.length)).record (.statementsParsed p.length)
      have given : noted.Within (Code.running sources made p).function :=
        State.Within.mono (fun _ => .inr) ⟨within.store, within.memory⟩
      have run := Program.eval_stays (.running sources made p)
        (fun f member => .of_makes fun c makesIt => .inr (.of_made (makes f member c makesIt)))
        scope (fun s member => .inl ⟨s, member, .refl⟩) noted given
      dsimp only
      generalize p.eval host scope _ = result at run ⊢
      obtain ⟨result, after⟩ := result
      have told : after.Within (Closure.Known (source :: sources) made) := by
        refine run.1.mono fun c => ?_
        rintro (here | before)
        · exact .inl ⟨source, List.mem_cons_self, p, read, here⟩
        · exact older c before
      cases result with
      | error e =>
        refine ⟨told, fun _ failed => ?_⟩
        cases failed
        exact ⟨p, read, run.2⟩
      | ok v => exact ⟨told, fun _ failed => by cases failed⟩

/-! ## The prelude -/

/-- What a table maps a key to after insertions was inserted, or was there before. -/
theorem Table.mem_of_get?_foldl {α : Type} {entries : List (String × α)} {key : String} {value : α}
    {t : Table α}
    (h : (entries.foldl (fun t (key, value) => t.insert key value) t).get? key = some value) :
    (key, value) ∈ entries ∨ t.get? key = some value := by
  induction entries generalizing t with
  | nil => exact .inr h
  | cons entry entries ih =>
    rcases ih h with later | now
    · exact .inl (List.mem_cons_of_mem _ later)
    · rw [get?_insert] at now
      split at now
      · next same => exact .inl (by simp [same, ← Option.some.inj now])
      · exact .inr now

/-- Insertions of other keys do not matter. -/
theorem Table.get?_foldl_of_not_mem {α : Type} {entries : List (String × α)} {key : String}
    (absent : key ∉ entries.map Prod.fst) (t : Table α) :
    (entries.foldl (fun t (key, value) => t.insert key value) t).get? key = t.get? key := by
  induction entries generalizing t with
  | nil => rfl
  | cons entry entries ih =>
    obtain ⟨here, later⟩ := not_or.1 (mt List.mem_cons.2 absent)
    rw [List.foldl_cons, ih later, get?_insert, if_neg here]

/-- Entries with different keys are all there, and nothing else is. -/
theorem Table.get?_ofList_eq_some_iff {α : Type} {entries : List (String × α)}
    (distinct : (entries.map Prod.fst).Nodup) {key : String} {value : α} :
    (ofList entries).get? key = some value ↔ (key, value) ∈ entries := by
  refine ⟨fun found => (mem_of_get?_foldl found).resolve_right nofun, fun member => ?_⟩
  unfold ofList
  generalize (empty : Table α) = t
  induction entries generalizing t with
  | nil => cases member
  | cons entry entries ih =>
    obtain ⟨here, later⟩ := List.nodup_cons.1 distinct
    rcases List.mem_cons.1 member with rfl | inRest
    · rw [List.foldl_cons, get?_foldl_of_not_mem here, get?_insert, if_pos rfl]
    · exact ih later inRest _

namespace Prelude

/-- No value of the prelude is a function of the language. -/
theorem values_within (known : Closure → Prop) {first : Nat} {entry : String × Value}
    (h : entry ∈ values first) : entry.2.Within known := by
  obtain ⟨⟨⟨name, make⟩, i⟩, member, rfl⟩ := List.mem_map.1 h
  have plain : ∀ entry ∈ entries, ∀ id c, entry.2 id ≠ .function c := by
    simp [entries, native]
  exact fun c same => absurd same (plain _ (List.fst_mem_of_mem_zipIdx member) _ c)

theorem seed_within {known : Closure → Prop} {s : Store} (h : s.Within known) :
    (seed s).2.Within known := by
  refine (h.mint _).addScope none fun name b found => ?_
  have listed := (Table.mem_of_get?_foldl found).resolve_right nofun
  obtain ⟨entry, member, same⟩ := List.mem_map.1 listed
  obtain ⟨-, rfl⟩ := Prod.mk.inj same
  exact values_within known member

theorem createScope_stays (code : Code) (host : Host) :
    createScope.Stays code (code.Blamed host) fun _ => True := by
  have seeded : (Action.change seed).Stays code (code.Blamed host) fun _ => True :=
    .change fun _ within => ⟨seed_within within, trivial⟩
  exact .bind seeded fun _ _ => .bind (.record _) fun _ _ => .pure trivial

theorem muffle_stays (code : Code) (host : Host) (scope : ScopeId) :
    (muffle scope).Stays code (code.Blamed host) fun _ => True :=
  .change fun _ within => ⟨(within.mint 1).bindIn (.of_native _ _) scope _, trivial⟩

end Prelude

/-! ## Histories -/

namespace Session

/-- A session that came about by running the given source texts, latest first, by calls of the host,
by functions that it added, and by whatever else it did to the state, whether that succeeded or not.
A text that was run apart counts as well. The functions that the host has made are among the given
ones; so are those that it passes to a call, since it may have held them for itself. -/
inductive Reached : List String → (Closure → Prop) → Session → Prop
  | start {host : Host} : host.callbacks = #[] → Reached [] (fun _ => False) (start host)
  | eval {sources : List String} {made : Closure → Prop} {s : Session} (source : String) :
      Reached sources made s → Reached (source :: sources) made (s.eval source).2
  | call {sources : List String} {made : Closure → Prop} {s : Session} (name : String)
      (args : List Value) : Reached sources made s →
      Reached sources (fun c => made c ∨ .function c ∈ args) (s.call name args).2
  | provide {sources : List String} {made : Closure → Prop} {s : Session} (name : String)
      (arity : Option Nat) (constant : Bool) (f : HostFunction) : Reached sources made s →
      Reached sources (fun c => made c ∨ f.Makes c) (s.provide name arity constant f).2
  | act {sources : List String} {made : Closure → Prop} {s : Session} (action : Action Value) :
      Reached sources made s →
      Reached sources (fun c => made c ∨ action.Makes c) (s.perform action).2
  | apart {sources : List String} {made : Closure → Prop} {s : Session} (source : String) :
      Reached sources made s →
      Reached (source :: sources) made { s with state := (s.state.evalApart s.host source).2 }

/-- Every function in the session comes from the source texts or from the host, which has made
whatever its functions make. -/
structure Sound (sources : List String) (made : Closure → Prop) (s : Session) : Prop where
  functions : s.state.Within (Closure.Known sources made)
  callbacks : ∀ f ∈ s.host.callbacks, ∀ c, f.Makes c → made c

theorem perform_eq {α : Type} (s : Session) (action : Action α) :
    s.perform action =
      ((action s.state).1.mapError .eval, { s with state := (action s.state).2 }) := by
  unfold perform
  rcases action s.state with ⟨_ | _, _⟩ <;> rfl

theorem start_host (host : Host) : (start host).host = host := by
  unfold start renewGlobals
  split <;> rfl

namespace Sound

variable {sources : List String} {made : Closure → Prop} {s : Session}

theorem mono (h : s.Sound sources made) {more : List String} {others : Closure → Prop}
    (texts : ∀ source ∈ sources, source ∈ more) (functions : ∀ c, made c → others c) :
    s.Sound more others where
  functions := h.functions.mono fun _ => .mono texts functions
  callbacks f member c makes := functions c (h.callbacks f member c makes)

/-- What brings nothing along keeps a session sound. -/
theorem perform (h : s.Sound sources made) {action : Action Value}
    (stays : action.Stays (.called sources made) ((Code.called sources made).Unplaced s.host)
      (Value.Within (Closure.Known sources made))) : (s.perform action).2.Sound sources made := by
  rw [perform_eq]
  exact ⟨(stays s.state h.functions).1, h.callbacks⟩

theorem start {host : Host} (none : host.callbacks = #[]) :
    (start host).Sound [] fun _ => False := by
  have created := Prelude.createScope_stays (.called [] fun _ => False) host .initial (.initial _)
  refine ⟨?_, fun f member => ?_⟩
  · unfold Session.start renewGlobals
    dsimp only
    generalize Prelude.createScope .initial = result at created ⊢
    obtain ⟨_ | scope, st⟩ := result
    all_goals exact created.1
  · rw [start_host, none] at member
    cases Array.not_mem_empty _ member

theorem eval (h : s.Sound sources made) (source : String) :
    (s.eval source).2.Sound (source :: sources) made where
  functions := (State.evalSource_stays h.callbacks h.functions s.globals source).1
  callbacks := h.callbacks

theorem call (h : s.Sound sources made) (name : String) (args : List Value) :
    (s.call name args).2.Sound sources fun c => made c ∨ .function c ∈ args := by
  -- The call comes from nowhere, so a fault may be left without a place.
  have more : s.Sound sources fun c => made c ∨ .function c ∈ args :=
    h.mono (fun _ => id) fun _ => .inl
  refine more.perform (.bind (.lookup s.globals name) fun callee known => ?_)
  have given (v : Value) (member : v ∈ args) :
      v.Within (Closure.Known sources fun c => made c ∨ .function c ∈ args) := by
    rintro c rfl
    exact .of_made (.inr member)
  have honest (f : HostFunction) (member : f ∈ s.host.callbacks) :
      f.Honest (Closure.Known sources fun c => made c ∨ .function c ∈ args) :=
    .of_makes fun c makes => .of_made (more.callbacks f member c makes)
  exact (callValue_stays honest callee args s.globals .nowhere known given trivial).unplaced

theorem provide (h : s.Sound sources made) (name : String) (arity : Option Nat) (constant : Bool)
    (f : HostFunction) :
    (s.provide name arity constant f).2.Sound sources fun c => made c ∨ f.Makes c := by
  have before : s.Sound sources fun c => made c ∨ f.Makes c := h.mono (fun _ => id) fun _ => .inl
  -- The host keeps the function even if its name cannot be declared.
  have more : ({ s with host := { s.host with callbacks := s.host.callbacks.push f } } :
      Session).Sound sources fun c => made c ∨ f.Makes c := by
    refine ⟨before.functions, fun other member => ?_⟩
    rcases Array.mem_push.1 member with old | rfl
    · exact before.callbacks other old
    · exact fun c => .inr
  refine more.perform (.bind (.mint 1) fun id _ => ?_)
  exact .declare s.globals name (.of_native _ _) constant

theorem act (h : s.Sound sources made) (action : Action Value) :
    (s.perform action).2.Sound sources fun c => made c ∨ action.Makes c := by
  have before : s.Sound sources fun c => made c ∨ action.Makes c :=
    h.mono (fun _ => id) fun _ => .inl
  rw [perform_eq]
  refine ⟨State.within_iff.2 fun c kept => ?_, before.callbacks⟩
  by_cases old : s.state.Keeps c
  · exact State.within_iff.1 before.functions c old
  · exact .of_made (.inr ⟨s.state, old, .inl kept⟩)

theorem apart (h : s.Sound sources made) (source : String) :
    ({ s with state := (s.state.evalApart s.host source).2 } : Session).Sound
      (source :: sources) made := by
  have secluded : (do
      let scope ← Prelude.createScope
      Prelude.muffle scope
      pure scope : Action ScopeId).Stays (.called sources made)
        ((Code.called sources made).Blamed s.host) fun _ => True :=
    .bind (Prelude.createScope_stays _ _) fun scope _ =>
      .bind (Prelude.muffle_stays _ _ scope) fun _ _ => .pure trivial
  have prepared := secluded s.state h.functions
  refine ⟨?_, h.callbacks⟩
  unfold State.evalApart
  dsimp only
  split
  · next e st failed =>
    rw [failed] at prepared
    exact prepared.1.mono fun _ => .mono (fun _ => List.mem_cons_of_mem _) fun _ => id
  · next scope inner done =>
    rw [done] at prepared
    have run := (State.evalSource_stays h.callbacks prepared.1 scope source).1
    exact ⟨run.store, run.memory⟩

end Sound

/-- Every function in a session comes from one of its source texts or from its host. -/
theorem Reached.sound {sources : List String} {made : Closure → Prop} {s : Session}
    (h : s.Reached sources made) : s.Sound sources made := by
  induction h with
  | start none => exact .start none
  | eval source _ ih => exact ih.eval source
  | call name args _ ih => exact ih.call name args
  | provide name arity constant f _ ih => exact ih.provide name arity constant f
  | act action _ ih => exact ih.act action
  | apart source _ ih => exact ih.apart source

end Session

end SloScript
