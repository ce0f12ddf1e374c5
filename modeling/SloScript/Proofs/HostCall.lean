import SloScript.Proofs.CallDepth
import SloScript.Proofs.Origins
import SloScript.Proofs.Piecewise
import SloScript.Proofs.Typesetting
import SloScript.Proofs.Unseen

/-!
# Calls by the host and calls in a text

The host may call a function by its name, with values, or run a text that calls it, with names that
stand for these values. A call of the host looks the function up first and comes from nowhere; the
text is cut into tokens and read, its arguments are looked up before the function, and the call
stands at a place. Both do the same, up to the place of an error.

Results:
1. `parse_callText`: the text of a call is read as that call.
2. `invoke_alike`: where a call stands shows in the places of errors only.
3. `Session.call_agrees`: both ways to call a function agree.
-/

namespace SloScript

/-! ## The text of a call -/

/-- The text of a call: the name of the function, and in parentheses the names of the arguments. -/
def callText (f : String) (xs : List String) : String := f ++ "(" ++ ", ".intercalate xs ++ ")"

namespace Token

/-- From the position `p` on, some tokens are cut out of a text, and `rest` is left at `q`. -/
def Cuts (p : Position) (cs : List Char) (ts : List Token) (q : Position) (rest : List Char) :
    Prop :=
  scan p cs = (scan q rest).map (ts ++ ·)

theorem Cuts.refl (p : Position) (cs : List Char) : Cuts p cs [] p cs := by
  unfold Cuts
  cases scan p cs <;> rfl

theorem Cuts.trans {p q r : Position} {cs ds es : List Char} {ts us : List Token}
    (first : Cuts p cs ts q ds) (second : Cuts q ds us r es) : Cuts p cs (ts ++ us) r es := by
  unfold Cuts at *
  rw [first, second]
  cases scan r es with
  | error e => rfl
  | ok tokens => simp [Except.map]

/-- A name in front of something that is no letter is cut out of a text. -/
theorem cuts_name {name : String} (h : Kind.identifier.Spells name) {next : Char}
    (stop : Text.isLetter next = false) (rest : List Char) (p : Position) :
    ∃ (t : Token) (q : Position), t.kind = .identifier ∧ t.text = name ∧
      Cuts p (name.toList ++ next :: rest) [t] q (next :: rest) := by
  obtain ⟨nonempty, letters, free⟩ := h
  rcases written : name.toList with _ | ⟨c, cs⟩
  · exact absurd (String.toList_eq_nil_iff.1 written) nonempty
  rw [written] at letters
  obtain ⟨letter, others⟩ := List.forall_mem_cons.1 letters
  obtain rfl : name = String.ofList (c :: cs) := by rw [← written, String.ofList_toList]
  have stops : ∀ c ∈ (next :: rest).head?, Text.isLetter c = false := by simpa using stop
  obtain ⟨taken, dropped⟩ := takeWhile_append_of_stops others stops
  have first : Lexeme.first c (cs ++ next :: rest) =
      .ok ⟨.identifier, c :: cs, String.ofList (c :: cs), next :: rest⟩ := by
    rw [begins_isLetter.first_eq letter, isDigit_eq_false_of_isLetter letter, if_neg (by decide),
      if_pos letter, Lexeme.run, taken, dropped, free]
    rfl
  exact ⟨_, _, rfl, rfl, scan_lexeme (begins_isLetter.isSeparator_eq_false letter) first p⟩

/-- A sign is cut out of a text, whatever follows it. -/
theorem cuts_sign {c : Char} {kind : Kind} (h : signKind? c = some kind)
    (proper : isSeparator c = false) (rest : List Char) (p : Position) :
    ∃ (t : Token) (q : Position), t.kind = kind ∧ Cuts p (c :: rest) [t] q rest := by
  have first : Lexeme.first c rest = .ok ⟨kind, [c], c.toString, rest⟩ := by
    unfold Lexeme.first
    rw [h]
  exact ⟨_, _, rfl, scan_lexeme proper first p⟩

theorem cuts_blank (rest : List Char) (p : Position) :
    Cuts p (' ' :: rest) [] (p.advance [' ']) rest := by
  have skipped : scan p ([' '] ++ rest) = scan (p.advance [' ']) rest :=
    scan_blanks (List.forall_mem_singleton.2 List.mem_cons_self) p rest
  exact skipped.trans (Cuts.refl _ rest)

/-- Names behind others, each behind a comma and a blank. -/
def moreNames (xs : List String) : List Char := xs.flatMap fun x => ',' :: ' ' :: x.toList

theorem toList_intercalate_names (x : String) (xs : List String) :
    (", ".intercalate (x :: xs)).toList = x.toList ++ moreNames xs := by
  simp [Text.intercalate_cons, moreNames, List.flatMap_map]

/-- What follows a name among arguments is no letter. -/
theorem moreNames_append (xs : List String) (rest : List Char) :
    ∃ next more, moreNames xs ++ ')' :: rest = next :: more ∧ Text.isLetter next = false := by
  cases xs with
  | nil => exact ⟨')', rest, rfl, by decide⟩
  | cons x xs => exact ⟨',', _, rfl, by decide⟩

/-- Further arguments that are names are cut out of a text as such. -/
theorem cuts_moreNames {xs : List String} (h : ∀ x ∈ xs, Kind.identifier.Spells x)
    (rest : List Char) (p : Position) :
    ∃ (ts : List Token) (ids : List Ident) (q : Position), ids.map Ident.name = xs ∧
      Yields ts (.moreArgs (ids.map .name)) ∧
      Cuts p (moreNames xs ++ ')' :: rest) ts q (')' :: rest) := by
  induction xs generalizing p with
  | nil => exact ⟨[], [], p, rfl, .lastArg, .refl p _⟩
  | cons x xs ih =>
    obtain ⟨here, others⟩ := List.forall_mem_cons.1 h
    obtain ⟨next, more, follows, stop⟩ := moreNames_append xs rest
    have text : moreNames (x :: xs) ++ ')' :: rest = ',' :: ' ' :: (x.toList ++ next :: more) := by
      rw [← follows]
      simp [moreNames]
    obtain ⟨comma, _, isComma, first⟩ :=
      cuts_sign (c := ',') rfl rfl (' ' :: (x.toList ++ next :: more)) p
    obtain ⟨t, q, isName, named, second⟩ := cuts_name here stop more _
    obtain ⟨ts, ids, r, names, yields, rest⟩ := ih others q
    rw [follows] at rest
    have value : Yields [t] (.expr .expression (.name (Parser.ident t))) :=
      (Yields.name isName).of_primary _
    refine ⟨_, Parser.ident t :: ids, r, ?_, .nextArg isComma value yields, ?_⟩
    · rw [List.map_cons, names, Parser.ident, named]
    · rw [text]
      exact first.trans ((cuts_blank _ _).trans (second.trans rest))

/-- Arguments that are names are cut out of a text as such. -/
theorem cuts_names {xs : List String} (h : ∀ x ∈ xs, Kind.identifier.Spells x)
    (rest : List Char) (p : Position) :
    ∃ (ts : List Token) (ids : List Ident) (q : Position), ids.map Ident.name = xs ∧
      Yields ts (.args (ids.map .name)) ∧
      Cuts p ((", ".intercalate xs).toList ++ ')' :: rest) ts q (')' :: rest) := by
  cases xs with
  | nil => exact ⟨[], [], p, rfl, .noArgs, .refl p _⟩
  | cons x xs =>
    obtain ⟨here, others⟩ := List.forall_mem_cons.1 h
    obtain ⟨next, more, follows, stop⟩ := moreNames_append xs rest
    obtain ⟨t, q, isName, named, first⟩ := cuts_name here stop more p
    obtain ⟨ts, ids, r, names, yields, second⟩ := cuts_moreNames others rest q
    have value : Yields [t] (.expr .expression (.name (Parser.ident t))) :=
      (Yields.name isName).of_primary _
    rw [← follows] at first
    refine ⟨_, Parser.ident t :: ids, r, ?_, .someArgs value yields, ?_⟩
    · rw [List.map_cons, names, Parser.ident, named]
    · rw [toList_intercalate_names, List.append_assoc]
      exact first.trans second

/-- The text of a call is cut into the tokens of that call. -/
theorem tokenize_callText {f : String} {xs : List String} (hf : Kind.identifier.Spells f)
    (hxs : ∀ x ∈ xs, Kind.identifier.Spells x) :
    ∃ (ts : List Token) (finish : Token) (id : Ident) (ids : List Ident) (span : Span),
      tokenize (callText f xs) = .ok (ts ++ [finish]) ∧ finish.kind = .endOfFile ∧
      id.name = f ∧ ids.map Ident.name = xs ∧
      Yields ts (.expr .expression (.call (.name id) (ids.map .name) span)) := by
  have text : (callText f xs).toList =
      f.toList ++ '(' :: ((", ".intercalate xs).toList ++ [')']) := by
    simp [callText]
  have stop : Text.isLetter '(' = false := by decide
  obtain ⟨t, _, isName, named, first⟩ :=
    cuts_name hf stop ((", ".intercalate xs).toList ++ [')']) .origin
  obtain ⟨l, _, isOpen, second⟩ :=
    cuts_sign (c := '(') rfl rfl ((", ".intercalate xs).toList ++ [')']) _
  obtain ⟨ts, ids, _, names, yields, third⟩ := cuts_names hxs [] _
  obtain ⟨r, q, isClose, fourth⟩ := cuts_sign (c := ')') rfl rfl [] _
  have callee : Yields [t] (.expr .call (.name (Parser.ident t))) :=
    (Yields.name isName).of_primary _
  have call := Yields.call callee isOpen yields isClose
  have whole := first.trans (second.trans (third.trans fourth))
  refine ⟨_, .finish (Span.ofPosition q 0), Parser.ident t, ids, _, ?_, rfl, named, names,
    call.of_rank_le (Nat.zero_le _)⟩
  rw [tokenize, text]
  refine Eq.trans whole ?_
  rw [scan]
  rfl

end Token

/-- At the end of the input no expression goes on. -/
theorem Cursor.endsExpression_of_finish {c : Cursor} (h : c.peek.kind = .endOfFile) :
    c.EndsExpression := by
  have sees (kind : Kind) (other : kind ≠ .endOfFile) : c.sees kind = false := by
    rw [Cursor.sees, h]
    exact decide_eq_false (Ne.symm other)
  refine ⟨⟨⟨⟨⟨sees _ ?_, sees _ ?_⟩, sees _ ?_⟩, ?_⟩, ?_⟩, sees _ ?_⟩
  case refine_1 | refine_2 | refine_3 | refine_6 => decide
  · simp [Parser.productOperator?, h]
  · simp [Parser.sumOperator?, h]

/-- A semicolon behind an expression may be left out. -/
theorem Parser.statement_open {c d : Cursor} {e : Expr}
    (starts : c.peek.kind ∈ Tier.expression.starters) (h : (expression c).val = .ok e d)
    (none : d.sees .semicolon = false) : (statement c).val = .ok (.expr e) d := by
  rw [statement]
  split
  case h_1 kind | h_2 kind | h_3 kind | h_4 kind =>
    rw [kind] at starts
    exact absurd starts (by decide)
  case h_5 =>
    refine Step.andThen_of_ok h fun _ => ?_
    rw [if_neg (by rw [none]; decide)]
    rfl

/-- A single expression is read up to the end of the input. -/
theorem parseTokens_of_yields {ts : List Token} {finish : Token} {e : Expr}
    (h : Yields ts (.expr .expression e)) (ended : finish.kind = .endOfFile) :
    parseTokens (ts ++ [finish]) = .ok [.expr e] := by
  let c := Cursor.ofTokens (ts ++ [finish])
  let d : Cursor := ⟨lastSpan c.last ts, [], c.finish⟩
  have rest : c.rest = ts := by
    show (ts ++ [finish]).takeWhile _ = ts
    rw [List.takeWhile_append_of_pos (by simpa using h.not_finish)]
    simp [ended]
  have reads : c.Reads ts d := ⟨rest.trans (List.append_nil ts).symm, rfl, rfl⟩
  have final : d.peek.kind = .endOfFile := Cursor.finish_ofTokens _
  have ends := Cursor.endsExpression_of_finish final
  have value := h.readFrom c d reads ends
  obtain ⟨t, us, rfl, starts⟩ := h.startsIn
  have statement : (Parser.statement c).val = .ok (.expr e) d := by
    refine Parser.statement_open (by rwa [reads.peek]) value ?_
    rw [Cursor.sees, final]
    rfl
  have program : (Parser.program d).val = .ok [] d := by
    have atEnd : d.atEnd = true := rfl
    rw [Parser.program, if_pos atEnd]
    rfl
  unfold parseTokens Cursor.parse
  rw [Parser.program_cons reads statement program]

/-- The text of a call is read as that call. -/
theorem parse_callText {f : String} {xs : List String} (hf : Kind.identifier.Spells f)
    (hxs : ∀ x ∈ xs, Kind.identifier.Spells x) :
    ∃ (id : Ident) (ids : List Ident) (span : Span), id.name = f ∧ ids.map Ident.name = xs ∧
      parse (callText f xs) = .ok [.expr (.call (.name id) (ids.map .name) span)] := by
  obtain ⟨ts, finish, id, ids, span, cut, ended, name, names, yields⟩ :=
    Token.tokenize_callText hf hxs
  refine ⟨id, ids, span, name, names, ?_⟩
  rw [parse, cut]
  exact parseTokens_of_yields yields ended

/-! ## Where a call stands -/

namespace RunsSame

variable {α : Type} {st st' st'' : State} {run run' run'' : α × State}

/-- Runs that print nothing. -/
theorem of_silent (result : run'.1 = run.1) (store : run'.2.store = run.2.store)
    (requests : run'.2.requests = run.2.requests) (left : run.2.output = st.output)
    (right : run'.2.output = st'.output) : RunsSame st st' run run' :=
  ⟨result, store, ⟨"", by rw [left, String.append_empty], by rw [right, String.append_empty]⟩,
    requests⟩

theorem trans (first : RunsSame st st' run run') (last : RunsSame st' st'' run' run'') :
    RunsSame st st'' run run'' := by
  obtain ⟨text, left, right⟩ := first.output
  obtain ⟨text', left', right'⟩ := last.output
  obtain rfl : text' = text := (String.append_right_inj _).1 (left'.symm.trans right)
  exact ⟨last.result.trans first.result, last.store.trans first.store, ⟨text', left, right'⟩,
    last.requests.trans first.requests⟩

end RunsSame

namespace Action

variable {α β : Type}

/-- What an action comes to, if nobody asks for the place of an error. -/
def outcome (m : Action α) (st : State) : Except EvalFault α × State :=
  ((m st).1.mapError Located.cause, (m st).2)

/-- From states with the same store, two actions do the same, but for the places of errors. -/
def Alike (m m' : Action α) : Prop :=
  ∀ st st' : State, st.SameBut st' → RunsSame st st' (m.outcome st) (m'.outcome st')

namespace Alike

theorem of_same {m : Action α}
    (h : ∀ st st' : State, st.SameBut st' → RunsSame st st' (m st) (m st')) : m.Alike m := by
  intro st st' states
  have same := h st st' states
  exact ⟨congrArg (Except.mapError Located.cause) same.result, same.store, same.output,
    same.requests⟩

/-- What is simulated from equal stores is the same. -/
theorem of_simulates {m : Action Value} (h : ∀ st st' : State,
    (Comparison.everything st st').Simulates Pairing.identical.Values m m) : m.Alike m :=
  of_same fun st st' states => states.runsSame (h st st')

theorem pure (a : α) : (Pure.pure a : Action α).Alike (Pure.pure a) :=
  fun _ _ states => .of_silent rfl states.store states.requests rfl rfl

theorem fail (fault : EvalFault) (span span' : Span) :
    (Action.fail fault span : Action α).Alike (Action.fail fault span') :=
  fun _ _ states => .of_silent rfl states.store states.requests rfl rfl

theorem settle (r : Except EvalFault α) (span span' : Span) :
    (Action.settle span r).Alike (Action.settle span' r) := by
  cases r with
  | ok a => exact pure a
  | error fault => exact fail fault span span'

theorem record (e : Event) : (Action.record e).Alike (Action.record e) :=
  fun _ _ states => .of_silent rfl states.store states.requests rfl rfl

theorem request : Action.request.Alike Action.request := by
  intro st st' states
  exact .of_silent (congrArg Except.ok states.requests) states.store
    (congrArg (· + 1) states.requests) rfl rfl

theorem change (f : Store → α × Store) : (Action.change f).Alike (Action.change f) := by
  intro st st' states
  exact .of_silent (congrArg (fun s => Except.ok (f s).1) states.store)
    (congrArg (fun s => (f s).2) states.store) states.requests rfl rfl

theorem read (f : Store → α) : (Action.read f).Alike (Action.read f) := by
  intro st st' states
  exact .of_silent (congrArg (fun s => Except.ok (f s)) states.store) states.store
    states.requests rfl rfl

theorem printLine (line : String) : (Action.printLine line).Alike (Action.printLine line) := by
  intro st st' states
  have output : ∃ text, st.output ++ line ++ "\n" = st.output ++ text ∧
      st'.output ++ line ++ "\n" = st'.output ++ text :=
    ⟨line ++ "\n", String.append_assoc, String.append_assoc⟩
  exact ⟨rfl, states.store, output, states.requests⟩

theorem bind {m m' : Action α} {f f' : α → Action β} (hm : m.Alike m')
    (hf : ∀ a, (f a).Alike (f' a)) : (m >>= f).Alike (m' >>= f') := by
  intro st st' states
  have first := hm st st' states
  unfold outcome at first ⊢
  rw [bind_run, bind_run]
  generalize m st = run at first ⊢
  generalize m' st' = run' at first ⊢
  obtain ⟨e | a, mid⟩ := run <;> obtain ⟨e' | a', mid'⟩ := run'
  · exact ⟨congrArg Except.error (Except.error.inj first.result), first.store, first.output,
      first.requests⟩
  · cases first.result
  · cases first.result
  · obtain rfl : a' = a := Except.ok.inj first.result
    have second := hf a' mid mid' first.sameBut
    obtain ⟨text, left, right⟩ := first.output
    obtain ⟨more, left', right'⟩ := second.output
    refine ⟨second.result, second.store, ⟨text ++ more, ?_, ?_⟩, second.requests⟩
    · exact left'.trans (by rw [← String.append_assoc]; exact congrArg (· ++ more) left)
    · exact right'.trans (by rw [← String.append_assoc]; exact congrArg (· ++ more) right)

/-- An error does not have to be given a place, and it does not matter which. -/
theorem locate_right {m m' : Action α} (hm : m.Alike m') (span : Span) :
    m.Alike (m'.locate span) := by
  intro st st' states
  have same := hm st st' states
  unfold outcome at same ⊢
  rw [Action.locate]
  generalize m' st' = run' at same ⊢
  obtain ⟨e | a, mid⟩ := run'
  · refine ⟨Eq.trans ?_ same.result, same.store, same.output, same.requests⟩
    exact congrArg Except.error (e.orAt_cause span)
  · exact same

theorem locate {m m' : Action α} (hm : m.Alike m') (span span' : Span) :
    (m.locate span).Alike (m'.locate span') := by
  intro st st' states
  have same := hm.locate_right span' st st' states
  unfold outcome at same ⊢
  rw [Action.locate]
  generalize m st = run at same ⊢
  obtain ⟨e | a, mid⟩ := run
  · refine ⟨same.result.trans ?_, same.store, same.output, same.requests⟩
    exact congrArg Except.error (e.orAt_cause span).symm
  · exact same

end Alike

end Action

/-- A function of the host does not look at the place it is called from, except to say where an
error is. -/
def HostFunction.IgnoresSpan (f : HostFunction) : Prop :=
  ∀ scope args span span' st,
    RunsSame st st ((f scope args span).outcome st) ((f scope args span').outcome st)

/-- A function of its arguments, the calling scope and the store does the same wherever the call
stands. -/
theorem HostFunction.IgnoresSpan.alike {f : HostFunction} (ignores : f.IgnoresSpan)
    (reads : f.ReadsStore) (scope : ScopeId) (args : List Value) (span span' : Span) :
    (f scope args span).Alike (f scope args span') := by
  intro st st' states
  have moved : (f scope args span).Alike (f scope args span) := .of_same (reads scope args span)
  exact (moved st st' states).trans (ignores scope args span span' st')

namespace Evaluator

variable {host : Host}

theorem builtin_alike (b : Builtin) (args : List Value) (span span' : Span) :
    (b.run host args span).Alike (b.run host args span') := by
  unfold Builtin.run
  split
  · refine .bind (.read _) fun _ => .bind .request fun _ => .bind (.settle _ _ _) fun _ => ?_
    exact .bind (.printLine _) fun _ => .pure _
  · exact .bind .request fun _ => .pure _
  · refine .bind (.settle _ _ _) fun low => .bind (.settle _ _ _) fun high => ?_
    exact .bind (.settle _ _ _) fun _ => .bind .request fun _ => .pure _
  · exact .bind (.settle _ _ _) fun _ => .pure _

theorem bindParams_alike (scope : ScopeId) (span span' : Span) (names : List String)
    (args : List Value) :
    (bindParams scope span names args).Alike (bindParams scope span' names args) := by
  induction names generalizing args with
  | nil => exact .pure _
  | cons name names ih =>
    cases args with
    | nil => exact .pure _
    | cons v vs =>
      have declares : (Action.declare scope name v false).Alike _ := .of_simulates fun st st' =>
        .declare (Pairing.scope_identical scope) name
          (List.forall₂_cons.1 (Pairing.values_identical [v])).1 false
      exact .bind (.locate declares span span') fun _ => ih vs

variable (reads : ∀ f ∈ host.callbacks, f.ReadsStore)

include reads

theorem evalBody_alike (remaining : Nat) (scope : ScopeId) (body : List Stmt) :
    (evalBody (invoke host remaining) scope .null body).Alike
      (evalBody (invoke host remaining) scope .null body) := by
  refine .of_simulates fun st st' => ?_
  have simulates := evalBody_simulates
    (invoke_simulates (Comparison.hosts_everything reads st st') remaining)
    (Pairing.scope_identical scope) body .null
  rwa [show (Comparison.everything st st').spans = .keep from rfl, relocateBody_keep] at simulates

variable (ignores : ∀ f ∈ host.callbacks, f.IgnoresSpan)

include ignores

theorem runNative_alike (n : Native) (args : List Value) (scope : ScopeId) (span span' : Span) :
    (runNative host n args scope span).Alike (runNative host n args scope span') := by
  unfold runNative
  split
  · exact builtin_alike _ args span span'
  · exact .pure _
  · split
    · next f found =>
      have member := Array.mem_of_getElem? found
      exact (ignores f member).alike (reads f member) scope args span span'
    · exact .fail _ _ _

theorem dispatch_alike {enter : Closure → List Value → Span → Action Value}
    (henter : ∀ c args span span', (enter c args span).Alike (enter c args span'))
    (callee : Value) (args : List Value) (scope : ScopeId) (span span' : Span) :
    (dispatch host enter callee args scope span).Alike
      (dispatch host enter callee args scope span') := by
  unfold dispatch
  split
  · split
    · exact henter _ args span span'
    · exact .fail _ _ _
  · next n =>
    split
    · refine .bind (.record _) fun _ => ?_
      exact .locate (runNative_alike reads ignores n args scope span span') span span'
    · exact .fail _ _ _
  · exact .fail _ _ _

/-- Where a call stands shows in the places of errors only: the body of a function has its own
places, and what comes before it either succeeds or fails at the call. -/
theorem invoke_alike (remaining : Nat) (callee : Value) (args : List Value) (scope : ScopeId)
    (span span' : Span) :
    (invoke host remaining callee args scope span).Alike
      (invoke host remaining callee args scope span') := by
  cases remaining with
  | zero =>
    exact dispatch_alike reads ignores (fun _ _ _ _ => .fail _ _ _) callee args scope span span'
  | succ remaining =>
    refine dispatch_alike reads ignores (fun c args span span' => ?_) callee args scope span span'
    refine .bind (.record _) fun _ => .bind (.change _) fun inner => ?_
    exact .bind (bindParams_alike inner span span' c.params args) fun _ =>
      evalBody_alike reads remaining inner c.body

end Evaluator

/-! ## Arguments by their names -/

/-- A name that a scope binds itself stands for what it is bound to there. -/
theorem Store.lookup_of_binding? {s : Store} {id : ScopeId} {name : String} {b : Binding}
    (h : s.binding? id name = some b) : s.lookup id name = .ok b.value := by
  have binds : s.binds id name = true := by
    rw [Store.binds, h]
    rfl
  have resolved : s.resolve id name = some id := by
    rw [resolve, chain]
    split
    · next absent => simp [binding?, absent] at h
    · exact List.find?_cons_of_pos binds
  rw [lookup, resolved, Option.bind_some, h]

namespace Evaluator

/-- Names that a scope binds itself are evaluated to their values, and nothing changes. -/
theorem evalArgs_names (call : Caller) {scope : ScopeId} {st : State} {ids : List Ident}
    {vs : List Value} (bound : List.Forall₂
      (fun id v => ∃ constant, st.store.binding? scope id.name = some ⟨v, constant⟩) ids vs) :
    evalArgs call scope (ids.map .name) st = (.ok vs, st) := by
  induction bound with
  | nil => rw [List.map_nil, evalArgs]; rfl
  | @cons id v ids vs here _ ih =>
    obtain ⟨constant, found⟩ := here
    have value : evalExpr call scope (.name id) st = (.ok v, st) := by
      rw [evalExpr, variableAt, Action.locate, Action.lookup, Store.lookup_of_binding? found]
    rw [List.map_cons, evalArgs, Action.bind_run, value]
    dsimp only
    rw [Action.bind_run, ih]
    rfl

/-- A call whose arguments are names that the scope binds comes down to looking the function up and
calling it. -/
theorem evalBody_call (host : Host) {scope : ScopeId} (st : State) (id : Ident) {ids : List Ident}
    {vs : List Value} (span : Span) (bound : List.Forall₂
      (fun id v => ∃ constant, st.store.binding? scope id.name = some ⟨v, constant⟩) ids vs) :
    evalBody (callValue host) scope .null [.expr (.call (.name id) (ids.map .name) span)] st =
      (do
        let callee ← (Action.lookup scope id.name).locate id.span
        callValue host callee vs scope span) st := by
  have last (m : Action Value) : (m >>= fun v => (pure v : Action Value)) st = m st := by
    rw [Action.bind_run]
    rcases m st with ⟨_ | _, _⟩ <;> rfl
  simp only [evalBody, evalStmt]
  rw [last, evalExpr, Action.bind_run, evalArgs_names _ bound]
  simp only [evalExpr, variableAt]

end Evaluator

namespace Session

/-- What the host asks for when it calls a global function. -/
def calling (s : Session) (f : String) (vs : List Value) : Action Value := do
  let callee ← Action.lookup s.globals f
  callValue s.host callee vs s.globals .nowhere

theorem call_eq (s : Session) (f : String) (vs : List Value) :
    s.call f vs = ((s.calling f vs s.state).1.mapError .eval,
      { s with state := (s.calling f vs s.state).2 }) :=
  s.perform_eq (s.calling f vs)

section

variable (s : Session) (reads : ∀ f ∈ s.host.callbacks, f.ReadsStore)
  (ignores : ∀ f ∈ s.host.callbacks, f.IgnoresSpan)

include reads ignores

/-- The text of a call does what the call does, but for the places of errors. -/
theorem eval_callText {f : String} (hf : Kind.identifier.Spells f) {xs : List String}
    (hxs : ∀ x ∈ xs, Kind.identifier.Spells x) {vs : List Value}
    (bound : List.Forall₂
      (fun x v => ∃ constant, s.state.store.binding? s.globals x = some ⟨v, constant⟩) xs vs) :
    ∃ (notes : List Event) (result : Except EvalError Value) (after : State),
      s.eval (callText f xs) = (result.mapError .eval, { s with state := after }) ∧
        RunsSame s.state { s.state with journal := notes ++ s.state.journal }
          ((s.calling f vs).outcome s.state) (result.mapError Located.cause, after) := by
  obtain ⟨id, ids, span, rfl, rfl, read⟩ := parse_callText hf hxs
  obtain ⟨notes, run⟩ := eval_of_parse read
  let noted : State := { s.state with journal := notes ++ s.state.journal }
  have args := List.forall₂_map_left_iff.1 bound
  have body := Evaluator.evalBody_call s.host noted id span args
  let text : Action Value := do
    let callee ← (Action.lookup s.globals id.name).locate id.span
    callValue s.host callee vs s.globals span
  have finds : (Action.lookup s.globals id.name).Alike _ := .of_simulates fun st st' =>
    .lookup (Pairing.scope_identical s.globals) id.name
  have alike : (s.calling id.name vs).Alike text :=
    .bind (finds.locate_right _) fun callee =>
      Evaluator.invoke_alike reads ignores s.host.limit callee vs s.globals .nowhere span
  refine ⟨notes, (text noted).1, (text noted).2, ?_, alike s.state noted ⟨rfl, rfl⟩⟩
  rw [run s]
  dsimp only
  rw [body]

/-- A call of the host and the text of that call agree, in every session: for a function of any name
and for arguments that are values of global names, both yield the same value or stop with the same
error, up to its place, they print the same, and leave the same store. What functions of the host do
is to depend on their arguments, the calling scope and the store, but for the places of errors. A
machine with a counter of active functions does the same for the host, whatever was asked of it
before. -/
theorem call_agrees {f : String} (hf : Kind.identifier.Spells f) {xs : List String}
    (hxs : ∀ x ∈ xs, Kind.identifier.Spells x) {vs : List Value}
    (bound : List.Forall₂
      (fun x v => ∃ constant, s.state.store.binding? s.globals x = some ⟨v, constant⟩) xs vs) :
    let (answer, after) := s.call f vs
    let (answer', after') := s.eval (callText f xs)
    (answer'.mapError Error.bare = answer.mapError Error.bare ∧
      after'.state.store = after.state.store ∧ after'.state.output = after.state.output ∧
      after'.state.requests = after.state.requests ∧
      after'.host = after.host ∧ after'.globals = after.globals) ∧
    ∀ (m : Machine) (callee : Value), m.Idle → m.state = s.state →
      s.state.store.lookup s.globals f = .ok callee →
      ∃ result final,
        (Machine.Request.call callee vs s.globals .nowhere).Ends s.host m result final ∧
        answer = result.mapError .eval ∧ after.state = final.state := by
  obtain ⟨notes, result, after, text, same⟩ := s.eval_callText reads ignores hf hxs bound
  rw [text, call_eq]
  dsimp only
  refine ⟨⟨?_, same.store, ?_, same.requests, rfl, rfl⟩, ?_⟩
  · have bare (r : Except EvalError Value) : (r.mapError .eval).mapError Error.bare =
        (r.mapError Located.cause).mapError fun fault => .eval ⟨fault, .nowhere⟩ := by
      cases r <;> rfl
    rw [bare, bare]
    exact congrArg (Except.mapError fun fault => Error.eval ⟨fault, .nowhere⟩) same.result
  · obtain ⟨printed, left, right⟩ := same.output
    exact right.trans left.symm
  · rintro m callee idle here found
    have called : s.calling f vs s.state =
        callValue s.host callee vs s.globals .nowhere s.state := by
      rw [calling, Action.bind_run, Action.lookup, found]
    have ended := Machine.Task.ends s.host (.call callee vs s.globals .nowhere) m
    rw [idle.depth_eq, here] at ended
    rw [called]
    exact ⟨_, _, Machine.Request.ends_iff.2 ended, rfl, rfl⟩

end

/-- A function that passes its argument to the host, which remembers it, and calls itself until too
many are active. It is called with one of the constants that every session starts with. -/
theorem call_agrees_recursive :
    let host : Host := ⟨2, fun _ => ⟨0, 0, 0, 1, 1, 2000⟩, fun _ => 0, fun _ => none, #[]⟩
    let keep : HostFunction := fun _ args _ st =>
      (.ok (args.headD .null), { st with memory := args ++ st.memory })
    let s := (((start host).provide "g" (some 1) true keep).2.eval "funkcija f(a) { f(g(a)) }").2
    let (answer, after) := s.call "f" [.bool true]
    let (answer', after') := s.eval "f(true)"
    answer.map (fun _ => ()) = .error (.eval ⟨.stackOverflow 2, ⟨16, 23, 1, 17⟩⟩) ∧
      after.state.memory.length = 2 ∧
      answer'.mapError Error.bare = answer.mapError Error.bare ∧
      after'.state.store = after.state.store ∧ after'.state.output = after.state.output := by
  intro host keep s
  have failed : (s.call "f" [.bool true]).1.map (fun _ => ()) =
      .error (.eval ⟨.stackOverflow 2, ⟨16, 23, 1, 17⟩⟩) := by decide +kernel
  have remembered : (s.call "f" [.bool true]).2.state.memory.length = 2 := by decide +kernel
  have spelled : Kind.identifier.Spells "f" ∧ ∀ x ∈ ["true"], Kind.identifier.Spells x := by
    refine ⟨⟨by decide, List.all_eq_true.1 (by decide), by decide⟩, List.forall_mem_singleton.2 ?_⟩
    exact ⟨by decide, List.all_eq_true.1 (by decide), by decide⟩
  have bound : (s.state.store.binding? s.globals "true").map (fun b => b.value.same (.bool true)) =
      some true := by decide +kernel
  obtain ⟨⟨v, constant⟩, found, same⟩ := Option.map_eq_some_iff.1 bound
  cases v with
  | bool b =>
    obtain rfl : b = true := eq_of_beq same
    have hosts : s.host.callbacks = #[keep] := rfl
    have reads : ∀ f ∈ s.host.callbacks, f.ReadsStore := by
      rw [hosts]
      refine Array.forall_mem_singleton.2 fun scope args span st st' states => ?_
      exact .of_silent rfl states.store states.requests rfl rfl
    have ignores : ∀ f ∈ s.host.callbacks, f.IgnoresSpan := by
      rw [hosts]
      refine Array.forall_mem_singleton.2 fun scope args span span' st => ?_
      exact .of_silent rfl rfl rfl rfl rfl
    have text : callText "f" ["true"] = "f(true)" := by decide
    have agrees := s.call_agrees reads ignores spelled.1 spelled.2 (.cons ⟨constant, found⟩ .nil)
    rw [text] at agrees
    exact ⟨failed, remembered, agrees.1.1, agrees.1.2.1, agrees.1.2.2.1⟩
  | _ => cases same

end Session

end SloScript
