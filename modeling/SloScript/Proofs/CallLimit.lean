import SloScript.Evaluator

/-!
# A higher limit on calls changes nothing

How many functions may be active at once is the only thing that a run is told about its own depth.
Two runs of one program that differ in this limit alone do the same, step by step, until the one
with the lower limit wants to enter a function too many; there it stops with an overflow, which
nothing on the way out catches or renames. So a run that does not overflow is the run under every
higher limit: value or error, state, output and journal.

`Action.Agrees` relates an action to what it becomes under a higher limit. Every part of the syntax
keeps it if calls do (`evalExpr_agrees`, `evalBody_agrees`), and calls do by induction on the number
of functions that may still be entered (`invoke_agrees`).
-/

namespace SloScript

/-! ## Agreement up to an overflow -/

/-- A result is the overflow of the given limit, wherever it is reported. -/
def Overflows {α : Type} (limit : Nat) (result : Except EvalError α) : Prop :=
  ∃ span, result = .error ⟨.stackOverflow limit, span⟩

namespace Action

variable {α β : Type} {limit : Nat}

/-- Wherever the first action does not overflow, the second one does the same. -/
def Agrees (limit : Nat) (m m' : Action α) : Prop :=
  ∀ st, Overflows limit (m st).1 ∨ m' st = m st

namespace Agrees

theorem refl (m : Action α) : Agrees limit m m := fun _ => .inr rfl

/-- An overflow of the first part is an overflow of the whole; otherwise the second parts start from
the same value and state. -/
theorem bind {m m' : Action α} {f f' : α → Action β} (hm : Agrees limit m m')
    (hf : ∀ a, Agrees limit (f a) (f' a)) : Agrees limit (m >>= f) (m' >>= f') := by
  intro st
  rw [bind_run, bind_run]
  rcases hm st with ⟨span, overflow⟩ | same
  · left
    rcases hr : m st with ⟨result, mid⟩
    rw [hr] at overflow
    cases overflow
    exact ⟨span, rfl⟩
  · rw [same]
    rcases m st with ⟨_ | a, mid⟩
    · exact .inr rfl
    · exact hf a mid

theorem bind_same (m : Action α) {f f' : α → Action β} (hf : ∀ a, Agrees limit (f a) (f' a)) :
    Agrees limit (m >>= f) (m >>= f') :=
  bind (refl m) hf

end Agrees

end Action

/-! ## Syntax -/

namespace Evaluator

/-- Calls agree as long as none of the first kind overflows. -/
def CallsAgree (limit : Nat) (call call' : Caller) : Prop :=
  ∀ f args scope span, Action.Agrees limit (call f args scope span) (call' f args scope span)

variable {limit : Nat} {call call' : Caller}

mutual

theorem evalExpr_agrees (hcall : CallsAgree limit call call') (scope : ScopeId) :
    ∀ e : Expr, Action.Agrees limit (evalExpr call scope e) (evalExpr call' scope e)
  | .number _ _ | .text _ _ | .name _ => by
    rw [evalExpr, evalExpr]
    exact .refl _
  | .assign (.name _) value _ => by
    rw [evalExpr, evalExpr]
    exact .bind (evalExpr_agrees hcall scope value) fun _ => .refl _
  | .assign (.member object _ _) value _ => by
    rw [evalExpr, evalExpr]
    refine .bind (evalExpr_agrees hcall scope object) fun _ => .bind_same _ fun _ => ?_
    exact .bind (evalExpr_agrees hcall scope value) fun _ => .refl _
  | .assign (.index object key _) value _ => by
    rw [evalExpr, evalExpr]
    refine .bind (evalExpr_agrees hcall scope object) fun _ => ?_
    refine .bind (evalExpr_agrees hcall scope key) fun _ => ?_
    refine .bind_same _ fun _ => .bind_same _ fun _ => ?_
    exact .bind (evalExpr_agrees hcall scope value) fun _ => .refl _
  | .assign (.number _ _) _ _ | .assign (.text _ _) _ _ | .assign (.assign _ _ _) _ _
  | .assign (.binary _ _ _ _) _ _ | .assign (.call _ _ _) _ _ | .assign (.object _ _) _ _ => by
    -- Such a target is refused before anything is evaluated.
    simp only [evalExpr]
    exact .refl _
  | .binary _ left right _ => by
    rw [evalExpr, evalExpr]
    refine .bind (evalExpr_agrees hcall scope left) fun _ => ?_
    exact .bind (evalExpr_agrees hcall scope right) fun _ => .refl _
  | .member object _ _ => by
    rw [evalExpr, evalExpr]
    exact .bind (evalExpr_agrees hcall scope object) fun _ => .refl _
  | .index object key _ => by
    rw [evalExpr, evalExpr]
    refine .bind (evalExpr_agrees hcall scope object) fun _ => ?_
    exact .bind (evalExpr_agrees hcall scope key) fun _ => .refl _
  | .call callee args _ => by
    rw [evalExpr, evalExpr]
    refine .bind (evalArgs_agrees hcall scope args) fun _ => ?_
    exact .bind (evalExpr_agrees hcall scope callee) fun _ => hcall _ _ _ _
  | .object properties _ => by
    rw [evalExpr, evalExpr]
    exact .bind (evalProperties_agrees hcall scope properties _) fun _ => .refl _

theorem evalArgs_agrees (hcall : CallsAgree limit call call') (scope : ScopeId) :
    ∀ args : List Expr, Action.Agrees limit (evalArgs call scope args) (evalArgs call' scope args)
  | [] => by
    rw [evalArgs, evalArgs]
    exact .refl _
  | arg :: args => by
    rw [evalArgs, evalArgs]
    refine .bind (evalExpr_agrees hcall scope arg) fun _ => ?_
    exact .bind (evalArgs_agrees hcall scope args) fun _ => .refl _

theorem evalProperties_agrees (hcall : CallsAgree limit call call') (scope : ScopeId) :
    ∀ (properties : List Property) (table : Table Value),
      Action.Agrees limit (evalProperties call scope table properties)
        (evalProperties call' scope table properties)
  | [], _ => by
    rw [evalProperties, evalProperties]
    exact .refl _
  | .shorthand _ :: rest, _ => by
    rw [evalProperties, evalProperties]
    exact .bind_same _ fun _ => evalProperties_agrees hcall scope rest _
  | .keyed _ value _ :: rest, _ => by
    rw [evalProperties, evalProperties]
    refine .bind (evalExpr_agrees hcall scope value) fun _ => ?_
    exact evalProperties_agrees hcall scope rest _

end

mutual

theorem evalStmt_agrees (hcall : CallsAgree limit call call') (scope : ScopeId) :
    ∀ s : Stmt, Action.Agrees limit (evalStmt call scope s) (evalStmt call' scope s)
  | .letVar _ none _ | .function _ _ _ _ => by
    rw [evalStmt, evalStmt]
    exact .refl _
  | .letVar _ (some init) _ | .letConst _ init _ => by
    rw [evalStmt, evalStmt]
    exact .bind (evalExpr_agrees hcall scope init) fun _ => .refl _
  | .branch test consequent alternate _ => by
    rw [evalStmt, evalStmt]
    refine .bind (evalExpr_agrees hcall scope test) fun v => ?_
    split
    · exact .bind_same _ fun inner => evalBody_agrees hcall inner consequent _
    · exact .bind_same _ fun inner => evalBody_agrees hcall inner alternate _
    · exact .refl _
  | .expr e => by
    rw [evalStmt, evalStmt]
    exact evalExpr_agrees hcall scope e

theorem evalBody_agrees (hcall : CallsAgree limit call call') (scope : ScopeId) :
    ∀ (body : List Stmt) (last : Value),
      Action.Agrees limit (evalBody call scope last body) (evalBody call' scope last body)
  | [], _ => by
    rw [evalBody, evalBody]
    exact .refl _
  | stmt :: rest, _ => by
    rw [evalBody, evalBody]
    exact .bind (evalStmt_agrees hcall scope stmt) fun v => evalBody_agrees hcall scope rest v

end

/-! ## Calls -/

/-- Natives know nothing of the limit, so only entering a function is left to compare. -/
theorem dispatch_agrees {host : Host} {lower higher : Nat}
    {enter enter' : Closure → List Value → Span → Action Value}
    (henter : ∀ c args span, Action.Agrees limit (enter c args span) (enter' c args span)) :
    CallsAgree limit (dispatch { host with limit := lower } enter)
      (dispatch { host with limit := higher } enter') := by
  intro f args scope span
  unfold dispatch
  split
  · next c =>
    split
    · exact henter c args span
    · exact .refl _
  · next n =>
    split
    · exact .refl _
    · exact .refl _
  · exact .refl _

/-- Calls agree when the limit and what is left of it are raised by the same amount: the same number
of functions is active then. -/
theorem invoke_agrees (host : Host) (limit extra remaining : Nat) :
    CallsAgree limit (invoke { host with limit := limit } remaining)
      (invoke { host with limit := limit + extra } (remaining + extra)) := by
  induction remaining with
  | zero =>
    -- The lower limit is used up: entering a function overflows, whatever the other run does.
    have full (enter : Closure → List Value → Span → Action Value) :
        CallsAgree limit (invoke { host with limit := limit } 0)
          (dispatch { host with limit := limit + extra } enter) :=
      dispatch_agrees fun _ _ span _ => .inl ⟨span, rfl⟩
    rw [Nat.zero_add]
    cases extra with
    | zero => exact full _
    | succ extra => exact full _
  | succ remaining ih =>
    rw [Nat.succ_add_eq_add_succ]
    refine dispatch_agrees fun c args span => ?_
    have depth : limit + extra - (remaining + extra) = limit - remaining :=
      Nat.add_sub_add_right limit extra remaining
    show Action.Agrees limit _
      (Action.record (.called c.name (limit + extra - (remaining + extra))) >>= _)
    rw [depth]
    refine .bind_same _ fun _ => .bind_same _ fun inner => .bind_same _ fun _ => ?_
    exact evalBody_agrees ih inner c.body _

end Evaluator

/-- Raising the limit on nested calls never changes a run. Under the lower limit a program stops
with the overflow of that limit, or else it does the same under both: the value or error with its
span, the store, the output, the journal, the requests to the host and what its functions remember
are all equal. Those functions may do anything to the state; they are not told the limit. -/
theorem eval_raise_limit (host : Host) (scope : ScopeId) (st : State) (p : Program)
    {lower higher : Nat} (h : lower ≤ higher) :
    Overflows lower (p.eval { host with limit := lower } scope st).1 ∨
      p.eval { host with limit := higher } scope st =
        p.eval { host with limit := lower } scope st := by
  obtain ⟨extra, rfl⟩ := Nat.exists_eq_add_of_le h
  have calls := Evaluator.invoke_agrees host lower extra lower
  have whole : Action.Agrees lower (p.eval { host with limit := lower } scope)
      (p.eval { host with limit := lower + extra } scope) :=
    .bind_same _ fun _ => Evaluator.evalBody_agrees calls scope p .null
  exact whole st

/-- A function that calls another one, which calls one of the host, fits into a limit of two, so it
does the same under the usual limit. The function of the host declares a constant where it is called
and does not count. -/
theorem eval_raise_limit_nested :
    let name (text : String) : Ident := ⟨text, .nowhere⟩
    let call (text : String) : Stmt := .expr (.call (.name (name text)) [] .nowhere)
    let p : Program := [
      .function (name "f") [] [call "g"] .nowhere,
      .function (name "g") [] [call "h"] .nowhere, call "f"]
    let declaring : HostFunction := fun scope _ _ =>
      Action.declare scope "x" (.string "x") true
    let host : Host := ⟨2, fun _ => ⟨0, 0, 0, 1, 1, 2000⟩, fun _ => 0, fun _ => none, #[declaring]⟩
    let globals : Table Binding :=
      Table.empty.insert "h" ⟨.native ⟨0, "h", none, .hosted 0⟩, true⟩
    let st : State := { State.initial with store := ⟨#[⟨none, globals⟩], #[], 1⟩ }
    let run (limit : Nat) := p.eval { host with limit := limit } ⟨0⟩ st
    2 ≤ Host.defaultLimit ∧ (run 2).1 = .ok (.string "x") ∧ run Host.defaultLimit = run 2 := by
  intro name call p declaring host globals st run
  have raised : 2 ≤ Host.defaultLimit := by decide
  have answer : (run 2).1 = .ok (.string "x") := by
    subst run st globals host declaring p call name
    with_unfolding_all rfl
  refine ⟨raised, answer, ?_⟩
  rcases eval_raise_limit host ⟨0⟩ st p raised with ⟨span, overflow⟩ | same
  · cases answer.symm.trans overflow
  · exact same

end SloScript
