import SloScript.Proofs.Grammar

/-!
# Reading one production

The parser decides by the next token alone, so two facts about tokens decide everything: which
tokens a phrase can start with, and which tokens cannot continue a phrase of a tier. The loops of
the parser are greedy; a loop stops behind its phrase if what follows does not continue the tier.

From these facts, every production of the grammar gets a lemma of its own: if the parts are read
from their tokens, the whole is read from all of them. For this direction the definitions of the
parser are opened here only.
-/

namespace SloScript

/-! ## What follows a phrase -/

namespace Cursor

/-- No property is read off what stands before the next token. -/
structure EndsMember (c : Cursor) : Prop where
  dot : c.sees .dot = false
  bracket : c.sees .openBracket = false

/-- What stands before the next token is not called either. -/
structure EndsCall (c : Cursor) : Prop extends c.EndsMember where
  paren : c.sees .openParen = false

/-- The next token is no operator of the tier of products either. -/
structure EndsProduct (c : Cursor) : Prop extends c.EndsCall where
  product : Parser.productOperator? c = none

/-- The next token is no operator at all. -/
structure EndsSum (c : Cursor) : Prop extends c.EndsProduct where
  sum : Parser.sumOperator? c = none

/-- The next token does not continue an expression. -/
structure EndsExpression (c : Cursor) : Prop extends c.EndsSum where
  equals : c.sees .equals = false

end Cursor

/-- The kinds of the tokens that close an expression off. -/
def Kind.closers : List Kind := [closeParen, closeBracket, closeBrace, comma, semicolon]

namespace Cursor.Reads

variable {c d : Cursor} {t : Token} {ts : List Token} {op : Operator}

theorem not_sees (h : c.Reads (t :: ts) d) {kind : Kind} (hk : t.kind ≠ kind) :
    c.sees kind = false := by
  rw [h.sees]
  exact decide_eq_false hk

theorem not_sees_of_mem {kinds : List Kind} (h : c.Reads (t :: ts) d) (ht : t.kind ∈ kinds)
    {kind : Kind} (hk : kind ∉ kinds) : c.sees kind = false := by
  refine h.not_sees ?_
  rintro rfl
  exact hk ht

/-- Only an operator can be read as one. -/
theorem no_operator (h : c.Reads (t :: ts) d) (hk : ∀ op : Operator, t.kind ≠ op.kind) :
    Parser.productOperator? c = none ∧ Parser.sumOperator? c = none := by
  rw [← h.peek] at hk
  constructor
  · unfold Parser.productOperator?
    exact if_neg (hk .add)
  · simp only [Parser.sumOperator?]
    split
    case h_1 he => exact absurd he (hk .add)
    case h_2 he => exact absurd he (hk .eq)
    case h_3 he => exact absurd he (hk .ne)
    case h_4 he => exact absurd he (hk .lt)
    case h_5 he => exact absurd he (hk .le)
    case h_6 he => exact absurd he (hk .gt)
    case h_7 he => exact absurd he (hk .ge)
    case h_8 => rfl

theorem endsMember (h : c.Reads (t :: ts) d) (ht : t.kind ≠ .dot) (ht' : t.kind ≠ .openBracket) :
    c.EndsMember :=
  ⟨h.not_sees ht, h.not_sees ht'⟩

theorem endsSum (h : c.Reads (t :: ts) d) (ht : t.kind ∈ .equals :: Kind.closers) :
    c.EndsSum := by
  have ne : ∀ kind, kind ∉ .equals :: Kind.closers → t.kind ≠ kind := by
    rintro kind hk rfl
    exact hk ht
  have operator := h.no_operator fun op => ne op.kind (by cases op <;> decide)
  have member := h.endsMember (ne .dot (by decide)) (ne .openBracket (by decide))
  exact ⟨⟨⟨member, h.not_sees (ne .openParen (by decide))⟩, operator.1⟩, operator.2⟩

theorem endsExpression (h : c.Reads (t :: ts) d) (ht : t.kind ∈ Kind.closers) :
    c.EndsExpression := by
  exact ⟨h.endsSum (.tail _ ht), h.not_sees_of_mem ht (by decide)⟩

/-- Before an operator, a call is at its end. -/
theorem endsCall (h : c.Reads (t :: ts) d) (ht : op.WrittenAs t) : c.EndsCall := by
  have ne : ∀ kind ∈ [Kind.dot, .openBracket, .openParen], t.kind ≠ kind := by
    rw [ht.kind]
    cases op <;> decide
  exact ⟨h.endsMember (ne _ (by decide)) (ne _ (by decide)), h.not_sees (ne _ (by decide))⟩

theorem ofSymbol? (h : c.Reads (t :: ts) d) (ht : op.WrittenAs t) :
    c.peek.kind = op.kind ∧ Operator.ofSymbol? c.peek.text = some op := by
  rw [h.peek, ht.text, Operator.ofSymbol?_symbol]
  exact ⟨ht.kind, rfl⟩

theorem productOperator? (h : c.Reads (t :: ts) d) (ht : op.WrittenAs t)
    (hm : op.isMultiplicative = true) : Parser.productOperator? c = some op := by
  obtain ⟨hk, ho⟩ := h.ofSymbol? ht
  cases op <;> first
    | exact Bool.noConfusion hm
    | simp [Parser.productOperator?, hk, ho, Operator.kind, Operator.isMultiplicative]

/-- Before an operator of the tier of sums, a product is at its end. -/
theorem endsProduct (h : c.Reads (t :: ts) d) (ht : op.WrittenAs t)
    (hm : op.isMultiplicative = false) : c.EndsProduct := by
  refine ⟨h.endsCall ht, ?_⟩
  obtain ⟨hk, ho⟩ := h.ofSymbol? ht
  cases op <;> first
    | exact Bool.noConfusion hm
    | simp [Parser.productOperator?, hk, ho, Operator.kind, Operator.isMultiplicative]

theorem sumOperator? (h : c.Reads (t :: ts) d) (ht : op.WrittenAs t)
    (hm : op.isMultiplicative = false) : Parser.sumOperator? c = some op := by
  obtain ⟨hk, ho⟩ := h.ofSymbol? ht
  cases op <;> first
    | exact Bool.noConfusion hm
    | simp [Parser.sumOperator?, hk, ho, Operator.kind, Operator.isSum]

end Cursor.Reads

/-! ## What a phrase starts with -/

/-- The kinds of the tokens that an expression of a tier starts with. -/
def Tier.starters : Tier → List Kind
  | expression | operand => [.identifier, .number, .string, .openParen, .openBrace]
  | _ => [.identifier, .number, .string, .openParen]

theorem Tier.starters_of_tighter {tier next : Tier} (h : tier.tighter? = some next) :
    next.starters ⊆ tier.starters := by
  cases tier <;> cases h <;> decide

/-- The token list starts as the phrase does. -/
def Phrase.StartsIn (ts : List Token) : Phrase → Prop
  | .expr tier _ => ∃ t us, ts = t :: us ∧ t.kind ∈ tier.starters
  | .moreArgs _ => ∀ t ∈ ts.head?, t.kind = .comma
  | .args _ | .entry _ | .entries _ => True

theorem Yields.startsIn {ts : List Token} {ph : Phrase} (h : Yields ts ph) : ph.StartsIn ts := by
  -- A chain starts as its left end does, so its tokens come behind those of the part before.
  have extend {tier : Tier} {e e' : Expr} {us vs : List Token}
      (hs : (Phrase.expr tier e).StartsIn us) : (Phrase.expr tier e').StartsIn (us ++ vs) := by
    obtain ⟨t, us, rfl, ht⟩ := hs
    exact ⟨t, us ++ vs, rfl, ht⟩
  induction h with
  | name ht | number ht | text ht => exact ⟨_, _, rfl, by rw [ht]; decide⟩
  | paren hl => exact ⟨_, _, rfl, by rw [hl]; decide⟩
  | object hl => exact ⟨_, _, rfl, by rw [hl]; decide⟩
  | member _ _ _ ih => exact extend ih
  | index _ _ _ _ ih => exact extend ih
  | call _ _ _ _ ih => exact extend ih
  | product _ _ _ _ ih => exact extend ih
  | sum _ _ _ _ ih => exact extend ih
  | assign _ _ _ ih =>
    obtain ⟨t, us, rfl, ht⟩ := ih
    exact ⟨t, _, rfl, ht⟩
  | loosen htier _ ih =>
    obtain ⟨t, us, rfl, ht⟩ := ih
    exact ⟨t, us, rfl, Tier.starters_of_tighter htier ht⟩
  | lastArg => exact nofun
  | nextArg ht =>
    intro t h
    cases h
    exact ht
  | noArgs | someArgs | shorthand | keyed | noEntries | lastEntry | nextEntry => exact trivial

/-- What starts as an expression does not look like anything else. -/
theorem Yields.not_sees {ts : List Token} {tier : Tier} {e : Expr} {c d : Cursor}
    (h : Yields ts (.expr tier e)) (reads : c.Reads ts d) {kind : Kind}
    (hk : kind ∉ tier.starters) : c.sees kind = false := by
  obtain ⟨t, us, rfl, ht⟩ := h.startsIn
  exact reads.not_sees_of_mem ht hk

/-- Behind an argument stands a comma or the closing parenthesis. -/
theorem Yields.endsExpression {ts : List Token} {es : List Expr} {c d e : Cursor} {r : Token}
    (h : Yields ts (.moreArgs es)) (reads : c.Reads ts d) (hr : d.Reads [r] e)
    (hk : r.kind = .closeParen) : c.EndsExpression := by
  cases ts with
  | nil => exact (reads.trans hr).endsExpression (by rw [hk]; decide)
  | cons t us =>
    have ht : t.kind = .comma := h.startsIn t rfl
    exact reads.endsExpression (by rw [ht]; decide)

/-! ## What a clause starts with -/

/-- The kinds of the tokens that a statement starts with. -/
def Kind.starters : List Kind :=
  [letWord, constWord, fnWord, ifWord] ++ Tier.expression.starters

/-- The token list starts as the clause does. -/
def Clause.StartsIn (ts : List Token) : Clause → Prop
  | .stmt _ => ∃ t us, ts = t :: us ∧ t.kind ∈ Kind.starters
  | .stmts _ => ∀ t ∈ ts.head?, t.kind ∈ Kind.starters
  | .alternative _ => True

theorem Derives.startsIn {loose : Bool} {ts : List Token} {cl : Clause} (h : Derives loose ts cl) :
    cl.StartsIn ts := by
  cases h with
  | letBare hw | letInit hw | letConst hw | function hw | branch hw =>
    exact ⟨_, _, rfl, by rw [hw]; decide⟩
  | expr y =>
    obtain ⟨t, us, rfl, ht⟩ := y.startsIn
    exact ⟨t, _, rfl, List.mem_append_right _ ht⟩
  | exprOpen _ y =>
    obtain ⟨t, us, rfl, ht⟩ := y.startsIn
    exact ⟨t, us, rfl, List.mem_append_right _ ht⟩
  | noElse | elseIf | elseBlock => exact trivial
  | nil => exact nofun
  | cons hs hss =>
    obtain ⟨t, us, rfl, ht⟩ : (Clause.stmt _).StartsIn _ := hs.startsIn
    rintro _ ⟨⟩
    exact ht

/-- Between a statement and the closing brace there is no alternative. -/
theorem Derives.not_sees_else {loose : Bool} {ts : List Token} {ss : List Stmt} {c d : Cursor}
    {z : Token} (h : Derives loose ts (.stmts ss)) (reads : c.Reads (ts ++ [z]) d)
    (hz : z.kind = .closeBrace) : c.sees .elseWord = false := by
  cases ts with
  | nil => exact reads.not_sees (by rw [hz]; decide)
  | cons t us =>
    have ht : t.kind ∈ Kind.starters := h.startsIn t rfl
    exact reads.not_sees_of_mem ht (by decide)

/-! ## Loops that stop -/

namespace Parser

variable {c : Cursor} {e : Expr}

theorem memberRest_of_ends (h : c.EndsMember) : (memberRest e c).val = .ok e c := by
  rw [memberRest, if_neg (by simp [h.dot]), if_neg (by simp [h.bracket])]
  rfl

theorem callRest_of_ends (h : c.EndsCall) : (callRest e c).val = .ok e c := by
  rw [callRest, if_neg (by simp [h.paren])]
  rfl

theorem productRest_of_ends (h : c.EndsProduct) : (productRest e c).val = .ok e c := by
  rw [productRest, h.product]
  rfl

theorem sumRest_of_ends (h : c.EndsSum) : (sumRest e c).val = .ok e c := by
  rw [sumRest, h.sum]
  rfl

end Parser

/-! ## Expressions -/

namespace Parser

variable {c d e f : Cursor} {l r t : Token} {a b : Expr} {es : List Expr} {ps : List Property}

theorem primary_name (ht : t.kind = .identifier) (h : c.Reads [t] d) :
    (primary c).val = .ok (.name (ident t)) d := by
  rw [primary, h.peek, ht]
  exact Step.andThen_of_ok (Step.take_of_reads h) fun _ => rfl

theorem primary_number {x : Float} (ht : t.kind = .number) (hx : Number.read? t.text = some x)
    (h : c.Reads [t] d) : (primary c).val = .ok (.number x t.span) d := by
  rw [primary, h.peek, ht]
  refine Step.andThen_of_ok (Step.take_of_reads h) fun _ => ?_
  rw [hx]
  rfl

theorem primary_text (ht : t.kind = .string) (h : c.Reads [t] d) :
    (primary c).val = .ok (.text t.text t.span) d := by
  rw [primary, h.peek, ht]
  exact Step.andThen_of_ok (Step.take_of_reads h) fun _ => rfl

theorem primary_paren (hl : l.kind = .openParen) (hr : r.kind = .closeParen)
    (h₁ : c.Reads [l] d) (h₂ : (expression d).val = .ok a e) (h₃ : e.Reads [r] f) :
    (primary c).val = .ok a f := by
  rw [primary, h₁.peek, hl]
  refine Step.andThen_of_ok (Step.take_of_reads h₁) fun _ => ?_
  refine Step.andThen_of_ok h₂ fun _ => ?_
  exact Step.andThen_of_ok (Step.expect_of_reads h₃ hr) fun _ => rfl

theorem member_of_primary (h : (primary c).val = .ok a d) :
    (member c).val = (memberRest a d).val := by
  rw [member]
  exact Step.andThen_of_ok h fun _ => rfl

theorem memberRest_dot (hl : l.kind = .dot) (ht : t.kind = .identifier) (h₁ : c.Reads [l] d)
    (h₂ : d.Reads [t] e) :
    (memberRest a c).val = (memberRest (.member a (ident t) (a.span.merge t.span)) e).val := by
  rw [memberRest, if_pos (h₁.sees_of_kind hl)]
  refine Step.andThen_of_ok (Step.take_of_reads h₁) fun _ => ?_
  rw [if_pos (h₂.sees_of_kind ht)]
  refine Step.andThen_of_ok (Step.take_of_reads h₂) fun _ => ?_
  rw [h₂.spanFrom]

theorem memberRest_bracket (hl : l.kind = .openBracket) (hr : r.kind = .closeBracket)
    (h₁ : c.Reads [l] d) (h₂ : (expression d).val = .ok b e) (h₃ : e.Reads [r] f) :
    (memberRest a c).val = (memberRest (.index a b (a.span.merge r.span)) f).val := by
  rw [memberRest, if_neg (by rw [h₁.sees, hl]; decide), if_pos (h₁.sees_of_kind hl)]
  refine Step.andThen_of_ok (Step.take_of_reads h₁) fun _ => ?_
  refine Step.andThen_of_ok h₂ fun _ => ?_
  refine Step.andThen_of_ok (Step.expect_of_reads h₃ hr) fun _ => ?_
  rw [h₃.spanFrom]

theorem call_of_member (h : (member c).val = (memberRest a d).val) (ends : d.EndsMember) :
    (call c).val = (callRest a d).val := by
  rw [call]
  exact Step.andThen_of_ok (h.trans (memberRest_of_ends ends)) fun _ => rfl

theorem callRest_paren {ts : List Token} (hl : l.kind = .openParen)
    (h₁ : c.Reads (l :: (ts ++ [r])) d) (h₂ : (arguments c).val = .ok es d) :
    (callRest a c).val = (callRest (.call a es (a.span.merge r.span)) d).val := by
  rw [callRest, if_pos (h₁.sees_of_kind hl)]
  refine Step.andThen_of_ok h₂ fun _ => ?_
  rw [Cursor.spanFrom, h₁.last, lastSpan_cons, lastSpan_append]
  rfl

theorem product_of_call (h : (call c).val = (callRest a d).val) (ends : d.EndsCall) :
    (product c).val = (productRest a d).val := by
  rw [product]
  exact Step.andThen_of_ok (h.trans (callRest_of_ends ends)) fun _ => rfl

theorem productRest_operator {op : Operator} (ho : productOperator? c = some op)
    (h₁ : c.Reads [t] d) (h₂ : (call d).val = (callRest b e).val) (ends : e.EndsCall) :
    (productRest a c).val = (productRest (binary op a b) e).val := by
  rw [productRest, ho]
  refine Step.andThen_of_ok (Step.take_of_reads h₁) fun _ => ?_
  exact Step.andThen_of_ok (h₂.trans (callRest_of_ends ends)) fun _ => rfl

theorem sum_of_product (h : (product c).val = (productRest a d).val) (ends : d.EndsProduct) :
    (sum c).val = (sumRest a d).val := by
  rw [sum]
  exact Step.andThen_of_ok (h.trans (productRest_of_ends ends)) fun _ => rfl

theorem sumRest_operator {op : Operator} (ho : sumOperator? c = some op) (h₁ : c.Reads [t] d)
    (h₂ : (product d).val = (productRest b e).val) (ends : e.EndsProduct) :
    (sumRest a c).val = (sumRest (binary op a b) e).val := by
  rw [sumRest, ho]
  refine Step.andThen_of_ok (Step.take_of_reads h₁) fun _ => ?_
  exact Step.andThen_of_ok (h₂.trans (productRest_of_ends ends)) fun _ => rfl

theorem operand_of_sum (hb : c.sees .openBrace = false) (h : (sum c).val = (sumRest a d).val)
    (ends : d.EndsSum) : (operand c).val = .ok a d := by
  rw [operand, if_neg (by simp [hb])]
  exact h.trans (sumRest_of_ends ends)

theorem operand_object (hl : l.kind = .openBrace) (hr : r.kind = .closeBrace)
    (h₁ : c.Reads [l] d) (h₂ : (properties d).val = .ok ps e) (h₃ : e.Reads [r] f) :
    (operand c).val = .ok (.object ps (l.span.merge r.span)) f := by
  rw [operand, if_pos (h₁.sees_of_kind hl)]
  refine Step.andThen_of_ok (Step.take_of_reads h₁) fun _ => ?_
  refine Step.andThen_of_ok h₂ fun _ => ?_
  refine Step.andThen_of_ok (Step.expect_of_reads h₃ hr) fun _ => ?_
  rw [h₃.spanFrom]
  rfl

theorem expression_of_operand (h : (operand c).val = .ok a d) (hd : d.sees .equals = false) :
    (expression c).val = .ok a d := by
  rw [expression]
  refine Step.andThen_of_ok h fun _ => ?_
  rw [if_neg (by simp [hd])]
  rfl

theorem expression_assign (ht : t.kind = .equals) (h₁ : (operand c).val = .ok a d)
    (h₂ : d.Reads [t] e) (h₃ : (expression e).val = .ok b f) :
    (expression c).val = .ok (.assign a b (a.span.merge b.span)) f := by
  rw [expression]
  refine Step.andThen_of_ok h₁ fun _ => ?_
  rw [if_pos (h₂.sees_of_kind ht)]
  refine Step.andThen_of_ok (Step.take_of_reads h₂) fun _ => ?_
  exact Step.andThen_of_ok h₃ fun _ => rfl

theorem arguments_none (hl : l.kind = .openParen) (hr : r.kind = .closeParen)
    (h₁ : c.Reads [l] d) (h₂ : d.Reads [r] e) : (arguments c).val = .ok [] e := by
  rw [arguments]
  refine Step.andThen_of_ok (Step.expect_of_reads h₁ hl) fun _ => ?_
  rw [if_pos (h₂.sees_of_kind hr)]
  exact Step.andThen_of_ok (Step.take_of_reads h₂) fun _ => rfl

theorem arguments_some {g : Cursor} (hl : l.kind = .openParen) (hr : r.kind = .closeParen)
    (h₁ : c.Reads [l] d) (hd : d.sees .closeParen = false) (h₂ : (expression d).val = .ok a e)
    (h₃ : (argumentsRest e).val = .ok es f) (h₄ : f.Reads [r] g) :
    (arguments c).val = .ok (a :: es) g := by
  rw [arguments]
  refine Step.andThen_of_ok (Step.expect_of_reads h₁ hl) fun _ => ?_
  rw [if_neg (by simp [hd])]
  refine Step.andThen_of_ok h₂ fun _ => ?_
  refine Step.andThen_of_ok h₃ fun _ => ?_
  exact Step.andThen_of_ok (Step.expect_of_reads h₄ hr) fun _ => rfl

theorem argumentsRest_none (h : c.sees .comma = false) : (argumentsRest c).val = .ok [] c := by
  rw [argumentsRest, if_neg (by simp [h])]
  rfl

theorem argumentsRest_some (ht : t.kind = .comma) (h₁ : c.Reads [t] d)
    (h₂ : (expression d).val = .ok a e) (h₃ : (argumentsRest e).val = .ok es f) :
    (argumentsRest c).val = .ok (a :: es) f := by
  rw [argumentsRest, if_pos (h₁.sees_of_kind ht)]
  refine Step.andThen_of_ok (Step.take_of_reads h₁) fun _ => ?_
  refine Step.andThen_of_ok h₂ fun _ => ?_
  exact Step.andThen_of_ok h₃ fun _ => rfl

theorem properties_none (h : c.sees .closeBrace = true) : (properties c).val = .ok [] c := by
  rw [properties, if_pos (by simp [h])]
  rfl

/-- An entry is coming if a name is. -/
theorem more_properties (ht : t.kind = .identifier) (h : c.Reads [t] d) :
    ¬(c.sees .closeBrace || c.atEnd) = true := by
  rw [h.sees, h.atEnd, ht]
  decide

theorem properties_shorthand (ht : t.kind = .identifier) (h : c.Reads [t] d)
    (hd : d.sees .closeBrace = true) : (properties c).val = .ok [.shorthand (ident t)] d := by
  have hc : d.sees .comma = false := by
    have hk : d.peek.kind = .closeBrace := of_decide_eq_true hd
    rw [Cursor.sees, hk]
    rfl
  rw [properties, if_neg (more_properties ht h)]
  refine Step.andThen_of_ok (Step.expect_of_reads h ht) fun _ => ?_
  simp only
  rw [if_neg (by simp [hc]), if_pos hd]
  rfl

theorem properties_shorthand_comma (ht : t.kind = .identifier) (hr : r.kind = .comma)
    (h₁ : c.Reads [t] d) (h₂ : d.Reads [r] e) (h₃ : (properties e).val = .ok ps f) :
    (properties c).val = .ok (.shorthand (ident t) :: ps) f := by
  rw [properties, if_neg (more_properties ht h₁)]
  refine Step.andThen_of_ok (Step.expect_of_reads h₁ ht) fun _ => ?_
  simp only
  rw [if_pos (h₂.sees_of_kind hr)]
  refine Step.andThen_of_ok (Step.take_of_reads h₂) fun _ => ?_
  exact Step.andThen_of_ok h₃ fun _ => rfl

theorem properties_keyed (ht : t.kind = .identifier) (hl : l.kind = .colon) (h₁ : c.Reads [t] d)
    (h₂ : d.Reads [l] e) (h₃ : (expression e).val = .ok a f) (hf : f.sees .closeBrace = true) :
    (properties c).val = .ok [.keyed (ident t) a (t.span.merge a.span)] f := by
  rw [properties, if_neg (more_properties ht h₁)]
  refine Step.andThen_of_ok (Step.expect_of_reads h₁ ht) fun _ => ?_
  simp only
  rw [if_neg (by rw [h₂.sees, hl]; decide), if_neg (by rw [h₂.sees, hl]; decide)]
  refine Step.andThen_of_ok (Step.expect_of_reads h₂ hl) fun _ => ?_
  refine Step.andThen_of_ok h₃ fun _ => ?_
  rw [if_pos hf]
  rfl

theorem properties_keyed_comma {g i : Cursor} (ht : t.kind = .identifier) (hl : l.kind = .colon)
    (hr : r.kind = .comma) (h₁ : c.Reads [t] d) (h₂ : d.Reads [l] e)
    (h₃ : (expression e).val = .ok a f) (h₄ : f.Reads [r] g)
    (h₅ : (properties g).val = .ok ps i) :
    (properties c).val = .ok (.keyed (ident t) a (t.span.merge a.span) :: ps) i := by
  rw [properties, if_neg (more_properties ht h₁)]
  refine Step.andThen_of_ok (Step.expect_of_reads h₁ ht) fun _ => ?_
  simp only
  rw [if_neg (by rw [h₂.sees, hl]; decide), if_neg (by rw [h₂.sees, hl]; decide)]
  refine Step.andThen_of_ok (Step.expect_of_reads h₂ hl) fun _ => ?_
  refine Step.andThen_of_ok h₃ fun _ => ?_
  rw [if_neg (by rw [h₄.sees, hr]; decide)]
  refine Step.andThen_of_ok (Step.expect_of_reads h₄ hr) fun _ => ?_
  exact Step.andThen_of_ok h₅ fun _ => rfl

end Parser

/-! ## Statements -/

namespace Parser

variable {c d e f g i j : Cursor} {w t l r o z : Token} {a : Expr} {s : Stmt}
  {yes no ss : List Stmt}

theorem declaration_bare (hw : w.kind = .letWord) (ht : t.kind = .identifier)
    (hz : z.kind = .semicolon) (h₁ : c.Reads [w] d) (h₂ : d.Reads [t] e) (h₃ : e.Reads [z] f) :
    (declaration c).val = .ok (.letVar (ident t) none (w.span.merge z.span)) f := by
  unfold declaration
  refine Step.andThen_of_ok (Step.take_of_reads h₁) fun _ => ?_
  refine Step.andThen_of_ok (Step.expect_of_reads h₂ ht) fun _ => ?_
  simp only
  rw [if_pos (h₃.sees_of_kind hz)]
  refine Step.andThen_of_ok (Step.take_of_reads h₃) fun _ => ?_
  rw [if_neg (by rw [hw]; decide), h₃.spanFrom]
  rfl

theorem declaration_init (ht : t.kind = .identifier) (hl : l.kind = .equals)
    (hz : z.kind = .semicolon) (h₁ : c.Reads [w] d) (h₂ : d.Reads [t] e) (h₃ : e.Reads [l] f)
    (h₄ : (expression f).val = .ok a g) (h₅ : g.Reads [z] i) :
    (declaration c).val = .ok (if w.kind = .constWord then
      .letConst (ident t) a (w.span.merge z.span)
      else .letVar (ident t) (some a) (w.span.merge z.span)) i := by
  unfold declaration
  refine Step.andThen_of_ok (Step.take_of_reads h₁) fun _ => ?_
  refine Step.andThen_of_ok (Step.expect_of_reads h₂ ht) fun _ => ?_
  simp only
  rw [if_neg (by rw [h₃.sees, hl]; decide)]
  refine Step.andThen_of_ok (Step.expect_of_reads h₃ hl) fun _ => ?_
  refine Step.andThen_of_ok h₄ fun _ => ?_
  refine Step.andThen_of_ok (Step.expect_of_reads h₅ hz) fun _ => ?_
  rw [h₅.spanFrom]
  rfl

theorem function_of_reads {es : List Expr} {params : List Ident} {us : List Token}
    (hw : w.kind = .fnWord) (ht : t.kind = .identifier) (ho : o.kind = .openBrace)
    (h₁ : c.Reads [w] d) (h₂ : d.Reads [t] e) (h₃ : (arguments e).val = .ok es f)
    (hp : parameters es = .ok params) (h₄ : f.Reads [o] g) (h₅ : g.Reads (us ++ [z]) i)
    (h₆ : (block g).val = .ok ss i) :
    (statement c).val = .ok (.function (ident t) params ss (w.span.merge z.span)) i := by
  rw [statement, h₁.peek, hw]
  show (function c).val = _
  rw [function]
  refine Step.andThen_of_ok (Step.take_of_reads h₁) fun _ => ?_
  refine Step.andThen_of_ok (Step.expect_of_reads h₂ ht) fun _ => ?_
  refine Step.andThen_of_ok h₃ fun _ => ?_
  rw [hp]
  refine Step.andThen_of_ok (Step.expect_of_reads h₄ ho) fun _ => ?_
  refine Step.andThen_of_ok h₆ fun _ => ?_
  rw [Cursor.spanFrom, h₅.last, lastSpan_append]
  rfl

theorem statement_eq_branch (h : c.peek.kind = .ifWord) :
    (statement c).val = (branch c).val := by
  rw [statement, h]

theorem branch_of_reads {us vs : List Token} (hl : l.kind = .openParen) (hr : r.kind = .closeParen)
    (ho : o.kind = .openBrace) (h₁ : c.Reads [w] d) (h₂ : d.Reads [l] e)
    (h₃ : (expression e).val = .ok a f) (h₄ : f.Reads [r] g) (h₅ : g.Reads [o] i)
    {k : Cursor} (h₆ : i.Reads (us ++ [z]) j) (h₇ : (block i).val = .ok yes j)
    (h₈ : j.Reads vs k) (h₉ : (alternative j).val = .ok no k) :
    (branch c).val = .ok (.branch a yes no (w.span.merge (lastSpan z.span vs))) k := by
  rw [branch]
  refine Step.andThen_of_ok (Step.take_of_reads h₁) fun _ => ?_
  refine Step.andThen_of_ok (Step.expect_of_reads h₂ hl) fun _ => ?_
  refine Step.andThen_of_ok h₃ fun _ => ?_
  refine Step.andThen_of_ok (Step.expect_of_reads h₄ hr) fun _ => ?_
  refine Step.andThen_of_ok (Step.expect_of_reads h₅ ho) fun _ => ?_
  refine Step.andThen_of_ok h₇ fun _ => ?_
  refine Step.andThen_of_ok h₉ fun _ => ?_
  rw [Cursor.spanFrom, h₈.last, h₆.last, lastSpan_append]
  rfl

theorem alternative_none (h : c.sees .elseWord = false) : (alternative c).val = .ok [] c := by
  rw [alternative, if_neg (by simp [h])]
  rfl

theorem alternative_branch (hw : w.kind = .elseWord) (h₁ : c.Reads [w] d)
    (hd : d.peek.kind = .ifWord) (h₂ : (branch d).val = .ok s e) :
    (alternative c).val = .ok [s] e := by
  rw [alternative, if_pos (h₁.sees_of_kind hw)]
  refine Step.andThen_of_ok (Step.take_of_reads h₁) fun _ => ?_
  rw [if_pos (by rw [Cursor.sees, hd]; rfl)]
  exact Step.andThen_of_ok h₂ fun _ => rfl

theorem alternative_block (hw : w.kind = .elseWord) (ho : o.kind = .openBrace)
    (h₁ : c.Reads [w] d) (h₂ : d.Reads [o] e) (h₃ : (block e).val = .ok ss f) :
    (alternative c).val = .ok ss f := by
  rw [alternative, if_pos (h₁.sees_of_kind hw)]
  refine Step.andThen_of_ok (Step.take_of_reads h₁) fun _ => ?_
  rw [if_neg (by rw [h₂.sees, ho]; decide)]
  refine Step.andThen_of_ok (Step.expect_of_reads h₂ ho) fun _ => ?_
  exact Step.andThen_of_ok h₃ fun _ => rfl

theorem statement_expr (hc : c.peek.kind ∈ Tier.expression.starters) (hz : z.kind = .semicolon)
    (h₁ : (expression c).val = .ok a d) (h₂ : d.Reads [z] e) :
    (statement c).val = .ok (.expr a) e := by
  rw [statement]
  split
  case h_1 h | h_2 h | h_3 h | h_4 h =>
    rw [h] at hc
    exact absurd hc (by decide)
  case h_5 =>
    refine Step.andThen_of_ok h₁ fun _ => ?_
    rw [if_pos (h₂.sees_of_kind hz)]
    exact Step.andThen_of_ok (Step.take_of_reads h₂) fun _ => rfl

theorem block_nil (hz : z.kind = .closeBrace) (h : c.Reads [z] d) :
    (block c).val = .ok [] d := by
  rw [block, if_pos (by rw [h.sees_of_kind hz]; rfl)]
  exact Step.andThen_of_ok (Step.expect_of_reads h hz) fun _ => rfl

theorem block_cons {ts : List Token} (ht : t.kind ∈ Kind.starters) (h : c.Reads (t :: ts) e)
    (h₁ : (statement c).val = .ok s d) (h₂ : (block d).val = .ok ss f) :
    (block c).val = .ok (s :: ss) f := by
  have hc : c.sees .closeBrace = false := h.not_sees_of_mem ht (by decide)
  rw [block, if_neg (by rw [hc, h.atEnd]; decide)]
  refine Step.andThen_of_ok h₁ fun _ => ?_
  exact Step.andThen_of_ok h₂ fun _ => rfl

theorem program_cons {ts : List Token} (h : c.Reads (t :: ts) e)
    (h₁ : (statement c).val = .ok s d) (h₂ : (program d).val = .ok ss f) :
    (program c).val = .ok (s :: ss) f := by
  rw [program, if_neg (by rw [h.atEnd]; decide)]
  refine Step.andThen_of_ok h₁ fun _ => ?_
  exact Step.andThen_of_ok h₂ fun _ => rfl

end Parser

end SloScript
