import SloScript.Proofs.Productions

/-!
# What is written is read back

Every token list that the strict form of the grammar gives for a program is read as that program.

The induction is over the derivation. For the tiers with a loop the invariant does not say that the
whole construct is read, but that reading it comes down to the loop going on behind it, since a
chain to the left grows while it is being read.

Results:
1. `Yields.readFrom`: a phrase is read from its tokens.
2. `Derives.readFrom`: a clause is read from its tokens.
3. `parseTokens_of_derives`: a program is read from its tokens and the end of the input.
-/

namespace SloScript

/-! ## Expressions -/

open SloScript.Parser in
/-- From the tokens, the parser reads the phrase. Where a loop may go on, it goes on from there. -/
def Phrase.ReadFrom (ts : List Token) : Phrase → Prop
  | .expr .primary e => ∀ c d, c.Reads ts d → (primary c).val = .ok e d
  | .expr .member e => ∀ c d, c.Reads ts d → (member c).val = (memberRest e d).val
  | .expr .call e => ∀ c d, c.Reads ts d → d.EndsMember → (call c).val = (callRest e d).val
  | .expr .product e => ∀ c d, c.Reads ts d → d.EndsCall → (product c).val = (productRest e d).val
  | .expr .sum e => ∀ c d, c.Reads ts d → d.EndsProduct → (sum c).val = (sumRest e d).val
  | .expr .operand e => ∀ c d, c.Reads ts d → d.EndsSum → (operand c).val = .ok e d
  | .expr .expression e => ∀ c d, c.Reads ts d → d.EndsExpression → (expression c).val = .ok e d
  | .args es => ∀ c d l r, c.Reads (l :: (ts ++ [r])) d → l.kind = .openParen →
      r.kind = .closeParen → (arguments c).val = .ok es d
  | .moreArgs es => ∀ c d e r, c.Reads ts d → d.Reads [r] e → r.kind = .closeParen →
      (argumentsRest c).val = .ok es d
  | .entry p => ∀ c d, c.Reads ts d →
      (∀ e r, d.Reads [r] e → r.kind = .closeBrace → (properties c).val = .ok [p] d) ∧
      ∀ e f r ps, d.Reads [r] e → r.kind = .comma → (properties e).val = .ok ps f →
        (properties c).val = .ok (p :: ps) f
  | .entries ps => ∀ c d e r, c.Reads ts d → d.Reads [r] e → r.kind = .closeBrace →
      (properties c).val = .ok ps d

open SloScript.Parser in
/-- What is read at a tier is read at the next looser one. -/
theorem Phrase.ReadFrom.loosen {ts : List Token} {tier next : Tier} {e : Expr}
    (htier : tier.tighter? = some next) (y : Yields ts (.expr next e))
    (h : (Phrase.expr next e).ReadFrom ts) : (Phrase.expr tier e).ReadFrom ts := by
  cases tier with
  | primary => cases htier
  | member =>
    cases htier
    intro c d hr
    exact member_of_primary (h c d hr)
  | call =>
    cases htier
    intro c d hr ends
    exact call_of_member (h c d hr) ends
  | product =>
    cases htier
    intro c d hr ends
    exact product_of_call (h c d hr ends.toEndsMember) ends
  | sum =>
    cases htier
    intro c d hr ends
    exact sum_of_product (h c d hr ends.toEndsCall) ends
  | operand =>
    cases htier
    intro c d hr ends
    exact operand_of_sum (y.not_sees hr (by decide)) (h c d hr ends.toEndsProduct) ends
  | expression =>
    cases htier
    intro c d hr ends
    exact expression_of_operand (h c d hr ends.toEndsSum) ends.equals

open SloScript.Parser in
/-- Every phrase is read from its tokens. -/
theorem Yields.readFrom {ts : List Token} {ph : Phrase} (h : Yields ts ph) : ph.ReadFrom ts := by
  induction h with
  | name ht => exact fun c d hr => primary_name ht hr
  | number ht hx => exact fun c d hr => primary_number ht hx hr
  | text ht => exact fun c d hr => primary_text ht hr
  | paren hl _ hr ih =>
    intro c f reads
    obtain ⟨d, h₁, reads⟩ := reads.uncons
    obtain ⟨e, h₂, h₃⟩ := reads.split
    have inner := ih d e h₂ (h₃.endsExpression (by rw [hr]; decide))
    exact primary_paren hl hr h₁ inner h₃
  | member _ hp ht ih =>
    intro c f reads
    obtain ⟨d, h₁, reads⟩ := reads.split
    obtain ⟨e, h₂, h₃⟩ := reads.uncons
    exact (ih c d h₁).trans (memberRest_dot hp ht h₂ h₃)
  | index _ hl _ hr ih ihkey =>
    intro c g reads
    obtain ⟨d, h₁, reads⟩ := reads.split
    obtain ⟨e, h₂, reads⟩ := reads.uncons
    obtain ⟨f, h₃, h₄⟩ := reads.split
    have key := ihkey e f h₃ (h₄.endsExpression (by rw [hr]; decide))
    exact (ih c d h₁).trans (memberRest_bracket hl hr h₂ key h₄)
  | call _ hl _ hr ih ihargs =>
    intro c e reads ends
    obtain ⟨d, h₁, h₂⟩ := reads.split
    have args := ihargs d e _ _ h₂ hl hr
    have callee := ih c d h₁ (h₂.endsMember (by rw [hl]; decide) (by rw [hl]; decide))
    exact callee.trans (callRest_paren hl h₂ args)
  | product _ hm written _ ihl ihr =>
    intro c f reads ends
    obtain ⟨d, h₁, reads⟩ := reads.split
    obtain ⟨e, h₂, h₃⟩ := reads.uncons
    have left := ihl c d h₁ (h₂.endsCall written)
    have right := ihr e f h₃ ends.toEndsMember
    exact left.trans (productRest_operator (h₂.productOperator? written hm) h₂ right ends)
  | sum _ hm written _ ihl ihr =>
    intro c f reads ends
    obtain ⟨d, h₁, reads⟩ := reads.split
    obtain ⟨e, h₂, h₃⟩ := reads.uncons
    have left := ihl c d h₁ (h₂.endsProduct written hm)
    have right := ihr e f h₃ ends.toEndsCall
    exact left.trans (sumRest_operator (h₂.sumOperator? written hm) h₂ right ends)
  | object hl _ hr ih =>
    intro c f reads _
    obtain ⟨d, h₁, reads⟩ := reads.uncons
    obtain ⟨e, h₂, h₃⟩ := reads.split
    exact operand_object hl hr h₁ (ih d e f _ h₂ h₃ hr) h₃
  | assign _ ht _ iht ihv =>
    intro c f reads ends
    obtain ⟨d, h₁, reads⟩ := reads.split
    obtain ⟨e, h₂, h₃⟩ := reads.uncons
    have target := iht c d h₁ (h₂.endsSum (by rw [ht]; decide))
    exact expression_assign ht target h₂ (ihv e f h₃ ends)
  | loosen htier y ih => exact ih.loosen htier y
  | noArgs =>
    intro c e l r reads hl hr
    obtain ⟨d, h₁, h₂⟩ := reads.uncons
    exact arguments_none hl hr h₁ h₂
  | someArgs y ys ih ihs =>
    intro c g l r reads hl hr
    obtain ⟨d, h₁, reads⟩ := reads.uncons
    obtain ⟨f, reads, h₄⟩ := reads.split
    obtain ⟨e, h₂, h₃⟩ := reads.split
    have first := ih d e h₂ (ys.endsExpression h₃ h₄ hr)
    have others := ihs e f g r h₃ h₄ hr
    exact arguments_some hl hr h₁ (y.not_sees h₂ (by decide)) first others h₄
  | lastArg =>
    intro c d e r reads h hr
    obtain rfl := reads.eq_of_nil
    exact argumentsRest_none (h.not_sees (by rw [hr]; decide))
  | nextArg ht _ ys ih ihs =>
    intro c f g r reads h hr
    obtain ⟨d, h₁, reads⟩ := reads.uncons
    obtain ⟨e, h₂, h₃⟩ := reads.split
    have arg := ih d e h₂ (ys.endsExpression h₃ h hr)
    exact argumentsRest_some ht h₁ arg (ihs e f g r h₃ h hr)
  | shorthand ht =>
    intro c d reads
    constructor
    · intro e r h hr
      exact properties_shorthand ht reads (h.sees_of_kind hr)
    · intro e f r ps h hr hps
      exact properties_shorthand_comma ht hr reads h hps
  | keyed ht hk _ ih =>
    intro c f reads
    obtain ⟨d, h₁, reads⟩ := reads.uncons
    obtain ⟨e, h₂, h₃⟩ := reads.uncons
    constructor
    · intro g r h hr
      have value := ih e f h₃ (h.endsExpression (by rw [hr]; decide))
      exact properties_keyed ht hk h₁ h₂ value (h.sees_of_kind hr)
    · intro g i r ps h hr hps
      have value := ih e f h₃ (h.endsExpression (by rw [hr]; decide))
      exact properties_keyed_comma ht hk hr h₁ h₂ value h hps
  | noEntries =>
    intro c d e r reads h hr
    obtain rfl := reads.eq_of_nil
    exact properties_none (h.sees_of_kind hr)
  | lastEntry _ ih =>
    intro c d e r reads h hr
    exact (ih c d reads).1 e r h hr
  | nextEntry _ ht _ ih ihs =>
    intro c f g r reads h hr
    obtain ⟨d, h₁, reads⟩ := reads.split
    obtain ⟨e, h₂, h₃⟩ := reads.uncons
    exact (ih c d h₁).2 e f _ _ h₂ ht (ihs e f g r h₃ h hr)

/-! ## Statements -/

open SloScript.Parser in
/-- From the tokens, the parser reads the clause. A branch must not be followed by an alternative,
which would become its own. -/
def Clause.ReadFrom (ts : List Token) : Clause → Prop
  | .stmt s => ∀ c d, c.Reads ts d → d.sees .elseWord = false → (statement c).val = .ok s d
  | .alternative ss => ∀ c d, c.Reads ts d → d.sees .elseWord = false →
      (Parser.alternative c).val = .ok ss d
  | .stmts ss =>
      (∀ c d z, c.Reads (ts ++ [z]) d → z.kind = .closeBrace → (block c).val = .ok ss d) ∧
      ∀ c d, c.Reads ts d → d.atEnd = true → d.sees .elseWord = false →
        (program c).val = .ok ss d

open SloScript.Parser in
/-- Every clause of the strict grammar is read from its tokens. -/
theorem Derives.readFrom {ts : List Token} {cl : Clause} (h : Derives false ts cl) :
    cl.ReadFrom ts := by
  induction h with
  | letBare hw ht hz =>
    intro c f reads _
    obtain ⟨d, h₁, reads⟩ := reads.uncons
    obtain ⟨e, h₂, h₃⟩ := reads.uncons
    rw [statement, h₁.peek, hw]
    exact declaration_bare hw ht hz h₁ h₂ h₃
  | letInit hw ht hq y hz =>
    intro c i reads _
    obtain ⟨d, h₁, reads⟩ := reads.uncons
    obtain ⟨e, h₂, reads⟩ := reads.uncons
    obtain ⟨f, h₃, reads⟩ := reads.uncons
    obtain ⟨g, h₄, h₅⟩ := reads.split
    have init := y.readFrom f g h₄ (h₅.endsExpression (by rw [hz]; decide))
    rw [statement, h₁.peek, hw]
    refine (declaration_init ht hq hz h₁ h₂ h₃ init h₅).trans ?_
    rw [if_neg (by rw [hw]; decide)]
  | letConst hw ht hq y hz =>
    intro c i reads _
    obtain ⟨d, h₁, reads⟩ := reads.uncons
    obtain ⟨e, h₂, reads⟩ := reads.uncons
    obtain ⟨f, h₃, reads⟩ := reads.uncons
    obtain ⟨g, h₄, h₅⟩ := reads.split
    have init := y.readFrom f g h₄ (h₅.endsExpression (by rw [hz]; decide))
    rw [statement, h₁.peek, hw]
    refine (declaration_init ht hq hz h₁ h₂ h₃ init h₅).trans ?_
    rw [if_pos hw]
  | @function w t l r o z ps ts params body hw ht hl ys hr distinct ho _ hz ih =>
    intro c i reads _
    obtain ⟨d, h₁, reads⟩ := reads.uncons
    obtain ⟨e, h₂, reads⟩ := reads.uncons
    -- Both parentheses belong to the stretch that is read as arguments.
    have split : l :: (ps ++ r :: o :: (ts ++ [z])) = (l :: (ps ++ [r])) ++ o :: (ts ++ [z]) := by
      simp
    rw [split] at reads
    obtain ⟨f, h₃, reads⟩ := reads.split
    obtain ⟨g, h₄, h₅⟩ := reads.uncons
    have args := (yieldsNames_iff.1 ys).readFrom e f l r h₃ hl hr
    have names := parameters_eq_ok.2 ⟨rfl, distinct⟩
    exact function_of_reads hw ht ho h₁ h₂ args names h₄ h₅ (ih.1 g i z h₅ hz)
  | @branch w l r o z ts us vs test yes no hw hl y hr ho _ hz _ ihyes ihno =>
    intro c k reads helse
    obtain ⟨d, h₁, reads⟩ := reads.uncons
    obtain ⟨e, h₂, reads⟩ := reads.uncons
    obtain ⟨f, h₃, reads⟩ := reads.split
    obtain ⟨g, h₄, reads⟩ := reads.uncons
    obtain ⟨i, h₅, reads⟩ := reads.uncons
    have split : us ++ z :: vs = (us ++ [z]) ++ vs := by simp
    rw [split] at reads
    obtain ⟨j, h₆, h₇⟩ := reads.split
    have cond := y.readFrom e f h₃ (h₄.endsExpression (by rw [hr]; decide))
    have block := ihyes.1 i j z h₆ hz
    have other := ihno j k h₇ helse
    rw [statement_eq_branch (by rw [h₁.peek, hw])]
    exact branch_of_reads hl hr ho h₁ h₂ cond h₄ h₅ h₆ block h₇ other
  | expr y hz =>
    intro c e reads _
    obtain ⟨d, h₁, h₂⟩ := reads.split
    have value := y.readFrom c d h₁ (h₂.endsExpression (by rw [hz]; decide))
    obtain ⟨t, us, rfl, ht⟩ := y.startsIn
    exact statement_expr (by rwa [h₁.peek]) hz value h₂
  | exprOpen strict => cases strict
  | noElse =>
    intro c d reads helse
    obtain rfl := reads.eq_of_nil
    exact alternative_none helse
  | elseIf hw y ih =>
    intro c e reads helse
    obtain ⟨d, h₁, h₂⟩ := reads.uncons
    have inner := ih d e h₂ helse
    -- A branch can only come from its own production, which begins with its word.
    have hd : d.peek.kind = .ifWord := by
      cases y with
      | branch hi => rwa [h₂.peek]
    rw [statement_eq_branch hd] at inner
    exact alternative_branch hw h₁ hd inner
  | elseBlock hw ho _ hz ih =>
    intro c f reads _
    obtain ⟨d, h₁, reads⟩ := reads.uncons
    obtain ⟨e, h₂, h₃⟩ := reads.uncons
    exact alternative_block hw ho h₁ h₂ (ih.1 e f _ h₃ hz)
  | nil =>
    constructor
    · intro c d z reads hz
      exact block_nil hz reads
    · intro c d reads hend _
      obtain rfl := reads.eq_of_nil
      rw [program, if_pos hend]
      rfl
  | @cons ts us s ss y ys ih ihs =>
    obtain ⟨t, rest, rfl, ht⟩ := y.startsIn
    constructor
    · intro c e z reads hz
      rw [List.append_assoc] at reads
      obtain ⟨d, h₁, h₂⟩ := reads.split
      have first := ih c d h₁ (ys.not_sees_else h₂ hz)
      exact block_cons ht h₁ first (ihs.1 d e z h₂ hz)
    · intro c e reads hend helse
      obtain ⟨d, h₁, h₂⟩ := reads.split
      -- Behind a statement comes the next one or the end, and neither is an alternative.
      have next : d.sees .elseWord = false := by
        cases us with
        | nil =>
          obtain rfl := h₂.eq_of_nil
          exact helse
        | cons u us =>
          have hu : u.kind ∈ Kind.starters := ys.startsIn u rfl
          exact h₂.not_sees_of_mem hu (by decide)
      exact program_cons h₁ (ih c d h₁ next) (ihs.2 d e h₂ hend helse)

/-! ## Programs -/

theorem Yields.not_finish {ts : List Token} {ph : Phrase} (h : Yields ts ph) :
    ∀ t ∈ ts, t.kind ≠ .endOfFile := by
  have operator {op : Operator} {t : Token} (written : op.WrittenAs t) : t.kind ≠ .endOfFile := by
    rw [written.kind]
    cases op <;> decide
  induction h with
  | product _ _ written | sum _ _ written =>
    have := operator written
    simp_all [or_imp]
  | _ => simp_all [or_imp]

theorem Derives.not_finish {loose : Bool} {ts : List Token} {cl : Clause}
    (h : Derives loose ts cl) : ∀ t ∈ ts, t.kind ≠ .endOfFile := by
  induction h with
  | letInit _ _ _ y | letConst _ _ _ y | expr y | exprOpen _ y | branch _ _ y =>
    have := y.not_finish
    simp_all [or_imp]
  | function _ _ _ ys =>
    have := (yieldsNames_iff.1 ys).not_finish
    simp_all [or_imp]
  | _ => simp_all [or_imp]

theorem Cursor.finish_ofTokens (tokens : List Token) :
    (Cursor.ofTokens tokens).finish.kind = .endOfFile := by
  have hd := List.head?_dropWhile_not (fun t : Token => decide (t.kind ≠ .endOfFile)) tokens
  show ((tokens.dropWhile _).head?.getD _).kind = _
  cases h : (tokens.dropWhile fun t => decide (t.kind ≠ .endOfFile)).head? with
  | none => rfl
  | some t =>
    rw [h] at hd
    simpa using hd

/-- The tokens of a program are read as that program, and nothing behind the end of the input
matters. -/
theorem parseTokens_of_derives {ts tail : List Token} {p : Program}
    (h : Derives false ts (.stmts p)) (htail : ∀ t ∈ tail.head?, t.kind = .endOfFile) :
    parseTokens (ts ++ tail) = .ok p := by
  have rest : (Cursor.ofTokens (ts ++ tail)).rest = ts := by
    show (ts ++ tail).takeWhile _ = ts
    rw [List.takeWhile_append_of_pos (by simpa using h.not_finish)]
    cases tail with
    | nil => simp
    | cons t tail => simp [htail t rfl]
  let c := Cursor.ofTokens (ts ++ tail)
  have reads : c.Reads ts ⟨lastSpan c.last ts, [], c.finish⟩ := ⟨by simpa using rest, rfl, rfl⟩
  have no_else : Cursor.sees ⟨lastSpan c.last ts, [], c.finish⟩ .elseWord = false := by
    show decide (c.finish.kind = _) = _
    rw [Cursor.finish_ofTokens]
    rfl
  have read := h.readFrom.2 c _ reads rfl no_else
  unfold parseTokens Cursor.parse
  rw [read]

end SloScript
