import SloScript.Proofs.Reading

/-!
# The grammar

Which token lists a tree can be written as, said without any reading order: one constructor per
production. An expression is derived at a *tier*; the looser tiers include the tighter ones, the two
tiers of binary operators and the chains of properties and calls go to the left, assignment goes to
the right, and parentheses lift any expression to the tightest tier. The span of a node reaches from
its first token to its last one, parentheses around it left aside.

`Yields` is for expressions, `Derives` for statements. The semicolon behind an expression may be
left out in the *loose* form of the grammar only; otherwise the form is *strict*.

Results:
1. `Yields.of_rank_le`: what has a tier has every looser one.
2. `yieldsNames_iff`: the names of parameters are the arguments that are nothing but names.
3. `parameters_eq_ok`: arguments are accepted as parameters if they are different names.
-/

namespace SloScript

/-! ## Operators and tiers -/

/-- The kind of the token that an operator is written with. -/
def Operator.kind : Operator → Kind
  | add | sub | mul | div | mod => .binaryOperator
  | eq => .equalEquals
  | ne => .bangEquals
  | lt => .less
  | le => .lessEquals
  | gt => .greater
  | ge => .greaterEquals

/-- A token is an operator as it is written. -/
structure Operator.WrittenAs (op : Operator) (t : Token) : Prop where
  kind : t.kind = op.kind
  text : t.text = op.symbol

/-- How tightly the parts of an expression hold together, from loose to tight. -/
inductive Tier where
  | expression
  | operand
  | sum
  | product
  | call
  | member
  | primary
  deriving DecidableEq, Repr

/-- The tier that is tighter by one. -/
def Tier.tighter? : Tier → Option Tier
  | expression => some operand
  | operand => some sum
  | sum => some product
  | product => some call
  | call => some member
  | member => some primary
  | primary => none

/-- How tight a tier is. -/
def Tier.rank : Tier → Nat
  | expression => 0
  | operand => 1
  | sum => 2
  | product => 3
  | call => 4
  | member => 5
  | primary => 6

/-! ## Expressions -/

/-- The parts of expressions that have productions of their own. -/
inductive Phrase where
  | expr (tier : Tier) (e : Expr)
  /-- What stands between the parentheses of a call. -/
  | args (es : List Expr)
  /-- Arguments that follow others, each behind a comma. -/
  | moreArgs (es : List Expr)
  | entry (p : Property)
  /-- What stands between the braces of a new object. -/
  | entries (ps : List Property)

open SloScript.Parser in
/-- The token list can be written for the phrase. -/
inductive Yields : List Token → Phrase → Prop
  | name {t : Token} : t.kind = .identifier → Yields [t] (.expr .primary (.name (ident t)))
  | number {t : Token} {x : Float} : t.kind = .number → Number.read? t.text = some x →
      Yields [t] (.expr .primary (.number x t.span))
  | text {t : Token} : t.kind = .string → Yields [t] (.expr .primary (.text t.text t.span))
  | paren {l r : Token} {ts : List Token} {e : Expr} :
      l.kind = .openParen → Yields ts (.expr .expression e) → r.kind = .closeParen →
      Yields (l :: (ts ++ [r])) (.expr .primary e)
  | member {p t : Token} {ts : List Token} {object : Expr} :
      Yields ts (.expr .member object) → p.kind = .dot → t.kind = .identifier →
      Yields (ts ++ [p, t]) (.expr .member (.member object (ident t) (object.span.merge t.span)))
  | index {l r : Token} {ts us : List Token} {object key : Expr} :
      Yields ts (.expr .member object) →
      l.kind = .openBracket → Yields us (.expr .expression key) → r.kind = .closeBracket →
      Yields (ts ++ l :: (us ++ [r]))
        (.expr .member (.index object key (object.span.merge r.span)))
  | call {l r : Token} {ts us : List Token} {callee : Expr} {es : List Expr} :
      Yields ts (.expr .call callee) →
      l.kind = .openParen → Yields us (.args es) → r.kind = .closeParen →
      Yields (ts ++ l :: (us ++ [r])) (.expr .call (.call callee es (callee.span.merge r.span)))
  | product {t : Token} {ts us : List Token} {op : Operator} {a b : Expr} :
      Yields ts (.expr .product a) → op.isMultiplicative = true → op.WrittenAs t →
      Yields us (.expr .call b) → Yields (ts ++ t :: us) (.expr .product (binary op a b))
  | sum {t : Token} {ts us : List Token} {op : Operator} {a b : Expr} :
      Yields ts (.expr .sum a) → op.isMultiplicative = false → op.WrittenAs t →
      Yields us (.expr .product b) → Yields (ts ++ t :: us) (.expr .sum (binary op a b))
  | object {l r : Token} {ts : List Token} {ps : List Property} :
      l.kind = .openBrace → Yields ts (.entries ps) → r.kind = .closeBrace →
      Yields (l :: (ts ++ [r])) (.expr .operand (.object ps (l.span.merge r.span)))
  | assign {t : Token} {ts us : List Token} {target value : Expr} :
      Yields ts (.expr .operand target) → t.kind = .equals → Yields us (.expr .expression value) →
      Yields (ts ++ t :: us)
        (.expr .expression (.assign target value (target.span.merge value.span)))
  | loosen {ts : List Token} {tier next : Tier} {e : Expr} :
      tier.tighter? = some next → Yields ts (.expr next e) → Yields ts (.expr tier e)
  | noArgs : Yields [] (.args [])
  | someArgs {ts us : List Token} {e : Expr} {es : List Expr} :
      Yields ts (.expr .expression e) → Yields us (.moreArgs es) →
      Yields (ts ++ us) (.args (e :: es))
  | lastArg : Yields [] (.moreArgs [])
  | nextArg {t : Token} {ts us : List Token} {e : Expr} {es : List Expr} :
      t.kind = .comma → Yields ts (.expr .expression e) → Yields us (.moreArgs es) →
      Yields (t :: (ts ++ us)) (.moreArgs (e :: es))
  | shorthand {t : Token} : t.kind = .identifier → Yields [t] (.entry (.shorthand (ident t)))
  | keyed {t k : Token} {ts : List Token} {e : Expr} :
      t.kind = .identifier → k.kind = .colon → Yields ts (.expr .expression e) →
      Yields (t :: k :: ts) (.entry (.keyed (ident t) e (t.span.merge e.span)))
  | noEntries : Yields [] (.entries [])
  | lastEntry {ts : List Token} {p : Property} : Yields ts (.entry p) → Yields ts (.entries [p])
  /-- A comma may also stand behind the last entry. -/
  | nextEntry {t : Token} {ts us : List Token} {p : Property} {ps : List Property} :
      Yields ts (.entry p) → t.kind = .comma → Yields us (.entries ps) →
      Yields (ts ++ t :: us) (.entries (p :: ps))

/-! ## Statements -/

open SloScript.Parser in
/-- The token list is a name, possibly in parentheses. -/
inductive YieldsName : List Token → Ident → Prop
  | plain {t : Token} : t.kind = .identifier → YieldsName [t] (ident t)
  | paren {l r : Token} {ts : List Token} {id : Ident} :
      l.kind = .openParen → YieldsName ts id → r.kind = .closeParen →
      YieldsName (l :: (ts ++ [r])) id

/-- The token list is a list of names, each behind a comma. -/
inductive YieldsMoreNames : List Token → List Ident → Prop
  | last : YieldsMoreNames [] []
  | next {t : Token} {ts us : List Token} {id : Ident} {ids : List Ident} :
      t.kind = .comma → YieldsName ts id → YieldsMoreNames us ids →
      YieldsMoreNames (t :: (ts ++ us)) (id :: ids)

/-- The token list is a list of names separated by commas. -/
inductive YieldsNames : List Token → List Ident → Prop
  | none : YieldsNames [] []
  | some {ts us : List Token} {id : Ident} {ids : List Ident} :
      YieldsName ts id → YieldsMoreNames us ids → YieldsNames (ts ++ us) (id :: ids)

/-- The parts of programs that have productions of their own. -/
inductive Clause where
  | stmt (s : Stmt)
  /-- What stands between the braces of a block, or a whole program. -/
  | stmts (ss : List Stmt)
  /-- What stands behind the block of a branch. -/
  | alternative (ss : List Stmt)

open SloScript.Parser in
/-- The token list can be written for the clause. In the loose form an expression needs no semicolon
behind it. -/
inductive Derives (loose : Bool) : List Token → Clause → Prop
  | letBare {w t z : Token} : w.kind = .letWord → t.kind = .identifier → z.kind = .semicolon →
      Derives loose [w, t, z] (.stmt (.letVar (ident t) none (w.span.merge z.span)))
  | letInit {w t q z : Token} {ts : List Token} {e : Expr} :
      w.kind = .letWord → t.kind = .identifier → q.kind = .equals →
      Yields ts (.expr .expression e) → z.kind = .semicolon →
      Derives loose (w :: t :: q :: (ts ++ [z]))
        (.stmt (.letVar (ident t) (some e) (w.span.merge z.span)))
  | letConst {w t q z : Token} {ts : List Token} {e : Expr} :
      w.kind = .constWord → t.kind = .identifier → q.kind = .equals →
      Yields ts (.expr .expression e) → z.kind = .semicolon →
      Derives loose (w :: t :: q :: (ts ++ [z]))
        (.stmt (.letConst (ident t) e (w.span.merge z.span)))
  | function {w t l r o z : Token} {ps ts : List Token} {params : List Ident} {body : List Stmt} :
      w.kind = .fnWord → t.kind = .identifier →
      l.kind = .openParen → YieldsNames ps params → r.kind = .closeParen →
      (params.map Ident.name).Nodup →
      o.kind = .openBrace → Derives loose ts (.stmts body) → z.kind = .closeBrace →
      Derives loose (w :: t :: l :: (ps ++ r :: o :: (ts ++ [z])))
        (.stmt (.function (ident t) params body (w.span.merge z.span)))
  /-- The alternative follows the block at once, so it belongs to the nearest branch. -/
  | branch {w l r o z : Token} {ts us vs : List Token} {test : Expr} {yes no : List Stmt} :
      w.kind = .ifWord → l.kind = .openParen → Yields ts (.expr .expression test) →
      r.kind = .closeParen → o.kind = .openBrace → Derives loose us (.stmts yes) →
      z.kind = .closeBrace → Derives loose vs (.alternative no) →
      Derives loose (w :: l :: (ts ++ r :: o :: (us ++ z :: vs)))
        (.stmt (.branch test yes no (w.span.merge (lastSpan z.span vs))))
  | expr {z : Token} {ts : List Token} {e : Expr} :
      Yields ts (.expr .expression e) → z.kind = .semicolon →
      Derives loose (ts ++ [z]) (.stmt (.expr e))
  | exprOpen {ts : List Token} {e : Expr} : loose = true → Yields ts (.expr .expression e) →
      Derives loose ts (.stmt (.expr e))
  | noElse : Derives loose [] (.alternative [])
  | elseIf {w : Token} {ts : List Token} {test : Expr} {yes no : List Stmt} {span : Span} :
      w.kind = .elseWord → Derives loose ts (.stmt (.branch test yes no span)) →
      Derives loose (w :: ts) (.alternative [.branch test yes no span])
  | elseBlock {w o z : Token} {ts : List Token} {ss : List Stmt} :
      w.kind = .elseWord → o.kind = .openBrace → Derives loose ts (.stmts ss) →
      z.kind = .closeBrace → Derives loose (w :: o :: (ts ++ [z])) (.alternative ss)
  | nil : Derives loose [] (.stmts [])
  | cons {ts us : List Token} {s : Stmt} {ss : List Stmt} :
      Derives loose ts (.stmt s) → Derives loose us (.stmts ss) →
      Derives loose (ts ++ us) (.stmts (s :: ss))

/-! ## Looser tiers -/

theorem Tier.exists_looser {tier : Tier} {n : Nat} (h : tier.rank = n + 1) :
    ∃ looser : Tier, looser.tighter? = some tier ∧ looser.rank = n := by
  cases tier with
  | expression => cases h
  | operand => exact ⟨.expression, rfl, Nat.succ.inj h⟩
  | sum => exact ⟨.operand, rfl, Nat.succ.inj h⟩
  | product => exact ⟨.sum, rfl, Nat.succ.inj h⟩
  | call => exact ⟨.product, rfl, Nat.succ.inj h⟩
  | member => exact ⟨.call, rfl, Nat.succ.inj h⟩
  | primary => exact ⟨.member, rfl, Nat.succ.inj h⟩

theorem Tier.eq_of_rank_eq {a b : Tier} (h : a.rank = b.rank) : a = b := by
  cases a <;> cases b <;> first | rfl | cases h

/-- What has a tier has every looser one. -/
theorem Yields.of_rank_le {ts : List Token} {own position : Tier} {e : Expr}
    (h : Yields ts (.expr own e)) (hle : position.rank ≤ own.rank) :
    Yields ts (.expr position e) := by
  obtain ⟨n, hn⟩ := Nat.exists_eq_add_of_le hle
  -- One tier looser at a time, as many times as the ranks differ.
  induction n generalizing own with
  | zero =>
    obtain rfl := Tier.eq_of_rank_eq hn
    exact h
  | succ n ih =>
    obtain ⟨looser, htier, hr⟩ := Tier.exists_looser (n := position.rank + n) hn
    exact ih (.loosen htier h) (by omega) hr

/-- What has the tightest tier has every tier. -/
theorem Yields.of_primary {ts : List Token} {e : Expr} (h : Yields ts (.expr .primary e))
    (tier : Tier) : Yields ts (.expr tier e) :=
  h.of_rank_le (by cases tier <;> decide)

/-! ## Parameters -/

theorem YieldsName.yields {ts : List Token} {id : Ident} (h : YieldsName ts id) :
    Yields ts (.expr .primary (.name id)) := by
  induction h with
  | plain ht => exact .name ht
  | paren hl _ hr ih => exact .paren hl (ih.of_primary _) hr

theorem YieldsMoreNames.yields {ts : List Token} {ids : List Ident} (h : YieldsMoreNames ts ids) :
    Yields ts (.moreArgs (ids.map .name)) := by
  induction h with
  | last => exact .lastArg
  | next ht hn _ ih => exact .nextArg ht (hn.yields.of_primary _) ih

/-- A phrase made of names is written as names. -/
def Phrase.NamesWrittenAs (ts : List Token) : Phrase → Prop
  | .expr _ e => ∀ id, e = .name id → YieldsName ts id
  | .args es => ∀ ids : List Ident, es = ids.map .name → YieldsNames ts ids
  | .moreArgs es => ∀ ids : List Ident, es = ids.map .name → YieldsMoreNames ts ids
  | .entry _ | .entries _ => True

/-- Only parentheses leave no trace, so a name is written as itself in parentheses. -/
theorem Yields.namesWrittenAs {ts : List Token} {ph : Phrase} (h : Yields ts ph) :
    ph.NamesWrittenAs ts := by
  induction h with
  | name ht =>
    rintro id ⟨⟩
    exact .plain ht
  | paren hl _ hr ih =>
    intro id he
    exact .paren hl (ih id he) hr
  | loosen _ _ ih => exact ih
  | noArgs =>
    intro ids he
    obtain rfl := List.map_eq_nil_iff.1 he.symm
    exact .none
  | lastArg =>
    intro ids he
    obtain rfl := List.map_eq_nil_iff.1 he.symm
    exact .last
  | someArgs _ _ ihe ihes =>
    intro ids he
    obtain ⟨id, rest, rfl, hid, hrest⟩ := List.map_eq_cons_iff.1 he.symm
    exact .some (ihe id hid.symm) (ihes rest hrest.symm)
  | nextArg ht _ _ ihe ihes =>
    intro ids he
    obtain ⟨id, rest, rfl, hid, hrest⟩ := List.map_eq_cons_iff.1 he.symm
    exact .next ht (ihe id hid.symm) (ihes rest hrest.symm)
  | shorthand | keyed | noEntries | lastEntry | nextEntry => exact trivial
  | _ => exact nofun

/-- Names separated by commas are the arguments that are nothing but names. -/
theorem yieldsNames_iff {ts : List Token} {ids : List Ident} :
    YieldsNames ts ids ↔ Yields ts (.args (ids.map .name)) := by
  constructor
  · intro h
    cases h with
    | none => exact .noArgs
    | some hn hm => exact .someArgs (hn.yields.of_primary _) hm.yields
  · intro h
    exact h.namesWrittenAs ids rfl

namespace Parser

theorem parameter_eq_ok {e : Expr} {id : Ident} : parameter e = .ok id ↔ e = .name id := by
  cases e <;> simp [parameter]

theorem mapM_parameter_names (ids : List Ident) :
    (ids.map Expr.name).mapM parameter = .ok ids := by
  induction ids with
  | nil => rfl
  | cons id ids ih =>
    rw [List.map_cons, List.mapM_cons, ih]
    rfl

theorem eq_names_of_mapM_parameter {es : List Expr} {ids : List Ident}
    (h : es.mapM parameter = .ok ids) : es = ids.map .name := by
  induction es generalizing ids with
  | nil =>
    cases h
    rfl
  | cons e es ih =>
    rw [List.mapM_cons] at h
    cases he : parameter e with
    | error fault => rw [he] at h; cases h
    | ok id =>
      rw [he] at h
      cases hes : es.mapM parameter with
      | error fault => rw [hes] at h; cases h
      | ok rest =>
        rw [hes] at h
        cases h
        rw [parameter_eq_ok.1 he, ih hes]
        rfl

theorem firstRepeated_eq_none {earlier : List String} {ids : List Ident} :
    firstRepeated earlier ids = none ↔
      (ids.map Ident.name).Nodup ∧ ∀ id ∈ ids, id.name ∉ earlier := by
  fun_induction firstRepeated earlier ids with
  | case1 => simp
  | case2 earlier id ids h => simp_all
  | case3 earlier id ids h ih =>
    rw [ih]
    simp_all
    grind

/-- Arguments are accepted as parameters if they are names, no two of them alike. -/
theorem parameters_eq_ok {es : List Expr} {params : List Ident} :
    parameters es = .ok params ↔ es = params.map .name ∧ (params.map Ident.name).Nodup := by
  have repeats : ∀ ids, firstRepeated [] ids = none ↔ (ids.map Ident.name).Nodup := by
    intro ids
    rw [firstRepeated_eq_none]
    simp
  constructor
  · intro h
    unfold parameters at h
    cases hm : es.mapM parameter with
    | error fault => rw [hm] at h; cases h
    | ok ids =>
      rw [hm] at h
      cases hr : firstRepeated [] ids with
      | some id => simp [bind, Except.bind, hr] at h
      | none =>
        simp only [bind, Except.bind, hr, Except.ok.injEq] at h
        subst h
        exact ⟨eq_names_of_mapM_parameter hm, (repeats ids).1 hr⟩
  · rintro ⟨rfl, hn⟩
    unfold parameters
    rw [mapM_parameter_names]
    simp only [bind, Except.bind, (repeats params).2 hn]

end Parser

end SloScript
