import Mathlib.Data.List.Forall2
import SloScript.Proofs.ParserCompleteness
import SloScript.Proofs.Spelling

/-!
# Writing programs down

A program is written down with as few parentheses as the grammar allows: an expression stands in
parentheses only where its own tier is looser than the tier that its position asks for. A semicolon
closes every declaration and every expression that is a statement. The result is a list of *pieces*,
tokens without their spans; the digits of a number are left open as well, since many texts stand for
the same number.

Whatever tokens are chosen for the pieces, the parser reads the program back from them.

Results:
1. `Expr.yields_pieces`: the pieces of an expression are tokens of it in the grammar, at its tier.
2. `Stmt.derives_pieces`: the pieces of a statement are tokens of it in the strict grammar.
3. `parseTokens_pieces`: a program is read back, up to spans, from any tokens for its pieces.
-/

namespace SloScript

/-! ## Programs without their spans -/

/-- A name without its span. -/
def Ident.bare (id : Ident) : Ident := ⟨id.name, .nowhere⟩

mutual

/-- An expression without its spans. -/
def Expr.bare : Expr → Expr
  | .number x _ => .number x .nowhere
  | .text s _ => .text s .nowhere
  | .name id => .name id.bare
  | .assign target value _ => .assign target.bare value.bare .nowhere
  | .binary op left right _ => .binary op left.bare right.bare .nowhere
  | .member object key _ => .member object.bare key.bare .nowhere
  | .index object key _ => .index object.bare key.bare .nowhere
  | .call callee args _ => .call callee.bare (bareArgs args) .nowhere
  | .object properties _ => .object (bareProperties properties) .nowhere

/-- Arguments without their spans. -/
def bareArgs : List Expr → List Expr
  | [] => []
  | arg :: args => arg.bare :: bareArgs args

/-- An entry without its spans. -/
def Property.bare : Property → Property
  | .shorthand key => .shorthand key.bare
  | .keyed key value _ => .keyed key.bare value.bare .nowhere

/-- The entries of an object without their spans. -/
def bareProperties : List Property → List Property
  | [] => []
  | property :: properties => property.bare :: bareProperties properties

end

mutual

/-- A statement without its spans. -/
def Stmt.bare : Stmt → Stmt
  | .letVar name init _ => .letVar name.bare (init.map Expr.bare) .nowhere
  | .letConst name init _ => .letConst name.bare init.bare .nowhere
  | .function name params body _ =>
    .function name.bare (params.map Ident.bare) (bareBody body) .nowhere
  | .branch test consequent alternate _ =>
    .branch test.bare (bareBody consequent) (bareBody alternate) .nowhere
  | .expr e => .expr e.bare

/-- Statements without their spans. -/
def bareBody : List Stmt → List Stmt
  | [] => []
  | stmt :: body => stmt.bare :: bareBody body

end

/-! ## Pieces -/

/-- A token that is still to be written. -/
inductive Piece where
  | word (kind : Kind) (text : String)
  /-- Any digits that stand for the number. -/
  | number (x : Float)

/-- A reserved word or a sign. -/
def Piece.sign (kind : Kind) : Piece := .word kind (kind.spelling?.getD "")

/-- The number that a piece stands for. -/
def Piece.number? : Piece → Option Float
  | word _ _ => none
  | number x => some x

/-- The token is one way to write the piece. -/
def Token.Writes (t : Token) : Piece → Prop
  | .word kind text => t.kind = kind ∧ t.text = text
  | .number x => t.kind = .number ∧ t.Lexical ∧ Number.read? t.text = some x

/-- The tier of the expressions that an operator makes. -/
def Operator.tier (op : Operator) : Tier := if op.isMultiplicative then .product else .sum

/-- The tier that the right operand of an operator needs. -/
def Operator.rightTier (op : Operator) : Tier := if op.isMultiplicative then .call else .product

/-- The tightest tier that an expression has without parentheses around it. -/
def Expr.tier : Expr → Tier
  | number _ _ | text _ _ | name _ => .primary
  | member _ _ _ | index _ _ _ => .member
  | call _ _ _ => .call
  | binary op _ _ _ => op.tier
  | object _ _ => .operand
  | assign _ _ _ => .expression

/-- Pieces of the tier `own`, in parentheses where a tighter one is needed. -/
def enclose (own position : Tier) (ps : List Piece) : List Piece :=
  if own.rank < position.rank then .sign .openParen :: (ps ++ [.sign .closeParen]) else ps

mutual

/-- The pieces of an expression. -/
def Expr.pieces : Expr → List Piece
  | .number x _ => [.number x]
  | .text s _ => [.word .string s]
  | .name id => [.word .identifier id.name]
  | .assign target value _ =>
    enclose target.tier .operand target.pieces ++ .sign .equals ::
      enclose value.tier .expression value.pieces
  | .binary op left right _ =>
    enclose left.tier op.tier left.pieces ++ .word op.kind op.symbol ::
      enclose right.tier op.rightTier right.pieces
  | .member object key _ =>
    enclose object.tier .member object.pieces ++ [.sign .dot, .word .identifier key.name]
  | .index object key _ =>
    enclose object.tier .member object.pieces ++ .sign .openBracket ::
      (enclose key.tier .expression key.pieces ++ [.sign .closeBracket])
  | .call callee args _ =>
    enclose callee.tier .call callee.pieces ++ .sign .openParen ::
      (argsPieces args ++ [.sign .closeParen])
  | .object properties _ =>
    .sign .openBrace :: (propertiesPieces properties ++ [.sign .closeBrace])

/-- The pieces of arguments, with commas between them. -/
def argsPieces : List Expr → List Piece
  | [] => []
  | arg :: args => enclose arg.tier .expression arg.pieces ++ moreArgsPieces args

/-- The pieces of arguments behind others, each behind a comma. -/
def moreArgsPieces : List Expr → List Piece
  | [] => []
  | arg :: args =>
    .sign .comma :: (enclose arg.tier .expression arg.pieces ++ moreArgsPieces args)

/-- The pieces of an entry. -/
def Property.pieces : Property → List Piece
  | .shorthand key => [.word .identifier key.name]
  | .keyed key value _ =>
    .word .identifier key.name :: .sign .colon :: enclose value.tier .expression value.pieces

/-- The pieces of the entries of an object, with commas between them. -/
def propertiesPieces : List Property → List Piece
  | [] => []
  | [property] => property.pieces
  | property :: next :: properties =>
    property.pieces ++ .sign .comma :: propertiesPieces (next :: properties)

end

/-- Whether a statement is a branch. -/
def Stmt.isBranch : Stmt → Bool
  | branch _ _ _ _ => true
  | _ => false

mutual

/-- The pieces of a statement. -/
def Stmt.pieces : Stmt → List Piece
  | .letVar name none _ =>
    [.sign .letWord, .word .identifier name.name, .sign .semicolon]
  | .letVar name (some init) _ =>
    .sign .letWord :: .word .identifier name.name :: .sign .equals ::
      (enclose init.tier .expression init.pieces ++ [.sign .semicolon])
  | .letConst name init _ =>
    .sign .constWord :: .word .identifier name.name :: .sign .equals ::
      (enclose init.tier .expression init.pieces ++ [.sign .semicolon])
  | .function name params body _ =>
    .sign .fnWord :: .word .identifier name.name :: .sign .openParen ::
      (argsPieces (params.map .name) ++ .sign .closeParen :: .sign .openBrace ::
        (bodyPieces body ++ [.sign .closeBrace]))
  | .branch test consequent alternate _ =>
    .sign .ifWord :: .sign .openParen ::
      (enclose test.tier .expression test.pieces ++ .sign .closeParen :: .sign .openBrace ::
        (bodyPieces consequent ++ .sign .closeBrace :: alternatePieces alternate))
  | .expr e => enclose e.tier .expression e.pieces ++ [.sign .semicolon]

/-- The pieces of statements, one after the other. -/
def bodyPieces : List Stmt → List Piece
  | [] => []
  | stmt :: body => stmt.pieces ++ bodyPieces body

/-- The pieces of an alternative. A single branch needs no braces, and no statements need no
pieces. -/
def alternatePieces : List Stmt → List Piece
  | [] => []
  | stmt :: body =>
    .sign .elseWord ::
      if stmt.isBranch && body.isEmpty then stmt.pieces
      else .sign .openBrace :: (stmt.pieces ++ bodyPieces body ++ [.sign .closeBrace])

end

/-! ## Programs that can be written -/

mutual

/-- The numbers written in an expression. -/
def Expr.numbers : Expr → List Float
  | .number x _ => [x]
  | .text _ _ | .name _ => []
  | .assign left right _ | .binary _ left right _ | .index left right _ =>
    left.numbers ++ right.numbers
  | .member object _ _ => object.numbers
  | .call callee args _ => callee.numbers ++ argsNumbers args
  | .object properties _ => propertiesNumbers properties

/-- The numbers written in arguments. -/
def argsNumbers : List Expr → List Float
  | [] => []
  | arg :: args => arg.numbers ++ argsNumbers args

/-- The numbers written in an entry. -/
def Property.numbers : Property → List Float
  | .shorthand _ => []
  | .keyed _ value _ => value.numbers

/-- The numbers written in the entries of an object. -/
def propertiesNumbers : List Property → List Float
  | [] => []
  | property :: properties => property.numbers ++ propertiesNumbers properties

end

mutual

/-- The numbers written in a statement. -/
def Stmt.numbers : Stmt → List Float
  | .letVar _ none _ => []
  | .letVar _ (some init) _ | .letConst _ init _ => init.numbers
  | .function _ _ body _ => bodyNumbers body
  | .branch test consequent alternate _ =>
    test.numbers ++ bodyNumbers consequent ++ bodyNumbers alternate
  | .expr e => e.numbers

/-- The numbers written in statements. -/
def bodyNumbers : List Stmt → List Float
  | [] => []
  | stmt :: body => stmt.numbers ++ bodyNumbers body

end

mutual

/-- The parameters of every function that a statement declares, at any depth. -/
def Stmt.parameterLists : Stmt → List (List Ident)
  | .letVar _ _ _ | .letConst _ _ _ | .expr _ => []
  | .function _ params body _ => params :: bodyParameterLists body
  | .branch _ consequent alternate _ =>
    bodyParameterLists consequent ++ bodyParameterLists alternate

/-- The parameters of every function that statements declare, at any depth. -/
def bodyParameterLists : List Stmt → List (List Ident)
  | [] => []
  | stmt :: body => stmt.parameterLists ++ bodyParameterLists body

end

/-- A program that can be written: the parameters of a function differ from each other, and every
number is one that some digits stand for. -/
structure Program.Writable (p : Program) : Prop where
  distinct : ∀ params ∈ bodyParameterLists p, (params.map Ident.name).Nodup
  literal : ∀ x ∈ bodyNumbers p,
    ∃ t : Token, t.kind = .number ∧ t.Lexical ∧ Number.read? t.text = some x

/-! ## Tokens for pieces -/

/-- The tokens are one way to write the pieces. -/
abbrev Write (ts : List Token) (ps : List Piece) : Prop := List.Forall₂ Token.Writes ts ps

namespace Write

variable {ts : List Token} {ps qs : List Piece} {p : Piece}

theorem split (h : Write ts (ps ++ qs)) : ∃ us vs, ts = us ++ vs ∧ Write us ps ∧ Write vs qs :=
  ⟨_, _, (List.take_append_drop ps.length ts).symm, List.forall₂_take_append _ _ _ h,
    List.forall₂_drop_append _ _ _ h⟩

theorem uncons (h : Write ts (p :: ps)) : ∃ t us, ts = t :: us ∧ t.Writes p ∧ Write us ps := by
  cases h with
  | cons ht hts => exact ⟨_, _, rfl, ht, hts⟩

theorem singleton (h : Write ts [p]) : ∃ t, ts = [t] ∧ t.Writes p := by
  obtain ⟨t, us, rfl, ht, hn⟩ := h.uncons
  cases hn
  exact ⟨t, rfl, ht⟩

end Write

/-! ## Expressions -/

/-- The tokens are those of an expression that differs from `e` in its spans only. -/
def YieldsBare (ts : List Token) (tier : Tier) (e : Expr) : Prop :=
  ∃ e', Yields ts (.expr tier e') ∧ e'.bare = e.bare

/-- In parentheses where it needs them, an expression fits any position. -/
theorem YieldsBare.enclose {e : Expr} (h : ∀ us, Write us e.pieces → YieldsBare us e.tier e)
    {ts : List Token} {position : Tier} (ht : Write ts (enclose e.tier position e.pieces)) :
    YieldsBare ts position e := by
  unfold SloScript.enclose at ht
  split at ht
  · obtain ⟨l, us, rfl, hl, ht⟩ := ht.uncons
    obtain ⟨vs, ws, rfl, hv, hw⟩ := ht.split
    obtain ⟨r, rfl, hr⟩ := hw.singleton
    obtain ⟨e', y, hb⟩ := h vs hv
    have inner : Yields vs (.expr .expression e') := y.of_rank_le (Nat.zero_le _)
    exact ⟨e', (Yields.paren hl.1 inner hr.1).of_primary position, hb⟩
  · next hle =>
    obtain ⟨e', y, hb⟩ := h ts ht
    exact ⟨e', y.of_rank_le (Nat.le_of_not_lt hle), hb⟩

/-- The two tiers of binary operators work alike. -/
theorem Yields.operator {op : Operator} {ts us : List Token} {t : Token} {a b : Expr}
    (left : Yields ts (.expr op.tier a)) (written : op.WrittenAs t)
    (right : Yields us (.expr op.rightTier b)) :
    Yields (ts ++ t :: us) (.expr op.tier (Parser.binary op a b)) := by
  unfold Operator.tier at left ⊢
  unfold Operator.rightTier at right
  cases hm : op.isMultiplicative with
  | true =>
    rw [hm] at left right
    exact .product left hm written right
  | false =>
    rw [hm] at left right
    exact .sum left hm written right

mutual

/-- Tokens for the pieces of an expression are tokens of it at its own tier. -/
theorem Expr.yields_pieces : ∀ (e : Expr) {ts : List Token}, Write ts e.pieces →
    YieldsBare ts e.tier e
  | .number x span, ts, h => by
    rw [Expr.pieces] at h
    obtain ⟨t, rfl, hk, -, hx⟩ := h.singleton
    exact ⟨_, .number hk hx, by simp only [Expr.bare]⟩
  | .text s span, ts, h => by
    rw [Expr.pieces] at h
    obtain ⟨t, rfl, hk, rfl⟩ := h.singleton
    exact ⟨_, .text hk, by simp only [Expr.bare]⟩
  | .name id, ts, h => by
    rw [Expr.pieces] at h
    obtain ⟨t, rfl, hk, ht⟩ := h.singleton
    exact ⟨_, .name hk, by simp only [Expr.bare, Ident.bare, Parser.ident, ht]⟩
  | .assign target value span, ts, h => by
    rw [Expr.pieces] at h
    obtain ⟨us, vs, rfl, ht, h⟩ := h.split
    obtain ⟨q, ws, rfl, hq, hv⟩ := h.uncons
    obtain ⟨target', yt, bt⟩ := YieldsBare.enclose (fun _ => target.yields_pieces) ht
    obtain ⟨value', yv, bv⟩ := YieldsBare.enclose (fun _ => value.yields_pieces) hv
    exact ⟨_, .assign yt hq.1 yv, by simp only [Expr.bare, bt, bv]⟩
  | .binary op left right span, ts, h => by
    rw [Expr.pieces] at h
    obtain ⟨us, vs, rfl, hl, h⟩ := h.split
    obtain ⟨t, ws, rfl, written, hr⟩ := h.uncons
    obtain ⟨left', yl, bl⟩ := YieldsBare.enclose (fun _ => left.yields_pieces) hl
    obtain ⟨right', yr, br⟩ := YieldsBare.enclose (fun _ => right.yields_pieces) hr
    refine ⟨_, yl.operator ⟨written.1, written.2⟩ yr, ?_⟩
    simp only [Parser.binary, Expr.bare, bl, br]
  | .member object key span, ts, h => by
    rw [Expr.pieces] at h
    obtain ⟨us, vs, rfl, ho, h⟩ := h.split
    obtain ⟨p, ws, rfl, hp, h⟩ := h.uncons
    obtain ⟨t, rfl, hk, ht⟩ := h.singleton
    obtain ⟨object', yo, bo⟩ := YieldsBare.enclose (fun _ => object.yields_pieces) ho
    refine ⟨_, .member yo hp.1 hk, ?_⟩
    simp only [Expr.bare, Ident.bare, Parser.ident, bo, ht]
  | .index object key span, ts, h => by
    rw [Expr.pieces] at h
    obtain ⟨us, vs, rfl, ho, h⟩ := h.split
    obtain ⟨l, ws, rfl, hl, h⟩ := h.uncons
    obtain ⟨xs, ys, rfl, hk, h⟩ := h.split
    obtain ⟨r, rfl, hr⟩ := h.singleton
    obtain ⟨object', yo, bo⟩ := YieldsBare.enclose (fun _ => object.yields_pieces) ho
    obtain ⟨key', yk, bk⟩ := YieldsBare.enclose (fun _ => key.yields_pieces) hk
    exact ⟨_, .index yo hl.1 yk hr.1, by simp only [Expr.bare, bo, bk]⟩
  | .call callee args span, ts, h => by
    rw [Expr.pieces] at h
    obtain ⟨us, vs, rfl, hc, h⟩ := h.split
    obtain ⟨l, ws, rfl, hl, h⟩ := h.uncons
    obtain ⟨xs, ys, rfl, ha, h⟩ := h.split
    obtain ⟨r, rfl, hr⟩ := h.singleton
    obtain ⟨callee', yc, bc⟩ := YieldsBare.enclose (fun _ => callee.yields_pieces) hc
    obtain ⟨args', ya, ba⟩ := yields_args args ha
    exact ⟨_, .call yc hl.1 ya hr.1, by simp only [Expr.bare, bc, ba]⟩
  | .object properties span, ts, h => by
    rw [Expr.pieces] at h
    obtain ⟨l, us, rfl, hl, h⟩ := h.uncons
    obtain ⟨vs, ws, rfl, hp, h⟩ := h.split
    obtain ⟨r, rfl, hr⟩ := h.singleton
    obtain ⟨properties', yp, bp⟩ := yields_properties properties hp
    exact ⟨_, .object hl.1 yp hr.1, by simp only [Expr.bare, bp]⟩

theorem yields_args : ∀ (es : List Expr) {ts : List Token}, Write ts (argsPieces es) →
    ∃ es', Yields ts (.args es') ∧ bareArgs es' = bareArgs es
  | [], ts, h => by
    rw [argsPieces] at h
    cases h
    exact ⟨[], .noArgs, rfl⟩
  | e :: es, ts, h => by
    rw [argsPieces] at h
    obtain ⟨us, vs, rfl, he, h⟩ := h.split
    obtain ⟨e', ye, be⟩ := YieldsBare.enclose (fun _ => e.yields_pieces) he
    obtain ⟨es', yes, bes⟩ := yields_moreArgs es h
    exact ⟨e' :: es', .someArgs ye yes, by simp only [bareArgs, be, bes]⟩

theorem yields_moreArgs : ∀ (es : List Expr) {ts : List Token}, Write ts (moreArgsPieces es) →
    ∃ es', Yields ts (.moreArgs es') ∧ bareArgs es' = bareArgs es
  | [], ts, h => by
    rw [moreArgsPieces] at h
    cases h
    exact ⟨[], .lastArg, rfl⟩
  | e :: es, ts, h => by
    rw [moreArgsPieces] at h
    obtain ⟨t, ws, rfl, ht, h⟩ := h.uncons
    obtain ⟨us, vs, rfl, he, h⟩ := h.split
    obtain ⟨e', ye, be⟩ := YieldsBare.enclose (fun _ => e.yields_pieces) he
    obtain ⟨es', yes, bes⟩ := yields_moreArgs es h
    exact ⟨e' :: es', .nextArg ht.1 ye yes, by simp only [bareArgs, be, bes]⟩

theorem Property.yields_pieces : ∀ (p : Property) {ts : List Token}, Write ts p.pieces →
    ∃ p', Yields ts (.entry p') ∧ p'.bare = p.bare
  | .shorthand key, ts, h => by
    rw [Property.pieces] at h
    obtain ⟨t, rfl, hk, ht⟩ := h.singleton
    refine ⟨_, .shorthand hk, ?_⟩
    simp only [Property.bare, Ident.bare, Parser.ident, ht]
  | .keyed key value span, ts, h => by
    rw [Property.pieces] at h
    obtain ⟨t, us, rfl, ⟨hk, ht⟩, h⟩ := h.uncons
    obtain ⟨m, vs, rfl, hm, h⟩ := h.uncons
    obtain ⟨value', yv, bv⟩ := YieldsBare.enclose (fun _ => value.yields_pieces) h
    refine ⟨_, .keyed hk hm.1 yv, ?_⟩
    simp only [Property.bare, Ident.bare, Parser.ident, bv, ht]

theorem yields_properties : ∀ (ps : List Property) {ts : List Token},
    Write ts (propertiesPieces ps) →
    ∃ ps', Yields ts (.entries ps') ∧ bareProperties ps' = bareProperties ps
  | [], ts, h => by
    rw [propertiesPieces] at h
    cases h
    exact ⟨[], .noEntries, rfl⟩
  | [p], ts, h => by
    rw [propertiesPieces] at h
    obtain ⟨p', yp, bp⟩ := p.yields_pieces h
    exact ⟨[p'], .lastEntry yp, by simp only [bareProperties, bp]⟩
  | p :: q :: ps, ts, h => by
    rw [propertiesPieces] at h
    obtain ⟨us, vs, rfl, hp, h⟩ := h.split
    obtain ⟨t, ws, rfl, ht, h⟩ := h.uncons
    obtain ⟨p', yp, bp⟩ := p.yields_pieces hp
    obtain ⟨ps', yps, bps⟩ := yields_properties (q :: ps) h
    exact ⟨p' :: ps', .nextEntry yp ht.1 yps, by simp only [bareProperties, bp, bps]⟩

end

/-! ## Statements -/

/-- What differs from names in its spans only is names again. -/
theorem eq_names_of_bareArgs {es : List Expr} {ids : List Ident}
    (h : bareArgs es = bareArgs (ids.map .name)) :
    ∃ ids' : List Ident, es = ids'.map .name ∧ ids'.map Ident.bare = ids.map Ident.bare := by
  induction es generalizing ids with
  | nil =>
    cases ids with
    | nil => exact ⟨[], rfl, rfl⟩
    | cons id ids => simp [bareArgs] at h
  | cons e es ih =>
    cases ids with
    | nil => simp [bareArgs] at h
    | cons id ids =>
      simp only [List.map_cons, bareArgs, List.cons.injEq] at h
      obtain ⟨he, hes⟩ := h
      obtain ⟨ids', rfl, hids⟩ := ih hes
      cases e with
      | name id' =>
        have hid : id'.bare = id.bare := by simpa [Expr.bare] using he
        exact ⟨id' :: ids', rfl, by rw [List.map_cons, List.map_cons, hid, hids]⟩
      | _ => simp [Expr.bare] at he

theorem map_name_of_map_bare {ids ids' : List Ident}
    (h : ids'.map Ident.bare = ids.map Ident.bare) : ids'.map Ident.name = ids.map Ident.name := by
  have names := congrArg (List.map Ident.name) h
  rwa [List.map_map, List.map_map] at names

/-- What differs from a branch in its spans only is a branch. -/
theorem Stmt.eq_branch_of_bare {s s' : Stmt} (h : s'.bare = s.bare) (hs : s.isBranch = true) :
    ∃ test yes no span, s' = .branch test yes no span := by
  cases s with
  | branch =>
    cases s' with
    | branch test yes no span => exact ⟨test, yes, no, span, rfl⟩
    | _ => simp [Stmt.bare] at h
  | _ => cases hs

mutual

/-- Tokens for the pieces of a statement are tokens of it. -/
theorem Stmt.derives_pieces : ∀ (s : Stmt),
    (∀ params ∈ s.parameterLists, (params.map Ident.name).Nodup) →
    ∀ {ts : List Token}, Write ts s.pieces → ∃ s', Derives false ts (.stmt s') ∧ s'.bare = s.bare
  | .letVar name none span, _, ts, h => by
    rw [Stmt.pieces] at h
    obtain ⟨w, us, rfl, hw, h⟩ := h.uncons
    obtain ⟨t, vs, rfl, ⟨hk, ht⟩, h⟩ := h.uncons
    obtain ⟨z, rfl, hz⟩ := h.singleton
    refine ⟨_, .letBare hw.1 hk hz.1, ?_⟩
    simp only [Stmt.bare, Option.map_none, Ident.bare, Parser.ident, ht]
  | .letVar name (some init) span, _, ts, h => by
    rw [Stmt.pieces] at h
    obtain ⟨w, us, rfl, hw, h⟩ := h.uncons
    obtain ⟨t, vs, rfl, ⟨hk, ht⟩, h⟩ := h.uncons
    obtain ⟨q, ws, rfl, hq, h⟩ := h.uncons
    obtain ⟨xs, ys, rfl, hi, h⟩ := h.split
    obtain ⟨z, rfl, hz⟩ := h.singleton
    obtain ⟨init', y, b⟩ := YieldsBare.enclose (fun _ => init.yields_pieces) hi
    refine ⟨_, .letInit hw.1 hk hq.1 y hz.1, ?_⟩
    simp only [Stmt.bare, Option.map_some, Ident.bare, Parser.ident, ht, b]
  | .letConst name init span, _, ts, h => by
    rw [Stmt.pieces] at h
    obtain ⟨w, us, rfl, hw, h⟩ := h.uncons
    obtain ⟨t, vs, rfl, ⟨hk, ht⟩, h⟩ := h.uncons
    obtain ⟨q, ws, rfl, hq, h⟩ := h.uncons
    obtain ⟨xs, ys, rfl, hi, h⟩ := h.split
    obtain ⟨z, rfl, hz⟩ := h.singleton
    obtain ⟨init', y, b⟩ := YieldsBare.enclose (fun _ => init.yields_pieces) hi
    refine ⟨_, .letConst hw.1 hk hq.1 y hz.1, ?_⟩
    simp only [Stmt.bare, Ident.bare, Parser.ident, ht, b]
  | .function name params body span, distinct, ts, h => by
    rw [Stmt.parameterLists, List.forall_mem_cons] at distinct
    rw [Stmt.pieces] at h
    obtain ⟨w, us, rfl, hw, h⟩ := h.uncons
    obtain ⟨t, us, rfl, ⟨hk, ht⟩, h⟩ := h.uncons
    obtain ⟨l, us, rfl, hl, h⟩ := h.uncons
    obtain ⟨us, vs, rfl, hp, h⟩ := h.split
    obtain ⟨r, vs, rfl, hr, h⟩ := h.uncons
    obtain ⟨o, vs, rfl, ho, h⟩ := h.uncons
    obtain ⟨vs, ws, rfl, hb, h⟩ := h.split
    obtain ⟨z, rfl, hz⟩ := h.singleton
    obtain ⟨args, ya, ba⟩ := yields_args _ hp
    obtain ⟨params', rfl, bp⟩ := eq_names_of_bareArgs ba
    obtain ⟨body', yb, bb⟩ := derives_body body distinct.2 hb
    -- The names read back have other spans, but no two of them are alike either.
    have names : (params'.map Ident.name).Nodup := by
      rw [map_name_of_map_bare bp]
      exact distinct.1
    refine ⟨_, .function hw.1 hk hl.1 (yieldsNames_iff.2 ya) hr.1 names ho.1 yb hz.1, ?_⟩
    simp only [Stmt.bare, Ident.bare, Parser.ident, ht, bp, bb]
  | .branch test yes no span, distinct, ts, h => by
    rw [Stmt.parameterLists, List.forall_mem_append] at distinct
    rw [Stmt.pieces] at h
    obtain ⟨w, us, rfl, hw, h⟩ := h.uncons
    obtain ⟨l, us, rfl, hl, h⟩ := h.uncons
    obtain ⟨us, vs, rfl, ht, h⟩ := h.split
    obtain ⟨r, vs, rfl, hr, h⟩ := h.uncons
    obtain ⟨o, vs, rfl, ho, h⟩ := h.uncons
    obtain ⟨vs, ws, rfl, hy, h⟩ := h.split
    obtain ⟨z, ws, rfl, hz, hn⟩ := h.uncons
    obtain ⟨test', yt, bt⟩ := YieldsBare.enclose (fun _ => test.yields_pieces) ht
    obtain ⟨yes', yy, b₁⟩ := derives_body yes distinct.1 hy
    obtain ⟨no', yn, b₂⟩ := derives_alternate no distinct.2 hn
    refine ⟨_, .branch hw.1 hl.1 yt hr.1 ho.1 yy hz.1 yn, ?_⟩
    simp only [Stmt.bare, bt, b₁, b₂]
  | .expr e, _, ts, h => by
    rw [Stmt.pieces] at h
    obtain ⟨us, vs, rfl, he, h⟩ := h.split
    obtain ⟨z, rfl, hz⟩ := h.singleton
    obtain ⟨e', y, b⟩ := YieldsBare.enclose (fun _ => e.yields_pieces) he
    exact ⟨_, .expr y hz.1, by simp only [Stmt.bare, b]⟩

theorem derives_body : ∀ (ss : List Stmt),
    (∀ params ∈ bodyParameterLists ss, (params.map Ident.name).Nodup) →
    ∀ {ts : List Token}, Write ts (bodyPieces ss) →
      ∃ ss', Derives false ts (.stmts ss') ∧ bareBody ss' = bareBody ss
  | [], _, ts, h => by
    rw [bodyPieces] at h
    cases h
    exact ⟨[], .nil, rfl⟩
  | s :: ss, distinct, ts, h => by
    rw [bodyParameterLists, List.forall_mem_append] at distinct
    rw [bodyPieces] at h
    obtain ⟨us, vs, rfl, hs, hss⟩ := h.split
    obtain ⟨s', y, b⟩ := s.derives_pieces distinct.1 hs
    obtain ⟨ss', ys, bs⟩ := derives_body ss distinct.2 hss
    exact ⟨s' :: ss', .cons y ys, by simp only [bareBody, b, bs]⟩

theorem derives_alternate : ∀ (ss : List Stmt),
    (∀ params ∈ bodyParameterLists ss, (params.map Ident.name).Nodup) →
    ∀ {ts : List Token}, Write ts (alternatePieces ss) →
      ∃ ss', Derives false ts (.alternative ss') ∧ bareBody ss' = bareBody ss
  | [], _, ts, h => by
    rw [alternatePieces] at h
    cases h
    exact ⟨[], .noElse, rfl⟩
  | s :: ss, distinct, ts, h => by
    rw [bodyParameterLists, List.forall_mem_append] at distinct
    rw [alternatePieces] at h
    obtain ⟨w, us, rfl, hw, hother⟩ := h.uncons
    split at hother
    · next hb =>
      rw [Bool.and_eq_true, List.isEmpty_iff] at hb
      obtain ⟨hb, rfl⟩ := hb
      obtain ⟨s', y, b⟩ := s.derives_pieces distinct.1 hother
      -- Only a branch may follow the word at once.
      obtain ⟨test, yes, no, span, rfl⟩ := Stmt.eq_branch_of_bare b hb
      exact ⟨[_], .elseIf hw.1 y, by simp only [bareBody, b]⟩
    · obtain ⟨o, us, rfl, ho, hother⟩ := hother.uncons
      obtain ⟨us, vs, rfl, hbody, hlast⟩ := hother.split
      obtain ⟨us, ws, rfl, hs, hss⟩ := hbody.split
      obtain ⟨z, rfl, hz⟩ := hlast.singleton
      obtain ⟨s', y, b⟩ := s.derives_pieces distinct.1 hs
      obtain ⟨ss', ys, bs⟩ := derives_body ss distinct.2 hss
      exact ⟨s' :: ss', .elseBlock hw.1 ho.1 (.cons y ys) hz.1, by simp only [bareBody, b, bs]⟩

end

/-! ## Numbers -/

/-- The numbers among pieces. -/
def numbersIn (ps : List Piece) : List Float := ps.filterMap Piece.number?

@[simp]
theorem numbersIn_nil : numbersIn [] = [] := rfl

@[simp]
theorem numbersIn_word (kind : Kind) (text : String) (ps : List Piece) :
    numbersIn (.word kind text :: ps) = numbersIn ps := rfl

@[simp]
theorem numbersIn_sign (kind : Kind) (ps : List Piece) :
    numbersIn (.sign kind :: ps) = numbersIn ps := rfl

@[simp]
theorem numbersIn_number (x : Float) (ps : List Piece) :
    numbersIn (.number x :: ps) = x :: numbersIn ps := rfl

@[simp]
theorem numbersIn_append (ps qs : List Piece) :
    numbersIn (ps ++ qs) = numbersIn ps ++ numbersIn qs :=
  List.filterMap_append

@[simp]
theorem numbersIn_enclose (own position : Tier) (ps : List Piece) :
    numbersIn (enclose own position ps) = numbersIn ps := by
  unfold enclose
  split <;> simp

mutual

/-- The numbers among the pieces of an expression are the numbers written in it. -/
theorem Expr.numbers_pieces : ∀ e : Expr, numbersIn e.pieces = e.numbers
  | .number _ _ => by simp [Expr.pieces, Expr.numbers]
  | .text _ _ => by simp [Expr.pieces, Expr.numbers]
  | .name _ => by simp [Expr.pieces, Expr.numbers]
  | .assign target value _ => by
    simp [Expr.pieces, Expr.numbers, target.numbers_pieces, value.numbers_pieces]
  | .binary _ left right _ => by
    simp [Expr.pieces, Expr.numbers, left.numbers_pieces, right.numbers_pieces]
  | .member object _ _ => by simp [Expr.pieces, Expr.numbers, object.numbers_pieces]
  | .index object key _ => by
    simp [Expr.pieces, Expr.numbers, object.numbers_pieces, key.numbers_pieces]
  | .call callee args _ => by
    simp [Expr.pieces, Expr.numbers, callee.numbers_pieces, numbers_args args]
  | .object properties _ => by
    simp [Expr.pieces, Expr.numbers, numbers_properties properties]

theorem numbers_args : ∀ es : List Expr,
    numbersIn (argsPieces es) = argsNumbers es
  | [] => by simp [argsPieces, argsNumbers]
  | e :: es => by simp [argsPieces, argsNumbers, e.numbers_pieces, numbers_moreArgs es]

theorem numbers_moreArgs : ∀ es : List Expr,
    numbersIn (moreArgsPieces es) = argsNumbers es
  | [] => by simp [moreArgsPieces, argsNumbers]
  | e :: es => by simp [moreArgsPieces, argsNumbers, e.numbers_pieces, numbers_moreArgs es]

theorem Property.numbers_pieces : ∀ p : Property,
    numbersIn p.pieces = p.numbers
  | .shorthand _ => by simp [Property.pieces, Property.numbers]
  | .keyed _ value _ => by simp [Property.pieces, Property.numbers, value.numbers_pieces]

theorem numbers_properties : ∀ ps : List Property,
    numbersIn (propertiesPieces ps) = propertiesNumbers ps
  | [] => by simp [propertiesPieces, propertiesNumbers]
  | [p] => by simp [propertiesPieces, propertiesNumbers, p.numbers_pieces]
  | p :: q :: ps => by
    rw [propertiesPieces, propertiesNumbers, numbersIn_append, numbersIn_sign, p.numbers_pieces,
      numbers_properties (q :: ps)]

end

theorem argsNumbers_names (ids : List Ident) : argsNumbers (ids.map .name) = [] := by
  induction ids with
  | nil => rfl
  | cons id ids ih => simpa [argsNumbers, Expr.numbers] using ih

mutual

/-- The numbers among the pieces of a statement are the numbers written in it. -/
theorem Stmt.numbers_pieces : ∀ s : Stmt, numbersIn s.pieces = s.numbers
  | .letVar _ none _ => by simp [Stmt.pieces, Stmt.numbers]
  | .letVar _ (some init) _ => by simp [Stmt.pieces, Stmt.numbers, init.numbers_pieces]
  | .letConst _ init _ => by simp [Stmt.pieces, Stmt.numbers, init.numbers_pieces]
  | .function _ params body _ => by
    simp [Stmt.pieces, Stmt.numbers, numbers_args, argsNumbers_names, numbers_body body]
  | .branch test yes no _ => by
    simp [Stmt.pieces, Stmt.numbers, test.numbers_pieces, numbers_body yes, numbers_alternate no]
  | .expr e => by simp [Stmt.pieces, Stmt.numbers, e.numbers_pieces]

theorem numbers_body : ∀ ss : List Stmt,
    numbersIn (bodyPieces ss) = bodyNumbers ss
  | [] => by simp [bodyPieces, bodyNumbers]
  | s :: ss => by simp [bodyPieces, bodyNumbers, s.numbers_pieces, numbers_body ss]

theorem numbers_alternate : ∀ ss : List Stmt,
    numbersIn (alternatePieces ss) = bodyNumbers ss
  | [] => by simp [alternatePieces, bodyNumbers]
  | s :: ss => by
    rw [alternatePieces, bodyNumbers]
    split
    · next hb =>
      rw [Bool.and_eq_true, List.isEmpty_iff] at hb
      obtain ⟨-, rfl⟩ := hb
      simp [bodyNumbers, s.numbers_pieces]
    · simp [s.numbers_pieces, numbers_body ss]

end

/-- If every number among the pieces has digits, there are tokens for the pieces. -/
theorem exists_write {ps : List Piece} (h : ∀ x ∈ numbersIn ps,
    ∃ t : Token, t.kind = .number ∧ t.Lexical ∧ Number.read? t.text = some x) :
    ∃ ts, Write ts ps := by
  induction ps with
  | nil => exact ⟨[], .nil⟩
  | cons p ps ih =>
    cases p with
    | word kind text =>
      obtain ⟨ts, hts⟩ := ih (by simpa using h)
      exact ⟨⟨kind, text, .nowhere⟩ :: ts, .cons ⟨rfl, rfl⟩ hts⟩
    | number x =>
      rw [numbersIn_number, List.forall_mem_cons] at h
      obtain ⟨⟨t, ht⟩, h⟩ := h
      obtain ⟨ts, hts⟩ := ih h
      exact ⟨t :: ts, .cons ht hts⟩

/-! ## Reading back -/

/-- A program that can be written is written in some tokens, and from whatever tokens it is written
in, with or without an end of the input behind them, it is read back. -/
theorem parseTokens_pieces {p : Program} (h : p.Writable) :
    (∃ ts, Write ts (bodyPieces p)) ∧
    ∀ ts, Write ts (bodyPieces p) →
      ∀ tail : List Token, (∀ t ∈ tail.head?, t.kind = .endOfFile) →
        ∃ q, parseTokens (ts ++ tail) = .ok q ∧ bareBody q = bareBody p := by
  constructor
  · refine exists_write ?_
    rw [numbers_body]
    exact h.literal
  · intro ts hts tail htail
    obtain ⟨q, y, b⟩ := derives_body p h.distinct hts
    exact ⟨q, parseTokens_of_derives y htail, b⟩

/-- A function whose body needs parentheses around a sum. -/
theorem parseTokens_pieces_function :
    let x := Number.nearest 15 (-1)
    let sum := Expr.binary .add (.name ⟨"a", .nowhere⟩) (.number x .nowhere) .nowhere
    let p : Program := [.function ⟨"f", .nowhere⟩ [⟨"a", .nowhere⟩, ⟨"b", .nowhere⟩]
      [.expr (.binary .mul sum (.name ⟨"b", .nowhere⟩) .nowhere)] .nowhere]
    let tokens : List Token := [⟨.fnWord, "funkcija", .nowhere⟩, ⟨.identifier, "f", .nowhere⟩,
      ⟨.openParen, "(", .nowhere⟩, ⟨.identifier, "a", .nowhere⟩, ⟨.comma, ",", .nowhere⟩,
      ⟨.identifier, "b", .nowhere⟩, ⟨.closeParen, ")", .nowhere⟩, ⟨.openBrace, "\x7b", .nowhere⟩,
      ⟨.openParen, "(", .nowhere⟩, ⟨.identifier, "a", .nowhere⟩,
      ⟨.binaryOperator, "+", .nowhere⟩, ⟨.number, "1.5", .nowhere⟩, ⟨.closeParen, ")", .nowhere⟩,
      ⟨.binaryOperator, "*", .nowhere⟩, ⟨.identifier, "b", .nowhere⟩, ⟨.semicolon, ";", .nowhere⟩,
      ⟨.closeBrace, "\x7d", .nowhere⟩]
    p.Writable ∧ Write tokens (bodyPieces p) ∧
      ∃ q, parseTokens tokens = .ok q ∧ bareBody q = bareBody p := by
  intro x sum p tokens
  have digits : (⟨.number, "1.5", .nowhere⟩ : Token).Writes (.number x) := by
    have first : Token.Lexeme.first '1' ['.', '5'] =
        .ok ⟨.number, ['1', '.', '5'], "1.5", []⟩ := rfl
    exact ⟨rfl, Token.Lexeme.lexical first rfl rfl .nowhere, rfl⟩
  have writable : p.Writable := by
    constructor
    · intro params hp
      obtain rfl := List.mem_singleton.1 hp
      decide
    · intro y hy
      obtain rfl := List.mem_singleton.1 hy
      exact ⟨_, digits⟩
  have write : Write tokens (bodyPieces p) := by
    repeat' first | exact digits | constructor
  have back := (parseTokens_pieces writable).2 tokens write [] (by simp)
  rw [List.append_nil] at back
  exact ⟨writable, write, back⟩

end SloScript
