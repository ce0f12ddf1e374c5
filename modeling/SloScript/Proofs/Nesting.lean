import Mathlib.Data.List.NodupEquivFin
import SloScript.Proofs.Joining

/-!
# Spans nest as the tree does

A program is read from left to right, and every node of its tree has a span. The span of a node
reaches from the first token of one of its parts, or its own word, to the last token of another;
parentheses around a part belong to no span at all. Still the spans of a tree nest: a node covers
its children, and they follow each other in the order in which they are written.

`Placed ts n` says where a node comes from: from some of the tokens `ts`, in their order, of which
the first and the last one give its span, while its children come from stretches of them that follow
each other (`Row`). The grammar gives such a place to every phrase and every clause by one rule
each, and all that is to be known about spans follows from it.

Results:
1. `Yields.placed`, `Derives.placed`: what the grammar derives has its place.
2. `Placed.of_has`: so has every node below.
3. `parse_spans_nest`: the spans of a program nest and stand where they say.
-/

namespace SloScript

/-! ## Nodes -/

/-- The parts of a program that carry a span. -/
inductive Part where
  | stmt (s : Stmt)
  | expr (e : Expr)
  | property (p : Property)
  | ident (id : Ident)

namespace Part

/-- Where a node is written. -/
def span : Part → Span
  | stmt s => s.span
  | expr e => e.span
  | property p => p.span
  | ident id => id.span

/-- The nodes that a node is made of, in the order in which they are written. -/
def children : Part → List Part
  | stmt (.letVar name init _) => ident name :: init.toList.map expr
  | stmt (.letConst name init _) => [ident name, expr init]
  | stmt (.function name params body _) => ident name :: (params.map ident ++ body.map stmt)
  | stmt (.branch test yes no _) => expr test :: (yes.map stmt ++ no.map stmt)
  | stmt (.expr e) => [expr e]
  | expr (.number _ _) | expr (.text _ _) => []
  | expr (.name id) => [ident id]
  | expr (.assign target value _) => [expr target, expr value]
  | expr (.binary _ left right _) => [expr left, expr right]
  | expr (.member object key _) => [expr object, ident key]
  | expr (.index object key _) => [expr object, expr key]
  | expr (.call callee args _) => expr callee :: args.map expr
  | expr (.object ps _) => ps.map property
  | property (.shorthand key) => [ident key]
  | property (.keyed key value _) => [ident key, expr value]
  | ident _ => []

/-- The second node is the first one, or lies below it. -/
def Has : Part → Part → Prop := Relation.ReflTransGen fun n child => child ∈ n.children

theorem Has.child {n m child : Part} (h : n.Has m) (member : child ∈ m.children) : n.Has child :=
  .tail h member

/-- The node itself and what lies below it, up to the given depth. -/
def upTo : Nat → Part → List Part
  | 0, n => [n]
  | depth + 1, n => n :: n.children.flatMap (upTo depth)

theorem has_of_mem_upTo {depth : Nat} {n m : Part} (h : m ∈ n.upTo depth) : n.Has m := by
  induction depth generalizing n with
  | zero =>
    obtain rfl := List.mem_singleton.1 h
    exact .refl
  | succ depth ih =>
    rcases List.mem_cons.1 h with rfl | below
    · exact .refl
    · obtain ⟨child, member, within⟩ := List.mem_flatMap.1 below
      exact .head member (ih within)

end Part

/-- A node of the tree of a program. -/
def Program.HasPart (p : Program) (n : Part) : Prop := ∃ s ∈ p, (Part.stmt s).Has n

/-! ## Tokens in order -/

/-- Each token covers something on a real line, and ends before the next one starts. -/
structure InOrder (ts : List Token) : Prop where
  proper : ∀ t ∈ ts, t.span.start < t.span.stop ∧ t.span.isNowhere = false
  ordered : ts.Pairwise fun t u => t.span.stop ≤ u.span.start

namespace InOrder

variable {ts us : List Token} {t u : Token}

theorem sublist (h : InOrder us) (part : ts.Sublist us) : InOrder ts where
  proper t member := h.proper t (part.subset member)
  ordered := h.ordered.sublist part

theorem left (h : InOrder (ts ++ us)) : InOrder ts := h.sublist (List.sublist_append_left ts us)

theorem right (h : InOrder (ts ++ us)) : InOrder us := h.sublist (List.sublist_append_right ts us)

theorem tail (h : InOrder (t :: ts)) : InOrder ts := h.sublist (List.sublist_cons_self t ts)

theorem stop_le_start (h : InOrder (ts ++ us)) (ht : t ∈ ts) (hu : u ∈ us) :
    t.span.stop ≤ u.span.start :=
  (List.pairwise_append.1 h.ordered).2.2 t ht u hu

/-- The first token starts first. -/
theorem head_start_le (h : InOrder ts) (first : ts.head? = some t) (hu : u ∈ ts) :
    t.span.start ≤ u.span.start := by
  obtain ⟨rest, rfl⟩ := List.head?_eq_some_iff.1 first
  rcases List.mem_cons.1 hu with rfl | later
  · exact Nat.le_refl _
  · have before := h.proper t List.mem_cons_self
    have ends := (List.pairwise_cons.1 h.ordered).1 u later
    omega

/-- The last token stops last. -/
theorem stop_le_last (h : InOrder ts) (last : ts.getLast? = some t) (hu : u ∈ ts) :
    u.span.stop ≤ t.span.stop := by
  obtain ⟨before, rfl⟩ := List.getLast?_eq_some_iff.1 last
  rcases List.mem_append.1 hu with earlier | here
  · have ends := h.stop_le_start earlier (List.mem_singleton_self t)
    have proper := h.proper t (by simp)
    omega
  · rw [List.mem_singleton.1 here]

end InOrder

/-- The span reaches from the first of the tokens to the last one. -/
def Span.Over (span : Span) (ts : List Token) : Prop :=
  ∃ first last, ts.head? = some first ∧ ts.getLast? = some last ∧
    span = ⟨first.span.start, last.span.stop, first.span.line, first.span.column⟩

namespace Span.Over

variable {a b : Span} {ts us vs : List Token}

theorem singleton (t : Token) : t.span.Over [t] := ⟨t, t, rfl, rfl, rfl⟩

/-- Tokens between two spans do not matter for what both cover. -/
theorem merge (ha : a.Over ts) (hb : b.Over vs) (h : InOrder (ts ++ (us ++ vs))) :
    (a.merge b).Over (ts ++ (us ++ vs)) := by
  obtain ⟨first, last, isFirst, isLast, rfl⟩ := ha
  obtain ⟨first', last', isFirst', isLast', rfl⟩ := hb
  have firstIn := List.mem_of_mem_head? isFirst
  have lastIn := List.mem_of_getLast? isLast
  have firstIn' := List.mem_append_right us (List.mem_of_mem_head? isFirst')
  have lastIn' := List.mem_append_right us (List.mem_of_getLast? isLast')
  refine ⟨first, last', by simp [isFirst], by simp [isLast'], ?_⟩
  have here := h.left.proper first firstIn
  have there := h.right.proper first' firstIn'
  have ends := h.right.proper last' lastIn'
  have starts : first.span.stop ≤ first'.span.start := h.stop_le_start firstIn firstIn'
  have stops : last.span.stop ≤ last'.span.start := h.stop_le_start lastIn lastIn'
  have earlier : first.span.start ≤ first'.span.start := by omega
  have later : max last.span.stop last'.span.stop = last'.span.stop := by omega
  -- Both are somewhere, and the order of the tokens decides what `merge` compares.
  unfold Span.merge
  rw [if_neg (by simpa [isNowhere] using there.2), if_neg (by simpa [isNowhere] using here.2)]
  simp only [if_pos earlier, later]

/-- A span and the token that closes what it belongs to. -/
theorem merge_token (ha : a.Over ts) (t : Token) (h : InOrder (ts ++ (us ++ [t]))) :
    (a.merge t.span).Over (ts ++ (us ++ [t])) :=
  ha.merge (singleton t) h

end Span.Over

/-! ## Nodes and the tokens they come from -/

mutual

/-- The node comes from some of the tokens: they give its span, and its children come from them one
after the other. -/
inductive Placed : List Token → Part → Prop
  | node {ts us : List Token} {n : Part} :
      us.Sublist ts → n.span.Over us → Row us n.children → Placed ts n

/-- The nodes come from stretches of the tokens that follow each other. -/
inductive Row : List Token → List Part → Prop
  | nil (ts : List Token) : Row ts []
  | cons {ts us : List Token} {n : Part} {ns : List Part} :
      Placed ts n → Row us ns → Row (ts ++ us) (n :: ns)

end

theorem Placed.mono {ts us : List Token} {n : Part} (h : Placed ts n) (part : ts.Sublist us) :
    Placed us n := by
  obtain ⟨part', covers, row⟩ := h
  exact .node (part'.trans part) covers row

namespace Row

-- `Row` and `Placed` depend on each other, so the rules for rows go by the number of nodes.
theorem mono {ts us : List Token} {ns : List Part} (h : Row ts ns) (part : ts.Sublist us) :
    Row us ns := by
  cases h with
  | nil => exact .nil us
  | cons placed row =>
    obtain ⟨left, right, rfl, first, others⟩ := List.append_sublist_iff.1 part
    exact .cons (placed.mono first) (mono row others)
termination_by ns.length

theorem single {ts : List Token} {n : Part} (h : Placed ts n) : Row ts [n] := by
  simpa using Row.cons h (.nil [])

theorem append {ts us : List Token} {ms ns : List Part} (h : Row ts ms) (h' : Row us ns) :
    Row (ts ++ us) (ms ++ ns) := by
  cases h with
  | nil => exact h'.mono (List.sublist_append_right ts us)
  | cons placed row =>
    rw [List.append_assoc]
    exact .cons placed (append row h')
termination_by ms.length

theorem placed {ts : List Token} {n : Part} {ns : List Part} (h : Row ts ns) (member : n ∈ ns) :
    Placed ts n := by
  cases h with
  | nil => cases member
  | cons here row =>
    rcases List.mem_cons.1 member with rfl | later
    · exact here.mono (List.sublist_append_left _ _)
    · exact (placed row later).mono (List.sublist_append_right _ _)
termination_by ns.length

end Row

namespace Placed

variable {ts us : List Token} {n m : Part}

/-- Every part below has its place among the same tokens. -/
theorem of_has (h : Placed ts n) (has : n.Has m) : Placed ts m := by
  induction has with
  | refl => exact h
  | tail _ member ih =>
    obtain ⟨part, _, row⟩ := ih
    exact (row.placed member).mono part

/-- A part that is a single token has no parts, or one that is that token. -/
theorem token (t : Token) (span : n.span = t.span) (none : n.children = []) : Placed [t] n :=
  .node (List.Sublist.refl _) (span ▸ .singleton t) (none ▸ .nil _)

theorem wrap (h : Placed ts n) (span : m.span = n.span) (one : m.children = [n]) : Placed ts m := by
  obtain ⟨part, covers, row⟩ := h
  exact .node part (span ▸ covers) (one ▸ .single (.node (List.Sublist.refl _) covers row))

/-- The tokens between the first and the last one of a part are all that it needs. -/
theorem tight (h : Placed ts n) : ∃ us, us.Sublist ts ∧ n.span.Over us ∧ Placed us n := by
  obtain ⟨part, covers, row⟩ := h
  exact ⟨_, part, covers, .node (List.Sublist.refl _) covers row⟩

/-- A part of two parts with a token between them. -/
theorem pair {a b : Part} {t : Token} (ha : Placed ts a) (hb : Placed us b)
    (h : InOrder (ts ++ t :: us)) (span : n.span = a.span.merge b.span)
    (two : n.children = [a, b]) : Placed (ts ++ t :: us) n := by
  -- Parentheses around either part are left out: they belong to no span.
  obtain ⟨left, part, covers, ha⟩ := ha.tight
  obtain ⟨right, part', covers', hb⟩ := hb.tight
  have all : (left ++ ([] ++ right)).Sublist (ts ++ t :: us) :=
    part.append (part'.trans (List.sublist_cons_self t us))
  refine .node all ?_ ?_
  · rw [span]
    exact covers.merge covers' (h.sublist all)
  · rw [two]
    exact .cons ha (.single hb)

/-- A part that is followed by others between two tokens. -/
theorem bracket {a : Part} {ns : List Part} {l r : Token} (ha : Placed ts a) (row : Row us ns)
    (h : InOrder (ts ++ l :: (us ++ [r]))) (span : n.span = a.span.merge r.span)
    (all : n.children = a :: ns) : Placed (ts ++ l :: (us ++ [r])) n := by
  obtain ⟨left, part, covers, ha⟩ := ha.tight
  have some : (left ++ (us ++ [r])).Sublist (ts ++ l :: (us ++ [r])) :=
    part.append (List.sublist_cons_self l _)
  refine .node some ?_ ?_
  · rw [span]
    exact covers.merge_token r (h.sublist some)
  · rw [all]
    exact .cons ha (row.mono (List.sublist_append_left us [r]))

/-- A part that begins and ends with tokens of its own. -/
theorem enclosed {w z : Token} (vs : List Token) (row : Row us n.children)
    (part : us.Sublist (w :: (vs ++ [z]))) (h : InOrder (w :: (vs ++ [z])))
    (span : n.span = w.span.merge z.span) :
    Placed (w :: (vs ++ [z])) n := by
  refine .node (List.Sublist.refl _) ?_ (row.mono part)
  rw [span]
  exact (Span.Over.singleton w).merge_token z h

end Placed

/-! ## The grammar -/

/-- What a phrase stands for comes from the tokens. -/
def Phrase.PlacedIn (ts : List Token) : Phrase → Prop
  | .expr _ e => Placed ts (.expr e)
  | .args es | .moreArgs es => Row ts (es.map .expr)
  | .entry p => Placed ts (.property p)
  | .entries ps => Row ts (ps.map .property)

theorem Placed.ident (t : Token) : Placed [t] (.ident (Parser.ident t)) := .token t rfl rfl

/-- What the grammar derives from tokens comes from them. -/
theorem Yields.placed {ts : List Token} {ph : Phrase} (h : Yields ts ph) (inOrder : InOrder ts) :
    ph.PlacedIn ts := by
  induction h with
  | @name t _ => exact (Placed.ident t).wrap rfl rfl
  | @number t _ _ _ => exact .token t rfl rfl
  | @text t _ => exact .token t rfl rfl
  | @paren l r ts e _ _ _ ih =>
    have inner : ts.Sublist (l :: (ts ++ [r])) := (List.sublist_append_left ts [r]).cons l
    exact Placed.mono (ih (inOrder.sublist inner)) inner
  | @member p t ts object _ _ _ ih => exact .pair (ih inOrder.left) (.ident t) inOrder rfl rfl
  | index _ _ _ _ ihObject ihKey =>
    exact .bracket (ihObject inOrder.left) (.single (ihKey inOrder.right.tail.left)) inOrder rfl rfl
  | call _ _ _ _ ihCallee ihArgs =>
    exact .bracket (ihCallee inOrder.left) (ihArgs inOrder.right.tail.left) inOrder rfl rfl
  | product _ _ _ _ ihLeft ihRight | sum _ _ _ _ ihLeft ihRight =>
    exact .pair (ihLeft inOrder.left) (ihRight inOrder.right.tail) inOrder rfl rfl
  | @object l r ts ps _ _ _ ih =>
    have inner : ts.Sublist (l :: (ts ++ [r])) := (List.sublist_append_left ts [r]).cons l
    exact .enclosed _ (ih (inOrder.sublist inner)) inner inOrder rfl
  | assign _ _ _ ihTarget ihValue =>
    exact .pair (ihTarget inOrder.left) (ihValue inOrder.right.tail) inOrder rfl rfl
  | loosen _ _ ih => exact ih inOrder
  | noArgs | lastArg | noEntries => exact .nil []
  | someArgs _ _ ihFirst ihOthers => exact .cons (ihFirst inOrder.left) (ihOthers inOrder.right)
  | nextArg _ _ _ ihNext ihOthers =>
    have row := Row.cons (ihNext inOrder.tail.left) (ihOthers inOrder.tail.right)
    exact row.mono (List.sublist_cons_self _ _)
  | @shorthand t _ => exact (Placed.ident t).wrap rfl rfl
  | @keyed t _ _ _ _ _ _ ih => exact .pair (.ident t) (ih inOrder.tail.tail) inOrder rfl rfl
  | lastEntry _ ih => exact .single (ih inOrder)
  | nextEntry _ _ _ ihEntry ihOthers =>
    refine .cons (ihEntry inOrder.left) ?_
    exact Row.mono (ihOthers inOrder.right.tail) (List.sublist_cons_self _ _)

theorem YieldsName.placed {ts : List Token} {id : Ident} (h : YieldsName ts id) :
    Placed ts (.ident id) := by
  induction h with
  | @plain t _ => exact .ident t
  | @paren l r ts id _ _ _ ih => exact ih.mono ((List.sublist_append_left ts [r]).cons l)

theorem YieldsMoreNames.row {ts : List Token} {ids : List Ident} (h : YieldsMoreNames ts ids) :
    Row ts (ids.map .ident) := by
  induction h with
  | last => exact .nil []
  | next _ name _ ih => exact (Row.cons name.placed ih).mono (List.sublist_cons_self _ _)

theorem YieldsNames.row {ts : List Token} {ids : List Ident} (h : YieldsNames ts ids) :
    Row ts (ids.map .ident) := by
  cases h with
  | none => exact .nil []
  | some name more => exact .cons name.placed more.row

/-- What a clause stands for comes from the tokens. -/
def Clause.PlacedIn (ts : List Token) : Clause → Prop
  | .stmt s => Placed ts (.stmt s)
  | .stmts ss | .alternative ss => Row ts (ss.map .stmt)

/-- The last of some tokens has the last span. -/
theorem lastSpan_eq (z : Token) (vs : List Token) :
    ∃ ws last, z :: vs = ws ++ [last] ∧ lastSpan z.span vs = last.span := by
  refine ⟨(z :: vs).dropLast, (z :: vs).getLast (List.cons_ne_nil z vs), ?_, ?_⟩
  · rw [List.dropLast_append_getLast]
  · induction vs generalizing z with
    | nil => rfl
    | cons v vs ih => rw [lastSpan_cons, ih, List.getLast_cons (List.cons_ne_nil v vs)]

/-- What the grammar derives from tokens comes from them. -/
theorem Derives.placed {loose : Bool} {ts : List Token} {cl : Clause} (h : Derives loose ts cl)
    (inOrder : InOrder ts) : cl.PlacedIn ts := by
  induction h with
  | @letBare w t z =>
    exact .enclosed [t] (.single (.ident t)) (by simp) inOrder rfl
  | @letInit w t q z ts e _ _ _ init _ | @letConst w t q z ts e _ _ _ init _ =>
    have inner : (t :: ts).Sublist (w :: t :: q :: (ts ++ [z])) :=
      .cons w (.cons_cons t (.cons q (List.sublist_append_left ts [z])))
    have row := Row.single (init.placed (inOrder.sublist inner).tail)
    exact .enclosed (t :: q :: ts) (.cons (.ident t) row) inner inOrder rfl
  | @function w t l r o z ps ts params body _ _ _ names _ _ _ _ _ ih =>
    have inner : (t :: (ps ++ ts)).Sublist (w :: t :: l :: (ps ++ r :: o :: (ts ++ [z]))) :=
      .cons w (.cons_cons t (.cons l (.append (.refl ps)
        (.cons r (.cons o (List.sublist_append_left ts [z]))))))
    have row := Row.append names.row (ih (inOrder.sublist inner).tail.right)
    have whole : w :: t :: l :: (ps ++ r :: o :: (ts ++ [z])) =
        w :: (t :: l :: (ps ++ r :: o :: ts) ++ [z]) := by simp
    rw [whole] at inOrder inner ⊢
    exact .enclosed _ (.cons (.ident t) row) inner inOrder rfl
  | @branch w l r o z ts us vs test yes no _ _ condition _ _ _ _ _ ihYes ihNo =>
    -- The last token closes the block, or the alternative if there is one.
    obtain ⟨ws, last, tokens, span⟩ := lastSpan_eq z vs
    have inner : (ts ++ (us ++ vs)).Sublist (w :: l :: (ts ++ r :: o :: (us ++ z :: vs))) :=
      .cons w (.cons l (.append (.refl ts) (.cons r (.cons o (.append (.refl us)
        (List.sublist_cons_self z vs))))))
    have parts := inOrder.sublist inner
    have row := Row.cons (condition.placed parts.left)
      (.append (ihYes parts.right.left) (ihNo parts.right.right))
    have whole : w :: l :: (ts ++ r :: o :: (us ++ z :: vs)) =
        w :: (l :: (ts ++ r :: o :: (us ++ ws)) ++ [last]) := by simp [tokens]
    rw [whole] at inOrder inner ⊢
    exact .enclosed _ row inner inOrder (congrArg w.span.merge span)
  | @expr z ts e value _ =>
    have place : Placed ts (.stmt (.expr e)) := Placed.wrap (value.placed inOrder.left) rfl rfl
    exact place.mono (List.sublist_append_left ts [z])
  | exprOpen _ value => exact Placed.wrap (value.placed inOrder) rfl rfl
  | noElse | nil => exact .nil []
  | elseIf _ _ ih => exact .single (Placed.mono (ih inOrder.tail) (List.sublist_cons_self _ _))
  | @elseBlock w o z ts ss _ _ _ _ ih =>
    have inner : ts.Sublist (w :: o :: (ts ++ [z])) :=
      .cons w (.cons o (List.sublist_append_left ts [z]))
    exact Row.mono (ih (inOrder.sublist inner)) inner
  | cons _ _ ihFirst ihOthers => exact .cons (ihFirst inOrder.left) (ihOthers inOrder.right)

/-! ## Spans of a program -/

namespace Placed

variable {ts : List Token} {n : Part}

/-- A span that is taken from tokens starts where one of them starts and stops where another one
stops. -/
theorem ends (h : Placed ts n) : ∃ first ∈ ts, ∃ last ∈ ts,
    n.span = ⟨first.span.start, last.span.stop, first.span.line, first.span.column⟩ := by
  obtain ⟨part, ⟨first, last, isFirst, isLast, span⟩, _⟩ := h
  exact ⟨first, part.subset (List.mem_of_mem_head? isFirst), last,
    part.subset (List.mem_of_getLast? isLast), span⟩

/-- A part covers its parts. -/
theorem contains (h : Placed ts n) (inOrder : InOrder ts) {child : Part}
    (member : child ∈ n.children) :
    n.span.start ≤ child.span.start ∧ child.span.stop ≤ n.span.stop := by
  obtain ⟨part, ⟨first, last, isFirst, isLast, span⟩, row⟩ := h
  obtain ⟨first', inFirst, last', inLast, span'⟩ := (row.placed member).ends
  have inOrder := inOrder.sublist part
  rw [span, span']
  exact ⟨inOrder.head_start_le isFirst inFirst, inOrder.stop_le_last isLast inLast⟩

end Placed

/-- Parts that come from tokens one after the other do not overlap. -/
theorem Row.ordered {ts : List Token} {ns : List Part} (h : Row ts ns) (inOrder : InOrder ts) :
    ns.Pairwise fun a b => a.span.stop ≤ b.span.start := by
  cases h with
  | nil => exact .nil
  | cons placed row =>
    refine List.pairwise_cons.2 ⟨fun b member => ?_, ordered row inOrder.right⟩
    obtain ⟨_, -, last, inLast, span⟩ := placed.ends
    obtain ⟨first, inFirst, _, -, span'⟩ := (row.placed member).ends
    rw [span, span']
    exact inOrder.stop_le_start inLast inFirst
termination_by ns.length

/-- The span of a part is where it says: it covers something, begins at the start of a token and
ends at the end of the same or a later one, and its line and column are counted from the text before
it. The parts of the part lie within it, one behind the other. -/
structure Part.Nests (text : List Char) (words : List Token) (n : Part) : Prop where
  nonempty : n.span.start < n.span.stop
  inside : n.span.stop ≤ text.length
  tokens : ∃ (i j : Nat) (first last : Token), i ≤ j ∧
    words[i]? = some first ∧ words[j]? = some last ∧
    n.span.start = first.span.start ∧ n.span.stop = last.span.stop
  line : n.span.line = 1 + (text.take n.span.start).count '\n'
  column : n.span.column = 1 + ((text.take n.span.start).reverse.takeWhile (· ≠ '\n')).length
  contains : ∀ child ∈ n.children,
    n.span.start ≤ child.span.start ∧ child.span.stop ≤ n.span.stop
  ordered : n.children.Pairwise fun a b => a.span.stop ≤ b.span.start

theorem Token.Tiling.inOrder {text : List Char} {words : List Token} {finish : Token}
    (h : Tiling text words finish) : InOrder words where
  proper t member := by
    refine ⟨(h.proper t member).2, ?_⟩
    rw [Span.isNowhere, (h.stands t (List.mem_append_left _ member)).line]
    simp
  ordered := h.ordered

theorem Placed.ordered {ts : List Token} {n : Part} (h : Placed ts n) (inOrder : InOrder ts) :
    n.children.Pairwise fun a b => a.span.stop ≤ b.span.start := by
  obtain ⟨part, _, row⟩ := h
  exact row.ordered (inOrder.sublist part)

theorem Placed.nests {text : List Char} {words : List Token} {finish : Token} {n : Part}
    (h : Placed words n) (tiling : Token.Tiling text words finish) : n.Nests text words := by
  have inOrder := tiling.inOrder
  obtain ⟨us, part, ⟨first, last, isFirst, isLast, span⟩, -⟩ := h.tight
  have firstIn := List.mem_of_mem_head? isFirst
  have lastIn := List.mem_of_getLast? isLast
  have begins := tiling.stands first (List.mem_append_left _ (part.subset firstIn))
  have stops := tiling.stands last (List.mem_append_left _ (part.subset lastIn))
  refine ⟨?_, ?_, ?_, ?_, ?_, fun child => h.contains inOrder, h.ordered inOrder⟩
  all_goals rw [span]
  · have starts := (inOrder.sublist part).head_start_le isFirst lastIn
    have covers := (inOrder.sublist part).proper last lastIn
    exact Nat.lt_of_le_of_lt starts covers.1
  · exact stops.inside.2
  · -- The tokens of a part are in the order of the text, so the last one is not before the first.
    obtain ⟨place, same⟩ := List.sublist_iff_exists_orderEmbedding_getElem?_eq.1 part
    refine ⟨place 0, place (us.length - 1), first, last, place.monotone (Nat.zero_le _), ?_, ?_,
      rfl, rfl⟩
    · rw [← same, ← List.head?_eq_getElem?, isFirst]
    · rw [← same, ← List.getLast?_eq_getElem?, isLast]
  · exact begins.line
  · exact begins.column

theorem Token.tiling_of_tokenize {source : String} {words : List Token} {finish : Token}
    (cut : tokenize source = .ok (words ++ [finish])) :
    Tiling source.toList words finish := by
  unfold tokenize at cut
  rw [← Position.behind_nil] at cut
  obtain ⟨words', finish', same, tiling⟩ := (scan_laid cut).tiling
  obtain ⟨rfl, last⟩ := List.append_inj' same rfl
  obtain rfl := List.singleton_inj.1 last
  exact tiling

/-- The statements of a program come from the tokens of its source, one after the other. -/
theorem row_of_parse {source : String} {p : Program} (h : parse source = .ok p) :
    ∃ words finish, tokenize source = .ok (words ++ [finish]) ∧
      Token.Tiling source.toList words finish ∧ Row words (p.map .stmt) := by
  obtain ⟨words, finish, d, cut, -, -, read⟩ := parse_eq_ok h
  have tiling := Token.tiling_of_tokenize cut
  have derives := Parser.program_sound (.of_tokenize cut .nowhere) read
  exact ⟨words, finish, cut, tiling, derives.placed tiling.inOrder⟩

theorem Row.of_hasPart {words : List Token} {p : Program} (h : Row words (p.map .stmt)) {n : Part}
    (has : p.HasPart n) : Placed words n := by
  obtain ⟨s, member, below⟩ := has
  exact (h.placed (List.mem_map_of_mem member)).of_has below

/-- The spans of a program nest as its tree does. Every statement, declaration, expression, property
and name of a source that is read has a span that covers something, within the source, from the
start of one token to the end of the same or a later one, with the line and column of its first
character. It covers the spans of what it is made of, which follow each other in the order in which
they are written, and so do the statements of the program. -/
theorem parse_spans_nest {source : String} {p : Program} (h : parse source = .ok p) :
    ∃ words finish, tokenize source = .ok (words ++ [finish]) ∧
      (∀ n, p.HasPart n → n.Nests source.toList words) ∧
      p.Pairwise fun a b => a.span.stop ≤ b.span.start := by
  obtain ⟨words, finish, cut, tiling, row⟩ := row_of_parse h
  refine ⟨words, finish, cut, fun n has => (row.of_hasPart has).nests tiling, ?_⟩
  exact List.pairwise_map.1 (row.ordered tiling.inOrder)

/-- A branch over three lines whose test is in parentheses of its own, with a property and a call in
its blocks. The target of the assignment is written on the second line, from behind the parenthesis
that it begins with up to the bracket that it ends with; in it stand an object and a key. -/
theorem parse_spans_nest_branch :
    let source := "ce ((a) == \"x\ny\") { (b.c)[d] = { e, f: g } }\nsicer ce (h) { i(j, (k)); }"
    ∃ p, parse source = .ok p ∧
      ∃ words finish, tokenize source = .ok (words ++ [finish]) ∧
        (∀ n, p.HasPart n → n.Nests source.toList words) ∧
        p.Pairwise (fun a b => a.span.stop ≤ b.span.start) ∧
        ∃ target, p.HasPart target ∧ target.span = ⟨21, 28, 2, 8⟩ ∧
          target.children.map Part.span = [⟨21, 24, 2, 8⟩, ⟨26, 27, 2, 13⟩] ∧
          target.Nests source.toList words := by
  intro source
  let p : Program := (parse source).toOption.getD []
  have read : parse source = .ok p := eq_ok_of_isOk (by decide +kernel) []
  have found : ∃ s ∈ p, ∃ n ∈ (Part.stmt s).upTo 3, n.span = ⟨21, 28, 2, 8⟩ ∧
      n.children.map Part.span = [⟨21, 24, 2, 8⟩, ⟨26, 27, 2, 13⟩] := by decide +kernel
  obtain ⟨s, top, target, below, place, inside⟩ := found
  have has : p.HasPart target := ⟨s, top, Part.has_of_mem_upTo below⟩
  obtain ⟨words, finish, cut, nests, ordered⟩ := parse_spans_nest read
  exact ⟨p, read, words, finish, cut, nests, ordered, target, has, place, inside, nests _ has⟩

end SloScript
