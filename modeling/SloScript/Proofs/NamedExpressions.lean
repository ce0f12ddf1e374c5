import SloScript.Proofs.Grammar

/-!
# Expressions that are names

Parentheses leave no trace, and every other expression leaves a node of its own. So an expression
that turns out to be a name has been read from a name, possibly in parentheses. This is said of any
tokens, whether or not they can be cut out of a text: the text of an operator does not matter here.
Of other expressions it is enough to know which word is not among their tokens, that of a function.

The proof follows the recursion of the parser. A loop continues an expression, and what has been
continued is no name any more.

Results:
1. `expression_names`: what an expression that is a name is read from.
2. `arguments_names`: the same for arguments that are names.
-/

namespace SloScript

/-- The word of a function is not among the tokens. -/
def Wordless (ts : List Token) : Prop := ∀ t ∈ ts, t.kind ≠ .fnWord

theorem Wordless.append {ts us : List Token} (first : Wordless ts) (second : Wordless us) :
    Wordless (ts ++ us) :=
  List.forall_mem_append.2 ⟨first, second⟩

theorem Wordless.singleton {t : Token} (other : t.kind ≠ .fnWord) : Wordless [t] :=
  List.forall_mem_singleton.2 other

namespace Cursor

variable {c d f : Cursor} {t : Token} {left left' e : Expr} {tier : Tier} {kind : Kind}

/-- From `c` to `d`, no word of a function is read. -/
def Passes (c d : Cursor) : Prop := ∃ ts, c.Reads ts d ∧ Wordless ts

/-- From `c` to `d`, a phrase is read, and no word of a function. If it is made of names, the tokens
are known. -/
def ReadsNames (c : Cursor) (ph : Phrase) (d : Cursor) : Prop :=
  ∃ ts, c.Reads ts d ∧ Wordless ts ∧ ph.NamesWrittenAs ts

/-- From `c` to `d`, the expression `left` is continued to `e`, which is a name only if it has been
one and nothing was read. -/
def Prolongs (c : Cursor) (left e : Expr) (d : Cursor) : Prop :=
  ∃ ts, c.Reads ts d ∧ Wordless ts ∧ ∀ id, e = .name id → ts = [] ∧ left = e

theorem Passes.refl (c : Cursor) : c.Passes c := ⟨[], .refl c, nofun⟩

theorem Passes.trans (first : c.Passes d) (second : d.Passes f) : c.Passes f := by
  obtain ⟨ts, reads, wordless⟩ := first
  obtain ⟨us, reads', wordless'⟩ := second
  exact ⟨ts ++ us, reads.trans reads', wordless.append wordless'⟩

theorem Passes.token (reads : c.Reads [t] d) (other : t.kind ≠ .fnWord) : c.Passes d :=
  ⟨[t], reads, .singleton other⟩

theorem ReadsNames.passes {ph : Phrase} (h : c.ReadsNames ph d) : c.Passes d := by
  obtain ⟨ts, reads, wordless, -⟩ := h
  exact ⟨ts, reads, wordless⟩

/-- Nothing is to be known of the tokens of other expressions. -/
theorem Passes.readsNames (h : c.Passes d) (other : ∀ id, e ≠ .name id) :
    c.ReadsNames (.expr tier e) d := by
  obtain ⟨ts, reads, wordless⟩ := h
  exact ⟨ts, reads, wordless, fun id same => absurd same (other id)⟩

theorem Prolongs.refl (e : Expr) (c : Cursor) : c.Prolongs e e c :=
  ⟨[], .refl c, nofun, fun _ _ => ⟨rfl, rfl⟩⟩

/-- What has been continued once is no name any more. -/
theorem Prolongs.more (h : c.Passes d) (rest : d.Prolongs left' e f)
    (other : ∀ id, left' ≠ .name id) : c.Prolongs left e f := by
  obtain ⟨ts, reads, wordless⟩ := h
  obtain ⟨us, reads', wordless', still⟩ := rest
  refine ⟨ts ++ us, reads.trans reads', wordless.append wordless', fun id same => ?_⟩
  exact absurd ((still id same).2.trans same) (other id)

/-- A name that may have been continued is written as the name that it was. -/
theorem ReadsNames.prolong {tier' : Tier} (first : c.ReadsNames (.expr tier left) d)
    (rest : d.Prolongs left e f) : c.ReadsNames (.expr tier' e) f := by
  obtain ⟨ts, reads, wordless, written⟩ := first
  obtain ⟨us, reads', wordless', still⟩ := rest
  refine ⟨ts ++ us, reads.trans reads', wordless.append wordless', fun id same => ?_⟩
  obtain ⟨rfl, rfl⟩ := still id same
  rw [List.append_nil]
  exact written id same

end Cursor

namespace Parser

open Cursor

theorem expect_passes {c d : Cursor} {kind : Kind} {t : Token}
    (h : (Step.expect kind c).val = .ok t d) (other : kind ≠ .fnWord) : c.Passes d := by
  obtain ⟨reads, here⟩ := Step.expect_ok h
  exact .token reads (here ▸ other)

theorem take_passes {c d : Cursor} {kind : Kind} {t : Token} (sees : c.sees kind = true)
    (h : (Step.take c).val = .ok t d) (other : kind ≠ .fnWord) : c.Passes d := by
  obtain ⟨reads, here⟩ := Step.take_ok_of_sees sees h
  exact .token reads (here ▸ other)

/-- An operator is not the word of a function, whatever its text. -/
theorem kind_of_sumOperator? {c : Cursor} {op : Operator} (h : sumOperator? c = some op) :
    c.peek.kind ≠ .fnWord := by
  intro word
  simp [sumOperator?, word] at h

theorem kind_of_productOperator? {c : Cursor} {op : Operator} (h : productOperator? c = some op) :
    c.peek.kind ≠ .fnWord := by
  intro word
  simp [productOperator?, word] at h

theorem take_passes_of_ne {c d : Cursor} {t : Token} (other : c.peek.kind ≠ .fnWord)
    (h : (Step.take c).val = .ok t d) : c.Passes d := by
  have reads := Step.take_ok h
  exact .token reads (reads.peek ▸ other)

mutual

/-- An expression that is a name is written as one, possibly in parentheses. -/
theorem expression_names {c d : Cursor} {e : Expr} (h : (expression c).val = .ok e d) :
    c.ReadsNames (.expr .expression e) d := by
  rw [expression] at h
  obtain ⟨target, c₁, hc₁, h₁, h⟩ := Step.of_andThen_ok h
  have n₁ := operand_names h₁
  split at h
  · next hk =>
    obtain ⟨t, c₂, hc₂, h₂, h⟩ := Step.of_andThen_ok h
    have p₂ := take_passes hk h₂ (by decide)
    obtain ⟨value, c₃, hc₃, h₃, h⟩ := Step.of_andThen_ok h
    have p₃ := (expression_names h₃).passes
    cases h
    exact (n₁.passes.trans (p₂.trans p₃)).readsNames nofun
  · cases h
    exact n₁
termination_by 10 * c.size + 6
decreasing_by all_goals omega

theorem operand_names {c d : Cursor} {e : Expr} (h : (operand c).val = .ok e d) :
    c.ReadsNames (.expr .operand e) d := by
  rw [operand] at h
  split at h
  · next hk =>
    obtain ⟨l, c₁, hc₁, h₁, h⟩ := Step.of_andThen_ok h
    have p₁ := take_passes hk h₁ (by decide)
    obtain ⟨entries, c₂, hc₂, h₂, h⟩ := Step.of_andThen_ok h
    have p₂ := properties_passes h₂
    obtain ⟨r, c₃, hc₃, h₃, h⟩ := Step.of_andThen_ok h
    have p₃ := expect_passes h₃ (by decide)
    cases h
    exact (p₁.trans (p₂.trans p₃)).readsNames nofun
  · exact sum_names h
termination_by 10 * c.size + 5
decreasing_by all_goals omega

theorem properties_passes {c d : Cursor} {ps : List Property}
    (h : (properties c).val = .ok ps d) : c.Passes d := by
  rw [properties] at h
  split at h
  · cases h
    exact .refl c
  · obtain ⟨t, c₁, hc₁, h₁, h⟩ := Step.of_andThen_ok h
    have p₁ := expect_passes h₁ (by decide)
    simp only at h
    split at h
    · next hk =>
      obtain ⟨m, c₂, hc₂, h₂, h⟩ := Step.of_andThen_ok h
      have p₂ := take_passes hk h₂ (by decide)
      obtain ⟨rest, c₃, hc₃, h₃, h⟩ := Step.of_andThen_ok h
      have p₃ := properties_passes h₃
      cases h
      exact p₁.trans (p₂.trans p₃)
    · split at h
      · cases h
        exact p₁
      · obtain ⟨k, c₂, hc₂, h₂, h⟩ := Step.of_andThen_ok h
        have p₂ := expect_passes h₂ (by decide)
        obtain ⟨value, c₃, hc₃, h₃, h⟩ := Step.of_andThen_ok h
        have p₃ := (expression_names h₃).passes
        have entry := p₁.trans (p₂.trans p₃)
        split at h
        · cases h
          exact entry
        · obtain ⟨m, c₄, hc₄, h₄, h⟩ := Step.of_andThen_ok h
          have p₄ := expect_passes h₄ (by decide)
          obtain ⟨rest, c₅, hc₅, h₅, h⟩ := Step.of_andThen_ok h
          have p₅ := properties_passes h₅
          cases h
          exact entry.trans (p₄.trans p₅)
termination_by 10 * c.size
decreasing_by all_goals omega

theorem sum_names {c d : Cursor} {e : Expr} (h : (sum c).val = .ok e d) :
    c.ReadsNames (.expr .sum e) d := by
  rw [sum] at h
  obtain ⟨left, c₁, hc₁, h₁, h⟩ := Step.of_andThen_ok h
  exact (product_names h₁).prolong (sumRest_prolongs h)
termination_by 10 * c.size + 4
decreasing_by all_goals omega

theorem sumRest_prolongs {c d : Cursor} {left e : Expr} (h : (sumRest left c).val = .ok e d) :
    c.Prolongs left e d := by
  rw [sumRest] at h
  split at h
  · cases h
    exact .refl _ c
  · next op ho =>
    obtain ⟨t, c₁, hc₁, h₁, h⟩ := Step.of_andThen_ok h
    have p₁ := take_passes_of_ne (kind_of_sumOperator? ho) h₁
    obtain ⟨right, c₂, hc₂, h₂, h⟩ := Step.of_andThen_ok h
    have p₂ := (product_names h₂).passes
    exact .more (p₁.trans p₂) (sumRest_prolongs h) nofun
termination_by 10 * c.size
decreasing_by all_goals omega

theorem product_names {c d : Cursor} {e : Expr} (h : (product c).val = .ok e d) :
    c.ReadsNames (.expr .product e) d := by
  rw [product] at h
  obtain ⟨left, c₁, hc₁, h₁, h⟩ := Step.of_andThen_ok h
  exact (call_names h₁).prolong (productRest_prolongs h)
termination_by 10 * c.size + 3
decreasing_by all_goals omega

theorem productRest_prolongs {c d : Cursor} {left e : Expr}
    (h : (productRest left c).val = .ok e d) : c.Prolongs left e d := by
  rw [productRest] at h
  split at h
  · cases h
    exact .refl _ c
  · next op ho =>
    obtain ⟨t, c₁, hc₁, h₁, h⟩ := Step.of_andThen_ok h
    have p₁ := take_passes_of_ne (kind_of_productOperator? ho) h₁
    obtain ⟨right, c₂, hc₂, h₂, h⟩ := Step.of_andThen_ok h
    have p₂ := (call_names h₂).passes
    exact .more (p₁.trans p₂) (productRest_prolongs h) nofun
termination_by 10 * c.size
decreasing_by all_goals omega

theorem call_names {c d : Cursor} {e : Expr} (h : (call c).val = .ok e d) :
    c.ReadsNames (.expr .call e) d := by
  rw [call] at h
  obtain ⟨callee, c₁, hc₁, h₁, h⟩ := Step.of_andThen_ok h
  exact (member_names h₁).prolong (callRest_prolongs h)
termination_by 10 * c.size + 2
decreasing_by all_goals omega

theorem callRest_prolongs {c d : Cursor} {callee e : Expr}
    (h : (callRest callee c).val = .ok e d) : c.Prolongs callee e d := by
  rw [callRest] at h
  split at h
  · obtain ⟨args, c₁, hc₁, h₁, h⟩ := Step.of_andThen_ok h
    obtain ⟨l, r, ts, r₁, hl, hr, w, -⟩ := arguments_names h₁
    have opening : Wordless [l] := .singleton (by rw [hl]; decide)
    have closing : Wordless [r] := .singleton (by rw [hr]; decide)
    have p₁ : c.Passes c₁ := ⟨_, r₁, opening.append (w.append closing)⟩
    exact .more p₁ (callRest_prolongs h) nofun
  · cases h
    exact .refl _ c
termination_by 10 * c.size + 1
decreasing_by all_goals omega

/-- Arguments that are names are written as names, and parentheses stand around them. -/
theorem arguments_names {c d : Cursor} {es : List Expr} (h : (arguments c).val = .ok es d) :
    ∃ l r ts, c.Reads (l :: (ts ++ [r])) d ∧ l.kind = .openParen ∧ r.kind = .closeParen ∧
      Wordless ts ∧ Phrase.NamesWrittenAs ts (.args es) := by
  rw [arguments] at h
  obtain ⟨l, c₁, hc₁, h₁, h⟩ := Step.of_andThen_ok h
  obtain ⟨r₁, k₁⟩ := Step.expect_ok h₁
  split at h
  · next hk =>
    obtain ⟨r, c₂, hc₂, h₂, h⟩ := Step.of_andThen_ok h
    obtain ⟨r₂, k₂⟩ := Step.take_ok_of_sees hk h₂
    cases h
    exact ⟨l, r, [], r₁.trans r₂, k₁, k₂, nofun, Yields.noArgs.namesWrittenAs⟩
  · obtain ⟨first, c₂, hc₂, h₂, h⟩ := Step.of_andThen_ok h
    obtain ⟨ts, r₂, w₂, n₂⟩ := expression_names h₂
    obtain ⟨others, c₃, hc₃, h₃, h⟩ := Step.of_andThen_ok h
    obtain ⟨us, r₃, w₃, n₃⟩ := argumentsRest_names h₃
    obtain ⟨r, c₄, hc₄, h₄, h⟩ := Step.of_andThen_ok h
    obtain ⟨r₄, k₄⟩ := Step.expect_ok h₄
    cases h
    refine ⟨l, r, ts ++ us, r₁.trans ((r₂.trans r₃).trans r₄), k₁, k₄, w₂.append w₃, ?_⟩
    intro ids same
    obtain ⟨id, rest, rfl, head, tail⟩ := List.map_eq_cons_iff.1 same.symm
    exact .some (n₂ id head.symm) (n₃ rest tail.symm)
termination_by 10 * c.size
decreasing_by all_goals omega

theorem argumentsRest_names {c d : Cursor} {es : List Expr}
    (h : (argumentsRest c).val = .ok es d) : c.ReadsNames (.moreArgs es) d := by
  rw [argumentsRest] at h
  split at h
  · next hk =>
    obtain ⟨m, c₁, hc₁, h₁, h⟩ := Step.of_andThen_ok h
    obtain ⟨r₁, k₁⟩ := Step.take_ok_of_sees hk h₁
    obtain ⟨arg, c₂, hc₂, h₂, h⟩ := Step.of_andThen_ok h
    obtain ⟨ts, r₂, w₂, n₂⟩ := expression_names h₂
    obtain ⟨others, c₃, hc₃, h₃, h⟩ := Step.of_andThen_ok h
    obtain ⟨us, r₃, w₃, n₃⟩ := argumentsRest_names h₃
    cases h
    have comma : Wordless [m] := .singleton (by rw [k₁]; decide)
    refine ⟨m :: (ts ++ us), r₁.trans (r₂.trans r₃), comma.append (w₂.append w₃), ?_⟩
    intro ids same
    obtain ⟨id, rest, rfl, head, tail⟩ := List.map_eq_cons_iff.1 same.symm
    exact .next k₁ (n₂ id head.symm) (n₃ rest tail.symm)
  · cases h
    exact ⟨[], .refl c, nofun, Yields.lastArg.namesWrittenAs⟩
termination_by 10 * c.size
decreasing_by all_goals omega

theorem member_names {c d : Cursor} {e : Expr} (h : (member c).val = .ok e d) :
    c.ReadsNames (.expr .member e) d := by
  rw [member] at h
  obtain ⟨object, c₁, hc₁, h₁, h⟩ := Step.of_andThen_ok h
  exact (primary_names h₁).prolong (memberRest_prolongs h)
termination_by 10 * c.size + 1
decreasing_by all_goals omega

theorem memberRest_prolongs {c d : Cursor} {object e : Expr}
    (h : (memberRest object c).val = .ok e d) : c.Prolongs object e d := by
  rw [memberRest] at h
  split at h
  · next hk =>
    obtain ⟨p, c₁, hc₁, h₁, h⟩ := Step.of_andThen_ok h
    have p₁ := take_passes hk h₁ (by decide)
    split at h
    · next hk =>
      obtain ⟨t, c₂, hc₂, h₂, h⟩ := Step.of_andThen_ok h
      have p₂ := take_passes hk h₂ (by decide)
      exact .more (p₁.trans p₂) (memberRest_prolongs h) nofun
    · cases h
  · split at h
    · next hk =>
      obtain ⟨l, c₁, hc₁, h₁, h⟩ := Step.of_andThen_ok h
      have p₁ := take_passes hk h₁ (by decide)
      obtain ⟨key, c₂, hc₂, h₂, h⟩ := Step.of_andThen_ok h
      have p₂ := (expression_names h₂).passes
      obtain ⟨r, c₃, hc₃, h₃, h⟩ := Step.of_andThen_ok h
      have p₃ := expect_passes h₃ (by decide)
      exact .more (p₁.trans (p₂.trans p₃)) (memberRest_prolongs h) nofun
    · cases h
      exact .refl _ c
termination_by 10 * c.size
decreasing_by all_goals omega

theorem primary_names {c d : Cursor} {e : Expr} (h : (primary c).val = .ok e d) :
    c.ReadsNames (.expr .primary e) d := by
  rw [primary] at h
  split at h
  · next hk =>
    obtain ⟨t, c₁, hc₁, h₁, h⟩ := Step.of_andThen_ok h
    have r₁ := Step.take_ok h₁
    rw [r₁.peek] at hk
    cases h
    exact ⟨[t], r₁, .singleton (by rw [hk]; decide), (Yields.name hk).namesWrittenAs⟩
  · next hk =>
    obtain ⟨t, c₁, hc₁, h₁, h⟩ := Step.of_andThen_ok h
    have p₁ := take_passes_of_ne (by rw [hk]; decide) h₁
    split at h
    · cases h
      exact p₁.readsNames nofun
    · cases h
  · next hk =>
    obtain ⟨t, c₁, hc₁, h₁, h⟩ := Step.of_andThen_ok h
    have p₁ := take_passes_of_ne (by rw [hk]; decide) h₁
    cases h
    exact p₁.readsNames nofun
  · next hk =>
    obtain ⟨l, c₁, hc₁, h₁, h⟩ := Step.of_andThen_ok h
    have r₁ := Step.take_ok h₁
    rw [r₁.peek] at hk
    obtain ⟨inner, c₂, hc₂, h₂, h⟩ := Step.of_andThen_ok h
    obtain ⟨ts, r₂, w₂, n₂⟩ := expression_names h₂
    obtain ⟨r, c₃, hc₃, h₃, h⟩ := Step.of_andThen_ok h
    obtain ⟨r₃, k₃⟩ := Step.expect_ok h₃
    cases h
    have opening : Wordless [l] := .singleton (by rw [hk]; decide)
    have closing : Wordless [r] := .singleton (by rw [k₃]; decide)
    refine ⟨l :: (ts ++ [r]), r₁.trans (r₂.trans r₃), opening.append (w₂.append closing), ?_⟩
    exact fun id same => .paren hk (n₂ id same) k₃
  · cases h
termination_by 10 * c.size
decreasing_by all_goals omega

end

end Parser

end SloScript
