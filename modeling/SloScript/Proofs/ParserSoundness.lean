import SloScript.Proofs.ParserCompleteness
import SloScript.Proofs.Spelling

/-!
# What is read is what is written

Whenever a construct is read, the tokens between the two places of the cursor are tokens that the
grammar gives for it: nothing is skipped, nothing is used twice, and every choice made by looking at
the next token is one that the grammar allows. The proof follows the recursion of the parser. A loop
carries what it has built so far: if `ts` stands for the left part, then `ts` and the tokens read
on stand for the result.

Texts matter only for operators, where the kind of a token and its text must go together, which they
do for every token that is cut out of a text.
-/

namespace SloScript

namespace Parser

/-! ## Operators -/

theorem ofSymbol?_eq_some {s : String} {op : Operator} (h : Operator.ofSymbol? s = some op) :
    s = op.symbol := by
  have hs := List.find?_some h
  exact (of_decide_eq_true hs).symm

theorem kind_of_isSum {op : Operator} (h : op.isSum = true) :
    op.kind = .binaryOperator ∧ op.isMultiplicative = false := by
  cases op <;> first | exact ⟨rfl, rfl⟩ | cases h

theorem kind_of_isMultiplicative {op : Operator} (h : op.isMultiplicative = true) :
    op.kind = .binaryOperator := by
  cases op <;> first | rfl | cases h

/-- A token with the kind and the spelling of a comparison is that operator and no other. -/
theorem comparison_writtenAs {t : Token} {op : Operator} (expected : Operator)
    (hm : expected.isMultiplicative = false) (hk : t.kind = expected.kind)
    (ht : some expected.symbol = some t.text) (ho : Operator.ofSymbol? t.text = some op) :
    op.WrittenAs t ∧ op.isMultiplicative = false := by
  have hop : expected = op := by
    rw [← Option.some.inj ht, Operator.ofSymbol?_symbol] at ho
    exact Option.some.inj ho
  subst hop
  exact ⟨⟨hk, (Option.some.inj ht).symm⟩, hm⟩

theorem sumOperator?_writtenAs {c : Cursor} {op : Operator} (hs : c.peek.kind.Spells c.peek.text)
    (h : sumOperator? c = some op) : op.WrittenAs c.peek ∧ op.isMultiplicative = false := by
  simp only [sumOperator?] at h
  split at h
  case h_1 hk =>
    obtain ⟨ho, hsum⟩ := Option.filter_eq_some_iff.1 h
    obtain ⟨hop, hm⟩ := kind_of_isSum hsum
    exact ⟨⟨hk.trans hop.symm, ofSymbol?_eq_some ho⟩, hm⟩
  case h_2 hk => rw [hk] at hs; exact comparison_writtenAs .eq rfl hk hs h
  case h_3 hk => rw [hk] at hs; exact comparison_writtenAs .ne rfl hk hs h
  case h_4 hk => rw [hk] at hs; exact comparison_writtenAs .lt rfl hk hs h
  case h_5 hk => rw [hk] at hs; exact comparison_writtenAs .le rfl hk hs h
  case h_6 hk => rw [hk] at hs; exact comparison_writtenAs .gt rfl hk hs h
  case h_7 hk => rw [hk] at hs; exact comparison_writtenAs .ge rfl hk hs h
  case h_8 => cases h

theorem productOperator?_writtenAs {c : Cursor} {op : Operator}
    (h : productOperator? c = some op) : op.WrittenAs c.peek ∧ op.isMultiplicative = true := by
  simp only [productOperator?] at h
  split at h
  · next hk =>
    obtain ⟨ho, hm⟩ := Option.filter_eq_some_iff.1 h
    exact ⟨⟨hk.trans (kind_of_isMultiplicative hm).symm, ofSymbol?_eq_some ho⟩, hm⟩
  · cases h

end Parser

/-- Every token left is spelled as its kind demands. -/
def Cursor.Spelled (c : Cursor) : Prop := ∀ t ∈ c.rest, t.kind.Spells t.text

theorem Cursor.Spelled.of_reads {c d : Cursor} {ts : List Token} (hs : c.Spelled)
    (h : c.Reads ts d) : d.Spelled :=
  fun t ht => hs t (h.mem_of_mem ht)

theorem Cursor.Spelled.peek {c d : Cursor} {t : Token} (hs : c.Spelled) (h : c.Reads [t] d) :
    c.peek.kind.Spells c.peek.text := by
  rw [h.peek]
  exact hs t (by rw [h.rest]; exact List.mem_append_left _ (List.mem_singleton_self t))

/-- From `c` to `d`, the tokens of a phrase were read. -/
def Cursor.ReadsPhrase (c : Cursor) (ph : Phrase) (d : Cursor) : Prop :=
  ∃ ts, c.Reads ts d ∧ Yields ts ph

/-- From `c` to `d`, the tokens of a clause were read. -/
def Cursor.ReadsClause (c : Cursor) (cl : Clause) (d : Cursor) : Prop :=
  ∃ ts, c.Reads ts d ∧ Derives true ts cl

/-- From `c` to `d`, tokens were read that continue any tokens of the phrase `before` to tokens of
the phrase `after`. -/
def Cursor.Continues (c : Cursor) (before after : Phrase) (d : Cursor) : Prop :=
  ∀ ts, Yields ts before → ∃ us, c.Reads us d ∧ Yields (ts ++ us) after

namespace Parser

mutual

/-- An expression reads its tokens. -/
theorem expression_sound {c d : Cursor} {e : Expr} (hs : c.Spelled)
    (h : (expression c).val = .ok e d) : c.ReadsPhrase (.expr .expression e) d := by
  rw [expression] at h
  obtain ⟨target, c₁, hc₁, h₁, h⟩ := Step.of_andThen_ok h
  obtain ⟨ts, r₁, y₁⟩ := operand_sound hs h₁
  split at h
  · next hk =>
    obtain ⟨t, c₂, hc₂, h₂, h⟩ := Step.of_andThen_ok h
    obtain ⟨r₂, k₂⟩ := Step.take_ok_of_sees hk h₂
    obtain ⟨value, c₃, hc₃, h₃, h⟩ := Step.of_andThen_ok h
    obtain ⟨us, r₃, y₃⟩ := expression_sound ((hs.of_reads r₁).of_reads r₂) h₃
    cases h
    exact ⟨_, r₁.trans (r₂.trans r₃), .assign y₁ k₂ y₃⟩
  · cases h
    exact ⟨ts, r₁, .loosen rfl y₁⟩
termination_by 10 * c.size + 6
decreasing_by all_goals omega

theorem operand_sound {c d : Cursor} {e : Expr} (hs : c.Spelled)
    (h : (operand c).val = .ok e d) : c.ReadsPhrase (.expr .operand e) d := by
  rw [operand] at h
  split at h
  · next hk =>
    obtain ⟨l, c₁, hc₁, h₁, h⟩ := Step.of_andThen_ok h
    obtain ⟨r₁, k₁⟩ := Step.take_ok_of_sees hk h₁
    obtain ⟨entries, c₂, hc₂, h₂, h⟩ := Step.of_andThen_ok h
    obtain ⟨ts, r₂, y₂⟩ := properties_sound (hs.of_reads r₁) h₂
    obtain ⟨r, c₃, hc₃, h₃, h⟩ := Step.of_andThen_ok h
    obtain ⟨r₃, k₃⟩ := Step.expect_ok h₃
    cases h
    rw [r₃.spanFrom]
    exact ⟨_, r₁.trans (r₂.trans r₃), .object k₁ y₂ k₃⟩
  · obtain ⟨ts, r₁, y₁⟩ := sum_sound hs h
    exact ⟨ts, r₁, .loosen rfl y₁⟩
termination_by 10 * c.size + 5
decreasing_by all_goals omega

theorem properties_sound {c d : Cursor} {ps : List Property} (hs : c.Spelled)
    (h : (properties c).val = .ok ps d) : c.ReadsPhrase (.entries ps) d := by
  rw [properties] at h
  split at h
  · cases h
    exact ⟨[], .refl c, .noEntries⟩
  · obtain ⟨t, c₁, hc₁, h₁, h⟩ := Step.of_andThen_ok h
    obtain ⟨r₁, k₁⟩ := Step.expect_ok h₁
    simp only at h
    split at h
    · next hk =>
      obtain ⟨m, c₂, hc₂, h₂, h⟩ := Step.of_andThen_ok h
      obtain ⟨r₂, k₂⟩ := Step.take_ok_of_sees hk h₂
      obtain ⟨rest, c₃, hc₃, h₃, h⟩ := Step.of_andThen_ok h
      obtain ⟨us, r₃, y₃⟩ := properties_sound ((hs.of_reads r₁).of_reads r₂) h₃
      cases h
      exact ⟨_, r₁.trans (r₂.trans r₃), .nextEntry (.shorthand k₁) k₂ y₃⟩
    · split at h
      · cases h
        exact ⟨_, r₁, .lastEntry (.shorthand k₁)⟩
      · obtain ⟨k, c₂, hc₂, h₂, h⟩ := Step.of_andThen_ok h
        obtain ⟨r₂, k₂⟩ := Step.expect_ok h₂
        obtain ⟨value, c₃, hc₃, h₃, h⟩ := Step.of_andThen_ok h
        have hs₂ := (hs.of_reads r₁).of_reads r₂
        obtain ⟨us, r₃, y₃⟩ := expression_sound hs₂ h₃
        have entry := Yields.keyed k₁ k₂ y₃
        split at h
        · cases h
          exact ⟨_, r₁.trans (r₂.trans r₃), .lastEntry entry⟩
        · obtain ⟨m, c₄, hc₄, h₄, h⟩ := Step.of_andThen_ok h
          obtain ⟨r₄, k₄⟩ := Step.expect_ok h₄
          obtain ⟨rest, c₅, hc₅, h₅, h⟩ := Step.of_andThen_ok h
          obtain ⟨vs, r₅, y₅⟩ := properties_sound ((hs₂.of_reads r₃).of_reads r₄) h₅
          cases h
          exact ⟨_, (r₁.trans (r₂.trans r₃)).trans (r₄.trans r₅), .nextEntry entry k₄ y₅⟩
termination_by 10 * c.size
decreasing_by all_goals omega

theorem sum_sound {c d : Cursor} {e : Expr} (hs : c.Spelled) (h : (sum c).val = .ok e d) :
    c.ReadsPhrase (.expr .sum e) d := by
  rw [sum] at h
  obtain ⟨left, c₁, hc₁, h₁, h⟩ := Step.of_andThen_ok h
  obtain ⟨ts, r₁, y₁⟩ := product_sound hs h₁
  obtain ⟨us, r₂, y₂⟩ := sumRest_sound (hs.of_reads r₁) h ts (.loosen rfl y₁)
  exact ⟨_, r₁.trans r₂, y₂⟩
termination_by 10 * c.size + 4
decreasing_by all_goals omega

theorem sumRest_sound {c d : Cursor} {left e : Expr} (hs : c.Spelled)
    (h : (sumRest left c).val = .ok e d) : c.Continues (.expr .sum left) (.expr .sum e) d := by
  intro ts y
  rw [sumRest] at h
  split at h
  · cases h
    exact ⟨[], .refl c, by simpa using y⟩
  · next op ho =>
    obtain ⟨t, c₁, hc₁, h₁, h⟩ := Step.of_andThen_ok h
    have r₁ := Step.take_ok h₁
    obtain ⟨written, hm⟩ := sumOperator?_writtenAs (hs.peek r₁) ho
    rw [r₁.peek] at written
    obtain ⟨right, c₂, hc₂, h₂, h⟩ := Step.of_andThen_ok h
    obtain ⟨us, r₂, y₂⟩ := product_sound (hs.of_reads r₁) h₂
    have hs₂ := (hs.of_reads r₁).of_reads r₂
    -- The loop goes on with the operation just read as its left part.
    obtain ⟨vs, r₃, y₃⟩ := sumRest_sound hs₂ h _ (.sum y hm written y₂)
    exact ⟨_, r₁.trans (r₂.trans r₃), by simpa using y₃⟩
termination_by 10 * c.size
decreasing_by all_goals omega

theorem product_sound {c d : Cursor} {e : Expr} (hs : c.Spelled)
    (h : (product c).val = .ok e d) : c.ReadsPhrase (.expr .product e) d := by
  rw [product] at h
  obtain ⟨left, c₁, hc₁, h₁, h⟩ := Step.of_andThen_ok h
  obtain ⟨ts, r₁, y₁⟩ := call_sound hs h₁
  obtain ⟨us, r₂, y₂⟩ := productRest_sound (hs.of_reads r₁) h ts (.loosen rfl y₁)
  exact ⟨_, r₁.trans r₂, y₂⟩
termination_by 10 * c.size + 3
decreasing_by all_goals omega

theorem productRest_sound {c d : Cursor} {left e : Expr} (hs : c.Spelled)
    (h : (productRest left c).val = .ok e d) :
    c.Continues (.expr .product left) (.expr .product e) d := by
  intro ts y
  rw [productRest] at h
  split at h
  · cases h
    exact ⟨[], .refl c, by simpa using y⟩
  · next op ho =>
    obtain ⟨t, c₁, hc₁, h₁, h⟩ := Step.of_andThen_ok h
    have r₁ := Step.take_ok h₁
    obtain ⟨written, hm⟩ := productOperator?_writtenAs ho
    rw [r₁.peek] at written
    obtain ⟨right, c₂, hc₂, h₂, h⟩ := Step.of_andThen_ok h
    obtain ⟨us, r₂, y₂⟩ := call_sound (hs.of_reads r₁) h₂
    have hs₂ := (hs.of_reads r₁).of_reads r₂
    obtain ⟨vs, r₃, y₃⟩ := productRest_sound hs₂ h _ (.product y hm written y₂)
    exact ⟨_, r₁.trans (r₂.trans r₃), by simpa using y₃⟩
termination_by 10 * c.size
decreasing_by all_goals omega

theorem call_sound {c d : Cursor} {e : Expr} (hs : c.Spelled) (h : (call c).val = .ok e d) :
    c.ReadsPhrase (.expr .call e) d := by
  rw [call] at h
  obtain ⟨callee, c₁, hc₁, h₁, h⟩ := Step.of_andThen_ok h
  obtain ⟨ts, r₁, y₁⟩ := member_sound hs h₁
  obtain ⟨us, r₂, y₂⟩ := callRest_sound (hs.of_reads r₁) h ts (.loosen rfl y₁)
  exact ⟨_, r₁.trans r₂, y₂⟩
termination_by 10 * c.size + 2
decreasing_by all_goals omega

theorem callRest_sound {c d : Cursor} {callee e : Expr} (hs : c.Spelled)
    (h : (callRest callee c).val = .ok e d) :
    c.Continues (.expr .call callee) (.expr .call e) d := by
  intro ts y
  rw [callRest] at h
  split at h
  · obtain ⟨args, c₁, hc₁, h₁, h⟩ := Step.of_andThen_ok h
    obtain ⟨l, r, us, r₁, y₁, hl, hr, hlast⟩ := arguments_sound hs h₁
    rw [Cursor.spanFrom, hlast] at h
    obtain ⟨vs, r₂, y₂⟩ := callRest_sound (hs.of_reads r₁) h _ (.call y hl y₁ hr)
    exact ⟨_, r₁.trans r₂, by simpa using y₂⟩
  · cases h
    exact ⟨[], .refl c, by simpa using y⟩
termination_by 10 * c.size + 1
decreasing_by all_goals omega

theorem arguments_sound {c d : Cursor} {es : List Expr} (hs : c.Spelled)
    (h : (arguments c).val = .ok es d) :
    ∃ l r ts, c.Reads (l :: (ts ++ [r])) d ∧ Yields ts (.args es) ∧
      l.kind = .openParen ∧ r.kind = .closeParen ∧ d.last = r.span := by
  rw [arguments] at h
  obtain ⟨l, c₁, hc₁, h₁, h⟩ := Step.of_andThen_ok h
  obtain ⟨r₁, k₁⟩ := Step.expect_ok h₁
  split at h
  · next hk =>
    obtain ⟨r, c₂, hc₂, h₂, h⟩ := Step.of_andThen_ok h
    obtain ⟨r₂, k₂⟩ := Step.take_ok_of_sees hk h₂
    cases h
    exact ⟨l, r, [], r₁.trans r₂, .noArgs, k₁, k₂, r₂.last⟩
  · obtain ⟨first, c₂, hc₂, h₂, h⟩ := Step.of_andThen_ok h
    obtain ⟨ts, r₂, y₂⟩ := expression_sound (hs.of_reads r₁) h₂
    obtain ⟨others, c₃, hc₃, h₃, h⟩ := Step.of_andThen_ok h
    obtain ⟨us, r₃, y₃⟩ := argumentsRest_sound ((hs.of_reads r₁).of_reads r₂) h₃
    obtain ⟨r, c₄, hc₄, h₄, h⟩ := Step.of_andThen_ok h
    obtain ⟨r₄, k₄⟩ := Step.expect_ok h₄
    cases h
    exact ⟨l, r, ts ++ us, r₁.trans ((r₂.trans r₃).trans r₄), .someArgs y₂ y₃, k₁, k₄, r₄.last⟩
termination_by 10 * c.size
decreasing_by all_goals omega

theorem argumentsRest_sound {c d : Cursor} {es : List Expr} (hs : c.Spelled)
    (h : (argumentsRest c).val = .ok es d) : c.ReadsPhrase (.moreArgs es) d := by
  rw [argumentsRest] at h
  split at h
  · next hk =>
    obtain ⟨m, c₁, hc₁, h₁, h⟩ := Step.of_andThen_ok h
    obtain ⟨r₁, k₁⟩ := Step.take_ok_of_sees hk h₁
    obtain ⟨arg, c₂, hc₂, h₂, h⟩ := Step.of_andThen_ok h
    obtain ⟨ts, r₂, y₂⟩ := expression_sound (hs.of_reads r₁) h₂
    obtain ⟨others, c₃, hc₃, h₃, h⟩ := Step.of_andThen_ok h
    obtain ⟨us, r₃, y₃⟩ := argumentsRest_sound ((hs.of_reads r₁).of_reads r₂) h₃
    cases h
    exact ⟨m :: (ts ++ us), r₁.trans (r₂.trans r₃), .nextArg k₁ y₂ y₃⟩
  · cases h
    exact ⟨[], .refl c, .lastArg⟩
termination_by 10 * c.size
decreasing_by all_goals omega

theorem member_sound {c d : Cursor} {e : Expr} (hs : c.Spelled) (h : (member c).val = .ok e d) :
    c.ReadsPhrase (.expr .member e) d := by
  rw [member] at h
  obtain ⟨object, c₁, hc₁, h₁, h⟩ := Step.of_andThen_ok h
  obtain ⟨ts, r₁, y₁⟩ := primary_sound hs h₁
  obtain ⟨us, r₂, y₂⟩ := memberRest_sound (hs.of_reads r₁) h ts (.loosen rfl y₁)
  exact ⟨_, r₁.trans r₂, y₂⟩
termination_by 10 * c.size + 1
decreasing_by all_goals omega

theorem memberRest_sound {c d : Cursor} {object e : Expr} (hs : c.Spelled)
    (h : (memberRest object c).val = .ok e d) :
    c.Continues (.expr .member object) (.expr .member e) d := by
  intro ts y
  rw [memberRest] at h
  split at h
  · next hk =>
    obtain ⟨p, c₁, hc₁, h₁, h⟩ := Step.of_andThen_ok h
    obtain ⟨r₁, k₁⟩ := Step.take_ok_of_sees hk h₁
    split at h
    · next hk =>
      obtain ⟨t, c₂, hc₂, h₂, h⟩ := Step.of_andThen_ok h
      obtain ⟨r₂, k₂⟩ := Step.take_ok_of_sees hk h₂
      rw [r₂.spanFrom] at h
      have hs₂ := (hs.of_reads r₁).of_reads r₂
      obtain ⟨us, r₃, y₃⟩ := memberRest_sound hs₂ h _ (.member y k₁ k₂)
      exact ⟨_, r₁.trans (r₂.trans r₃), by simpa using y₃⟩
    · cases h
  · split at h
    · next hk =>
      obtain ⟨l, c₁, hc₁, h₁, h⟩ := Step.of_andThen_ok h
      obtain ⟨r₁, k₁⟩ := Step.take_ok_of_sees hk h₁
      obtain ⟨key, c₂, hc₂, h₂, h⟩ := Step.of_andThen_ok h
      obtain ⟨us, r₂, y₂⟩ := expression_sound (hs.of_reads r₁) h₂
      obtain ⟨r, c₃, hc₃, h₃, h⟩ := Step.of_andThen_ok h
      obtain ⟨r₃, k₃⟩ := Step.expect_ok h₃
      rw [r₃.spanFrom] at h
      have hs₃ := ((hs.of_reads r₁).of_reads r₂).of_reads r₃
      obtain ⟨vs, r₄, y₄⟩ := memberRest_sound hs₃ h _ (.index y k₁ y₂ k₃)
      exact ⟨_, r₁.trans (r₂.trans (r₃.trans r₄)), by simpa using y₄⟩
    · cases h
      exact ⟨[], .refl c, by simpa using y⟩
termination_by 10 * c.size
decreasing_by all_goals omega

theorem primary_sound {c d : Cursor} {e : Expr} (hs : c.Spelled) (h : (primary c).val = .ok e d) :
    c.ReadsPhrase (.expr .primary e) d := by
  rw [primary] at h
  split at h
  · next hk =>
    obtain ⟨t, c₁, hc₁, h₁, h⟩ := Step.of_andThen_ok h
    have r₁ := Step.take_ok h₁
    rw [r₁.peek] at hk
    cases h
    exact ⟨_, r₁, .name hk⟩
  · next hk =>
    obtain ⟨t, c₁, hc₁, h₁, h⟩ := Step.of_andThen_ok h
    have r₁ := Step.take_ok h₁
    rw [r₁.peek] at hk
    split at h
    · next x hx =>
      cases h
      exact ⟨_, r₁, .number hk hx⟩
    · cases h
  · next hk =>
    obtain ⟨t, c₁, hc₁, h₁, h⟩ := Step.of_andThen_ok h
    have r₁ := Step.take_ok h₁
    rw [r₁.peek] at hk
    cases h
    exact ⟨_, r₁, .text hk⟩
  · next hk =>
    obtain ⟨l, c₁, hc₁, h₁, h⟩ := Step.of_andThen_ok h
    have r₁ := Step.take_ok h₁
    rw [r₁.peek] at hk
    obtain ⟨inner, c₂, hc₂, h₂, h⟩ := Step.of_andThen_ok h
    obtain ⟨ts, r₂, y₂⟩ := expression_sound (hs.of_reads r₁) h₂
    obtain ⟨r, c₃, hc₃, h₃, h⟩ := Step.of_andThen_ok h
    obtain ⟨r₃, k₃⟩ := Step.expect_ok h₃
    cases h
    exact ⟨_, r₁.trans (r₂.trans r₃), .paren hk y₂ k₃⟩
  · cases h
termination_by 10 * c.size
decreasing_by all_goals omega

end

/-! ## Statements -/

theorem declaration_sound {c d : Cursor} {s : Stmt} (hs : c.Spelled)
    (hk : c.peek.kind = .letWord ∨ c.peek.kind = .constWord)
    (h : (declaration c).val = .ok s d) : c.ReadsClause (.stmt s) d := by
  unfold declaration at h
  obtain ⟨w, c₁, hc₁, h₁, h⟩ := Step.of_andThen_ok h
  have r₁ := Step.take_ok h₁
  rw [r₁.peek] at hk
  obtain ⟨t, c₂, hc₂, h₂, h⟩ := Step.of_andThen_ok h
  obtain ⟨r₂, k₂⟩ := Step.expect_ok h₂
  simp only at h
  split at h
  · next hz =>
    obtain ⟨z, c₃, hc₃, h₃, h⟩ := Step.of_andThen_ok h
    obtain ⟨r₃, k₃⟩ := Step.take_ok_of_sees hz h₃
    -- Without a value only a variable gets through.
    split at h
    · cases h
    · next hc =>
      cases h
      rw [r₃.spanFrom]
      exact ⟨_, r₁.trans (r₂.trans r₃), .letBare (hk.resolve_right hc) k₂ k₃⟩
  · obtain ⟨q, c₃, hc₃, h₃, h⟩ := Step.of_andThen_ok h
    obtain ⟨r₃, k₃⟩ := Step.expect_ok h₃
    obtain ⟨e, c₄, hc₄, h₄, h⟩ := Step.of_andThen_ok h
    obtain ⟨ts, r₄, y₄⟩ := expression_sound (((hs.of_reads r₁).of_reads r₂).of_reads r₃) h₄
    obtain ⟨z, c₅, hc₅, h₅, h⟩ := Step.of_andThen_ok h
    obtain ⟨r₅, k₅⟩ := Step.expect_ok h₅
    have reads := r₁.trans (r₂.trans (r₃.trans (r₄.trans r₅)))
    cases h
    rw [r₅.spanFrom]
    split
    · next hc => exact ⟨_, reads, .letConst hc k₂ k₃ y₄ k₅⟩
    · next hc => exact ⟨_, reads, .letInit (hk.resolve_right hc) k₂ k₃ y₄ k₅⟩

mutual

/-- A statement reads its tokens. -/
theorem statement_sound {c d : Cursor} {s : Stmt} (hs : c.Spelled)
    (h : (statement c).val = .ok s d) : c.ReadsClause (.stmt s) d := by
  rw [statement] at h
  split at h
  · next hk => exact declaration_sound hs (.inl hk) h
  · next hk => exact declaration_sound hs (.inr hk) h
  · next hk => exact function_sound hs hk h
  · next hk =>
    obtain ⟨-, -, -, -, -, reads⟩ := branch_sound hs hk h
    exact reads
  · obtain ⟨e, c₁, hc₁, h₁, h⟩ := Step.of_andThen_ok h
    obtain ⟨ts, r₁, y₁⟩ := expression_sound hs h₁
    split at h
    · next hz =>
      obtain ⟨z, c₂, hc₂, h₂, h⟩ := Step.of_andThen_ok h
      obtain ⟨r₂, k₂⟩ := Step.take_ok_of_sees hz h₂
      cases h
      exact ⟨_, r₁.trans r₂, .expr y₁ k₂⟩
    · cases h
      exact ⟨ts, r₁, .exprOpen rfl y₁⟩
termination_by 10 * c.size + 2
decreasing_by all_goals omega

theorem function_sound {c d : Cursor} {s : Stmt} (hs : c.Spelled) (hk : c.peek.kind = .fnWord)
    (h : (function c).val = .ok s d) : c.ReadsClause (.stmt s) d := by
  rw [function] at h
  obtain ⟨w, c₁, hc₁, h₁, h⟩ := Step.of_andThen_ok h
  have r₁ := Step.take_ok h₁
  rw [r₁.peek] at hk
  obtain ⟨t, c₂, hc₂, h₂, h⟩ := Step.of_andThen_ok h
  obtain ⟨r₂, k₂⟩ := Step.expect_ok h₂
  obtain ⟨args, c₃, hc₃, h₃, h⟩ := Step.of_andThen_ok h
  have hs₂ := (hs.of_reads r₁).of_reads r₂
  obtain ⟨l, r, ps, r₃, y₃, kl, kr, -⟩ := arguments_sound hs₂ h₃
  split at h
  · cases h
  · next params hp =>
    -- Arguments were read, but those that pass as parameters are names.
    obtain ⟨rfl, distinct⟩ := parameters_eq_ok.1 hp
    obtain ⟨o, c₄, hc₄, h₄, h⟩ := Step.of_andThen_ok h
    obtain ⟨r₄, k₄⟩ := Step.expect_ok h₄
    obtain ⟨body, c₅, hc₅, h₅, h⟩ := Step.of_andThen_ok h
    obtain ⟨z, ts, r₅, y₅, k₅, hlast⟩ := block_sound ((hs₂.of_reads r₃).of_reads r₄) h₅
    cases h
    rw [Cursor.spanFrom, hlast]
    have reads := r₁.trans (r₂.trans (r₃.trans (r₄.trans r₅)))
    refine ⟨_, reads, ?_⟩
    simpa using Derives.function hk k₂ kl (yieldsNames_iff.2 y₃) kr distinct k₄ y₅ k₅
termination_by 10 * c.size
decreasing_by all_goals omega

theorem branch_sound {c d : Cursor} {s : Stmt} (hs : c.Spelled) (hk : c.peek.kind = .ifWord)
    (h : (branch c).val = .ok s d) :
    ∃ test yes no span, s = .branch test yes no span ∧ c.ReadsClause (.stmt s) d := by
  rw [branch] at h
  obtain ⟨w, c₁, hc₁, h₁, h⟩ := Step.of_andThen_ok h
  have r₁ := Step.take_ok h₁
  rw [r₁.peek] at hk
  obtain ⟨l, c₂, hc₂, h₂, h⟩ := Step.of_andThen_ok h
  obtain ⟨r₂, k₂⟩ := Step.expect_ok h₂
  obtain ⟨test, c₃, hc₃, h₃, h⟩ := Step.of_andThen_ok h
  have hs₂ := (hs.of_reads r₁).of_reads r₂
  obtain ⟨ts, r₃, y₃⟩ := expression_sound hs₂ h₃
  obtain ⟨r, c₄, hc₄, h₄, h⟩ := Step.of_andThen_ok h
  obtain ⟨r₄, k₄⟩ := Step.expect_ok h₄
  obtain ⟨o, c₅, hc₅, h₅, h⟩ := Step.of_andThen_ok h
  obtain ⟨r₅, k₅⟩ := Step.expect_ok h₅
  obtain ⟨yes, c₆, hc₆, h₆, h⟩ := Step.of_andThen_ok h
  have hs₅ := ((hs₂.of_reads r₃).of_reads r₄).of_reads r₅
  obtain ⟨z, us, r₆, y₆, k₆, hlast⟩ := block_sound hs₅ h₆
  obtain ⟨no, c₇, hc₇, h₇, h⟩ := Step.of_andThen_ok h
  obtain ⟨vs, r₇, y₇⟩ := alternative_sound (hs₅.of_reads r₆) h₇
  cases h
  rw [Cursor.spanFrom, r₇.last, hlast]
  have reads := r₁.trans (r₂.trans (r₃.trans (r₄.trans (r₅.trans (r₆.trans r₇)))))
  refine ⟨_, _, _, _, rfl, _, reads, ?_⟩
  simpa using Derives.branch hk k₂ y₃ k₄ k₅ y₆ k₆ y₇
termination_by 10 * c.size
decreasing_by all_goals omega

theorem alternative_sound {c d : Cursor} {ss : List Stmt} (hs : c.Spelled)
    (h : (alternative c).val = .ok ss d) : c.ReadsClause (.alternative ss) d := by
  rw [alternative] at h
  split at h
  · next hk =>
    obtain ⟨w, c₁, hc₁, h₁, h⟩ := Step.of_andThen_ok h
    obtain ⟨r₁, k₁⟩ := Step.take_ok_of_sees hk h₁
    split at h
    · next hk =>
      obtain ⟨s, c₂, hc₂, h₂, h⟩ := Step.of_andThen_ok h
      obtain ⟨test, yes, no, span, rfl, ts, r₂, y₂⟩ :=
        branch_sound (hs.of_reads r₁) (of_decide_eq_true hk) h₂
      cases h
      exact ⟨_, r₁.trans r₂, .elseIf k₁ y₂⟩
    · obtain ⟨o, c₂, hc₂, h₂, h⟩ := Step.of_andThen_ok h
      obtain ⟨r₂, k₂⟩ := Step.expect_ok h₂
      obtain ⟨stmts, c₃, hc₃, h₃, h⟩ := Step.of_andThen_ok h
      obtain ⟨z, ts, r₃, y₃, k₃, -⟩ := block_sound ((hs.of_reads r₁).of_reads r₂) h₃
      cases h
      exact ⟨_, r₁.trans (r₂.trans r₃), .elseBlock k₁ k₂ y₃ k₃⟩
  · cases h
    exact ⟨[], .refl c, .noElse⟩
termination_by 10 * c.size
decreasing_by all_goals omega

theorem block_sound {c d : Cursor} {ss : List Stmt} (hs : c.Spelled)
    (h : (block c).val = .ok ss d) :
    ∃ z ts, c.Reads (ts ++ [z]) d ∧ Derives true ts (.stmts ss) ∧ z.kind = .closeBrace ∧
      d.last = z.span := by
  rw [block] at h
  split at h
  · obtain ⟨z, c₁, hc₁, h₁, h⟩ := Step.of_andThen_ok h
    obtain ⟨r₁, k₁⟩ := Step.expect_ok h₁
    cases h
    exact ⟨z, [], r₁, .nil, k₁, r₁.last⟩
  · obtain ⟨s, c₁, hc₁, h₁, h⟩ := Step.of_andThen_ok h
    obtain ⟨ts, r₁, y₁⟩ := statement_sound hs h₁
    obtain ⟨rest, c₂, hc₂, h₂, h⟩ := Step.of_andThen_ok h
    obtain ⟨z, us, r₂, y₂, k₂, hlast⟩ := block_sound (hs.of_reads r₁) h₂
    cases h
    exact ⟨z, ts ++ us, by simpa using r₁.trans r₂, .cons y₁ y₂, k₂, hlast⟩
termination_by 10 * c.size + 3
decreasing_by all_goals omega

end

/-- A program reads all tokens there are. -/
theorem program_sound {c d : Cursor} {p : Program} (hs : c.Spelled)
    (h : (program c).val = .ok p d) : Derives true c.rest (.stmts p) := by
  rw [program] at h
  split at h
  · next hend =>
    cases h
    rw [List.isEmpty_iff.1 hend]
    exact .nil
  · obtain ⟨s, c₁, hc₁, h₁, h⟩ := Step.of_andThen_ok h
    obtain ⟨ts, r₁, y₁⟩ := statement_sound hs h₁
    obtain ⟨rest, c₂, hc₂, h₂, h⟩ := Step.of_andThen_ok h
    have y₂ := program_sound (hs.of_reads r₁) h₂
    cases h
    rw [r₁.rest]
    exact .cons y₁ y₂
termination_by c.size
decreasing_by all_goals omega

end Parser

/-- The parser invents and drops nothing. If every token has a text that its kind can be cut out of
a source with, and a program is read from the tokens, then the tokens before the first end of the
input, all of them and in their order, are tokens of that program in the loose form of the
grammar. -/
theorem parseTokens_derives {tokens : List Token} (lexical : ∀ t ∈ tokens, t.Lexical)
    {p : Program} (h : parseTokens tokens = .ok p) :
    Derives true (tokens.takeWhile (·.kind ≠ .endOfFile)) (.stmts p) := by
  unfold parseTokens at h
  split at h
  · next q d hq =>
    cases h
    refine Parser.program_sound (c := .ofTokens tokens) (fun t ht => ?_) hq
    exact (lexical t (List.takeWhile_subset _ ht)).spells
  · cases h

/-- A call whose argument stands in parentheses. -/
theorem parseTokens_derives_call :
    let token := fun kind text => Token.mk kind text .nowhere
    let tokens := [token .identifier "a", token .openParen "(", token .openParen "(",
      token .identifier "b", token .closeParen ")", token .closeParen ")", token .semicolon ";"]
    let p : Program := [.expr (.call (.name ⟨"a", .nowhere⟩) [.name ⟨"b", .nowhere⟩] .nowhere)]
    (∀ t ∈ tokens, t.Lexical) ∧ parseTokens tokens = .ok p ∧
      Derives true (tokens.takeWhile (·.kind ≠ .endOfFile)) (.stmts p) := by
  intro token tokens p
  have lexical : ∀ t ∈ tokens, t.Lexical := by
    have one (c : Char) {l : Token.Lexeme} (h : Token.Lexeme.first c [] = .ok l)
        (hc : Token.isSeparator c = false) (hrest : l.rest = []) : (token l.kind l.text).Lexical :=
      Token.Lexeme.lexical h hc hrest .nowhere
    intro t ht
    simp only [tokens, List.mem_cons, List.not_mem_nil, or_false] at ht
    rcases ht with rfl | rfl | rfl | rfl | rfl | rfl | rfl
    · exact one 'a' rfl rfl rfl
    · exact one '(' rfl rfl rfl
    · exact one '(' rfl rfl rfl
    · exact one 'b' rfl rfl rfl
    · exact one ')' rfl rfl rfl
    · exact one ')' rfl rfl rfl
    · exact one ';' rfl rfl rfl
  have read : parseTokens tokens = .ok p := by
    have name (text : String) := Yields.name (t := token .identifier text) rfl
    have args := Yields.someArgs ((Yields.paren (l := token .openParen "(") rfl
      ((name "b").of_primary _) (r := token .closeParen ")") rfl).of_primary _) .lastArg
    have call := Yields.call ((name "a").of_primary _) (l := token .openParen "(") rfl args
      (r := token .closeParen ")") rfl
    have derives : Derives false tokens (.stmts p) :=
      .cons (.expr (call.of_rank_le (Nat.zero_le _)) rfl) .nil
    rw [← List.append_nil tokens]
    exact parseTokens_of_derives derives (by simp)
  exact ⟨lexical, read, parseTokens_derives lexical read⟩

end SloScript
