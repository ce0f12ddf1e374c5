import SloScript.Proofs.NamedExpressions
import SloScript.Proofs.Parameters

/-!
# How parameters are written

The parameters of a function are read as the arguments of a call would be, and only then it is
looked whether they are names. By this time nothing is left of parentheses, and a name in
parentheses passes for a name. Nothing else does: every other expression leaves a node of its own.

The functions of a program stand in the order of their words among the tokens, and each is compared
with what stands behind its word.

Results:
1. `plainNames_iff`: names are separated by commas and nothing else if no parenthesis opens.
2. `mem_functions`: the functions of a program are its declarations at any depth.
3. `parameters_as_written`: behind its word each function has its name, and between parentheses its
   parameters, each possibly in parentheses.
-/

namespace SloScript

open SloScript.Parser

/-! ## Lists of names -/

/-- The token list is a list of names separated by single commas. -/
inductive PlainNames : List Token → List Ident → Prop
  | none : PlainNames [] []
  | last {t : Token} : t.kind = .identifier → PlainNames [t] [ident t]
  | next {t m : Token} {ts : List Token} {id : Ident} {ids : List Ident} :
      t.kind = .identifier → m.kind = .comma → PlainNames ts (id :: ids) →
      PlainNames (t :: m :: ts) (ident t :: id :: ids)

/-- No parenthesis opens among the tokens. -/
def Unparenthesized (ts : List Token) : Prop := ∀ t ∈ ts, t.kind ≠ .openParen

theorem PlainNames.unparenthesized {ts : List Token} {ids : List Ident} (h : PlainNames ts ids) :
    Unparenthesized ts := by
  induction h with
  | none => exact nofun
  | last name =>
    intro t member
    rw [List.mem_singleton.1 member, name]
    decide
  | next name comma _ ih =>
    refine List.forall_mem_cons.2 ⟨by rw [name]; decide, List.forall_mem_cons.2 ⟨?_, ih⟩⟩
    rw [comma]
    decide

theorem YieldsName.eq_of_unparenthesized {ts : List Token} {id : Ident} (h : YieldsName ts id)
    (plain : Unparenthesized ts) : ∃ t, ts = [t] ∧ t.kind = .identifier ∧ id = ident t := by
  cases h with
  | plain name => exact ⟨_, rfl, name, rfl⟩
  | paren opening _ _ => exact absurd opening (plain _ List.mem_cons_self)

theorem YieldsMoreNames.plainNames {us : List Token} {ids : List Ident}
    (h : YieldsMoreNames us ids) (plain : Unparenthesized us) {t : Token}
    (name : t.kind = .identifier) : PlainNames (t :: us) (ident t :: ids) := by
  induction h generalizing t with
  | last => exact .last name
  | next comma here _ ih =>
    obtain ⟨-, inside⟩ := List.forall_mem_cons.1 plain
    obtain ⟨head, rest⟩ := List.forall_mem_append.1 inside
    obtain ⟨t', rfl, name', rfl⟩ := here.eq_of_unparenthesized head
    exact .next name comma (ih rest name')

/-- Names that may stand in parentheses are plain if no parenthesis opens. -/
theorem plainNames_iff {ts : List Token} {ids : List Ident} (h : YieldsNames ts ids) :
    PlainNames ts ids ↔ Unparenthesized ts := by
  refine ⟨PlainNames.unparenthesized, fun plain => ?_⟩
  cases h with
  | none => exact .none
  | some first others =>
    obtain ⟨head, rest⟩ := List.forall_mem_append.1 plain
    obtain ⟨t, rfl, name, rfl⟩ := first.eq_of_unparenthesized head
    exact others.plainNames rest name

/-! ## The functions of a program -/

/-- What a function is declared as. -/
structure Signature where
  name : Ident
  params : List Ident
  deriving DecidableEq, Repr

mutual

/-- The functions declared by a statement and within it, in the order of their words. -/
def Stmt.functions : Stmt → List Signature
  | .function name params body _ => ⟨name, params⟩ :: Program.functions body
  | .branch _ consequent alternate _ =>
    Program.functions consequent ++ Program.functions alternate
  | .letVar _ _ _ | .letConst _ _ _ | .expr _ => []

/-- The functions declared in a program at any depth, in the order of their words. -/
def Program.functions : List Stmt → List Signature
  | [] => []
  | s :: ss => s.functions ++ Program.functions ss

end

theorem Program.mem_functions_iff {p : Program} {f : Signature} :
    f ∈ Program.functions p ↔ ∃ s ∈ p, f ∈ s.functions := by
  induction p with
  | nil => simp [Program.functions]
  | cons s ss ih => simp [Program.functions, ih]

/-- The functions declared in a node. -/
def Part.functions : Part → List Signature
  | stmt s => s.functions
  | expr _ | property _ | ident _ => []

theorem Part.mem_functions_of_child {n child : Part} {f : Signature} (member : child ∈ n.children)
    (here : f ∈ child.functions) : f ∈ n.functions := by
  -- Only a statement declares functions, and only two kinds of statements are made of statements.
  cases child with
  | stmt s =>
    cases n with
    | stmt t =>
      cases t with
      | function name params body span =>
        have inBody : s ∈ body := by simpa [children] using member
        exact .tail _ (Program.mem_functions_iff.2 ⟨s, inBody, here⟩)
      | branch test consequent alternate span =>
        have inside : s ∈ consequent ∨ s ∈ alternate := by simpa [children] using member
        refine List.mem_append.2 (inside.imp ?_ ?_)
        · exact fun inside => Program.mem_functions_iff.2 ⟨s, inside, here⟩
        · exact fun inside => Program.mem_functions_iff.2 ⟨s, inside, here⟩
      | _ => simp [children] at member
    | expr e => cases e <;> simp [children] at member
    | property p => cases p <;> simp [children] at member
    | ident id => simp [children] at member
  | expr _ | property _ | ident _ => cases here

theorem Part.Has.mem_functions {n m : Part} {f : Signature} (h : n.Has m)
    (here : f ∈ m.functions) : f ∈ n.functions := by
  induction h with
  | refl => exact here
  | tail _ member ih => exact ih (mem_functions_of_child member here)

mutual

theorem Stmt.has_of_mem_functions {f : Signature} (s : Stmt) (member : f ∈ s.functions) :
    ∃ body span, (Part.stmt s).Has (.stmt (.function f.name f.params body span)) := by
  cases s with
  | function name params body span =>
    rcases List.mem_cons.1 member with rfl | inside
    · exact ⟨body, span, .refl⟩
    · obtain ⟨body', span', s, inBody, below⟩ := Program.hasPart_of_mem_functions body inside
      exact ⟨body', span', .head (by simp [Part.children, inBody]) below⟩
  | branch test consequent alternate span =>
    rcases List.mem_append.1 member with inside | inside
    · obtain ⟨body, span, s, isPart, below⟩ :=
        Program.hasPart_of_mem_functions consequent inside
      exact ⟨body, span, .head (by simp [Part.children, isPart]) below⟩
    · obtain ⟨body, span, s, isPart, below⟩ :=
        Program.hasPart_of_mem_functions alternate inside
      exact ⟨body, span, .head (by simp [Part.children, isPart]) below⟩
  | letVar _ _ _ | letConst _ _ _ | expr _ => cases member

theorem Program.hasPart_of_mem_functions {f : Signature} (p : Program)
    (member : f ∈ Program.functions p) :
    ∃ body span, p.HasPart (.stmt (.function f.name f.params body span)) := by
  cases p with
  | nil => cases member
  | cons s ss =>
    rcases List.mem_append.1 member with first | later
    · obtain ⟨body, span, below⟩ := s.has_of_mem_functions first
      exact ⟨body, span, s, List.mem_cons_self, below⟩
    · obtain ⟨body, span, s', isPart, below⟩ := Program.hasPart_of_mem_functions ss later
      exact ⟨body, span, s', .tail _ isPart, below⟩

end

/-- The functions of a program are its declarations, however deep they stand. -/
theorem Program.mem_functions {p : Program} {name : Ident} {params : List Ident} :
    ⟨name, params⟩ ∈ Program.functions p ↔
      ∃ body span, p.HasPart (.stmt (.function name params body span)) := by
  refine ⟨Program.hasPart_of_mem_functions p, ?_⟩
  rintro ⟨body, span, s, member, below⟩
  refine Program.mem_functions_iff.2 ⟨s, member, below.mem_functions ?_⟩
  exact List.mem_cons_self

/-! ## What stands behind the words -/

/-- What stands behind each word of a function, up to the end of the tokens. -/
def functionTails : List Token → List (List Token)
  | [] => []
  | t :: ts => if t.kind = .fnWord then ts :: functionTails ts else functionTails ts

/-- The tokens start with the name of a function and, between parentheses, its parameters, which are
written in a certain way. -/
inductive Header (written : List Token → List Ident → Prop) : List Token → Signature → Prop
  | mk {t l r : Token} {ps after : List Token} {params : List Ident} :
      t.kind = .identifier → l.kind = .openParen → written ps params → r.kind = .closeParen →
      Header written (t :: l :: (ps ++ r :: after)) ⟨ident t, params⟩

theorem functionTails_append {ts : List Token} (wordless : Wordless ts) (us : List Token) :
    functionTails (ts ++ us) = functionTails us := by
  induction ts with
  | nil => rfl
  | cons t ts ih =>
    obtain ⟨other, rest⟩ := List.forall_mem_cons.1 wordless
    rw [List.cons_append, functionTails, if_neg other, ih rest]

/-! ## Statements -/

namespace Cursor

variable {c d e : Cursor} {fs gs : List Signature}

/-- From `c` to `d`, exactly these functions are declared. -/
def Declares (c : Cursor) (fs : List Signature) (d : Cursor) : Prop :=
  ∃ tails, functionTails c.rest = tails ++ functionTails d.rest ∧
    List.Forall₂ (Header YieldsNames) tails fs

theorem Passes.declares (h : c.Passes d) : c.Declares [] d := by
  obtain ⟨ts, reads, wordless⟩ := h
  exact ⟨[], by rw [reads.rest, functionTails_append wordless, List.nil_append], .nil⟩

theorem Declares.trans (first : c.Declares fs d) (second : d.Declares gs e) :
    c.Declares (fs ++ gs) e := by
  obtain ⟨tails, behind, headers⟩ := first
  obtain ⟨tails', behind', headers'⟩ := second
  refine ⟨tails ++ tails', ?_, List.rel_append headers headers'⟩
  rw [behind, behind', List.append_assoc]

/-- What declares nothing may come before. -/
theorem Declares.after (second : d.Declares fs e) (first : c.Passes d) : c.Declares fs e :=
  first.declares.trans second

/-- The word of a function, its name and its parameters. -/
theorem Declares.header {w t l r : Token} {ps : List Token} {params : List Ident}
    (reads : c.Reads (w :: t :: l :: (ps ++ [r])) d) (word : w.kind = .fnWord)
    (name : t.kind = .identifier) (opening : l.kind = .openParen) (wordless : Wordless ps)
    (names : YieldsNames ps params) (closing : r.kind = .closeParen) :
    c.Declares [⟨Parser.ident t, params⟩] d := by
  have rest : c.rest = w :: t :: l :: (ps ++ r :: d.rest) := by simpa using reads.rest
  refine ⟨[t :: l :: (ps ++ r :: d.rest)], ?_, .cons (.mk name opening names closing) .nil⟩
  have others : Wordless ([t, l] ++ (ps ++ [r])) := by
    have closed : Wordless [r] := .singleton (by rw [closing]; decide)
    have opened : Wordless [l] := .singleton (by rw [opening]; decide)
    have named : Wordless [t] := .singleton (by rw [name]; decide)
    exact (named.append opened).append (wordless.append closed)
  have behind := functionTails_append others d.rest
  rw [rest, functionTails, if_pos word]
  simpa using behind

end Cursor

namespace Parser

open Cursor

theorem declaration_declares {c d : Cursor} {s : Stmt}
    (hk : c.peek.kind = .letWord ∨ c.peek.kind = .constWord)
    (h : (declaration c).val = .ok s d) : c.Declares s.functions d := by
  unfold declaration at h
  obtain ⟨w, c₁, hc₁, h₁, h⟩ := Step.of_andThen_ok h
  have p₁ := take_passes_of_ne (by rcases hk with hk | hk <;> rw [hk] <;> decide) h₁
  obtain ⟨t, c₂, hc₂, h₂, h⟩ := Step.of_andThen_ok h
  have p₂ := expect_passes h₂ (by decide)
  simp only at h
  split at h
  · next hz =>
    obtain ⟨z, c₃, hc₃, h₃, h⟩ := Step.of_andThen_ok h
    have p₃ := take_passes hz h₃ (by decide)
    split at h
    · cases h
    · cases h
      exact (p₁.trans (p₂.trans p₃)).declares
  · obtain ⟨q, c₃, hc₃, h₃, h⟩ := Step.of_andThen_ok h
    have p₃ := expect_passes h₃ (by decide)
    obtain ⟨e, c₄, hc₄, h₄, h⟩ := Step.of_andThen_ok h
    have p₄ := (expression_names h₄).passes
    obtain ⟨z, c₅, hc₅, h₅, h⟩ := Step.of_andThen_ok h
    have p₅ := expect_passes h₅ (by decide)
    have passes := p₁.trans (p₂.trans (p₃.trans (p₄.trans p₅)))
    cases h
    split
    · exact passes.declares
    · exact passes.declares

mutual

/-- A statement declares its functions. -/
theorem statement_declares {c d : Cursor} {s : Stmt} (h : (statement c).val = .ok s d) :
    c.Declares s.functions d := by
  rw [statement] at h
  split at h
  · next hk => exact declaration_declares (.inl hk) h
  · next hk => exact declaration_declares (.inr hk) h
  · next hk => exact function_declares hk h
  · next hk => exact branch_declares hk h
  · obtain ⟨e, c₁, hc₁, h₁, h⟩ := Step.of_andThen_ok h
    have p₁ := (expression_names h₁).passes
    split at h
    · next hz =>
      obtain ⟨z, c₂, hc₂, h₂, h⟩ := Step.of_andThen_ok h
      have p₂ := take_passes hz h₂ (by decide)
      cases h
      exact (p₁.trans p₂).declares
    · cases h
      exact p₁.declares
termination_by 10 * c.size + 2
decreasing_by all_goals omega

theorem function_declares {c d : Cursor} {s : Stmt} (hk : c.peek.kind = .fnWord)
    (h : (function c).val = .ok s d) : c.Declares s.functions d := by
  rw [function] at h
  obtain ⟨w, c₁, hc₁, h₁, h⟩ := Step.of_andThen_ok h
  have r₁ := Step.take_ok h₁
  rw [r₁.peek] at hk
  obtain ⟨t, c₂, hc₂, h₂, h⟩ := Step.of_andThen_ok h
  obtain ⟨r₂, k₂⟩ := Step.expect_ok h₂
  obtain ⟨args, c₃, hc₃, h₃, h⟩ := Step.of_andThen_ok h
  obtain ⟨l, r, ps, r₃, kl, kr, w₃, n₃⟩ := arguments_names h₃
  split at h
  · cases h
  · next params hp =>
    -- Arguments were read, but those that pass as parameters are names.
    obtain ⟨rfl, -⟩ := parameters_eq_ok.1 hp
    obtain ⟨o, c₄, hc₄, h₄, h⟩ := Step.of_andThen_ok h
    have p₄ := expect_passes h₄ (by decide)
    obtain ⟨body, c₅, hc₅, h₅, h⟩ := Step.of_andThen_ok h
    have d₅ := block_declares h₅
    cases h
    have header := Declares.header (r₁.trans (r₂.trans r₃)) hk k₂ kl w₃ (n₃ params rfl) kr
    exact header.trans (d₅.after p₄)
termination_by 10 * c.size
decreasing_by all_goals omega

theorem branch_declares {c d : Cursor} {s : Stmt} (hk : c.peek.kind = .ifWord)
    (h : (branch c).val = .ok s d) : c.Declares s.functions d := by
  rw [branch] at h
  obtain ⟨w, c₁, hc₁, h₁, h⟩ := Step.of_andThen_ok h
  have p₁ := take_passes_of_ne (by rw [hk]; decide) h₁
  obtain ⟨l, c₂, hc₂, h₂, h⟩ := Step.of_andThen_ok h
  have p₂ := expect_passes h₂ (by decide)
  obtain ⟨test, c₃, hc₃, h₃, h⟩ := Step.of_andThen_ok h
  have p₃ := (expression_names h₃).passes
  obtain ⟨r, c₄, hc₄, h₄, h⟩ := Step.of_andThen_ok h
  have p₄ := expect_passes h₄ (by decide)
  obtain ⟨o, c₅, hc₅, h₅, h⟩ := Step.of_andThen_ok h
  have p₅ := expect_passes h₅ (by decide)
  obtain ⟨yes, c₆, hc₆, h₆, h⟩ := Step.of_andThen_ok h
  have d₆ := block_declares h₆
  obtain ⟨no, c₇, hc₇, h₇, h⟩ := Step.of_andThen_ok h
  have d₇ := alternative_declares h₇
  cases h
  exact (d₆.after (p₁.trans (p₂.trans (p₃.trans (p₄.trans p₅))))).trans d₇
termination_by 10 * c.size
decreasing_by all_goals omega

theorem alternative_declares {c d : Cursor} {ss : List Stmt}
    (h : (alternative c).val = .ok ss d) : c.Declares (Program.functions ss) d := by
  rw [alternative] at h
  split at h
  · next hk =>
    obtain ⟨w, c₁, hc₁, h₁, h⟩ := Step.of_andThen_ok h
    have p₁ := take_passes hk h₁ (by decide)
    split at h
    · next hk =>
      obtain ⟨s, c₂, hc₂, h₂, h⟩ := Step.of_andThen_ok h
      have d₂ := branch_declares (of_decide_eq_true hk) h₂
      cases h
      rw [Program.functions, Program.functions, List.append_nil]
      exact d₂.after p₁
    · obtain ⟨o, c₂, hc₂, h₂, h⟩ := Step.of_andThen_ok h
      have p₂ := expect_passes h₂ (by decide)
      obtain ⟨stmts, c₃, hc₃, h₃, h⟩ := Step.of_andThen_ok h
      have d₃ := block_declares h₃
      cases h
      exact d₃.after (p₁.trans p₂)
  · cases h
    exact (Passes.refl c).declares
termination_by 10 * c.size
decreasing_by all_goals omega

theorem block_declares {c d : Cursor} {ss : List Stmt} (h : (block c).val = .ok ss d) :
    c.Declares (Program.functions ss) d := by
  rw [block] at h
  split at h
  · obtain ⟨z, c₁, hc₁, h₁, h⟩ := Step.of_andThen_ok h
    have p₁ := expect_passes h₁ (by decide)
    cases h
    exact p₁.declares
  · obtain ⟨s, c₁, hc₁, h₁, h⟩ := Step.of_andThen_ok h
    have d₁ := statement_declares h₁
    obtain ⟨rest, c₂, hc₂, h₂, h⟩ := Step.of_andThen_ok h
    have d₂ := block_declares h₂
    cases h
    exact d₁.trans d₂
termination_by 10 * c.size + 3
decreasing_by all_goals omega

end

/-- A program declares its functions, and reads all tokens there are. -/
theorem program_declares {c d : Cursor} {p : Program} (h : (program c).val = .ok p d) :
    List.Forall₂ (Header YieldsNames) (functionTails c.rest) (Program.functions p) := by
  rw [program] at h
  split at h
  · next hend =>
    cases h
    rw [List.isEmpty_iff.1 hend]
    exact .nil
  · obtain ⟨s, c₁, hc₁, h₁, h⟩ := Step.of_andThen_ok h
    obtain ⟨tails, behind, headers⟩ := statement_declares h₁
    obtain ⟨rest, c₂, hc₂, h₂, h⟩ := Step.of_andThen_ok h
    have later := program_declares h₂
    cases h
    rw [behind]
    exact List.rel_append headers later
termination_by c.size
decreasing_by all_goals omega

end Parser

/-! ## Parameter lists -/

theorem Header.mono {written written' : List Token → List Ident → Prop}
    (weaker : ∀ ts ids, written ts ids → written' ts ids) {tail : List Token} {f : Signature}
    (h : Header written tail f) : Header written' tail f := by
  cases h with
  | mk name opening here closing => exact .mk name opening (weaker _ _ here) closing

/-- In a program read from tokens, there is a function for each word of a function before the end of
the input, in the same order, and these are all declarations at any depth. Behind its word stand its
name and, between parentheses, its parameters, separated by single commas. Each parameter may have
parentheses around it; the list is plain if it has no parentheses, and only then. -/
theorem parameters_as_written {tokens : List Token} {p : Program}
    (h : parseTokens tokens = .ok p) :
    List.Forall₂
      (Header fun ts ids => YieldsNames ts ids ∧ (PlainNames ts ids ↔ Unparenthesized ts))
      (functionTails (tokens.takeWhile (·.kind ≠ .endOfFile))) (Program.functions p) ∧
    ∀ name params, ⟨name, params⟩ ∈ Program.functions p ↔
      ∃ body span, p.HasPart (.stmt (.function name params body span)) := by
  refine ⟨?_, fun name params => Program.mem_functions⟩
  unfold parseTokens at h
  split at h
  · next q d hq =>
    cases h
    have headers := Parser.program_declares (c := .ofTokens tokens) hq
    refine headers.imp fun tail f header => ?_
    exact header.mono fun ts ids names => ⟨names, plainNames_iff names⟩
  · cases h

/-- One function within another, the inner one without parameters. -/
theorem parameters_as_written_nested :
    let token := fun kind text => Token.mk kind text .nowhere
    let tokens := [token .fnWord "funkcija", token .identifier "f", token .openParen "(",
      token .identifier "a", token .comma ",", token .openParen "(", token .identifier "b",
      token .closeParen ")", token .closeParen ")", token .openBrace "\x7b",
      token .fnWord "funkcija", token .identifier "g", token .openParen "(",
      token .closeParen ")", token .openBrace "\x7b", token .closeBrace "\x7d",
      token .closeBrace "\x7d"]
    ∃ p, parseTokens tokens = .ok p ∧ (Program.functions p).length = 2 ∧
      List.Forall₂
        (Header fun ts ids => YieldsNames ts ids ∧ (PlainNames ts ids ↔ Unparenthesized ts))
        (functionTails tokens) (Program.functions p) := by
  intro token tokens
  let p : Program := (parseTokens tokens).toOption.getD []
  have read : parseTokens tokens = .ok p := eq_ok_of_isOk (by decide +kernel) []
  have headers := (parameters_as_written read).1
  have whole : tokens.takeWhile (·.kind ≠ .endOfFile) = tokens := by decide
  rw [whole] at headers
  exact ⟨p, read, headers.length_eq.symm, headers⟩

/-- A function whose only parameter stands in parentheses is read, though the list is not plain. -/
theorem parenthesized_parameter_read :
    let token := fun kind text => Token.mk kind text .nowhere
    let tokens := [token .fnWord "funkcija", token .identifier "f", token .openParen "(",
      token .openParen "(", token .identifier "a", token .closeParen ")", token .closeParen ")",
      token .openBrace "\x7b", token .closeBrace "\x7d"]
    ∃ p, parseTokens tokens = .ok p ∧
      Program.functions p = [⟨⟨"f", .nowhere⟩, [⟨"a", .nowhere⟩]⟩] ∧
      ¬List.Forall₂ (Header PlainNames) (functionTails tokens) (Program.functions p) := by
  intro token tokens
  let p : Program := (parseTokens tokens).toOption.getD []
  have read : parseTokens tokens = .ok p := eq_ok_of_isOk (by decide +kernel) []
  have functions : Program.functions p = [⟨⟨"f", .nowhere⟩, [⟨"a", .nowhere⟩]⟩] := by
    decide +kernel
  refine ⟨p, read, functions, ?_⟩
  rw [functions]
  have tails : functionTails tokens = [tokens.tail] := rfl
  rw [tails]
  intro headers
  obtain ⟨header, -⟩ := List.forall₂_cons.1 headers
  generalize written : tokens.tail = tail, (⟨⟨"f", .nowhere⟩, [⟨"a", .nowhere⟩]⟩ : Signature) = f
    at header
  cases header with
  | @mk t l r ps after params _ _ plain closing =>
    -- The parenthesis that opens next belongs to a plain list as little as it ends one.
    cases ps with
    | nil =>
      obtain ⟨-, -, rfl, -⟩ : _ ∧ _ ∧ token .openParen "(" = r ∧ _ := by
        simpa [tokens] using written
      cases closing
    | cons q qs =>
      obtain ⟨-, -, rfl, -⟩ : _ ∧ _ ∧ token .openParen "(" = q ∧ _ := by
        simpa [tokens] using written
      exact plain.unparenthesized _ List.mem_cons_self rfl

end SloScript
