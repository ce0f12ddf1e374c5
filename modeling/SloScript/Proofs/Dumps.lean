import SloScript.Proofs.JsonTexts
import SloScript.Proofs.SyntaxTrees

/-!
# Nothing is lost in a dump

A tree can be recovered from its dump. Each kind of node has a name of its own, and the parts of a
node are found under their names, so different trees are different documents; and different
documents have different texts, whatever names and strings contain. What a document cannot hold are
numbers that are infinite or undefined.

Results:
1. `Tree.Program.eq_of_toJson`: a tree is determined by its document.
2. `Tree.Program.numbers_toJson`: a tree and its document contain the same numbers.
3. `dump_determines_program`: so a tree, and a program, is determined by its dump.
-/

namespace SloScript

/-! ## Parts of nodes -/

theorem Span.eq_of_toJson {s s' : Span} (same : s.toJson = s'.toJson) : s = s' := by
  obtain ⟨_, _, _, _⟩ := s
  obtain ⟨_, _, _, _⟩ := s'
  simpa [Span.toJson] using same

theorem Ident.eq_of_toJson {id id' : Ident} (same : id.toJson = id'.toJson) : id = id' := by
  obtain ⟨name, span⟩ := id
  obtain ⟨name', span'⟩ := id'
  simp only [Ident.toJson, Json.object.injEq, List.cons.injEq, Prod.mk.injEq, Json.string.injEq,
    true_and, and_true] at same
  rw [same.1, Span.eq_of_toJson same.2]

theorem Operator.eq_of_name {op op' : Operator} (same : op.name = op'.name) : op = op' := by
  revert same
  cases op <;> cases op' <;> decide

namespace Tree

theorem Literal.eq_of_toJson {l l' : Literal} (same : l.toJson = l'.toJson) : l = l' := by
  cases l <;> cases l' <;> simp_all [Literal.toJson]

/-! ## Trees -/

theorem Expr.toJson_ne_null (e : Expr) : e.toJson ≠ .null := by
  cases e <;> exact nofun

mutual

theorem Expr.eq_of_toJson : ∀ {e e' : Expr}, e.toJson = e'.toJson → e = e'
  | .literal value span, e', same => by
    cases e' with
    | literal value' span' =>
      obtain ⟨values, spans⟩ : value.toJson = value'.toJson ∧ span.toJson = span'.toJson := by
        simpa [Expr.toJson] using same
      rw [Literal.eq_of_toJson values, Span.eq_of_toJson spans]
    | _ => simp [Expr.toJson] at same
  | .identifier id, e', same => by
    cases e' with
    | identifier id' =>
      have ids : id.toJson = id'.toJson := by simpa [Expr.toJson] using same
      rw [Ident.eq_of_toJson ids]
    | _ => simp [Expr.toJson] at same
  | .assign target value span, e', same => by
    cases e' with
    | assign target' value' span' =>
      obtain ⟨targets, values, spans⟩ : target.toJson = target'.toJson ∧
          value.toJson = value'.toJson ∧ span.toJson = span'.toJson := by
        simpa [Expr.toJson] using same
      rw [Expr.eq_of_toJson targets, Expr.eq_of_toJson values, Span.eq_of_toJson spans]
    | _ => simp [Expr.toJson] at same
  | .binary op left right span, e', same => by
    cases e' with
    | binary op' left' right' span' =>
      obtain ⟨ops, lefts, rights, spans⟩ : op.name = op'.name ∧ left.toJson = left'.toJson ∧
          right.toJson = right'.toJson ∧ span.toJson = span'.toJson := by
        simpa [Expr.toJson] using same
      rw [Operator.eq_of_name ops, Expr.eq_of_toJson lefts, Expr.eq_of_toJson rights,
        Span.eq_of_toJson spans]
    | _ => simp [Expr.toJson] at same
  | .member object key span, e', same => by
    cases e' with
    | member object' key' span' =>
      obtain ⟨objects, keys, spans⟩ : object.toJson = object'.toJson ∧
          key.toJson = key'.toJson ∧ span.toJson = span'.toJson := by
        simpa [Expr.toJson] using same
      rw [Expr.eq_of_toJson objects, MemberKey.eq_of_toJson keys, Span.eq_of_toJson spans]
    | _ => simp [Expr.toJson] at same
  | .call callee args span, e', same => by
    cases e' with
    | call callee' args' span' =>
      obtain ⟨callees, lists, spans⟩ : callee.toJson = callee'.toJson ∧
          argsToJson args = argsToJson args' ∧ span.toJson = span'.toJson := by
        simpa [Expr.toJson] using same
      rw [Expr.eq_of_toJson callees, eq_of_argsToJson lists, Span.eq_of_toJson spans]
    | _ => simp [Expr.toJson] at same
  | .object properties span, e', same => by
    cases e' with
    | object properties' span' =>
      obtain ⟨lists, spans⟩ : propertiesToJson properties = propertiesToJson properties' ∧
          span.toJson = span'.toJson := by
        simpa [Expr.toJson] using same
      rw [eq_of_propertiesToJson lists, Span.eq_of_toJson spans]
    | _ => simp [Expr.toJson] at same
termination_by structural e => e

theorem MemberKey.eq_of_toJson : ∀ {key key' : MemberKey}, key.toJson = key'.toJson → key = key'
  | .named id, key', same => by
    cases key' with
    | named id' =>
      have ids : id.toJson = id'.toJson := by simpa [MemberKey.toJson] using same
      rw [Ident.eq_of_toJson ids]
    | computed => simp [MemberKey.toJson] at same
  | .computed key, key', same => by
    cases key' with
    | named => simp [MemberKey.toJson] at same
    | computed key' =>
      have keys : key.toJson = key'.toJson := by simpa [MemberKey.toJson] using same
      rw [Expr.eq_of_toJson keys]
termination_by structural key => key

theorem Property.eq_of_toJson : ∀ {property property' : Property},
    property.toJson = property'.toJson → property = property'
  | .mk key value span, .mk key' value' span', same => by
    obtain ⟨keys, values, spans⟩ : key.toJson = key'.toJson ∧
        optionToJson value = optionToJson value' ∧ span.toJson = span'.toJson := by
      simpa [Property.toJson] using same
    rw [Ident.eq_of_toJson keys, eq_of_optionToJson values, Span.eq_of_toJson spans]
termination_by structural property => property

theorem eq_of_optionToJson : ∀ {e e' : Option Expr}, optionToJson e = optionToJson e' → e = e'
  | none, e', same => by
    cases e' with
    | none => rfl
    | some e' => exact absurd same.symm e'.toJson_ne_null
  | some e, e', same => by
    cases e' with
    | none => exact absurd same e.toJson_ne_null
    | some e' => rw [Expr.eq_of_toJson (e := e) same]
termination_by structural e => e

theorem eq_of_argsToJson : ∀ {args args' : List Expr}, argsToJson args = argsToJson args' →
    args = args'
  | [], args', same => by
    cases args' with
    | nil => rfl
    | cons => cases same
  | _ :: _, args', same => by
    cases args' with
    | nil => cases same
    | cons =>
      obtain ⟨heads, tails⟩ := List.cons.inj same
      rw [Expr.eq_of_toJson heads, eq_of_argsToJson tails]
termination_by structural args => args

theorem eq_of_propertiesToJson : ∀ {properties properties' : List Property},
    propertiesToJson properties = propertiesToJson properties' → properties = properties'
  | [], properties', same => by
    cases properties' with
    | nil => rfl
    | cons => cases same
  | _ :: _, properties', same => by
    cases properties' with
    | nil => cases same
    | cons =>
      obtain ⟨heads, tails⟩ := List.cons.inj same
      rw [Property.eq_of_toJson heads, eq_of_propertiesToJson tails]
termination_by structural properties => properties

end

mutual

theorem Stmt.eq_of_toJson : ∀ {stmt stmt' : Stmt}, stmt.toJson = stmt'.toJson → stmt = stmt'
  | .varDecl name constant init span, stmt', same => by
    cases stmt' with
    | varDecl name' constant' init' span' =>
      obtain ⟨names, rfl, inits, spans⟩ : name.toJson = name'.toJson ∧ constant = constant' ∧
          optionToJson init = optionToJson init' ∧ span.toJson = span'.toJson := by
        simpa [Stmt.toJson] using same
      rw [Ident.eq_of_toJson names, eq_of_optionToJson inits, Span.eq_of_toJson spans]
    | _ => simp [Stmt.toJson] at same
  | .functionDecl name params body span, stmt', same => by
    cases stmt' with
    | functionDecl name' params' body' span' =>
      obtain ⟨names, lists, bodies, spans⟩ : name.toJson = name'.toJson ∧
          params.map Ident.toJson = params'.map Ident.toJson ∧
          bodyToJson body = bodyToJson body' ∧ span.toJson = span'.toJson := by
        simpa [Stmt.toJson] using same
      have lists := List.map_injective_iff.2 (fun _ _ => Ident.eq_of_toJson) lists
      rw [Ident.eq_of_toJson names, lists, eq_of_bodyToJson bodies, Span.eq_of_toJson spans]
    | _ => simp [Stmt.toJson] at same
  | .branch test consequent alternate span, stmt', same => by
    cases stmt' with
    | branch test' consequent' alternate' span' =>
      obtain ⟨tests, consequents, alternates, spans⟩ : test.toJson = test'.toJson ∧
          bodyToJson consequent = bodyToJson consequent' ∧
          bodyToJson alternate = bodyToJson alternate' ∧ span.toJson = span'.toJson := by
        simpa [Stmt.toJson] using same
      rw [Expr.eq_of_toJson tests, eq_of_bodyToJson consequents, eq_of_bodyToJson alternates,
        Span.eq_of_toJson spans]
    | _ => simp [Stmt.toJson] at same
  | .expr e, stmt', same => by
    cases stmt' with
    | expr e' =>
      have exprs : e.toJson = e'.toJson := by simpa [Stmt.toJson] using same
      rw [Expr.eq_of_toJson exprs]
    | _ => simp [Stmt.toJson] at same
termination_by structural stmt => stmt

theorem eq_of_bodyToJson : ∀ {body body' : List Stmt}, bodyToJson body = bodyToJson body' →
    body = body'
  | [], body', same => by
    cases body' with
    | nil => rfl
    | cons => cases same
  | _ :: _, body', same => by
    cases body' with
    | nil => cases same
    | cons =>
      obtain ⟨heads, tails⟩ := List.cons.inj same
      rw [Stmt.eq_of_toJson heads, eq_of_bodyToJson tails]
termination_by structural body => body

end

/-- Trees with the same document are the same. -/
theorem Program.eq_of_toJson {p q : Program} (same : p.toJson = q.toJson) : p = q :=
  eq_of_bodyToJson (by simpa [Program.toJson] using same)

/-! ## Numbers -/

@[simp]
theorem numbers_span (s : Span) : s.toJson.numbers = [] := rfl

@[simp]
theorem numbers_ident (id : Ident) : id.toJson.numbers = [] := rfl

@[simp]
theorem numbers_literal (l : Literal) : l.toJson.numbers = l.numbers := by
  cases l <;> rfl

attribute [local simp] Json.numbers Json.itemsNumbers Json.fieldsNumbers

mutual

theorem Expr.numbers_toJson : ∀ e : Expr, e.toJson.numbers = e.numbers
  | .literal _ _ => by simp [Expr.toJson, Expr.numbers]
  | .identifier _ => by simp [Expr.toJson, Expr.numbers]
  | .assign target value _ => by
    simp [Expr.toJson, Expr.numbers, target.numbers_toJson, value.numbers_toJson]
  | .binary _ left right _ => by
    simp [Expr.toJson, Expr.numbers, left.numbers_toJson, right.numbers_toJson]
  | .member object key _ => by
    simp [Expr.toJson, Expr.numbers, object.numbers_toJson, key.numbers_toJson]
  | .call callee args _ => by
    simp [Expr.toJson, Expr.numbers, callee.numbers_toJson, numbers_argsToJson args]
  | .object properties _ => by
    simp [Expr.toJson, Expr.numbers, numbers_propertiesToJson properties]

theorem MemberKey.numbers_toJson : ∀ key : MemberKey, key.toJson.numbers = key.numbers
  | .named _ => by simp [MemberKey.toJson, MemberKey.numbers]
  | .computed key => by simp [MemberKey.toJson, MemberKey.numbers, key.numbers_toJson]

theorem Property.numbers_toJson : ∀ property : Property,
    property.toJson.numbers = property.numbers
  | .mk _ value _ => by simp [Property.toJson, Property.numbers, numbers_optionToJson value]

theorem numbers_optionToJson : ∀ e : Option Expr, (optionToJson e).numbers = optionNumbers e
  | none => rfl
  | some e => by simp [optionToJson, optionNumbers, e.numbers_toJson]

theorem numbers_argsToJson : ∀ args : List Expr,
    Json.itemsNumbers (argsToJson args) = argsNumbers args
  | [] => rfl
  | arg :: args => by simp [argsToJson, argsNumbers, arg.numbers_toJson, numbers_argsToJson args]

theorem numbers_propertiesToJson : ∀ properties : List Property,
    Json.itemsNumbers (propertiesToJson properties) = propertiesNumbers properties
  | [] => rfl
  | property :: properties => by
    simp [propertiesToJson, propertiesNumbers, property.numbers_toJson,
      numbers_propertiesToJson properties]

end

theorem numbers_idents (ids : List Ident) : Json.itemsNumbers (ids.map Ident.toJson) = [] := by
  induction ids with
  | nil => rfl
  | cons id ids ih => rw [List.map_cons, Json.itemsNumbers, numbers_ident, ih, List.append_nil]

mutual

theorem Stmt.numbers_toJson : ∀ stmt : Stmt, stmt.toJson.numbers = stmt.numbers
  | .varDecl _ _ init _ => by simp [Stmt.toJson, Stmt.numbers, numbers_optionToJson init]
  | .functionDecl _ params body _ => by
    simp [Stmt.toJson, Stmt.numbers, numbers_idents params, numbers_bodyToJson body]
  | .branch test consequent alternate _ => by
    simp [Stmt.toJson, Stmt.numbers, test.numbers_toJson, numbers_bodyToJson consequent,
      numbers_bodyToJson alternate]
  | .expr e => by simp [Stmt.toJson, Stmt.numbers, e.numbers_toJson]

theorem numbers_bodyToJson : ∀ body : List Stmt,
    Json.itemsNumbers (bodyToJson body) = bodyNumbers body
  | [] => rfl
  | stmt :: body => by
    simp [bodyToJson, bodyNumbers, stmt.numbers_toJson, numbers_bodyToJson body]

end

/-- A tree and its document contain the same numbers. -/
theorem Program.numbers_toJson (p : Program) : p.toJson.numbers = bodyNumbers p := by
  simp [Program.toJson, numbers_bodyToJson]

/-- A tree without infinite or undefined numbers. -/
def Program.AllFinite (p : Program) : Prop := ∀ x ∈ bodyNumbers p, Binary.isFinite x = true

instance (p : Program) : Decidable p.AllFinite :=
  inferInstanceAs (Decidable (∀ x ∈ bodyNumbers p, Binary.isFinite x = true))

/-- Trees with the same dump are the same. -/
theorem Program.eq_of_dump {p q : Program} (finite : p.AllFinite) (finite' : q.AllFinite)
    (same : p.dump = q.dump) : p = q := by
  refine Program.eq_of_toJson (Json.eq_of_pretty ?_ ?_ same)
  · rwa [Json.AllFinite, p.numbers_toJson]
  · rwa [Json.AllFinite, q.numbers_toJson]

/-- A text is the dump of at most one tree, so dumps can be read back. -/
theorem Program.exists_reader : ∃ read : String → Option Program,
    ∀ text p, read text = some p ↔ p.AllFinite ∧ p.dump = text := by
  let dumpFinite (p : { p : Program // p.AllFinite }) : String := dump p.1
  have injective : Function.Injective dumpFinite := fun p q same =>
    Subtype.ext (Program.eq_of_dump p.2 q.2 same)
  have inverse := injective.isPartialInv
  refine ⟨fun text => (Function.partialInv dumpFinite text).map Subtype.val, fun text p => ?_⟩
  rw [Option.map_eq_some_iff]
  constructor
  · rintro ⟨q, found, rfl⟩
    exact ⟨q.2, (inverse q text).1 found⟩
  · rintro ⟨finite, dumped⟩
    exact ⟨⟨p, finite⟩, (inverse ⟨p, finite⟩ text).2 dumped, rfl⟩

end Tree

/-- Nothing is lost in a dump, whatever names and strings contain. Trees of finite numbers with the
same dump are the same, with all their spans, and there is a reader that finds the tree again from
the dump. A program is dumped as the tree that it is, so the same holds of programs. -/
theorem dump_determines_program :
    (∀ p q : Tree.Program, p.AllFinite → q.AllFinite → p.dump = q.dump → p = q) ∧
    (∃ read : String → Option Tree.Program,
      ∀ text p, read text = some p ↔ p.AllFinite ∧ p.dump = text) ∧
    (∀ p : Program, p.tree.dump = p.dump) ∧
    (∀ p q : Program, p.tree.AllFinite → q.tree.AllFinite → p.dump = q.dump → p = q) := by
  refine ⟨fun p q => Tree.Program.eq_of_dump, Tree.Program.exists_reader, Program.dump_tree,
    fun p q finite finite' same => Program.tree_injective ?_⟩
  rw [← p.dump_tree, ← q.dump_tree] at same
  exact Tree.Program.eq_of_dump finite finite' same

/-- A string with a quote, a line feed and a backslash in it is not taken for two strings, and a
constant without a value, which no program has, is not taken for a variable. -/
theorem dump_determines_program_escaped :
    let one : Tree.Program := [.expr (.literal (.text "a\",\n\\") .nowhere)]
    let two : Tree.Program :=
      [.expr (.literal (.text "a") .nowhere), .expr (.literal (.number 1.5) .nowhere)]
    let bare (constant : Bool) : Tree.Program := [.varDecl ⟨"a", .nowhere⟩ constant none .nowhere]
    one.dump ≠ two.dump ∧ (bare true).dump ≠ (bare false).dump := by
  intro one two bare
  constructor
  · intro same
    exact absurd (dump_determines_program.1 one two (by decide) (by decide) same)
      (by simp [one, two])
  · intro same
    exact absurd (dump_determines_program.1 (bare true) (bare false) (by decide) (by decide) same)
      (by simp [bare])

end SloScript
