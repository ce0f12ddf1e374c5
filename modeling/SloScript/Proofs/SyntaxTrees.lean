import SloScript.Program.Dump

/-!
# Syntax trees with all their fields

A dump shows a tree with more freedom than programs have: a declaration says whether it is constant
and may or may not have a value, and an entry of an object has a span of its own even if it has only
a key. Programs are those trees where a constant has a value and a key alone is the whole entry.

Each node is written as its kind with its parts, in a fixed order and under fixed names. A node of a
kind that has only one part is that part; one that has parts without names is a list of them.

Results:
1. `Program.dump_tree`: programs are dumped as the trees that they are.
2. `Program.tree_injective`: no two programs are the same tree.
-/

namespace SloScript

namespace Tree

/-- The value of a literal. -/
inductive Literal where
  | number (x : Float)
  | text (s : String)

mutual

/-- An expression. -/
inductive Expr where
  | literal (value : Literal) (span : Span)
  | identifier (id : Ident)
  | assign (target value : Expr) (span : Span)
  | binary (op : Operator) (left right : Expr) (span : Span)
  | member (object : Expr) (key : MemberKey) (span : Span)
  | call (callee : Expr) (args : List Expr) (span : Span)
  | object (properties : List Property) (span : Span)

/-- The name of a property, written or computed. -/
inductive MemberKey where
  | named (key : Ident)
  | computed (key : Expr)

/-- An entry of a new object. -/
inductive Property where
  | mk (key : Ident) (value : Option Expr) (span : Span)

end

/-- A statement. -/
inductive Stmt where
  | varDecl (name : Ident) (constant : Bool) (init : Option Expr) (span : Span)
  | functionDecl (name : Ident) (params : List Ident) (body : List Stmt) (span : Span)
  | branch (test : Expr) (consequent alternate : List Stmt) (span : Span)
  | expr (e : Expr)

/-- The root of a tree. -/
abbrev Program := List Stmt

/-! ## Dumps of trees -/

/-- A literal as a document. -/
def Literal.toJson : Literal → Json
  | .number x => .object [("Number", .number x)]
  | .text s => .object [("String", .string s)]

mutual

/-- An expression as a document. -/
def Expr.toJson : Expr → Json
  | .literal value span => .object [("Literal", .array [value.toJson, span.toJson])]
  | .identifier id => .object [("Identifier", id.toJson)]
  | .assign target value span =>
    .object [("Assign", .object [("target", target.toJson), ("value", value.toJson),
      ("span", span.toJson)])]
  | .binary op left right span =>
    .object [("Binary", .object [("op", .string op.name), ("left", left.toJson),
      ("right", right.toJson), ("span", span.toJson)])]
  | .member object key span =>
    .object [("Member", .object [("object", object.toJson), ("property", key.toJson),
      ("span", span.toJson)])]
  | .call callee args span =>
    .object [("Call", .object [("callee", callee.toJson), ("args", .array (argsToJson args)),
      ("span", span.toJson)])]
  | .object properties span =>
    .object [("Object", .object [("properties", .array (propertiesToJson properties)),
      ("span", span.toJson)])]

/-- The name of a property as a document. -/
def MemberKey.toJson : MemberKey → Json
  | .named key => .object [("Named", key.toJson)]
  | .computed key => .object [("Computed", key.toJson)]

/-- An entry as a document. -/
def Property.toJson : Property → Json
  | .mk key value span =>
    .object [("key", key.toJson), ("value", optionToJson value), ("span", span.toJson)]

/-- An expression as a document, or null if there is none. -/
def optionToJson : Option Expr → Json
  | none => .null
  | some e => e.toJson

/-- Arguments as documents. -/
def argsToJson : List Expr → List Json
  | [] => []
  | arg :: args => arg.toJson :: argsToJson args

/-- Entries as documents. -/
def propertiesToJson : List Property → List Json
  | [] => []
  | property :: properties => property.toJson :: propertiesToJson properties

end

mutual

/-- A statement as a document. -/
def Stmt.toJson : Stmt → Json
  | .varDecl name constant init span =>
    .object [("VarDecl", .object [("name", name.toJson), ("constant", .bool constant),
      ("init", optionToJson init), ("span", span.toJson)])]
  | .functionDecl name params body span =>
    .object [("FunctionDecl", .object [("name", name.toJson),
      ("params", .array (params.map Ident.toJson)), ("body", .array (bodyToJson body)),
      ("span", span.toJson)])]
  | .branch test consequent alternate span =>
    .object [("If", .object [("test", test.toJson), ("consequent", .array (bodyToJson consequent)),
      ("alternate", .array (bodyToJson alternate)), ("span", span.toJson)])]
  | .expr e => .object [("Expr", e.toJson)]

/-- Statements as documents. -/
def bodyToJson : List Stmt → List Json
  | [] => []
  | stmt :: body => stmt.toJson :: bodyToJson body

end

/-- A tree as a document, with the version of its shape. -/
def Program.toJson (p : Program) : Json :=
  .object [("ast_version", .nat SloScript.Program.dumpVersion),
    ("program", .object [("body", .array (bodyToJson p))])]

/-- The text of a dump. -/
def Program.dump (p : Program) : String := p.toJson.pretty

/-! ## Numbers in trees -/

/-- The number that a literal is. -/
def Literal.numbers : Literal → List Float
  | .number x => [x]
  | .text _ => []

mutual

/-- The numbers in an expression. -/
def Expr.numbers : Expr → List Float
  | .literal value _ => value.numbers
  | .identifier _ => []
  | .assign left right _ | .binary _ left right _ => left.numbers ++ right.numbers
  | .member object key _ => object.numbers ++ key.numbers
  | .call callee args _ => callee.numbers ++ argsNumbers args
  | .object properties _ => propertiesNumbers properties

/-- The numbers in the name of a property. -/
def MemberKey.numbers : MemberKey → List Float
  | .named _ => []
  | .computed key => key.numbers

/-- The numbers in an entry. -/
def Property.numbers : Property → List Float
  | .mk _ value _ => optionNumbers value

/-- The numbers in an expression, if there is one. -/
def optionNumbers : Option Expr → List Float
  | none => []
  | some e => e.numbers

/-- The numbers in arguments. -/
def argsNumbers : List Expr → List Float
  | [] => []
  | arg :: args => arg.numbers ++ argsNumbers args

/-- The numbers in entries. -/
def propertiesNumbers : List Property → List Float
  | [] => []
  | property :: properties => property.numbers ++ propertiesNumbers properties

end

mutual

/-- The numbers in a statement. -/
def Stmt.numbers : Stmt → List Float
  | .varDecl _ _ init _ => optionNumbers init
  | .functionDecl _ _ body _ => bodyNumbers body
  | .branch test consequent alternate _ =>
    test.numbers ++ bodyNumbers consequent ++ bodyNumbers alternate
  | .expr e => e.numbers

/-- The numbers in statements. -/
def bodyNumbers : List Stmt → List Float
  | [] => []
  | stmt :: body => stmt.numbers ++ bodyNumbers body

end

end Tree

/-! ## Programs as trees -/

mutual

/-- An expression as a tree. -/
def Expr.tree : Expr → Tree.Expr
  | .number x span => .literal (.number x) span
  | .text s span => .literal (.text s) span
  | .name id => .identifier id
  | .assign target value span => .assign target.tree value.tree span
  | .binary op left right span => .binary op left.tree right.tree span
  | .member object key span => .member object.tree (.named key) span
  | .index object key span => .member object.tree (.computed key.tree) span
  | .call callee args span => .call callee.tree (argsTree args) span
  | .object properties span => .object (propertiesTree properties) span

/-- Arguments as trees. -/
def argsTree : List Expr → List Tree.Expr
  | [] => []
  | arg :: args => arg.tree :: argsTree args

/-- An entry as a tree. A key alone is the whole entry. -/
def Property.tree : Property → Tree.Property
  | .shorthand key => .mk key none key.span
  | .keyed key value span => .mk key (some value.tree) span

/-- Entries as trees. -/
def propertiesTree : List Property → List Tree.Property
  | [] => []
  | property :: properties => property.tree :: propertiesTree properties

end

mutual

/-- A statement as a tree. -/
def Stmt.tree : Stmt → Tree.Stmt
  | .letVar name none span => .varDecl name false none span
  | .letVar name (some init) span => .varDecl name false (some init.tree) span
  | .letConst name init span => .varDecl name true (some init.tree) span
  | .function name params body span => .functionDecl name params (bodyTree body) span
  | .branch test consequent alternate span =>
    .branch test.tree (bodyTree consequent) (bodyTree alternate) span
  | .expr e => .expr e.tree

/-- Statements as trees. -/
def bodyTree : List Stmt → List Tree.Stmt
  | [] => []
  | stmt :: body => stmt.tree :: bodyTree body

end

/-- A program as a tree. -/
def Program.tree (p : Program) : Tree.Program := bodyTree p

/-! ## The dump of a program -/

mutual

theorem Expr.toJson_tree : ∀ e : Expr, e.tree.toJson = e.toJson
  | .number _ _ | .text _ _ | .name _ => rfl
  | .assign target value _ => by
    simp only [Expr.tree, Tree.Expr.toJson, Expr.toJson, target.toJson_tree, value.toJson_tree]
  | .binary _ left right _ => by
    simp only [Expr.tree, Tree.Expr.toJson, Expr.toJson, left.toJson_tree, right.toJson_tree]
  | .member object _ _ => by
    simp only [Expr.tree, Tree.Expr.toJson, Tree.MemberKey.toJson, Expr.toJson,
      object.toJson_tree]
  | .index object key _ => by
    simp only [Expr.tree, Tree.Expr.toJson, Tree.MemberKey.toJson, Expr.toJson,
      object.toJson_tree, key.toJson_tree]
  | .call callee args _ => by
    simp only [Expr.tree, Tree.Expr.toJson, Expr.toJson, callee.toJson_tree, argsToJson_tree args]
  | .object properties _ => by
    simp only [Expr.tree, Tree.Expr.toJson, Expr.toJson, propertiesToJson_tree properties]

theorem argsToJson_tree : ∀ args : List Expr, Tree.argsToJson (argsTree args) = argsToJson args
  | [] => rfl
  | arg :: args => by
    simp only [argsTree, Tree.argsToJson, argsToJson, arg.toJson_tree, argsToJson_tree args]

theorem Property.toJson_tree : ∀ property : Property, property.tree.toJson = property.toJson
  | .shorthand _ => rfl
  | .keyed _ value _ => by
    simp only [Property.tree, Tree.Property.toJson, Tree.optionToJson, Property.toJson,
      value.toJson_tree]

theorem propertiesToJson_tree : ∀ properties : List Property,
    Tree.propertiesToJson (propertiesTree properties) = propertiesToJson properties
  | [] => rfl
  | property :: properties => by
    simp only [propertiesTree, Tree.propertiesToJson, propertiesToJson, property.toJson_tree,
      propertiesToJson_tree properties]

end

mutual

theorem Stmt.toJson_tree : ∀ stmt : Stmt, stmt.tree.toJson = stmt.toJson
  | .letVar _ none _ => rfl
  | .letVar _ (some init) _ => by
    simp only [Stmt.tree, Tree.Stmt.toJson, Tree.optionToJson, Stmt.toJson, Option.map_some,
      Option.getD_some, init.toJson_tree]
  | .letConst _ init _ => by
    simp only [Stmt.tree, Tree.Stmt.toJson, Tree.optionToJson, Stmt.toJson, init.toJson_tree]
  | .function _ _ body _ => by
    simp only [Stmt.tree, Tree.Stmt.toJson, Stmt.toJson, bodyToJson_tree body]
  | .branch test consequent alternate _ => by
    simp only [Stmt.tree, Tree.Stmt.toJson, Stmt.toJson, test.toJson_tree,
      bodyToJson_tree consequent, bodyToJson_tree alternate]
  | .expr e => by simp only [Stmt.tree, Tree.Stmt.toJson, Stmt.toJson, e.toJson_tree]

theorem bodyToJson_tree : ∀ body : List Stmt, Tree.bodyToJson (bodyTree body) = bodyToJson body
  | [] => rfl
  | stmt :: body => by
    simp only [bodyTree, Tree.bodyToJson, bodyToJson, stmt.toJson_tree, bodyToJson_tree body]

end

/-- A program is dumped as the tree that it is. -/
theorem Program.dump_tree (p : Program) : p.tree.dump = p.dump := by
  unfold Tree.Program.dump Tree.Program.toJson Program.dump Program.toJson Program.tree
  rw [bodyToJson_tree]

/-! ## Different programs -/

mutual

theorem Expr.eq_of_tree : ∀ {e e' : Expr}, e.tree = e'.tree → e = e'
  | .number _ _, e', same => by cases e' <;> cases same; rfl
  | .text _ _, e', same => by cases e' <;> cases same; rfl
  | .name _, e', same => by cases e' <;> cases same; rfl
  | .assign target value _, e', same => by
    cases e' with
    | assign target' value' _ =>
      obtain ⟨targets, values, rfl⟩ := Tree.Expr.assign.inj same
      rw [Expr.eq_of_tree targets, Expr.eq_of_tree values]
    | _ => cases same
  | .binary _ left right _, e', same => by
    cases e' with
    | binary _ left' right' _ =>
      obtain ⟨rfl, lefts, rights, rfl⟩ := Tree.Expr.binary.inj same
      rw [Expr.eq_of_tree lefts, Expr.eq_of_tree rights]
    | _ => cases same
  | .member object _ _, e', same => by
    cases e' with
    | member object' _ _ =>
      obtain ⟨objects, keys, rfl⟩ := Tree.Expr.member.inj same
      rw [Expr.eq_of_tree objects, Tree.MemberKey.named.inj keys]
    | index => cases (Tree.Expr.member.inj same).2.1
    | _ => cases same
  | .index object key _, e', same => by
    cases e' with
    | index object' key' _ =>
      obtain ⟨objects, keys, rfl⟩ := Tree.Expr.member.inj same
      rw [Expr.eq_of_tree objects, Expr.eq_of_tree (Tree.MemberKey.computed.inj keys)]
    | member => cases (Tree.Expr.member.inj same).2.1
    | _ => cases same
  | .call callee args _, e', same => by
    cases e' with
    | call callee' args' _ =>
      obtain ⟨callees, lists, rfl⟩ := Tree.Expr.call.inj same
      rw [Expr.eq_of_tree callees, eq_of_argsTree lists]
    | _ => cases same
  | .object properties _, e', same => by
    cases e' with
    | object properties' _ =>
      obtain ⟨lists, rfl⟩ := Tree.Expr.object.inj same
      rw [eq_of_propertiesTree lists]
    | _ => cases same
termination_by structural e => e

theorem eq_of_argsTree : ∀ {args args' : List Expr}, argsTree args = argsTree args' → args = args'
  | [], args', same => by
    cases args' with
    | nil => rfl
    | cons => cases same
  | arg :: args, args', same => by
    cases args' with
    | nil => cases same
    | cons arg' args' =>
      obtain ⟨heads, tails⟩ := List.cons.inj same
      rw [Expr.eq_of_tree heads, eq_of_argsTree tails]
termination_by structural args => args

theorem Property.eq_of_tree : ∀ {property property' : Property},
    property.tree = property'.tree → property = property'
  | .shorthand _, property', same => by
    cases property' with
    | shorthand => rw [(Tree.Property.mk.inj same).1]
    | keyed => cases (Tree.Property.mk.inj same).2.1
  | .keyed _ value _, property', same => by
    cases property' with
    | shorthand => cases (Tree.Property.mk.inj same).2.1
    | keyed _ value' _ =>
      obtain ⟨rfl, values, rfl⟩ := Tree.Property.mk.inj same
      rw [Expr.eq_of_tree (Option.some.inj values)]
termination_by structural property => property

theorem eq_of_propertiesTree : ∀ {properties properties' : List Property},
    propertiesTree properties = propertiesTree properties' → properties = properties'
  | [], properties', same => by
    cases properties' with
    | nil => rfl
    | cons => cases same
  | property :: properties, properties', same => by
    cases properties' with
    | nil => cases same
    | cons property' properties' =>
      obtain ⟨heads, tails⟩ := List.cons.inj same
      rw [Property.eq_of_tree heads, eq_of_propertiesTree tails]
termination_by structural properties => properties

end

mutual

theorem Stmt.eq_of_tree : ∀ {stmt stmt' : Stmt}, stmt.tree = stmt'.tree → stmt = stmt'
  | .letVar _ init _, stmt', same => by
    cases stmt' with
    | letVar _ init' _ =>
      cases init with
      | none =>
        cases init' with
        | none =>
          obtain ⟨rfl, -, -, rfl⟩ := Tree.Stmt.varDecl.inj same
          rfl
        | some => cases (Tree.Stmt.varDecl.inj same).2.2.1
      | some init =>
        cases init' with
        | none => cases (Tree.Stmt.varDecl.inj same).2.2.1
        | some init' =>
          obtain ⟨rfl, -, inits, rfl⟩ := Tree.Stmt.varDecl.inj same
          rw [Expr.eq_of_tree (Option.some.inj inits)]
    | letConst => cases init <;> cases (Tree.Stmt.varDecl.inj same).2.1
    | _ => cases init <;> cases same
  | .letConst _ init _, stmt', same => by
    cases stmt' with
    | letVar _ init' _ => cases init' <;> cases (Tree.Stmt.varDecl.inj same).2.1
    | letConst _ init' _ =>
      obtain ⟨rfl, -, inits, rfl⟩ := Tree.Stmt.varDecl.inj same
      rw [Expr.eq_of_tree (Option.some.inj inits)]
    | _ => cases same
  | .function _ _ body _, stmt', same => by
    cases stmt' with
    | letVar _ init' _ => cases init' <;> cases same
    | function _ _ body' _ =>
      obtain ⟨rfl, rfl, bodies, rfl⟩ := Tree.Stmt.functionDecl.inj same
      rw [eq_of_bodyTree bodies]
    | _ => cases same
  | .branch _ consequent alternate _, stmt', same => by
    cases stmt' with
    | letVar _ init' _ => cases init' <;> cases same
    | branch _ consequent' alternate' _ =>
      obtain ⟨tests, consequents, alternates, rfl⟩ := Tree.Stmt.branch.inj same
      rw [Expr.eq_of_tree tests, eq_of_bodyTree consequents, eq_of_bodyTree alternates]
    | _ => cases same
  | .expr _, stmt', same => by
    cases stmt' with
    | letVar _ init' _ => cases init' <;> cases same
    | expr _ => rw [Expr.eq_of_tree (Tree.Stmt.expr.inj same)]
    | _ => cases same
termination_by structural stmt => stmt

theorem eq_of_bodyTree : ∀ {body body' : List Stmt}, bodyTree body = bodyTree body' → body = body'
  | [], body', same => by
    cases body' with
    | nil => rfl
    | cons => cases same
  | stmt :: body, body', same => by
    cases body' with
    | nil => cases same
    | cons stmt' body' =>
      obtain ⟨heads, tails⟩ := List.cons.inj same
      rw [Stmt.eq_of_tree heads, eq_of_bodyTree tails]
termination_by structural body => body

end

/-- No two programs are the same tree. -/
theorem Program.tree_injective : Function.Injective Program.tree := fun _ _ => eq_of_bodyTree

end SloScript
