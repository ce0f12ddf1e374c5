import SloScript.Json
import SloScript.Program

/-!
# Program dumps

A program as a JSON document for other tools: every node is an object with its name as the only key,
its parts in a fixed order and its span last.
-/

namespace SloScript

/-- A name as a document. -/
def Ident.toJson (id : Ident) : Json :=
  .object [("name", .string id.name), ("span", id.span.toJson)]

mutual

/-- An expression as a document. -/
def Expr.toJson : Expr → Json
  | .number x span => .object [("Literal", .array [.object [("Number", .number x)], span.toJson])]
  | .text s span => .object [("Literal", .array [.object [("String", .string s)], span.toJson])]
  | .name id => .object [("Identifier", id.toJson)]
  | .assign target value span =>
    .object [("Assign", .object [("target", target.toJson), ("value", value.toJson),
      ("span", span.toJson)])]
  | .binary op left right span =>
    .object [("Binary", .object [("op", .string op.name), ("left", left.toJson),
      ("right", right.toJson), ("span", span.toJson)])]
  | .member object key span =>
    .object [("Member", .object [("object", object.toJson),
      ("property", .object [("Named", key.toJson)]), ("span", span.toJson)])]
  | .index object key span =>
    .object [("Member", .object [("object", object.toJson),
      ("property", .object [("Computed", key.toJson)]), ("span", span.toJson)])]
  | .call callee args span =>
    .object [("Call", .object [("callee", callee.toJson), ("args", .array (argsToJson args)),
      ("span", span.toJson)])]
  | .object properties span =>
    .object [("Object", .object [("properties", .array (propertiesToJson properties)),
      ("span", span.toJson)])]

/-- Arguments as documents. -/
def argsToJson : List Expr → List Json
  | [] => []
  | arg :: args => arg.toJson :: argsToJson args

/-- One entry of an object as a document. -/
def Property.toJson : Property → Json
  | .shorthand key =>
    .object [("key", key.toJson), ("value", .null), ("span", key.span.toJson)]
  | .keyed key value span =>
    .object [("key", key.toJson), ("value", value.toJson), ("span", span.toJson)]

/-- The entries of an object as documents. -/
def propertiesToJson : List Property → List Json
  | [] => []
  | property :: properties => property.toJson :: propertiesToJson properties

end

mutual

/-- A statement as a document. -/
def Stmt.toJson : Stmt → Json
  | .letVar name init span =>
    .object [("VarDecl", .object [("name", name.toJson), ("constant", .bool false),
      ("init", (init.map Expr.toJson).getD .null), ("span", span.toJson)])]
  | .letConst name init span =>
    .object [("VarDecl", .object [("name", name.toJson), ("constant", .bool true),
      ("init", init.toJson), ("span", span.toJson)])]
  | .function name params body span =>
    .object [("FunctionDecl", .object [("name", name.toJson),
      ("params", .array (params.map Ident.toJson)), ("body", .array (bodyToJson body)),
      ("span", span.toJson)])]
  | .branch test consequent alternate span =>
    .object [("If", .object [("test", test.toJson), ("consequent", .array (bodyToJson consequent)),
      ("alternate", .array (bodyToJson alternate)), ("span", span.toJson)])]
  | .expr e => .object [("Expr", e.toJson)]

/-- Statements as documents. -/
def bodyToJson : List Stmt → List Json
  | [] => []
  | stmt :: body => stmt.toJson :: bodyToJson body

end

namespace Program

/-- The version of the dump's shape. -/
def dumpVersion : Nat := 1

/-- A program as a document, with the version of its shape. -/
def toJson (p : Program) : Json :=
  .object [("ast_version", .nat dumpVersion),
    ("program", .object [("body", .array (bodyToJson p))])]

/-- The text of a program dump. -/
def dump (p : Program) : String := (toJson p).pretty

end Program

end SloScript
