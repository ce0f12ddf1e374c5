import SloScript.Operator
import SloScript.Span

/-!
# Programs

The tree that a source text stands for. Every node carries the span it was read from. Parentheses
leave no trace, and a constant without a value cannot be expressed.
-/

namespace SloScript

/-- A name where it is written. -/
structure Ident where
  name : String
  span : Span
  deriving DecidableEq, Repr

mutual

/-- An expression. -/
inductive Expr where
  | number (value : Float) (span : Span)
  | text (value : String) (span : Span)
  /-- The value of a variable. -/
  | name (id : Ident)
  /-- An assignment. Any expression may stand on the left; most are refused when they run. -/
  | assign (target value : Expr) (span : Span)
  | binary (op : Operator) (left right : Expr) (span : Span)
  /-- The property with a written name. -/
  | member (object : Expr) (key : Ident) (span : Span)
  /-- The property with a computed name. -/
  | index (object key : Expr) (span : Span)
  | call (callee : Expr) (args : List Expr) (span : Span)
  /-- A new object. -/
  | object (properties : List Property) (span : Span)

/-- One entry of a new object. -/
inductive Property where
  /-- The key alone: the property takes the value of the variable of the same name. -/
  | shorthand (key : Ident)
  | keyed (key : Ident) (value : Expr) (span : Span)

end

/-- A statement. -/
inductive Stmt where
  /-- A variable; without a value it starts as null. -/
  | letVar (name : Ident) (init : Option Expr) (span : Span)
  | letConst (name : Ident) (init : Expr) (span : Span)
  | function (name : Ident) (params : List Ident) (body : List Stmt) (span : Span)
  | branch (test : Expr) (consequent alternate : List Stmt) (span : Span)
  | expr (e : Expr)

/-- A program is a list of statements. -/
abbrev Program := List Stmt

/-- Where an expression is written. -/
def Expr.span : Expr → Span
  | number _ span | text _ span | assign _ _ span | binary _ _ _ span | member _ _ span
  | index _ _ span | call _ _ span | object _ span => span
  | name id => id.span

/-- The name of the property that an entry sets. -/
def Property.key : Property → Ident
  | shorthand key => key
  | keyed key _ _ => key

/-- Where an entry is written. -/
def Property.span : Property → Span
  | shorthand key => key.span
  | keyed _ _ span => span

/-- Where a statement is written. -/
def Stmt.span : Stmt → Span
  | letVar _ _ span | letConst _ _ span | function _ _ _ span | branch _ _ _ span => span
  | expr e => e.span

end SloScript
