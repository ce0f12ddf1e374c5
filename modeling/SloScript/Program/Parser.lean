import SloScript.Number.Reader
import SloScript.Program
import SloScript.Program.Cursor
import SloScript.Token.Lexer

/-!
# From tokens to programs

Each function reads one construct from a cursor, deciding by the next token alone. Expressions have
tiers, from loosest to tightest: assignment (to the right), new object, sum and comparison (to the
left), product (to the left), call, property, primary. Reading stops at the first fault and says
where the cursor stood.
-/

namespace SloScript

namespace Parser

/-- The operator of the tier of sums and comparisons that comes next. A token of arithmetic must be
a sum or difference; for a comparison the text decides. -/
def sumOperator? (c : Cursor) : Option Operator :=
  let t := c.peek
  match t.kind with
  | .binaryOperator => (Operator.ofSymbol? t.text).filter Operator.isSum
  | .equalEquals | .bangEquals | .less | .lessEquals | .greater | .greaterEquals =>
    Operator.ofSymbol? t.text
  | _ => none

/-- The operator of the tier of products that comes next. -/
def productOperator? (c : Cursor) : Option Operator :=
  let t := c.peek
  if t.kind = .binaryOperator then (Operator.ofSymbol? t.text).filter Operator.isMultiplicative
  else none

/-- A binary expression, which covers its two operands. -/
def binary (op : Operator) (left right : Expr) : Expr :=
  .binary op left right (left.span.merge right.span)

/-- An identifier token as a name. -/
def ident (t : Token) : Ident := ⟨t.text, t.span⟩

mutual

/-- An expression: an operand, or an assignment whose value is an expression again. -/
def expression (c : Cursor) : Step 1 c Expr :=
  (operand c).andThen fun target d _ =>
    if d.sees .equals then
      (Step.take d).andThen fun _ e _ =>
        (expression e).andThen fun value f _ =>
          Step.done (.assign target value (target.span.merge value.span)) f
    else Step.done target d
termination_by 10 * c.size + 6
decreasing_by all_goals omega

/-- A new object after an opening brace, otherwise a sum. -/
def operand (c : Cursor) : Step 1 c Expr :=
  if c.sees .openBrace then
    (Step.take c).andThen fun opening d _ =>
      (properties d).andThen fun entries e _ =>
        (Step.expect .closeBrace e).andThen fun _ f _ =>
          Step.done (.object entries (f.spanFrom opening.span)) f
  else sum c
termination_by 10 * c.size + 5
decreasing_by all_goals omega

/-- The entries of a new object up to its closing brace. -/
def properties (c : Cursor) : Step 0 c (List Property) :=
  if c.sees .closeBrace || c.atEnd then Step.done [] c
  else
    (Step.expect .identifier c).andThen fun name d _ =>
      let key := ident name
      if d.sees .comma then
        (Step.take d).andThen fun _ e _ =>
          (properties e).andThen fun entries f _ => Step.done (.shorthand key :: entries) f
      else if d.sees .closeBrace then
        Step.done [.shorthand key] d
      else
        (Step.expect .colon d).andThen fun _ e _ =>
          (expression e).andThen fun value f _ =>
            let entry := Property.keyed key value (key.span.merge value.span)
            if f.sees .closeBrace then Step.done [entry] f
            else
              (Step.expect .comma f).andThen fun _ g _ =>
                (properties g).andThen fun entries h _ => Step.done (entry :: entries) h
termination_by 10 * c.size
decreasing_by all_goals omega

/-- Products joined by sums and comparisons. -/
def sum (c : Cursor) : Step 1 c Expr :=
  (product c).andThen fun left d _ => sumRest left d
termination_by 10 * c.size + 4
decreasing_by all_goals omega

/-- The sums and comparisons that continue `left`. -/
def sumRest (left : Expr) (c : Cursor) : Step 0 c Expr :=
  match sumOperator? c with
  | none => Step.done left c
  | some op =>
    (Step.take c).andThen fun _ d _ =>
      (product d).andThen fun right e _ => sumRest (binary op left right) e
termination_by 10 * c.size
decreasing_by all_goals omega

/-- Calls joined by products. -/
def product (c : Cursor) : Step 1 c Expr :=
  (call c).andThen fun left d _ => productRest left d
termination_by 10 * c.size + 3
decreasing_by all_goals omega

/-- The products that continue `left`. -/
def productRest (left : Expr) (c : Cursor) : Step 0 c Expr :=
  match productOperator? c with
  | none => Step.done left c
  | some op =>
    (Step.take c).andThen fun _ d _ =>
      (call d).andThen fun right e _ => productRest (binary op left right) e
termination_by 10 * c.size
decreasing_by all_goals omega

/-- A property chain and the calls made on it. -/
def call (c : Cursor) : Step 1 c Expr :=
  (member c).andThen fun callee d _ => callRest callee d
termination_by 10 * c.size + 2
decreasing_by all_goals omega

/-- The calls that continue `callee`. -/
def callRest (callee : Expr) (c : Cursor) : Step 0 c Expr :=
  if c.sees .openParen then
    (arguments c).andThen fun args d _ =>
      callRest (.call callee args (d.spanFrom callee.span)) d
  else Step.done callee c
termination_by 10 * c.size + 1
decreasing_by all_goals omega

/-- Expressions between parentheses, separated by commas. -/
def arguments (c : Cursor) : Step 1 c (List Expr) :=
  (Step.expect .openParen c).andThen fun _ d _ =>
    if d.sees .closeParen then
      (Step.take d).andThen fun _ e _ => Step.done [] e
    else
      (expression d).andThen fun first e _ =>
        (argumentsRest e).andThen fun others f _ =>
          (Step.expect .closeParen f).andThen fun _ g _ => Step.done (first :: others) g
termination_by 10 * c.size
decreasing_by all_goals omega

/-- The arguments after the first, each behind a comma. -/
def argumentsRest (c : Cursor) : Step 0 c (List Expr) :=
  if c.sees .comma then
    (Step.take c).andThen fun _ d _ =>
      (expression d).andThen fun arg e _ =>
        (argumentsRest e).andThen fun others f _ => Step.done (arg :: others) f
  else Step.done [] c
termination_by 10 * c.size
decreasing_by all_goals omega

/-- A primary and the properties read from it. -/
def member (c : Cursor) : Step 1 c Expr :=
  (primary c).andThen fun object d _ => memberRest object d
termination_by 10 * c.size + 1
decreasing_by all_goals omega

/-- The properties that continue `object`. -/
def memberRest (object : Expr) (c : Cursor) : Step 0 c Expr :=
  if c.sees .dot then
    (Step.take c).andThen fun _ d _ =>
      if d.sees .identifier then
        (Step.take d).andThen fun name e _ =>
          memberRest (.member object (ident name) (e.spanFrom object.span)) e
      else Step.fail (.invalidMemberAccess d.peek.kind) d.peek.span d
  else if c.sees .openBracket then
    (Step.take c).andThen fun _ d _ =>
      (expression d).andThen fun key e _ =>
        (Step.expect .closeBracket e).andThen fun _ f _ =>
          memberRest (.index object key (f.spanFrom object.span)) f
  else Step.done object c
termination_by 10 * c.size
decreasing_by all_goals omega

/-- A name, a literal, or an expression in parentheses. -/
def primary (c : Cursor) : Step 1 c Expr :=
  match c.peek.kind with
  | .identifier => (Step.take c).andThen fun t d _ => Step.done (.name (ident t)) d
  | .number =>
    (Step.take c).andThen fun t d _ =>
      match Number.read? t.text with
      | some x => Step.done (.number x t.span) d
      | none => Step.fail (.invalidNumber t.text) t.span d
  | .string => (Step.take c).andThen fun t d _ => Step.done (.text t.text t.span) d
  | .openParen =>
    (Step.take c).andThen fun _ d _ =>
      (expression d).andThen fun inner e _ =>
        (Step.expect .closeParen e).andThen fun _ f _ => Step.done inner f
  | kind => Step.fail (.expectedExpression kind c.peek.text) c.peek.span c
termination_by 10 * c.size
decreasing_by all_goals omega

end

/-- A variable or constant: its word, its name, and a value that only a variable may leave out. -/
def declaration (c : Cursor) : Step 1 c Stmt :=
  (Step.take c).andThen fun word d _ =>
    let constant := word.kind = .constWord
    (Step.expect .identifier d).andThen fun t e _ =>
      let name := ident t
      if e.sees .semicolon then
        (Step.take e).andThen fun _ f _ =>
          if constant then
            Step.fail (.constWithoutInitializer name.name) (f.spanFrom word.span) f
          else Step.done (.letVar name none (f.spanFrom word.span)) f
      else
        (Step.expect .equals e).andThen fun _ f _ =>
          (expression f).andThen fun init g _ =>
            (Step.expect .semicolon g).andThen fun _ h _ =>
              let span := h.spanFrom word.span
              Step.done (if constant then .letConst name init span
                else .letVar name (some init) span) h

/-- An expression that stands as a parameter, if it is a name. -/
def parameter : Expr → Except ParseError Ident
  | .name id => .ok id
  | other => .error ⟨.invalidParameter, other.span⟩

/-- The first name that occurs among the names before it. -/
def firstRepeated (earlier : List String) : List Ident → Option Ident
  | [] => none
  | id :: ids =>
    if earlier.contains id.name then some id else firstRepeated (id.name :: earlier) ids

/-- Argument expressions as the parameters of a function: names, no two of them alike. -/
def parameters (args : List Expr) : Except ParseError (List Ident) := do
  let ids ← args.mapM parameter
  match firstRepeated [] ids with
  | some id => .error ⟨.duplicateParameter id.name, id.span⟩
  | none => .ok ids

mutual

/-- A statement. A semicolon after an expression may be left out. -/
def statement (c : Cursor) : Step 1 c Stmt :=
  match c.peek.kind with
  | .letWord | .constWord => declaration c
  | .fnWord => function c
  | .ifWord => branch c
  | _ =>
    (expression c).andThen fun e d _ =>
      if d.sees .semicolon then (Step.take d).andThen fun _ f _ => Step.done (.expr e) f
      else Step.done (.expr e) d
termination_by 10 * c.size + 2
decreasing_by all_goals omega

/-- A function: its word, name, parameters and body. The parameters are read as arguments and
checked once their list is complete. -/
def function (c : Cursor) : Step 1 c Stmt :=
  (Step.take c).andThen fun word d _ =>
    (Step.expect .identifier d).andThen fun name e _ =>
      (arguments e).andThen fun args f _ =>
        match parameters args with
        | .error fault => Step.fail fault.cause fault.span f
        | .ok params =>
          (Step.expect .openBrace f).andThen fun _ g _ =>
            (block g).andThen fun body h _ =>
              Step.done (.function (ident name) params body (h.spanFrom word.span)) h
termination_by 10 * c.size
decreasing_by all_goals omega

/-- A branch: its word, a test in parentheses, a block, and perhaps another branch or block. -/
def branch (c : Cursor) : Step 1 c Stmt :=
  (Step.take c).andThen fun word d _ =>
    (Step.expect .openParen d).andThen fun _ e _ =>
      (expression e).andThen fun test f _ =>
        (Step.expect .closeParen f).andThen fun _ g _ =>
          (Step.expect .openBrace g).andThen fun _ h _ =>
            (block h).andThen fun consequent i _ =>
              (alternative i).andThen fun alternate j _ =>
                Step.done (.branch test consequent alternate (j.spanFrom word.span)) j
termination_by 10 * c.size
decreasing_by all_goals omega

/-- What runs when the test of a branch fails: nothing, a further branch, or a block. -/
def alternative (c : Cursor) : Step 0 c (List Stmt) :=
  if c.sees .elseWord then
    (Step.take c).andThen fun _ d _ =>
      if d.sees .ifWord then (branch d).andThen fun inner e _ => Step.done [inner] e
      else
        (Step.expect .openBrace d).andThen fun _ e _ =>
          (block e).andThen fun stmts f _ => Step.done stmts f
  else Step.done [] c
termination_by 10 * c.size
decreasing_by all_goals omega

/-- Statements up to and including a closing brace. -/
def block (c : Cursor) : Step 1 c (List Stmt) :=
  if c.sees .closeBrace || c.atEnd then
    (Step.expect .closeBrace c).andThen fun _ d _ => Step.done [] d
  else
    (statement c).andThen fun stmt d _ =>
      (block d).andThen fun stmts e _ => Step.done (stmt :: stmts) e
termination_by 10 * c.size + 3
decreasing_by all_goals omega

end

/-- Statements up to the end of the input. -/
def program (c : Cursor) : Step 0 c Program :=
  if c.atEnd then Step.done [] c
  else
    (statement c).andThen fun stmt d _ =>
      (program d).andThen fun stmts e _ => Step.done (stmt :: stmts) e
termination_by c.size
decreasing_by all_goals omega

end Parser

/-- Reads a program from a cursor and says where the cursor stands afterwards. -/
def Cursor.parse (c : Cursor) : Outcome Program := (Parser.program c).val

/-- The program that a token list stands for. -/
def parseTokens (tokens : List Token) : Except ParseError Program :=
  match (Cursor.ofTokens tokens).parse with
  | .ok program _ => .ok program
  | .fail error _ => .error error

/-- The program that a source text stands for. -/
def parse (source : String) : Except ParseError Program :=
  match tokenize source with
  | .error e => .error ⟨.lexical e.cause, e.span⟩
  | .ok tokens => parseTokens tokens

end SloScript
