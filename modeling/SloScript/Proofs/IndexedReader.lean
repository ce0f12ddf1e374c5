import SloScript.Proofs.Lookahead

/-!
# Reading tokens by index

A reader that holds all tokens and the index of the next one. Where a cursor has only what is left,
this reader looks tokens up, and a look-up can miss: the index of the next token may lie behind the
last one, and that of the token read last before the first one. Nothing here takes care that it does
not, and nothing gets smaller in the recursion, so that a walk along the tokens may end in a value,
in an error, with an index outside the tokens, or not at all. The recursion is cut off at a given
depth: each step into it takes one from `fuel`, and a walk that has none left is given up with no
answer (`none`). Each construct of the language is read as by the functions on cursors, look-up by
look-up.
-/

namespace SloScript

/-- A reader of tokens by index. -/
structure Reader where
  /-- The tokens that are held. -/
  tokens : List Token
  /-- The index of the token that comes next. -/
  current : Nat
  /-- The values that the index had before, the latest first. -/
  trail : List Nat

/-- A reader before the first token of a list. -/
def Reader.ofTokens (tokens : List Token) : Reader := ⟨Cursor.held tokens, 0, []⟩

/-- Why a walk along the tokens breaks off. -/
inductive Stop where
  | fault (error : ParseError)
  /-- There is no token at an index that was looked up. -/
  | outside

/-- A walk along the tokens. It ends with a value or breaks off, with the reader where it stands
then, or it is given up. -/
abbrev Walk := ExceptT Stop (StateT Reader Option)

namespace Walk

/-- A walk that is given up. -/
def unfinished {α : Type} : Walk α := fun _ => none

/-! ## Looking up and moving on -/

/-- The token at an index. -/
def tokenAt (i : Nat) : Walk Token := do
  match (← get).tokens[i]? with
  | some t => return t
  | none => throw .outside

/-- The token that comes next. -/
def peek : Walk Token := do tokenAt (← get).current

/-- Whether the next token is of the given kind. -/
def check (kind : Kind) : Walk Bool := do return (← peek).kind = kind

/-- Whether the end of the input comes next. -/
def atEnd : Walk Bool := check .endOfFile

/-- Moves on unless the end of the input comes next, and looks at the token before. -/
def advance : Walk Token := do
  if !(← atEnd) then
    modify fun r => { r with current := r.current + 1, trail := r.current :: r.trail }
  -- The index before is looked up also when the reader has not moved.
  match (← get).current with
  | 0 => throw .outside
  | i + 1 => tokenAt i

/-- The token read last, or the first one if there is none. -/
def previous : Walk Token := do tokenAt ((← get).current - 1)

/-- The span from `start` through the token read last. -/
def spanFrom (start : Span) : Walk Span := do return start.merge (← previous).span

/-- Breaks off with an error. -/
def fault {α : Type} (e : ParseError) : Walk α := throw (.fault e)

/-- Reads the next token if it is of the given kind. -/
def accept (kind : Kind) : Walk Bool := do
  if ← check kind then
    let _ ← advance
    return true
  else return false

/-- Reads one token of the given kind. -/
def expect (kind : Kind) : Walk Token := do
  if ← check kind then advance
  else
    let found ← peek
    fault ⟨.unexpectedToken kind found.kind, found.span⟩

/-- Whether a list of things that `kind` closes has come to its end. -/
def closes (kind : Kind) : Walk Bool := do
  if ← check kind then return true
  else atEnd

/-- The operator of the tier of sums and comparisons that comes next. -/
def sumOperator : Walk (Option Operator) := do
  let t ← peek
  match t.kind with
  | .binaryOperator => return (Operator.ofSymbol? t.text).filter Operator.isSum
  | .equalEquals | .bangEquals | .less | .lessEquals | .greater | .greaterEquals =>
    return Operator.ofSymbol? t.text
  | _ => return none

/-- The operator of the tier of products that comes next. -/
def productOperator : Walk (Option Operator) := do
  let t ← peek
  if t.kind = .binaryOperator then
    return (Operator.ofSymbol? t.text).filter Operator.isMultiplicative
  else return none

/-! ## Expressions -/

open SloScript.Parser (binary ident)

mutual

def expression : Nat → Walk Expr
  | 0 => unfinished
  | fuel + 1 => do
    let target ← operand fuel
    if ← accept .equals then
      let value ← expression fuel
      return .assign target value (target.span.merge value.span)
    else return target
termination_by structural fuel => fuel

def operand : Nat → Walk Expr
  | 0 => unfinished
  | fuel + 1 => do
    if ← check .openBrace then
      let opening ← advance
      let entries ← properties fuel
      let _ ← expect .closeBrace
      return .object entries (← spanFrom opening.span)
    else sum fuel
termination_by structural fuel => fuel

def properties : Nat → Walk (List Property)
  | 0 => unfinished
  | fuel + 1 => do
    if ← closes .closeBrace then return []
    else
      let key := ident (← expect .identifier)
      if ← accept .comma then return .shorthand key :: (← properties fuel)
      -- The closing brace is looked at once more where the list goes on.
      else if ← check .closeBrace then return .shorthand key :: (← properties fuel)
      else
        let _ ← expect .colon
        let value ← expression fuel
        let entry := Property.keyed key value (key.span.merge value.span)
        if ← check .closeBrace then return entry :: (← properties fuel)
        else
          let _ ← expect .comma
          return entry :: (← properties fuel)
termination_by structural fuel => fuel

def sum : Nat → Walk Expr
  | 0 => unfinished
  | fuel + 1 => do
    let left ← product fuel
    sumRest fuel left
termination_by structural fuel => fuel

def sumRest : Nat → Expr → Walk Expr
  | 0, _ => unfinished
  | fuel + 1, left => do
    match ← sumOperator with
    | none => return left
    | some op =>
      let _ ← advance
      let right ← product fuel
      sumRest fuel (binary op left right)
termination_by structural fuel => fuel

def product : Nat → Walk Expr
  | 0 => unfinished
  | fuel + 1 => do
    let left ← call fuel
    productRest fuel left
termination_by structural fuel => fuel

def productRest : Nat → Expr → Walk Expr
  | 0, _ => unfinished
  | fuel + 1, left => do
    match ← productOperator with
    | none => return left
    | some op =>
      let _ ← advance
      let right ← call fuel
      productRest fuel (binary op left right)
termination_by structural fuel => fuel

def call : Nat → Walk Expr
  | 0 => unfinished
  | fuel + 1 => do
    let callee ← member fuel
    callRest fuel callee
termination_by structural fuel => fuel

def callRest : Nat → Expr → Walk Expr
  | 0, _ => unfinished
  | fuel + 1, callee => do
    if ← check .openParen then
      let args ← arguments fuel
      callRest fuel (.call callee args (← spanFrom callee.span))
    else return callee
termination_by structural fuel => fuel

def arguments : Nat → Walk (List Expr)
  | 0 => unfinished
  | fuel + 1 => do
    let _ ← expect .openParen
    if ← check .closeParen then
      let _ ← expect .closeParen
      return []
    else
      let first ← expression fuel
      let others ← argumentsRest fuel
      let _ ← expect .closeParen
      return first :: others
termination_by structural fuel => fuel

def argumentsRest : Nat → Walk (List Expr)
  | 0 => unfinished
  | fuel + 1 => do
    if ← accept .comma then
      let arg ← expression fuel
      return arg :: (← argumentsRest fuel)
    else return []
termination_by structural fuel => fuel

def member : Nat → Walk Expr
  | 0 => unfinished
  | fuel + 1 => do
    let object ← primary fuel
    memberRest fuel object
termination_by structural fuel => fuel

def memberRest : Nat → Expr → Walk Expr
  | 0, _ => unfinished
  | fuel + 1, object => do
    if ← accept .dot then
      let found ← peek
      if found.kind = .identifier then
        let name ← advance
        memberRest fuel (.member object (ident name) (← spanFrom object.span))
      else fault ⟨.invalidMemberAccess found.kind, found.span⟩
    else if ← accept .openBracket then
      let key ← expression fuel
      let _ ← expect .closeBracket
      memberRest fuel (.index object key (← spanFrom object.span))
    else return object
termination_by structural fuel => fuel

def primary : Nat → Walk Expr
  | 0 => unfinished
  | fuel + 1 => do
    let t ← peek
    match t.kind with
    | .identifier =>
      let _ ← advance
      return .name (ident t)
    | .number =>
      let _ ← advance
      match Number.read? t.text with
      | some x => return .number x t.span
      | none => fault ⟨.invalidNumber t.text, t.span⟩
    | .string =>
      let _ ← advance
      return .text t.text t.span
    | .openParen =>
      let _ ← advance
      let inner ← expression fuel
      let _ ← expect .closeParen
      return inner
    | found => fault ⟨.expectedExpression found t.text, t.span⟩
termination_by structural fuel => fuel

end

/-! ## Statements -/

def declaration (fuel : Nat) : Walk Stmt := do
  let word ← advance
  let name := ident (← expect .identifier)
  if ← accept .semicolon then
    let span ← spanFrom word.span
    if word.kind = .constWord then fault ⟨.constWithoutInitializer name.name, span⟩
    else return .letVar name none span
  else
    let _ ← expect .equals
    let init ← expression fuel
    let _ ← expect .semicolon
    let span ← spanFrom word.span
    return if word.kind = .constWord then .letConst name init span
      else .letVar name (some init) span

mutual

def statement : Nat → Walk Stmt
  | 0 => unfinished
  | fuel + 1 => do
    match (← peek).kind with
    | .letWord | .constWord => declaration fuel
    | .fnWord => function fuel
    | .ifWord => branch fuel
    | _ =>
      let e ← expression fuel
      let _ ← accept .semicolon
      return .expr e
termination_by structural fuel => fuel

def function : Nat → Walk Stmt
  | 0 => unfinished
  | fuel + 1 => do
    let word ← advance
    let name ← expect .identifier
    let args ← arguments fuel
    match Parser.parameters args with
    | .error e => fault e
    | .ok params =>
      let _ ← expect .openBrace
      let body ← block fuel
      return .function (ident name) params body (← spanFrom word.span)
termination_by structural fuel => fuel

def branch : Nat → Walk Stmt
  | 0 => unfinished
  | fuel + 1 => do
    let word ← advance
    let _ ← expect .openParen
    let test ← expression fuel
    let _ ← expect .closeParen
    let _ ← expect .openBrace
    let consequent ← block fuel
    let alternate ← alternative fuel
    return .branch test consequent alternate (← spanFrom word.span)
termination_by structural fuel => fuel

def alternative : Nat → Walk (List Stmt)
  | 0 => unfinished
  | fuel + 1 => do
    if ← accept .elseWord then
      if ← check .ifWord then return [← branch fuel]
      else
        let _ ← expect .openBrace
        block fuel
    else return []
termination_by structural fuel => fuel

def block : Nat → Walk (List Stmt)
  | 0 => unfinished
  | fuel + 1 => do
    if ← closes .closeBrace then
      let _ ← expect .closeBrace
      return []
    else
      let stmt ← statement fuel
      return stmt :: (← block fuel)
termination_by structural fuel => fuel

end

/-- Statements up to the end of the input. -/
def program : Nat → Walk Program
  | 0 => unfinished
  | fuel + 1 => do
    if ← atEnd then return []
    else
      let stmt ← statement fuel
      return stmt :: (← program fuel)
termination_by structural fuel => fuel

end Walk

/-- What a reader answers when it is asked for a program again and again, wherever it stands after
an answer, and where it stands in the end. -/
def Reader.parseTimes (fuel : Nat) : Nat → Reader → Option (List (Except Stop Program) × Reader)
  | 0, r => some ([], r)
  | n + 1, r => do
    let (answer, r) ← Walk.program fuel r
    let (answers, r) ← r.parseTimes fuel n
    return (answer :: answers, r)

end SloScript
