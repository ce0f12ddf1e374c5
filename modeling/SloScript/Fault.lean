import SloScript.Operator
import SloScript.Token

/-!
# Faults

What can go wrong, stage by stage: cutting a text into tokens, building a program from tokens,
running it, and reading it from a file. A fault is a *cause*; together with the span it is reported
at it is a located error. The wording of every message lives here.
-/

namespace SloScript

/-- A cause together with the place it is reported at. -/
structure Located (α : Type) where
  cause : α
  span : Span
  deriving DecidableEq, Repr

namespace Located

/-- Gives a place to an error that has none; a place once given stays. -/
def orAt {α : Type} (e : Located α) (span : Span) : Located α :=
  if e.span.isNowhere then { e with span := span } else e

@[simp]
theorem orAt_cause {α : Type} (e : Located α) (span : Span) : (e.orAt span).cause = e.cause := by
  unfold orAt
  split <;> rfl

end Located

/-- Why a text cannot be cut into tokens. -/
inductive LexFault where
  /-- A character that begins no token. -/
  | unexpectedCharacter (c : Char)
  /-- An opening quote without a closing one. -/
  | unterminatedString
  deriving DecidableEq, Repr

/-- Why tokens form no program. -/
inductive ParseFault where
  /-- The text could not even be cut into tokens. -/
  | lexical (fault : LexFault)
  /-- A token of one kind was needed and another one found. -/
  | unexpectedToken (expected found : Kind)
  /-- A token that begins no expression. -/
  | expectedExpression (found : Kind) (text : String)
  /-- A parameter that is not a name. -/
  | invalidParameter
  /-- A parameter name used twice. -/
  | duplicateParameter (name : String)
  /-- A dot that no name follows. -/
  | invalidMemberAccess (found : Kind)
  /-- A constant that is given no value. -/
  | constWithoutInitializer (name : String)
  /-- Digits and dots that are no number. -/
  | invalidNumber (text : String)
  deriving DecidableEq, Repr

/-- The types that values have, as they are named in messages. -/
inductive ValueType where
  | null
  | boolean
  | number
  | string
  | object
  | function
  | native
  deriving DecidableEq, Repr

namespace ValueType

/-- Every type once. -/
def all : List ValueType := [null, boolean, number, string, object, function, native]

/-- The name of a type. -/
def name : ValueType → String
  | null => "null"
  | boolean => "boolean"
  | number => "number"
  | string => "string"
  | object => "object"
  | function => "function"
  | native => "native function"

/-- The type with a given name. -/
def ofName? (s : String) : Option ValueType :=
  all.find? fun t => t.name == s

end ValueType

/-- Why a run stops. -/
inductive EvalFault where
  | undefinedVariable (name : String)
  | alreadyDeclared (name : String)
  | constantAssignment (name : String)
  | invalidAssignmentTarget
  | divisionByZero
  | moduloByZero
  | invalidOperands (op : Operator) (left right : ValueType)
  | notCallable (type : ValueType)
  | arityMismatch (name : String) (expected found : Nat)
  | notAnObject (key : String) (type : ValueType)
  | invalidKey (type : ValueType)
  | stackOverflow (limit : Nat)
  | nativeArgument (name message : String)
  | outputFailed (message : String)
  deriving DecidableEq, Repr

abbrev LexError := Located LexFault
abbrev ParseError := Located ParseFault
abbrev EvalError := Located EvalFault

/-- Any failure between a file name and a value. -/
inductive Error where
  | lex (error : LexError)
  | parse (error : ParseError)
  | eval (error : EvalError)
  /-- A file that cannot be read as text. -/
  | unreadable (path reason : String)
  deriving DecidableEq, Repr

/-- The wording of a lexical fault. -/
def LexFault.message : LexFault → String
  | unexpectedCharacter c => "Unexpected character '" ++ c.toString ++ "'"
  | unterminatedString => "Unterminated string literal"

/-- The wording of a fault in the order of tokens. -/
def ParseFault.message : ParseFault → String
  | lexical fault => fault.message
  | unexpectedToken expected found =>
    "Expected " ++ expected.describe ++ ", found " ++ found.describe
  | expectedExpression found text =>
    "Unexpected " ++ found.describe ++ " '" ++ text ++ "' where an expression was expected"
  | invalidParameter => "Function parameters must be plain identifiers"
  | duplicateParameter name => "Duplicate parameter '" ++ name ++ "'"
  | invalidMemberAccess found => "Expected identifier after '.', found " ++ found.describe
  | constWithoutInitializer name => "Constant '" ++ name ++ "' must be initialized"
  | invalidNumber text => "Invalid number literal '" ++ text ++ "'"

/-- The wording of a fault met while running. -/
def EvalFault.message : EvalFault → String
  | undefinedVariable name => "Undefined variable '" ++ name ++ "'"
  | alreadyDeclared name => "Variable '" ++ name ++ "' is already declared in this scope"
  | constantAssignment name => "Cannot assign to constant '" ++ name ++ "'"
  | invalidAssignmentTarget => "Invalid assignment target"
  | divisionByZero => "Division by zero"
  | moduloByZero => "Modulo by zero"
  | invalidOperands op left right =>
    "Operator '" ++ op.symbol ++ "' cannot be applied to " ++ left.name ++ " and " ++ right.name
  | notCallable type => "Value of type " ++ type.name ++ " is not callable"
  | arityMismatch name expected found =>
    "Function '" ++ name ++ "' expects " ++ toString expected ++ " argument(s), got " ++
      toString found
  | notAnObject key type => "Cannot access property '" ++ key ++ "' of " ++ type.name
  | invalidKey type => "Object keys must be strings or numbers, got " ++ type.name
  | stackOverflow limit => "Maximum call depth of " ++ toString limit ++ " exceeded"
  | nativeArgument name message => name ++ ": " ++ message
  | outputFailed message => "Failed to write output: " ++ message

namespace Error

/-- The wording of an error. -/
def message : Error → String
  | lex e => e.cause.message
  | parse e => e.cause.message
  | eval e => e.cause.message
  | unreadable path reason => "Failed to read '" ++ path ++ "': " ++ reason

/-- The place of an error; a file that cannot be read has none. -/
def span : Error → Span
  | lex e => e.span
  | parse e => e.span
  | eval e => e.span
  | unreadable _ _ => Span.nowhere

end Error

end SloScript
