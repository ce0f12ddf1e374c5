import SloScript.Span

/-!
# Tokens

A token is a kind, the text it was written with and the span it was read from. Five words are
reserved; the operators of arithmetic share one kind and are told apart by their text.
-/

namespace SloScript

/-- What a token is. -/
inductive Kind where
  | number
  | identifier
  | string
  | letWord
  | constWord
  | fnWord
  | ifWord
  | elseWord
  | openParen
  | closeParen
  | openBrace
  | closeBrace
  | openBracket
  | closeBracket
  | comma
  | dot
  | colon
  | semicolon
  | binaryOperator
  | equals
  | bang
  | bangEquals
  | equalEquals
  | less
  | lessEquals
  | greater
  | greaterEquals
  | endOfFile
  deriving DecidableEq, Repr

namespace Kind

/-- Every kind once. -/
def all : List Kind :=
  [number, identifier, string, letWord, constWord, fnWord, ifWord, elseWord, openParen, closeParen,
    openBrace, closeBrace, openBracket, closeBracket, comma, dot, colon, semicolon, binaryOperator,
    equals, bang, bangEquals, equalEquals, less, lessEquals, greater, greaterEquals, endOfFile]

theorem mem_all (k : Kind) : k ∈ all := by
  cases k <;> decide

/-- The name of a kind in token listings. -/
def name : Kind → String
  | number => "Number"
  | identifier => "Identifier"
  | string => "String"
  | letWord => "Let"
  | constWord => "Const"
  | fnWord => "Fn"
  | ifWord => "If"
  | elseWord => "Else"
  | openParen => "OpenParen"
  | closeParen => "CloseParen"
  | openBrace => "OpenBrace"
  | closeBrace => "CloseBrace"
  | openBracket => "OpenBracket"
  | closeBracket => "CloseBracket"
  | comma => "Comma"
  | dot => "Dot"
  | colon => "Colon"
  | semicolon => "Semicolon"
  | binaryOperator => "BinaryOperator"
  | equals => "Equals"
  | bang => "Bang"
  | bangEquals => "BangEquals"
  | equalEquals => "EqualEquals"
  | less => "Less"
  | lessEquals => "LessEquals"
  | greater => "Greater"
  | greaterEquals => "GreaterEquals"
  | endOfFile => "EndOfFile"

/-- The kind with a given name. -/
def ofName? (s : String) : Option Kind :=
  all.find? fun k => k.name == s

/-- The kind as it is spoken of in messages: a class of tokens by its noun, a fixed token by its
spelling in quotes. -/
def describe : Kind → String
  | number => "number"
  | identifier => "identifier"
  | string => "string"
  | letWord => "'rezerviraj'"
  | constWord => "'konstanta'"
  | fnWord => "'funkcija'"
  | ifWord => "'ce'"
  | elseWord => "'sicer'"
  | openParen => "'('"
  | closeParen => "')'"
  | openBrace => "'\x7b'"
  | closeBrace => "'\x7d'"
  | openBracket => "'['"
  | closeBracket => "']'"
  | comma => "','"
  | dot => "'.'"
  | colon => "':'"
  | semicolon => "';'"
  | binaryOperator => "operator"
  | equals => "'='"
  | bang => "'!'"
  | bangEquals => "'!='"
  | equalEquals => "'=='"
  | less => "'<'"
  | lessEquals => "'<='"
  | greater => "'>'"
  | greaterEquals => "'>='"
  | endOfFile => "end of input"

/-- The kind of a reserved word. -/
def ofKeyword? (word : String) : Option Kind :=
  if word = "rezerviraj" then some letWord
  else if word = "konstanta" then some constWord
  else if word = "funkcija" then some fnWord
  else if word = "ce" then some ifWord
  else if word = "sicer" then some elseWord
  else none

end Kind

/-- One token of a source text. The text of a string token is what stands between its quotes. -/
structure Token where
  kind : Kind
  text : String
  span : Span
  deriving DecidableEq, Repr

namespace Token

/-- The text that the token at the end of the input carries. -/
def endText : String := "EndOfFile"

/-- The token that ends an input at the given span. -/
def finish (span : Span) : Token := ⟨.endOfFile, endText, span⟩

/-- One line of a token listing: the kind's name and the text in quotes. -/
def listing (t : Token) : String :=
  t.kind.name ++ " '" ++ t.text ++ "'\n"

end Token

end SloScript
