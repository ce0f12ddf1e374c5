import SloScript.Number.Layout
import SloScript.Token

/-!
# JSON documents

An ordered JSON value and its indented text: two blanks a level, one member a line, fields in the
order they are given, empty brackets closed at once. Only the quote, the backslash and the control
characters below U+0020 are escaped in a string.
-/

namespace SloScript

/-- A JSON value. Fields keep their order, and whole numbers are kept apart from floating-point
ones because they are written without a fraction. -/
inductive Json where
  | null
  | bool (b : Bool)
  | nat (n : Nat)
  | number (x : Float)
  | string (s : String)
  | array (items : List Json)
  | object (fields : List (String × Json))

namespace Json

/-- Numbers in a document always show that they are not whole: in full from `10 ^ -5` up to just
below `10 ^ 16`, with a power of ten outside that range. What is not a number of JSON is null. -/
def numberLayout : Layout where
  tie := .toEven
  inFull := fun power => -5 ≤ power && power ≤ 15
  showsFraction := true
  undefined := "null"
  infinity := fun _ => "null"

/-- The form of one character inside a string. -/
def escapedChar (c : Char) : String :=
  if c = '"' then "\\\""
  else if c = '\\' then "\\\\"
  else if c = '\n' then "\\n"
  else if c = '\r' then "\\r"
  else if c = '\t' then "\\t"
  else if c.toNat = 8 then "\\b"
  else if c.toNat = 12 then "\\f"
  else if c.toNat < 32 then "\\u00" ++ (if c.toNat < 16 then "0" else "") ++ Text.hex c.toNat
  else c.toString

/-- A string between double quotes. -/
def quoted (s : String) : String :=
  "\"" ++ String.join (s.toList.map escapedChar) ++ "\""

/-- The start of a line that stands `depth` levels deep. -/
def indent (depth : Nat) : String :=
  "\n" ++ Text.copies (2 * depth) ' '

/-- Members between brackets, one a line and one level deeper than the brackets. -/
def enclosed (depth : Nat) (opening closing : String) (members : List String) : String :=
  if members.isEmpty then opening ++ closing
  else
    opening ++ indent (depth + 1) ++ String.intercalate ("," ++ indent (depth + 1)) members ++
      indent depth ++ closing

mutual

/-- The text of a value whose lines stand `depth` levels deep. -/
def prettyAt (depth : Nat) : Json → String
  | .null => "null"
  | .bool b => if b then "true" else "false"
  | .nat n => toString n
  | .number x => numberLayout.write x
  | .string s => quoted s
  | .array items => enclosed depth "[" "]" (prettyItems (depth + 1) items)
  | .object fields => enclosed depth "\x7b" "\x7d" (prettyFields (depth + 1) fields)

/-- The texts of items. -/
def prettyItems (depth : Nat) : List Json → List String
  | [] => []
  | item :: items => prettyAt depth item :: prettyItems depth items

/-- The texts of fields. -/
def prettyFields (depth : Nat) : List (String × Json) → List String
  | [] => []
  | (key, value) :: fields =>
    (quoted key ++ ": " ++ prettyAt depth value) :: prettyFields depth fields

end

/-- The indented text of a document. -/
def pretty (j : Json) : String := prettyAt 0 j

end Json

/-- A span as a document. -/
def Span.toJson (s : Span) : Json :=
  .object [("start", .nat s.start), ("end", .nat s.stop), ("line", .nat s.line),
    ("column", .nat s.column)]

/-- A token as a document. -/
def Token.toJson (t : Token) : Json :=
  .object [("kind", .string t.kind.name), ("text", .string t.text), ("span", t.span.toJson)]

end SloScript
