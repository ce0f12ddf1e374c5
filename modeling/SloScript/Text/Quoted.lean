import SloScript.Text.Basic
import SloScript.Text.Hidden

/-!
# Quoted text

A text between double quotes, in which every character can be told apart: the quote and the
backslash are escaped, line feed, carriage return, tab and NUL have short escapes, and any other
character without a visible form is written by its code point in hexadecimal.
-/

namespace SloScript.Text

/-- The form of one character between double quotes. -/
def quotedChar (c : Char) : String :=
  if c = '"' then "\\\""
  else if c = '\\' then "\\\\"
  else if c = '\n' then "\\n"
  else if c = '\r' then "\\r"
  else if c = '\t' then "\\t"
  else if c.toNat = 0 then "\\0"
  else if isHidden c then "\\u\x7b" ++ hex c.toNat ++ "\x7d"
  else c.toString

/-- A text between double quotes, its characters escaped where needed. -/
def quoted (s : String) : String :=
  "\"" ++ String.join (s.toList.map quotedChar) ++ "\""

end SloScript.Text
