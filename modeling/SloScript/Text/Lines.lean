/-!
# Lines of a text

A line ends at a line feed, and one carriage return right before that line feed belongs to the
ending too. A final line feed opens no further line, and a carriage return at the very end of the
text is an ordinary character.
-/

namespace SloScript.Text

/-- The lines of a text, without their endings. -/
def lineChars : List Char → List (List Char)
  | [] => []
  | '\n' :: rest => [] :: lineChars rest
  | '\r' :: '\n' :: rest => [] :: lineChars rest
  | c :: rest =>
    match lineChars rest with
    | [] => [[c]]
    | line :: lines => (c :: line) :: lines

/-- The lines of a text, without their endings. -/
def lines (s : String) : List String :=
  (lineChars s.toList).map String.ofList

end SloScript.Text
