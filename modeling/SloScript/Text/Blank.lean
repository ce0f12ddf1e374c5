/-!
# Blank characters

The Unicode property *White_Space*, which decides what trimming removes, and the ASCII part of
case folding. The characters that separate tokens are a smaller set and live with the tokens.
-/

namespace SloScript.Text

/-- Whether a character is Unicode white space. The zero-width space and the byte-order mark are
not. -/
def isBlank (c : Char) : Bool :=
  let n := c.toNat
  (9 ≤ n && n ≤ 13) || n == 0x20 || n == 0x85 || n == 0xa0 || n == 0x1680 ||
    (0x2000 ≤ n && n ≤ 0x200a) || n == 0x2028 || n == 0x2029 || n == 0x202f || n == 0x205f ||
    n == 0x3000

/-- The characters left after the blanks at both ends are dropped. -/
def trimChars (cs : List Char) : List Char :=
  ((cs.dropWhile isBlank).reverse.dropWhile isBlank).reverse

/-- A text without the blanks at its ends. -/
def trim (s : String) : String :=
  String.ofList (trimChars s.toList)

/-- A text with the letters `A` to `Z` in lower case and everything else kept. -/
def foldAscii (s : String) : String :=
  String.ofList (s.toList.map Char.toLower)

end SloScript.Text
