/-!
# Painted texts

Stretches of a text that stand out on a terminal. A painted stretch is put between the sequence that
turns its style on and the one that resets everything; where the text itself holds a reset, the
style is turned on again right after it.
-/

namespace SloScript.Text

/-- How a stretch of text stands out. -/
inductive Style where
  /-- Bold and red. -/
  | alarm
  /-- Bold. -/
  | strong
  /-- Dimmed. -/
  | faint
  deriving DecidableEq, Repr

namespace Style

/-- The sequence that resets every style. -/
def reset : String := "\x1b[0m"

/-- The sequence that turns a style on. -/
def start : Style → String
  | alarm => "\x1b[1;31m"
  | strong => "\x1b[1m"
  | faint => "\x1b[2m"

/-- A text in a style, or the plain text if there are no colours. -/
def paint (style : Style) (colour : Bool) (text : String) : String :=
  if colour then
    style.start ++ String.intercalate (reset ++ style.start) (text.splitOn reset) ++ reset
  else text

@[simp]
theorem paint_false (style : Style) (text : String) : style.paint false text = text := rfl

end Style

end SloScript.Text
