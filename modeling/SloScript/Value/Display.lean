import SloScript.Number.Layout
import SloScript.Text.Quoted
import SloScript.Value

/-!
# The text of a value

A value is shown the way `izpisi` prints it. A text stands for itself, but inside an object it is
quoted. An object lists its properties in the order of their keys; one that is shown already, or
that lies deeper than sixteen objects, is only hinted at. So every graph of objects has a finite
text, and what is shown at one place depends on the objects around that place and nothing else.
-/

namespace SloScript

namespace Value

/-- Numbers are written in full with the fewest digits that read back, whole ones without a
fraction. -/
def numberLayout : Layout where
  tie := .up
  inFull := fun _ => true
  showsFraction := false
  undefined := "NaN"
  infinity := fun negative => if negative then "-inf" else "inf"

/-- The number of objects that may be shown one inside the other. -/
def displayDepth : Nat := 16

/-- What stands for an object that is not shown again. -/
def elided : String := "\x7b ... \x7d"

/-- Properties already written out, put between braces. -/
def braced (properties : List String) : String :=
  "\x7b " ++ String.intercalate ", " properties ++ " \x7d"

/-- The text of a value at a place that the objects of `path` enclose and where `budget` more
objects may be opened. -/
def displayAt (objects : Objects) : (budget : Nat) → (path : List ObjectId) → Value → String
  | _, _, null => "null"
  | _, _, bool b => if b then "true" else "false"
  | _, _, number x => numberLayout.write x
  | _, path, string s => if path.isEmpty then s else Text.quoted s
  | _, _, function c => "<funkcija " ++ c.name ++ ">"
  | _, _, native n => "<native funkcija " ++ n.name ++ ">"
  | budget, path, object id =>
    let entries := (objects.getD id.index .empty).entries
    if entries.isEmpty then "\x7b\x7d"
    else if path.contains id then elided
    else
      match budget with
      | 0 => elided
      | budget + 1 =>
        braced (entries.map fun (key, value) =>
          key ++ ": " ++ displayAt objects budget (id :: path) value)

/-- The text of a value. -/
def display (objects : Objects) (v : Value) : String :=
  displayAt objects displayDepth [] v

/-- Quoted texts as a list between brackets. -/
def quotedList (texts : List String) : String :=
  "[" ++ String.intercalate ", " (texts.map Text.quoted) ++ "]"

/-- A fuller text of a value, which also tells its type. -/
def inspect (objects : Objects) : Value → String
  | null => "Null"
  | bool b => "Bool(" ++ (if b then "true" else "false") ++ ")"
  | number x => "Number(" ++ numberLayout.write x ++ ")"
  | string s => "String(" ++ Text.quoted s ++ ")"
  | object id => "Object(" ++ display objects (object id) ++ ")"
  | function c =>
    "Function \x7b name: " ++ Text.quoted c.name ++ ", params: " ++ quotedList c.params ++
      ", .. \x7d"
  | native n =>
    let arity := match n.arity with
      | none => "None"
      | some count => "Some(" ++ toString count ++ ")"
    "NativeFunction \x7b name: " ++ Text.quoted n.name ++ ", arity: " ++ arity ++ ", .. \x7d"

end Value

end SloScript
