import SloScript.Text.Blank

/-!
# Reading numbers

A number is written as an optional sign, digits with at most one point among or around them, and an
optional power of ten; or as a sign and one of the words for infinity and for the undefined number,
in any mix of cases. It stands for the floating-point number nearest to the decimal it spells.
-/

namespace SloScript.Number

/-- The number that decimal digits spell, continuing from `start`. -/
def spelled (start : Nat) (digits : List Char) : Nat :=
  digits.foldl (fun n c => 10 * n + (c.toNat - '0'.toNat)) start

/-- A sign at the start, if there is one: whether it is a minus, and what follows. -/
def signed : List Char → Bool × List Char
  | '-' :: rest => (true, rest)
  | '+' :: rest => (false, rest)
  | cs => (false, cs)

/-- A power of ten: nothing, or the letter `e` with a sign and at least one digit. -/
def power? : List Char → Option Int
  | [] => some 0
  | c :: cs =>
    if c = 'e' || c = 'E' then
      let (negative, digits) := signed cs
      if digits.isEmpty || !digits.all Char.isDigit then none
      else
        let n : Int := spelled 0 digits
        some (if negative then -n else n)
    else none

/-- The floating-point number nearest to `coefficient · 10 ^ exponent`. A coefficient of `size`
digits is below `10 ^ size`, so beyond the outermost powers of ten the result is known without
computing them. -/
def nearest (coefficient : Nat) (exponent : Int) : Float :=
  let size : Int := (Nat.toDigits 10 coefficient).length
  if coefficient = 0 then 0
  else if 400 < exponent + size then 1 / 0
  else if exponent + size < -400 then 0
  else Float.ofScientific coefficient (exponent < 0) exponent.natAbs

/-- The value of digits with at most one point and an optional power of ten. -/
def decimal? (cs : List Char) : Option Float :=
  let whole := cs.takeWhile Char.isDigit
  let afterWhole := cs.dropWhile Char.isDigit
  let fraction := match afterWhole with
    | '.' :: rest => rest.takeWhile Char.isDigit
    | _ => []
  let afterFraction := match afterWhole with
    | '.' :: rest => rest.dropWhile Char.isDigit
    | _ => afterWhole
  if whole.isEmpty && fraction.isEmpty then none
  else
    (power? afterFraction).map fun power =>
      nearest (spelled (spelled 0 whole) fraction) (power - fraction.length)

/-- The value of a word for a number that has no digits. -/
def special? (cs : List Char) : Option Float :=
  let word := Text.foldAscii (String.ofList cs)
  if word = "inf" || word = "infinity" then some (1 / 0)
  else if word = "nan" then some (0 / 0)
  else none

/-- The number that a text spells. -/
def read? (s : String) : Option Float :=
  let (negative, cs) := signed s.toList
  ((decimal? cs).or (special? cs)).map fun x => if negative then -x else x

end SloScript.Number
