import SloScript.Number.Shortest
import SloScript.Text.Basic

/-!
# Writing numbers

The digits of a number are the fewest that read back; a *layout* says how they are set: when the
point is written among them and when a power of ten is split off, whether a whole number shows a
fraction, and what stands for the values that have no digits.
-/

namespace SloScript

/-- How numbers are written in one format. -/
structure Layout where
  /-- Which of two equally near digits is taken. -/
  tie : Tie
  /-- Whether a number whose leading digit stands for this power of ten is written in full. -/
  inFull : Int → Bool
  /-- Whether a whole number written in full gets a fraction of one zero. -/
  showsFraction : Bool
  /-- What stands for an undefined number. -/
  undefined : String
  /-- What stands for a positive or negative infinity. -/
  infinity : (negative : Bool) → String

namespace Layout

/-- Digits with the point after the first `point` of them, zeros filled in where none are left. -/
def positional (showsFraction : Bool) (digits : List Char) (point : Int) : String :=
  if point ≤ 0 then
    "0." ++ Text.copies (-point).toNat '0' ++ String.ofList digits
  else
    let whole := point.toNat
    if digits.length ≤ whole then
      String.ofList digits ++ Text.copies (whole - digits.length) '0' ++
        (if showsFraction then ".0" else "")
    else
      String.ofList (digits.take whole) ++ "." ++ String.ofList (digits.drop whole)

/-- Digits with the point after the first one, times a signed power of ten. -/
def scientific (digits : List Char) (power : Int) : String :=
  let fraction := digits.drop 1
  String.ofList (digits.take 1) ++
    (if fraction.isEmpty then "" else "." ++ String.ofList fraction) ++
    "e" ++ (if power < 0 then "-" else "+") ++ toString power.natAbs

/-- The text of a decimal that is not negative. -/
def decimal (l : Layout) (d : Decimal) : String :=
  let digits := Nat.toDigits 10 d.coefficient
  let point := d.exponent + digits.length
  if l.inFull (point - 1) then positional l.showsFraction digits point
  else scientific digits (point - 1)

/-- The text of a number. The sign of zero is kept. -/
def write (l : Layout) (x : Float) : String :=
  match Binary.ofFloat x with
  | .nan => l.undefined
  | .infinite negative => l.infinity negative
  | .finite negative m e =>
    (if negative then "-" else "") ++
      l.decimal (if m = 0 then ⟨0, 0⟩ else Decimal.shortest l.tie m e)

end Layout

end SloScript
