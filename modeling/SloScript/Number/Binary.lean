import SloScript.Number.Power

/-!
# Numbers, exactly

A number of the language is a binary floating-point number of 64 bits. Here it is taken apart into a
sign, a whole mantissa and a power of two, and put together again by rounding to the nearest such
number, a tie going to the even mantissa. Whole parts, rounding to whole numbers and remainders are
then plain arithmetic on natural numbers, without any rounding of their own.
-/

namespace SloScript

/-- A floating-point number taken apart: `finite negative m e` is `m · 2 ^ e` with its sign. -/
inductive Binary where
  | nan
  | infinite (negative : Bool)
  | finite (negative : Bool) (mantissa : Nat) (exponent : Int)
  deriving DecidableEq, Repr

namespace Binary

/-- The exponent of the smallest positive number. -/
def leastExponent : Int := -1074

/-- Takes a number apart: one sign bit, eleven bits of exponent, fifty-two bits of fraction. -/
def ofFloat (x : Float) : Binary :=
  let bits := x.toBits.toNat
  let negative := bits / twoTo 63 % 2 == 1
  let exponent := bits / twoTo 52 % twoTo 11
  let fraction := bits % twoTo 52
  if exponent = 2047 then
    if fraction = 0 then .infinite negative else .nan
  else if exponent = 0 then .finite negative fraction leastExponent
  else .finite negative (twoTo 52 + fraction) (leastExponent + (exponent - 1 : Nat))

/-- The quotient `n / 2 ^ s` rounded to the nearest whole number, a half to the even one. -/
def shiftToEven (n s : Nat) : Nat :=
  let quotient := n / twoTo s
  let twice := 2 * (n % twoTo s)
  if twice < twoTo s then quotient
  else if twoTo s < twice then quotient + 1
  else quotient + quotient % 2

/-- The bits, sign aside, of the number nearest to `m · 2 ^ e`. A mantissa that rounds up to the
next power of two carries into the exponent by itself, and what is too large becomes infinite. -/
def nearestBits (m : Nat) (e : Int) : Nat :=
  if m = 0 then 0
  else
    let exponent := max (m.log2 + e - 52) leastExponent
    let mantissa :=
      if exponent ≤ e then m * twoTo (e - exponent).toNat else shiftToEven m (exponent - e).toNat
    min ((exponent - leastExponent).toNat * twoTo 52 + mantissa) (2047 * twoTo 52)

/-- The floating-point number nearest to `m · 2 ^ e` with the given sign. -/
def nearest (negative : Bool) (m : Nat) (e : Int) : Float :=
  Float.ofBits (UInt64.ofNat ((if negative then twoTo 63 else 0) + nearestBits m e))

/-- The number nearest to a whole number. -/
def ofInt (n : Int) : Float :=
  nearest (n < 0) n.natAbs 0

/-- The whole part of `m · 2 ^ e`. -/
def wholePart (m : Nat) (e : Int) : Nat :=
  if 0 ≤ e then m * twoTo e.toNat else m / twoTo (-e).toNat

/-- The number `m · 2 ^ e` rounded to a whole one, a half away from zero. -/
def wholeNearest (m : Nat) (e : Int) : Nat :=
  if 0 ≤ e then m * twoTo e.toNat
  else (m + twoTo ((-e).toNat - 1)) / twoTo (-e).toNat

/-- A number without its fraction; the sign stays, also on zero. -/
def trunc (x : Float) : Float :=
  match ofFloat x with
  | .finite negative m e => nearest negative (wholePart m e) 0
  | _ => x

/-- The nearest whole number, a half going away from zero; the sign stays, also on zero. -/
def round (x : Float) : Float :=
  match ofFloat x with
  | .finite negative m e => nearest negative (wholeNearest m e) 0
  | _ => x

/-- The whole part of a finite number as an integer. -/
def toInt? (x : Float) : Option Int :=
  match ofFloat x with
  | .finite negative m e => some (if negative then -(wholePart m e : Int) else wholePart m e)
  | _ => none

/-- Whether a number is neither infinite nor undefined. -/
def isFinite (x : Float) : Bool := (toInt? x).isSome

/-- What is left of `x` after the largest whole multiple of `y` that is not beyond it. The result
has the sign of `x` and is exact: both numbers are multiples of the smaller power of two. -/
def remainder (x y : Float) : Float :=
  match ofFloat x, ofFloat y with
  | .finite negative m e, .finite _ n f =>
    if n = 0 then 0 / 0
    else
      let least := min e f
      nearest negative ((m * twoTo (e - least).toNat) % (n * twoTo (f - least).toNat)) least
  | .finite _ _ _, .infinite _ => x
  | _, _ => 0 / 0

end Binary

end SloScript
