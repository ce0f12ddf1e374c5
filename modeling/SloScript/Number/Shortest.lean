import SloScript.Number.Binary

/-!
# The fewest digits that read back

Between the two midpoints to its neighbours, every real number rounds to the same floating-point
number; the midpoints themselves do so when the mantissa is even. Among the decimals in that
interval the ones with the fewest digits are sought, and of these the one nearest to the number: for
one, two, three … digits, the number's two neighbours on the decimal grid of that many digits are
tried, and the first grid with a hit decides. Everything is exact arithmetic on natural numbers.
-/

namespace SloScript

/-- The decimal `coefficient · 10 ^ exponent`. -/
structure Decimal where
  coefficient : Nat
  exponent : Int
  deriving DecidableEq, Repr

/-- Which of two equally near decimals is taken. -/
inductive Tie where
  | up
  | toEven
  deriving DecidableEq, Repr

namespace Decimal

/-- The decimal without trailing zeros in its coefficient. -/
def normalize (c : Nat) (e : Int) : Decimal :=
  if h : c ≠ 0 ∧ c % 10 = 0 then normalize (c / 10) (e + 1) else ⟨c, e⟩
termination_by c
decreasing_by exact Nat.div_lt_self (Nat.pos_of_ne_zero h.1) (by omega)

/-- The interval of reals that read back as one number: its ends and the number itself are whole
multiples of `2 ^ exponent`. -/
structure Interval where
  low : Nat
  middle : Nat
  high : Nat
  exponent : Int
  /-- Whether the ends belong to the interval. -/
  closed : Bool

/-- The interval around `m · 2 ^ e`. Below a power of two the numbers lie twice as close. -/
def Interval.around (m : Nat) (e : Int) : Interval :=
  let below := if m = twoTo 52 ∧ Binary.leastExponent < e then 1 else 2
  ⟨4 * m - below, 4 * m, 4 * m + 2, e - 2, m % 2 == 0⟩

/-- The multiple of `2 ^ e` with coefficient `n`, as a multiple of a unit small enough for both a
power of two and a power of ten. -/
def scaleBinary (n : Nat) (e tens : Int) : Nat :=
  n * twoTo e.toNat * tenTo (-tens).toNat

/-- The multiple of `10 ^ tens` with coefficient `c`, in the same unit. -/
def scaleDecimal (c : Nat) (e tens : Int) : Nat :=
  c * tenTo tens.toNat * twoTo (-e).toNat

/-- Whether the decimal `c · 10 ^ tens` lies in an interval. -/
def Interval.contains (i : Interval) (c : Nat) (tens : Int) : Bool :=
  let candidate := scaleDecimal c i.exponent tens
  let low := scaleBinary i.low i.exponent tens
  let high := scaleBinary i.high i.exponent tens
  if i.closed then low ≤ candidate && candidate ≤ high else low < candidate && candidate < high

/-- The best decimal of a grid with spacing `10 ^ tens`, if one of the two around the number lies in
the interval. -/
def Interval.onGrid? (i : Interval) (tie : Tie) (tens : Int) : Option Nat :=
  let number := scaleBinary i.middle i.exponent tens
  let unit := scaleDecimal 1 i.exponent tens
  let below := number / unit
  let above := below + 1
  match i.contains below tens, i.contains above tens with
  | true, true =>
    let twice := 2 * (number % unit)
    if twice < unit then some below
    else if unit < twice then some above
    else match tie with
      | .up => some above
      | .toEven => some (if below % 2 = 0 then below else above)
  | true, false => some below
  | false, true => some above
  | false, false => none

/-- The number of decimal digits of a natural number. -/
def digitCount (n : Nat) : Nat := (Nat.toDigits 10 n).length

/-- The power of ten just above `m · 2 ^ e`: `10 ^ (k - 1) ≤ m · 2 ^ e < 10 ^ k`. A negative power
of two is a power of five after the decimal point, so the number has that many places exactly. -/
def magnitude (m : Nat) (e : Int) : Int :=
  let places := (-e).toNat
  (digitCount (m * twoTo e.toNat * fiveTo places) : Int) - places

/-- The first hit among the grids of `digits`, `digits + 1`, … digits, at most `more` of them. -/
def Interval.search (i : Interval) (tie : Tie) (magnitude : Int) : (more digits : Nat) → Decimal
  | 0, _ => ⟨i.middle, 0⟩
  | more + 1, digits =>
    let tens := magnitude - digits
    match i.onGrid? tie tens with
    | some c => normalize c tens
    | none => i.search tie magnitude more (digits + 1)

/-- The shortest decimal that reads back as `m · 2 ^ e`, for a positive mantissa. Seventeen digits
always suffice. -/
def shortest (tie : Tie) (m : Nat) (e : Int) : Decimal :=
  (Interval.around m e).search tie (magnitude m e) 17 1

end Decimal

end SloScript
