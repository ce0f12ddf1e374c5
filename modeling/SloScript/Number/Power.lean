/-!
# Powers

The powers that floating-point numbers are scaled by: of two for their binary form, of ten for their
decimal one, and of five for what the latter has beyond the former.
-/

namespace SloScript

/-- The power of two with the given exponent. -/
def twoTo (k : Nat) : Nat := Nat.pow 2 k

/-- The power of five with the given exponent. -/
def fiveTo (k : Nat) : Nat := Nat.pow 5 k

/-- The power of ten with the given exponent. -/
def tenTo (k : Nat) : Nat := Nat.pow 10 k

theorem twoTo_succ (k : Nat) : twoTo (k + 1) = twoTo k * 2 := rfl

end SloScript
