import Mathlib
import SloScript.Number.Binary

/-!
# The binary form of a number

Taking a number apart loses nothing: its sign, mantissa and exponent say what its 64 bits are, and
there is only one undefined number. The equality of numbers takes them apart as well, in its own
way, and comes to the same parts. It is the equality of all parts with two exceptions: the undefined
number differs from itself, and the two zeros are equal.

Results:
1. `regular_of_finite`: which mantissas and exponents occur.
2. `ofFloat_injective`: a number is determined by its parts.
3. `eq_or_oppositeZeros_of_beq`: equal numbers are the same number, or the two zeros.
-/

namespace SloScript

namespace Binary

open Float.Model Float.Model.UnpackedFloat

/-! ## Bits and parts -/

/-- A mantissa and an exponent as they occur in numbers: the mantissa has 53 bits, or fewer beside
the smallest exponent. -/
structure Regular (mantissa : Nat) (exponent : Int) : Prop where
  mantissa_lt : mantissa < twoTo 53
  least_le : leastExponent ≤ exponent
  least_or_full : exponent = leastExponent ∨ twoTo 52 ≤ mantissa

variable {x y : Float} {negative : Bool} {m : Nat} {e : Int}

theorem regular_of_finite (h : ofFloat x = .finite negative m e) : Regular m e := by
  have unit : twoTo 53 = 2 * twoTo 52 := rfl
  have low : x.toBits.toNat % twoTo 52 < twoTo 52 := Nat.mod_lt _ (by decide)
  unfold ofFloat at h
  dsimp only at h
  split at h
  · split at h <;> cases h
  split at h
  · cases h
    exact ⟨by omega, Int.le_refl _, .inl rfl⟩
  · cases h
    exact ⟨by omega, by omega, .inr (by omega)⟩

/-- What the sign adds to the bits. -/
def signBits (negative : Bool) : Nat := if negative then twoTo 63 else 0

theorem signBits_eq (bits : Nat) :
    signBits (bits / twoTo 63 % 2 == 1) = bits / twoTo 63 % 2 * twoTo 63 := by
  rcases Nat.mod_two_eq_zero_or_one (bits / twoTo 63) with even | odd
  · rw [even]
    rfl
  · rw [odd]
    rfl

/-- The powers of two that the fields of a number are cut out with. -/
theorem units : twoTo 64 = 2 ^ 64 ∧ twoTo 63 = 2 ^ 63 ∧ twoTo 52 = 2 ^ 52 ∧ twoTo 11 = 2 ^ 11 :=
  ⟨rfl, rfl, rfl, rfl⟩

theorem bits_split {bits : Nat} (bound : bits < twoTo 64) :
    bits = signBits (bits / twoTo 63 % 2 == 1) + bits / twoTo 52 % twoTo 11 * twoTo 52 +
      bits % twoTo 52 := by
  rw [signBits_eq]
  rw [units.1] at bound
  rw [units.2.1, units.2.2.1, units.2.2.2]
  omega

/-- The bits of a finite number, sign aside, count the numbers between zero and it. -/
theorem bits_of_finite (h : ofFloat x = .finite negative m e) :
    x.toBits.toNat = signBits negative + (e - leastExponent).toNat * twoTo 52 + m := by
  have parts := bits_split x.toBits.toNat_lt
  unfold ofFloat at h
  dsimp only at h
  split at h
  · split at h <;> cases h
  split at h
  · next small =>
    cases h
    rw [small] at parts
    simpa using parts
  · next positive =>
    cases h
    have exponent : (leastExponent + ((x.toBits.toNat / twoTo 52 % twoTo 11 - 1 : Nat) : Int) -
        leastExponent).toNat + 1 = x.toBits.toNat / twoTo 52 % twoTo 11 := by omega
    rw [← exponent, Nat.succ_mul] at parts
    omega

/-- Infinities have the largest exponent and no fraction. -/
theorem bits_of_infinite (h : ofFloat x = .infinite negative) :
    x.toBits.toNat = signBits negative + 2047 * twoTo 52 := by
  have parts := bits_split x.toBits.toNat_lt
  unfold ofFloat at h
  dsimp only at h
  split at h
  · next top =>
    split at h
    · next zero =>
      cases h
      rwa [top, zero] at parts
    · cases h
  · split at h <;> cases h

/-! ## Equality of numbers -/

theorem toNat_fraction (b : BitVec 64) :
    (@unpackMantissa .binary64 b).toNat = b.toNat % twoTo 52 := by
  simp [unpackMantissa, BitVec.extractLsb, BitVec.extractLsb'_toNat, twoTo]

theorem toNat_exponent (b : BitVec 64) :
    (@unpackExponent .binary64 b).toNat = b.toNat / twoTo 52 % twoTo 11 := by
  simp [unpackExponent, BitVec.extractLsb, BitVec.extractLsb'_toNat, Nat.shiftRight_eq_div_pow,
    twoTo]

theorem toNat_sign (b : BitVec 64) :
    (@unpackSign .binary64 b).toNat = b.toNat / twoTo 63 % 2 := by
  simp [unpackSign, BitVec.extractLsb, BitVec.extractLsb'_toNat, Nat.shiftRight_eq_div_pow, twoTo]

/-- The leading bit of the mantissa is not stored, but added when it is read. -/
theorem toNat_leading (b : BitVec 64) :
    (1#1 ++ @unpackMantissa .binary64 b).toNat =
      twoTo 52 + (@unpackMantissa .binary64 b).toNat := by
  rw [BitVec.toNat_append, ← Nat.shiftLeft_add_eq_or_of_lt (BitVec.isLt _)]
  rfl

theorem exponent_eq_top {b : BitVec 64} :
    @unpackExponent .binary64 b = -1#11 ↔ b.toNat / twoTo 52 % twoTo 11 = 2047 := by
  rw [← toNat_exponent]
  exact (BitVec.toNat_inj (y := -1#11)).symm

theorem exponent_eq_zero {b : BitVec 64} :
    @unpackExponent .binary64 b = 0#11 ↔ b.toNat / twoTo 52 % twoTo 11 = 0 := by
  rw [← toNat_exponent]
  exact (BitVec.toNat_inj (y := 0#11)).symm

theorem fraction_eq_zero {b : BitVec 64} :
    @unpackMantissa .binary64 b = 0#52 ↔ b.toNat % twoTo 52 = 0 := by
  rw [← toNat_fraction]
  exact (BitVec.toNat_inj (y := 0#52)).symm

/-- There is only one undefined number. -/
theorem bits_of_nan (h : ofFloat x = .nan) : x.toBits.toBitVec = packedNaN .binary64 := by
  unfold ofFloat at h
  dsimp only at h
  split at h
  · next top =>
    refine x.toModel.valid.eq_packedNaN (exponent_eq_top.2 top) fun zero => ?_
    have whole : x.toBits.toNat % twoTo 52 = 0 := fraction_eq_zero.1 zero
    rw [if_pos whole] at h
    cases h
  · split at h <;> cases h

theorem ofFloat_injective : Function.Injective ofFloat := by
  intro x y same
  cases h : ofFloat x with
  | nan =>
    rw [← Float.toBits_inj, ← UInt64.toBitVec_inj, bits_of_nan h, bits_of_nan (same ▸ h)]
  | infinite negative =>
    rw [← Float.toBits_inj, ← UInt64.toNat_inj, bits_of_infinite h, bits_of_infinite (same ▸ h)]
  | finite negative m e =>
    rw [← Float.toBits_inj, ← UInt64.toNat_inj, bits_of_finite h, bits_of_finite (same ▸ h)]

/-- Whether a sign is a minus. -/
def isMinus : Sign → Bool
  | .negative => true
  | .positive => false

/-- The parts of a number as they come out when it is compared. -/
def ofUnpacked : UnpackedFloat → Binary
  | .notANumber => .nan
  | .infinity s => .infinite (isMinus s)
  | .zero s => .finite (isMinus s) 0 leastExponent
  | .finite s m e _ => .finite (isMinus s) m e

theorem isMinus_unpackSign (b : BitVec 64) :
    isMinus (Sign.ofBitVec (@unpackSign .binary64 b)) = (b.toNat / twoTo 63 % 2 == 1) := by
  rw [← toNat_sign]
  generalize @unpackSign .binary64 b = s
  revert s
  decide

theorem ofUnpacked_unpack (x : Float) : ofUnpacked x.toModel.unpack = ofFloat x := by
  change ofUnpacked (UnpackedFloat.unpack .binary64 x.toBits.toBitVec) = ofFloat x
  have top := exponent_eq_top (b := x.toBits.toBitVec)
  have bottom := exponent_eq_zero (b := x.toBits.toBitVec)
  have none := fraction_eq_zero (b := x.toBits.toBitVec)
  have sign := isMinus_unpackSign x.toBits.toBitVec
  have fraction := toNat_fraction x.toBits.toBitVec
  have exponent := toNat_exponent x.toBits.toBitVec
  have bias : Format.binary64.exponentBias = 1023 := rfl
  have leading := toNat_leading x.toBits.toBitVec
  simp only [UnpackedFloat.unpack, ofFloat, ← UInt64.toNat_toBitVec, ← top, ← bottom, ← none,
    ← sign]
  by_cases special : @unpackExponent .binary64 x.toBits.toBitVec = -1#11
  · by_cases whole : @unpackMantissa .binary64 x.toBits.toBitVec = 0#52
    · simp [special, whole, ofUnpacked]
    · simp [special, whole, ofUnpacked]
  · rw [if_neg special, if_neg special]
    by_cases small : @unpackExponent .binary64 x.toBits.toBitVec = 0#11
    · by_cases zero : @unpackMantissa .binary64 x.toBits.toBitVec = 0#52
      · simpa [small, zero, ofUnpacked] using (none.1 zero).symm
      · simp [small, zero, ofUnpacked, bias, leastExponent, fraction]
    · have positive := mt bottom.2 small
      rw [if_neg small, if_neg small, ofUnpacked, leading, bias, leastExponent, fraction, exponent]
      congr 1
      omega

/-- Numbers that compare as equal are the same, but for the two zeros. -/
theorem ofUnpacked_eq_of_compare {a b : UnpackedFloat} (h : a.compare b = some .eq) :
    ofUnpacked a = ofUnpacked b ∨ ∃ s s', a = .zero s ∧ b = .zero s' := by
  have lexicographic {e e' : Int} {m m' : Nat} (same : (compare e e').then (compare m m') = .eq) :
      e = e' ∧ m = m' := by
    rw [Ordering.then_eq_eq, Int.compare_eq_eq, Nat.compare_eq_eq] at same
    exact same
  cases a with
  | notANumber => cases h
  | infinity s =>
    cases b with
    | infinity s' =>
      cases s <;> cases s'
      · exact .inl rfl
      · cases h
      · cases h
      · exact .inl rfl
    | _ => cases s <;> cases h
  | zero s =>
    cases b with
    | zero s' => exact .inr ⟨s, s', rfl, rfl⟩
    | notANumber => cases h
    | infinity s' => cases s' <;> cases h
    | finite s' => cases s' <;> cases h
  | finite s m e positive =>
    cases b with
    | finite s' m' e' positive' =>
      cases s <;> cases s'
      · obtain ⟨rfl, rfl⟩ := lexicographic (Ordering.swap_eq_eq.1 (Option.some.inj h))
        exact .inl rfl
      · cases h
      · cases h
      · obtain ⟨rfl, rfl⟩ := lexicographic (Option.some.inj h)
        exact .inl rfl
    | notANumber => cases s <;> cases h
    | infinity s' => cases s <;> cases s' <;> cases h
    | zero => cases s <;> cases h

/-- One of the numbers is the positive and the other one the negative zero. -/
def OppositeZeros (x y : Float) : Prop := x = 0 ∧ y = -0 ∨ x = -0 ∧ y = 0

theorem ofFloat_zero : ofFloat 0 = .finite false 0 leastExponent := by decide

theorem ofFloat_neg_zero : ofFloat (-0) = .finite true 0 leastExponent := by decide

theorem eq_or_oppositeZeros_of_beq (h : (x == y) = true) : x = y ∨ OppositeZeros x y := by
  have beq (a b : UnpackedFloat) (h : a.beq b = true) : a.compare b = some .eq := eq_of_beq h
  have compared : x.toModel.unpack.compare y.toModel.unpack = some .eq := beq _ _ h
  have zero {z : Float} {s : Sign} (is : z.toModel.unpack = .zero s) :
      ofFloat z = .finite (isMinus s) 0 leastExponent :=
    (ofUnpacked_unpack z).symm.trans (congrArg ofUnpacked is)
  have positive {z : Float} (is : z.toModel.unpack = .zero .positive) : z = 0 :=
    ofFloat_injective ((zero is).trans ofFloat_zero.symm)
  have negative {z : Float} (is : z.toModel.unpack = .zero .negative) : z = -0 :=
    ofFloat_injective ((zero is).trans ofFloat_neg_zero.symm)
  rcases ofUnpacked_eq_of_compare compared with same | ⟨s, s', left, right⟩
  · rw [ofUnpacked_unpack, ofUnpacked_unpack] at same
    exact .inl (ofFloat_injective same)
  · cases s <;> cases s'
    · exact .inl ((negative left).trans (negative right).symm)
    · exact .inr (.inr ⟨negative left, positive right⟩)
    · exact .inr (.inl ⟨positive left, negative right⟩)
    · exact .inl ((positive left).trans (positive right).symm)

end Binary
end SloScript
