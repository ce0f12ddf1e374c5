import SloScript.Proofs.BinaryForm

/-!
# The number nearest to a whole number

Whole numbers are kept exactly up to 53 bits. Beyond that only every second one is left, then every
fourth, and so on, and a whole number becomes the nearest one that is left. What is needed to know
of this is that it never goes beyond such a number: what is at most as large stays so.

Results:
1. `value?_ofInt`: the number nearest to a whole number is a whole number again, rounded to 53 bits.
2. `rounded_le`, `le_rounded`: rounding does not go beyond a whole number of 53 bits.
3. `toInt?_eq`, `fits_of_toInt?`: the whole part of a number is truncated, and has 53 bits.
-/

namespace SloScript

namespace Binary

open Float.Model Float.Model.UnpackedFloat

/-! ## Numbers from bits -/

theorem toBitVec_ofBitVec (s : BitVec 1) : (Sign.ofBitVec s).toBitVec = s := by
  revert s
  decide

/-- Sign, exponent and fraction are all that there is in a number. -/
theorem packComponents_fields (b : BitVec Format.binary64.numBits) :
    packComponents .binary64 (Sign.ofBitVec (unpackSign b)) (unpackExponent b) (unpackMantissa b) =
      b := by
  have parts := bits_split b.isLt
  rw [signBits_eq] at parts
  have unit : twoTo 63 = 2 ^ 11 * twoTo 52 := rfl
  refine BitVec.eq_of_toNat_eq ?_
  rw [packComponents, toBitVec_ofBitVec, BitVec.toNat_append, BitVec.toNat_append,
    ← Nat.shiftLeft_add_eq_or_of_lt (BitVec.isLt _),
    ← Nat.shiftLeft_add_eq_or_of_lt (BitVec.isLt _), toNat_fraction, toNat_exponent, toNat_sign,
    Nat.shiftLeft_eq, Nat.shiftLeft_eq]
  calc (b.toNat / twoTo 63 % 2 * 2 ^ 11 + b.toNat / twoTo 52 % twoTo 11) * twoTo 52 +
        b.toNat % twoTo 52
      = b.toNat / twoTo 63 % 2 * twoTo 63 + b.toNat / twoTo 52 % twoTo 11 * twoTo 52 +
        b.toNat % twoTo 52 := by rw [unit, Nat.add_mul, Nat.mul_assoc]
    _ = b.toNat := parts.symm

theorem log2_mantissa {fraction : Nat} (h : fraction < twoTo 52) :
    (twoTo 52 + fraction).log2 = 52 := by
  have unit := units.2.2.1
  have positive : twoTo 52 + fraction ≠ 0 := by omega
  exact (Nat.log2_eq_iff positive).2 ⟨by omega, by omega⟩

/-- A number that is neither very small nor very large is put together from its bits as they are. -/
theorem toBits_ofBits {bits : UInt64} (positive : bits.toNat / twoTo 52 % twoTo 11 ≠ 0)
    (finite : bits.toNat / twoTo 52 % twoTo 11 ≠ 2047) : (Float.ofBits bits).toBits = bits := by
  have top := mt exponent_eq_top.1 finite
  have bottom := mt exponent_eq_zero.1 positive
  have small : (@unpackMantissa .binary64 bits.toBitVec).toNat < twoTo 52 := BitVec.isLt _
  have bound : (@unpackExponent .binary64 bits.toBitVec).toNat < 2047 := by
    have field : bits.toNat / twoTo 52 % twoTo 11 < 2 ^ 11 := Nat.mod_lt _ (by decide)
    rw [toNat_exponent, UInt64.toNat_toBitVec]
    omega
  have biased : (((@unpackExponent .binary64 bits.toBitVec).toNat : Int) -
      (Format.binary64.exponentBias + (52 : Nat)) + Format.binary64.exponentBias +
        (52 : Nat)).toNat = (@unpackExponent .binary64 bits.toBitVec).toNat := by omega
  -- Of the mantissa as it was read, only the stored part goes back.
  have stored : BitVec.ofNat 52 (twoTo 52 + (@unpackMantissa .binary64 bits.toBitVec).toNat) =
      @unpackMantissa .binary64 bits.toBitVec := by
    refine BitVec.eq_of_toNat_eq ?_
    rw [BitVec.toNat_ofNat]
    exact (Nat.add_mod_left _ _).trans (Nat.mod_eq_of_lt small)
  have width : 52 + 1 = Format.binary64.mantissaBits := rfl
  have unpacked : UnpackedFloat.unpack .binary64 bits.toBitVec =
      .finite _ _ _ _ := (if_neg top).trans (if_neg bottom)
  rw [← UInt64.toBitVec_inj]
  change UnpackedFloat.pack .binary64 (UnpackedFloat.unpack .binary64 bits.toBitVec) = bits.toBitVec
  rw [unpacked, UnpackedFloat.pack]
  dsimp only
  rw [toNat_leading, log2_mantissa small, biased, if_neg (Nat.not_le.2 (Nat.succ_lt_succ bound)),
    if_pos width, BitVec.ofNat_toNat, BitVec.setWidth_eq, stored]
  exact packComponents_fields _

theorem signBits_eq_toNat (negative : Bool) : signBits negative = negative.toNat * twoTo 63 := by
  cases negative <;> rfl

/-- The fields of bits that are put together. -/
theorem fields_of_bits {sign exponent fraction : Nat} (one : sign < 2) (range : exponent < twoTo 11)
    (small : fraction < twoTo 52) :
    let bits := sign * twoTo 63 + exponent * twoTo 52 + fraction
    bits < twoTo 64 ∧ bits / twoTo 63 % 2 = sign ∧ bits / twoTo 52 % twoTo 11 = exponent ∧
      bits % twoTo 52 = fraction := by
  rw [units.2.2.2] at range
  rw [units.2.2.1] at small
  rw [units.1, units.2.1, units.2.2.1, units.2.2.2]
  dsimp only
  omega

/-- The number that is put together from a sign, an exponent and a fraction. -/
theorem ofFloat_ofBits (negative : Bool) {exponent fraction : Nat} (bound : exponent < 2046)
    (small : fraction < twoTo 52) :
    ofFloat (Float.ofBits (UInt64.ofNat
      (signBits negative + (exponent + 1) * twoTo 52 + fraction))) =
        .finite negative (twoTo 52 + fraction) (leastExponent + exponent) := by
  have range : exponent + 1 < twoTo 11 := by
    have unit : twoTo 11 = 2048 := rfl
    omega
  obtain ⟨short, sign, middle, low⟩ := fields_of_bits negative.toNat_lt range small
  rw [← signBits_eq_toNat] at short sign middle low
  have bits : (UInt64.ofNat (signBits negative + (exponent + 1) * twoTo 52 + fraction)).toNat =
      signBits negative + (exponent + 1) * twoTo 52 + fraction := by
    rw [UInt64.toNat_ofNat']
    exact Nat.mod_eq_of_lt short
  have minus : (negative.toNat == 1) = negative := by cases negative <;> rfl
  unfold ofFloat
  rw [toBits_ofBits (by rw [bits, middle]; omega) (by rw [bits, middle]; omega), bits]
  dsimp only
  rw [sign, middle, low, minus, if_neg (by omega), if_neg (by omega), Nat.add_sub_cancel]

/-! ## Rounding -/

theorem le_shiftToEven {n s k : Nat} (h : k * twoTo s ≤ n) : k ≤ shiftToEven n s := by
  have positive : 0 < twoTo s := Nat.two_pow_pos s
  have floor : k ≤ n / twoTo s := (Nat.le_div_iff_mul_le positive).2 h
  unfold shiftToEven
  dsimp only
  split
  · exact floor
  split
  · omega
  · omega

theorem shiftToEven_le {n s k : Nat} (h : n ≤ k * twoTo s) : shiftToEven n s ≤ k := by
  have positive : 0 < twoTo s := Nat.two_pow_pos s
  have whole := Nat.div_add_mod n (twoTo s)
  have floor : n / twoTo s ≤ k := Nat.div_le_of_le_mul (by rwa [Nat.mul_comm])
  unfold shiftToEven
  dsimp only
  split
  · exact floor
  · next large =>
    -- Something is left, so the quotient is smaller.
    have less : n / twoTo s < k := by
      refine (Nat.div_lt_iff_lt_mul positive).2 (Nat.lt_of_le_of_ne h ?_)
      rintro rfl
      simp [positive] at large
    split
    · exact less
    · omega

theorem shiftToEven_zero (n : Nat) : shiftToEven n 0 = n :=
  Nat.le_antisymm (shiftToEven_le (Nat.mul_one n).ge) (le_shiftToEven (Nat.mul_one n).le)

/-- The whole number with 53 bits that is nearest to a given one. -/
def nearestWhole (n : Nat) : Nat := shiftToEven n (n.log2 - 52) * twoTo (n.log2 - 52)

/-- The nearest whole number with 53 bits, the sign left as it is. -/
def rounded (n : Int) : Int := n.sign * nearestWhole n.natAbs

/-- The whole number has at most 53 bits, apart from zeros at its end. -/
def Fits (b : Nat) : Prop := ∃ m k, m < twoTo 53 ∧ b = m * twoTo k

theorem twoTo_add (j k : Nat) : twoTo (j + k) = twoTo j * twoTo k := Nat.pow_add 2 j k

/-- Compared with a number, a whole number of 53 bits is a multiple of the unit that the number is
rounded to, or it is smaller than all numbers that are rounded to this unit. -/
theorem Fits.aligned {b : Nat} (fits : Fits b) (n : Nat) :
    (∃ q, b = q * twoTo (n.log2 - 52)) ∨
      b < twoTo 52 * twoTo (n.log2 - 52) ∧ twoTo 52 * twoTo (n.log2 - 52) ≤ n := by
  obtain ⟨m, k, short, rfl⟩ := fits
  by_cases coarse : n.log2 - 52 ≤ k
  · refine .inl ⟨m * twoTo (k - (n.log2 - 52)), ?_⟩
    rw [Nat.mul_assoc, ← twoTo_add, Nat.sub_add_cancel coarse]
  · have large : n ≠ 0 := by
      rintro rfl
      exact coarse (Nat.zero_le k)
    have unit : twoTo (52 + (n.log2 - 52)) = twoTo n.log2 := by
      congr 1
      omega
    have double : twoTo 52 * 2 = twoTo 53 := rfl
    refine .inr ⟨?_, ?_⟩
    · calc m * twoTo k < twoTo 53 * twoTo k := Nat.mul_lt_mul_of_pos_right short (Nat.two_pow_pos k)
        _ = twoTo 52 * twoTo (k + 1) := by
          rw [twoTo_succ k, ← double, Nat.mul_assoc, Nat.mul_comm 2]
        _ ≤ twoTo 52 * twoTo (n.log2 - 52) :=
          Nat.mul_le_mul_left _ (Nat.pow_le_pow_right Nat.two_pos (by omega))
    · rw [← twoTo_add, unit]
      exact Nat.log2_self_le large

theorem nearestWhole_le {n b : Nat} (fits : Fits b) (h : n ≤ b) : nearestWhole n ≤ b := by
  rcases fits.aligned n with ⟨q, rfl⟩ | ⟨below, above⟩
  · exact Nat.mul_le_mul_right _ (shiftToEven_le h)
  · omega

theorem le_nearestWhole {n b : Nat} (fits : Fits b) (h : b ≤ n) : b ≤ nearestWhole n := by
  rcases fits.aligned n with ⟨q, rfl⟩ | ⟨below, above⟩
  · exact Nat.mul_le_mul_right _ (le_shiftToEven h)
  · exact below.le.trans (Nat.mul_le_mul_right _ (le_shiftToEven above))

theorem rounded_neg (n : Int) : rounded (-n) = -rounded n := by
  unfold rounded
  rw [Int.sign_neg, Int.natAbs_neg, Int.neg_mul]

theorem rounded_natCast (n : Nat) : rounded n = nearestWhole n := by
  unfold rounded
  cases n with
  | zero => rfl
  | succ n => rw [Int.sign_natCast_of_ne_zero n.succ_ne_zero, Int.one_mul, Int.natAbs_natCast]

/-- Rounding does not go above a whole number of 53 bits. -/
theorem rounded_le {n b : Int} (fits : Fits b.natAbs) (h : n ≤ b) : rounded n ≤ b := by
  obtain ⟨i, rfl | rfl⟩ := n.eq_nat_or_neg
  · obtain ⟨j, rfl⟩ := Int.eq_ofNat_of_zero_le (i.cast_nonneg.trans h)
    rw [rounded_natCast]
    exact_mod_cast nearestWhole_le fits (by exact_mod_cast h)
  · rw [rounded_neg, rounded_natCast]
    obtain ⟨j, rfl | rfl⟩ := b.eq_nat_or_neg
    · omega
    · rw [Int.natAbs_neg, Int.natAbs_natCast] at fits
      have above : j ≤ nearestWhole i := le_nearestWhole fits (by omega)
      omega

/-- Rounding does not go below a whole number of 53 bits. -/
theorem le_rounded {n b : Int} (fits : Fits b.natAbs) (h : b ≤ n) : b ≤ rounded n := by
  have opposite := rounded_le (n := -n) (b := -b) (by rwa [Int.natAbs_neg]) (Int.neg_le_neg h)
  rw [rounded_neg] at opposite
  exact Int.neg_le_neg_iff.1 opposite

/-! ## The nearest number -/

theorem cast_twoTo (k : Nat) : (twoTo k : ℚ) = 2 ^ k := Nat.cast_pow 2 k

/-- The rational number that a finite number is. -/
def value? : Binary → Option ℚ
  | finite negative m e => some ((if negative then -1 else 1) * (m * 2 ^ e))
  | _ => none

/-- A mantissa that has been rounded up to the next power of two carries into the exponent, and the
value is the same as if it did not. -/
theorem value?_ofBits (negative : Bool) {exponent mantissa : Nat} (bound : exponent < 2045)
    (full : twoTo 52 ≤ mantissa) (short : mantissa ≤ twoTo 53) :
    (ofFloat (Float.ofBits (UInt64.ofNat
      (signBits negative + (exponent * twoTo 52 + mantissa))))).value? =
        some ((if negative then -1 else 1) *
          ((mantissa : ℚ) * 2 ^ (leastExponent + exponent))) := by
  have double : twoTo 53 = 2 * twoTo 52 := rfl
  rcases short.lt_or_eq with less | rfl
  · obtain ⟨fraction, rfl⟩ := Nat.exists_eq_add_of_le full
    have bits : signBits negative + (exponent * twoTo 52 + (twoTo 52 + fraction)) =
        signBits negative + (exponent + 1) * twoTo 52 + fraction := by
      rw [Nat.succ_mul]
      omega
    rw [bits, ofFloat_ofBits negative (by omega) (by omega), value?]
  · have bits : signBits negative + (exponent * twoTo 52 + twoTo 53) =
        signBits negative + (exponent + 1 + 1) * twoTo 52 + 0 := by
      rw [Nat.succ_mul, Nat.succ_mul]
      omega
    have carry : (2 : ℚ) ^ (leastExponent + ((exponent + 1 : Nat) : Int)) =
        2 * 2 ^ (leastExponent + exponent) := by
      rw [Nat.cast_succ, ← add_assoc, zpow_add_one₀ two_ne_zero, mul_comm]
    rw [bits, ofFloat_ofBits negative (by omega) (Nat.two_pow_pos 52), value?, carry, double]
    push_cast
    congr 1
    ring

/-- The mantissa of the number nearest to a whole number: all its bits if they fit, with zeros
behind them, and otherwise its upper bits, rounded. -/
def nearestMantissa (n : Nat) : Nat :=
  if n.log2 ≤ 52 then n * twoTo (52 - n.log2) else shiftToEven n (n.log2 - 52)

theorem nearestMantissa_bounds {n : Nat} (positive : n ≠ 0) :
    twoTo 52 ≤ nearestMantissa n ∧ nearestMantissa n ≤ twoTo 53 := by
  have below : twoTo n.log2 ≤ n := Nat.log2_self_le positive
  have above : n ≤ twoTo (n.log2 + 1) := Nat.lt_log2_self.le
  unfold nearestMantissa
  split
  · next small =>
    obtain ⟨zeros, width⟩ := Nat.exists_eq_add_of_le small
    have next : 53 = n.log2 + 1 + zeros := by omega
    rw [next, width, Nat.add_sub_cancel_left, twoTo_add, twoTo_add]
    exact ⟨Nat.mul_le_mul_right _ below, Nat.mul_le_mul_right _ above⟩
  · next large =>
    have width : 52 + (n.log2 - 52) = n.log2 := by omega
    have next : 53 + (n.log2 - 52) = n.log2 + 1 := by omega
    refine ⟨le_shiftToEven ?_, shiftToEven_le ?_⟩
    · rwa [← twoTo_add, width]
    · rwa [← twoTo_add, next]

/-- The mantissa times its power of two is the nearest whole number with 53 bits. -/
theorem nearestMantissa_mul (n : Nat) :
    nearestMantissa n * (2 : ℚ) ^ ((n.log2 : ℤ) - 52) = nearestWhole n := by
  unfold nearestMantissa nearestWhole
  split
  · next small =>
    obtain ⟨zeros, width⟩ := Nat.exists_eq_add_of_le small
    have exponent : (n.log2 : ℤ) - 52 = -(zeros : ℤ) := by omega
    have shift : 52 - n.log2 = zeros := by omega
    have one : twoTo 0 = 1 := rfl
    rw [Nat.sub_eq_zero_of_le small, shiftToEven_zero, one, Nat.mul_one, shift, exponent, zpow_neg,
      zpow_natCast, Nat.cast_mul, cast_twoTo,
      mul_inv_cancel_right₀ (pow_ne_zero zeros two_ne_zero)]
  · next large =>
    have exponent : (n.log2 : ℤ) - 52 = (n.log2 - 52 : Nat) := by omega
    rw [exponent, zpow_natCast, Nat.cast_mul, cast_twoTo]

/-- The bits of the number nearest to a positive whole number. -/
theorem nearestBits_eq {n : Nat} (positive : n ≠ 0) (bound : n.log2 < 1023) :
    nearestBits n 0 = (n.log2 + 1022) * twoTo 52 + nearestMantissa n := by
  have least : leastExponent ≤ (n.log2 : ℤ) + 0 - 52 := by
    rw [leastExponent]
    omega
  have steps : ((n.log2 : ℤ) + 0 - 52 - leastExponent).toNat = n.log2 + 1022 := by
    rw [leastExponent]
    omega
  have same : (if (n.log2 : ℤ) + 0 - 52 ≤ 0 then n * twoTo (0 - ((n.log2 : ℤ) + 0 - 52)).toNat
      else shiftToEven n ((n.log2 : ℤ) + 0 - 52 - 0).toNat) = nearestMantissa n := by
    have left : (0 - ((n.log2 : ℤ) + 0 - 52)).toNat = 52 - n.log2 := by omega
    have right : ((n.log2 : ℤ) + 0 - 52 - 0).toNat = n.log2 - 52 := by omega
    have fits : (n.log2 : ℤ) + 0 - 52 ≤ 0 ↔ n.log2 ≤ 52 := by omega
    simp only [nearestMantissa, left, right, fits]
  have within : (n.log2 + 1022) * twoTo 52 + nearestMantissa n ≤ 2047 * twoTo 52 := by
    have double : twoTo 53 = 2 * twoTo 52 := rfl
    have large : (n.log2 + 1022) * twoTo 52 ≤ 2044 * twoTo 52 := Nat.mul_le_mul_right _ (by omega)
    have short := (nearestMantissa_bounds positive).2
    omega
  unfold nearestBits
  rw [if_neg positive, max_eq_left least]
  dsimp only
  rw [steps, same, min_eq_left within]

/-- The number nearest to a whole number is a whole number, namely the nearest with 53 bits. -/
theorem value?_ofInt {n : Int} (bound : n.natAbs.log2 < 1023) :
    (ofFloat (ofInt n)).value? = some (rounded n : ℚ) := by
  by_cases zero : n = 0
  · subst zero
    have parts : ofFloat (ofInt 0) = .finite false 0 leastExponent := by decide
    rw [parts]
    simp [value?, rounded]
  · have positive := Int.natAbs_ne_zero.2 zero
    obtain ⟨full, short⟩ := nearestMantissa_bounds positive
    have exponent : leastExponent + (n.natAbs.log2 + 1022 : Nat) = (n.natAbs.log2 : ℤ) - 52 := by
      rw [leastExponent]
      omega
    have sign : (if decide (n < 0) then -1 else 1 : ℚ) = n.sign := by
      rcases Int.lt_or_gt_of_ne zero with negative | positive
      · simp [negative, Int.sign_eq_neg_one_of_neg]
      · simp [positive.le, Int.sign_eq_one_of_pos positive]
    have least : n.natAbs.log2 + 1022 < 2045 := by omega
    have number := value?_ofBits (decide (n < 0)) least full short
    rw [← nearestBits_eq positive bound, exponent, nearestMantissa_mul, sign] at number
    exact number.trans (by rw [rounded, Int.cast_mul, Int.cast_natCast])

/-! ## The whole part -/

/-- A rational number without its fraction. -/
def truncated (q : ℚ) : Int := if 0 ≤ q then ⌊q⌋ else ⌈q⌉

theorem truncated_neg (q : ℚ) : truncated (-q) = -truncated q := by
  unfold truncated
  rcases lt_trichotomy q 0 with negative | rfl | positive
  · rw [if_pos (neg_nonneg.2 negative.le), if_neg negative.not_ge, Int.floor_neg]
  · simp
  · rw [if_neg (by linarith), if_pos positive.le, Int.ceil_neg]

theorem wholePart_eq (m : Nat) (e : Int) : (wholePart m e : ℤ) = ⌊(m : ℚ) * 2 ^ e⌋ := by
  unfold wholePart
  split
  · next large =>
    obtain ⟨k, rfl⟩ := Int.eq_ofNat_of_zero_le large
    rw [Int.toNat_natCast, zpow_natCast, ← cast_twoTo]
    exact_mod_cast (Int.floor_natCast _).symm
  · next small =>
    obtain ⟨k, rfl⟩ := Int.exists_eq_neg_ofNat (Int.not_le.1 small).le
    rw [Int.neg_neg, Int.toNat_natCast, zpow_neg, zpow_natCast, ← div_eq_mul_inv, ← cast_twoTo]
    exact_mod_cast (Rat.floor_natCast_div_natCast m (twoTo k)).symm

/-- The whole part of a number is the rational number that it is without its fraction. -/
theorem toInt?_eq (x : Float) : toInt? x = (ofFloat x).value?.map truncated := by
  unfold toInt?
  cases ofFloat x with
  | nan => rfl
  | infinite negative => rfl
  | finite negative m e =>
    have positive : truncated ((m : ℚ) * 2 ^ e) = wholePart m e := by
      rw [wholePart_eq, truncated, if_pos (by positivity)]
    dsimp only [value?, Option.map_some]
    cases negative
    · rw [if_neg Bool.false_ne_true, if_neg Bool.false_ne_true, one_mul, positive]
    · rw [if_pos rfl, if_pos rfl, neg_one_mul, truncated_neg, positive]

theorem fits_wholePart {m : Nat} (short : m < twoTo 53) (e : Int) : Fits (wholePart m e) := by
  unfold wholePart
  split
  · exact ⟨m, e.toNat, short, rfl⟩
  · exact ⟨_, 0, (Nat.div_le_self _ _).trans_lt short, (Nat.mul_one _).symm⟩

/-- The whole part of a number has 53 bits. -/
theorem fits_of_toInt? {x : Float} {n : Int} (h : toInt? x = some n) : Fits n.natAbs := by
  unfold toInt? at h
  cases parts : ofFloat x with
  | nan => simp [parts] at h
  | infinite negative => simp [parts] at h
  | finite negative m e =>
    rw [parts] at h
    have whole := fits_wholePart (regular_of_finite parts).mantissa_lt e
    cases negative
    · cases h
      exact whole
    · cases h
      rwa [if_pos rfl, Int.natAbs_neg]

end Binary

end SloScript
