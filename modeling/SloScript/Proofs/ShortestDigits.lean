import Mathlib
import SloScript.Number.Shortest
import SloScript.Proofs.BinaryForm

/-!
# Shortest digits determine the number

The digits that are written for a number need not be all of its digits. They are sought in the
interval of those decimals that are nearer to it than to any other number, and so they say which
number it is: the intervals around two numbers never overlap. At the end of an interval, halfway
between two numbers, a decimal belongs to the one with the even mantissa.

The search for the digits tries ever finer grids and comes to an end. On a grid of seventeen digits
the decimals lie closer to each other than the ends of any interval, so that one of the two decimals
around the number is inside.

Results:
1. `shortest_inside`: the shortest digits lie in the interval.
2. `eq_of_inside`: no decimal lies in the intervals around two numbers.
3. `eq_of_value_shortest`: so a number is determined by its shortest digits.
-/

namespace SloScript

namespace Decimal

/-- What a decimal stands for. -/
def value (d : Decimal) : ℚ := d.coefficient * 10 ^ d.exponent

theorem value_normalize (c : Nat) (e : Int) : (normalize c e).value = c * 10 ^ e := by
  fun_induction normalize c e with
  | case1 c e more ih =>
    have whole : (c : ℚ) = (c / 10 : Nat) * 10 := by
      exact_mod_cast (Nat.div_mul_cancel (Nat.dvd_of_mod_eq_zero more.2)).symm
    rw [ih, whole, zpow_add_one₀ (by norm_num)]
    ring
  | case2 => rfl

/-! ## Scaling -/

theorem zpow_scale (base : ℚ) (nonzero : base ≠ 0) (e : Int) :
    base ^ e.toNat = base ^ e * base ^ (-e).toNat := by
  rw [← zpow_natCast, ← zpow_natCast, ← zpow_add₀ nonzero]
  congr 1
  omega

/-- What multiples of a power of two and of a power of ten are scaled by. -/
def scale (e tens : Int) : ℚ := 2 ^ (-e).toNat * 10 ^ (-tens).toNat

theorem scale_pos (e tens : Int) : 0 < scale e tens := by
  unfold scale
  positivity

theorem cast_scaleBinary (n : Nat) (e tens : Int) :
    (scaleBinary n e tens : ℚ) = n * 2 ^ e * scale e tens := by
  have twos := zpow_scale 2 (by norm_num) e
  unfold scaleBinary scale twoTo tenTo
  push_cast [Nat.pow_eq]
  rw [twos]
  ring

theorem cast_scaleDecimal (c : Nat) (e tens : Int) :
    (scaleDecimal c e tens : ℚ) = c * 10 ^ tens * scale e tens := by
  have tens' := zpow_scale 10 (by norm_num) tens
  unfold scaleDecimal scale twoTo tenTo
  push_cast [Nat.pow_eq]
  rw [tens']
  ring

theorem scaleDecimal_eq_mul (c : Nat) (e tens : Int) :
    scaleDecimal c e tens = c * scaleDecimal 1 e tens := by
  simp only [scaleDecimal, Nat.one_mul, Nat.mul_assoc]

/-! ## The interval -/

namespace Interval

variable (i : Interval) {tie : Tie} {tens : Int} {c : Nat}

/-- The rational numbers that lie in an interval. -/
def Inside (q : ℚ) : Prop :=
  (i.low * 2 ^ i.exponent ≤ q ∧ q ≤ i.high * 2 ^ i.exponent) ∧
    (i.closed = false → i.low * 2 ^ i.exponent < q ∧ q < i.high * 2 ^ i.exponent)

variable {i}

theorem inside_of_contains (h : i.contains c tens = true) : i.Inside (c * 10 ^ tens) := by
  have positive := scale_pos i.exponent tens
  have lows := cast_scaleBinary i.low i.exponent tens
  have highs := cast_scaleBinary i.high i.exponent tens
  have candidates := cast_scaleDecimal c i.exponent tens
  unfold contains at h
  dsimp only at h
  split at h
  · next closed =>
    rw [Bool.and_eq_true, decide_eq_true_iff, decide_eq_true_iff] at h
    have above : (scaleBinary i.low i.exponent tens : ℚ) ≤ scaleDecimal c i.exponent tens := by
      exact_mod_cast h.1
    have below : (scaleDecimal c i.exponent tens : ℚ) ≤ scaleBinary i.high i.exponent tens := by
      exact_mod_cast h.2
    rw [lows, candidates] at above
    rw [highs, candidates] at below
    refine ⟨⟨le_of_mul_le_mul_right above positive, le_of_mul_le_mul_right below positive⟩, ?_⟩
    rw [closed]
    exact nofun
  · rw [Bool.and_eq_true, decide_eq_true_iff, decide_eq_true_iff] at h
    have above : (scaleBinary i.low i.exponent tens : ℚ) < scaleDecimal c i.exponent tens := by
      exact_mod_cast h.1
    have below : (scaleDecimal c i.exponent tens : ℚ) < scaleBinary i.high i.exponent tens := by
      exact_mod_cast h.2
    rw [lows, candidates] at above
    rw [highs, candidates] at below
    have above := lt_of_mul_lt_mul_right above positive.le
    have below := lt_of_mul_lt_mul_right below positive.le
    exact ⟨⟨above.le, below.le⟩, fun _ => ⟨above, below⟩⟩

theorem inside_of_onGrid? (h : i.onGrid? tie tens = some c) : i.Inside (c * 10 ^ tens) := by
  refine inside_of_contains ?_
  unfold onGrid? at h
  dsimp only at h
  split at h
  · next below above =>
    split at h
    · exact Option.some.inj h ▸ below
    split at h
    · exact Option.some.inj h ▸ above
    split at h
    · exact Option.some.inj h ▸ above
    · obtain rfl := Option.some.inj h
      split
      · exact below
      · exact above
  · next below _ => exact Option.some.inj h ▸ below
  · next _ above => exact Option.some.inj h ▸ above
  · cases h

/-- A decimal at or below the number that is not in the interval lies below all of it. -/
theorem le_low_of_contains_eq_false (h : i.contains c tens = false)
    (below : scaleDecimal c i.exponent tens < scaleBinary i.high i.exponent tens) :
    scaleDecimal c i.exponent tens ≤ scaleBinary i.low i.exponent tens := by
  unfold contains at h
  dsimp only at h
  split at h
  · simp only [Bool.and_eq_false_iff, decide_eq_false_iff_not] at h
    omega
  · simp only [Bool.and_eq_false_iff, decide_eq_false_iff_not] at h
    omega

theorem high_le_of_contains_eq_false (h : i.contains c tens = false)
    (above : scaleBinary i.low i.exponent tens < scaleDecimal c i.exponent tens) :
    scaleBinary i.high i.exponent tens ≤ scaleDecimal c i.exponent tens := by
  unfold contains at h
  dsimp only at h
  split at h
  · simp only [Bool.and_eq_false_iff, decide_eq_false_iff_not] at h
    omega
  · simp only [Bool.and_eq_false_iff, decide_eq_false_iff_not] at h
    omega

/-- On a grid that is finer than the interval is wide, one of the two decimals around the number
lies in the interval. -/
theorem onGrid?_isSome (lowMiddle : i.low ≤ i.middle) (middleHigh : i.middle < i.high)
    (fine : scaleBinary i.low i.exponent tens + scaleDecimal 1 i.exponent tens <
      scaleBinary i.high i.exponent tens) : (i.onGrid? tie tens).isSome = true := by
  have unitPositive : 0 < scaleDecimal 1 i.exponent tens := by
    simp only [scaleDecimal, tenTo, twoTo, Nat.pow_eq]
    positivity
  have ordered {n n' : Nat} (less : n < n') :
      scaleBinary n i.exponent tens < scaleBinary n' i.exponent tens := by
    simp only [scaleBinary, tenTo, twoTo, Nat.pow_eq]
    gcongr
  have numberHigh := ordered middleHigh
  have lowNumber : scaleBinary i.low i.exponent tens ≤ scaleBinary i.middle i.exponent tens := by
    rcases Nat.eq_or_lt_of_le lowMiddle with same | less
    · rw [same]
    · exact (ordered less).le
  generalize number : scaleBinary i.middle i.exponent tens = n at numberHigh lowNumber
  generalize unit : scaleDecimal 1 i.exponent tens = u at fine unitPositive
  have atLeast : n / u * u ≤ n := Nat.div_mul_le_self n u
  have atMost : n < n / u * u + u := Nat.lt_div_mul_add unitPositive
  have below : scaleDecimal (n / u) i.exponent tens = n / u * u := by
    rw [scaleDecimal_eq_mul, unit]
  have above : scaleDecimal (n / u + 1) i.exponent tens = n / u * u + u := by
    rw [scaleDecimal_eq_mul, unit, Nat.succ_mul]
  have hit : i.contains (n / u) tens = true ∨ i.contains (n / u + 1) tens = true := by
    by_contra missed
    rw [not_or, Bool.not_eq_true, Bool.not_eq_true] at missed
    have low := le_low_of_contains_eq_false missed.1 (by omega)
    have high := high_le_of_contains_eq_false missed.2 (by omega)
    omega
  unfold onGrid?
  dsimp only
  rw [number, unit]
  split
  · split
    · rfl
    split
    · rfl
    split <;> rfl
  · rfl
  · rfl
  · next missedBelow missedAbove =>
    rw [missedBelow, missedAbove] at hit
    simp at hit

theorem value_search_inside {magnitude : Int} {more digits : Nat}
    (last : (i.onGrid? tie (magnitude - (digits + more : Nat))).isSome = true) :
    i.Inside (i.search tie magnitude (more + 1) digits).value := by
  induction more generalizing digits with
  | zero =>
    obtain ⟨c, found⟩ := Option.isSome_iff_exists.1 last
    rw [Nat.add_zero] at found
    simp only [search, found]
    rw [value_normalize]
    exact inside_of_onGrid? found
  | succ more ih =>
    rw [search]
    split
    · next c found =>
      rw [value_normalize]
      exact inside_of_onGrid? found
    · refine ih ?_
      rwa [Nat.add_right_comm, Nat.add_assoc]

end Interval

/-! ## Around a number -/

theorem tenPow_digitCount_le {n : Nat} (positive : 0 < n) : 10 ^ (digitCount n - 1) ≤ n := by
  unfold digitCount
  rcases Nat.eq_zero_or_pos ((Nat.toDigits 10 n).length - 1) with short | long
  · rw [short]
    exact positive
  · rw [← Nat.not_lt, ← Nat.length_toDigits_le_iff (by decide) long]
    omega

/-- The first digit of a number is not before the place that its magnitude tells. -/
theorem tenPow_magnitude_le {m : Nat} (positive : 0 < m) (e : Int) :
    (10 : ℚ) ^ (magnitude m e - 1) ≤ m * 2 ^ e := by
  have digits : 0 < digitCount (m * twoTo e.toNat * fiveTo (-e).toNat) :=
    Nat.length_toDigits_pos
  have bound : 10 ^ (digitCount (m * twoTo e.toNat * fiveTo (-e).toNat) - 1) ≤
      m * twoTo e.toNat * fiveTo (-e).toNat :=
    tenPow_digitCount_le (by simp only [twoTo, fiveTo, Nat.pow_eq]; positivity)
  unfold magnitude
  dsimp only
  generalize digitCount (m * twoTo e.toNat * fiveTo (-e).toNat) = d at digits bound ⊢
  have whole : ((m * twoTo e.toNat * fiveTo (-e).toNat : Nat) : ℚ) =
      m * 2 ^ e * 10 ^ (-e).toNat := by
    have twos := zpow_scale 2 (by norm_num) e
    have tens : (10 : ℚ) ^ (-e).toNat = 2 ^ (-e).toNat * 5 ^ (-e).toNat := by
      rw [← mul_pow]
      norm_num
    unfold twoTo fiveTo
    push_cast [Nat.pow_eq]
    rw [twos, tens]
    ring
  have split : (10 : ℚ) ^ ((d : Int) - ((-e).toNat : Int) - 1) * 10 ^ (-e).toNat =
      (10 ^ (d - 1) : Nat) := by
    push_cast
    rw [← zpow_natCast, ← zpow_natCast, ← zpow_add₀ (by norm_num)]
    congr 1
    omega
  refine le_of_mul_le_mul_right ?_ (show (0 : ℚ) < 10 ^ (-e).toNat by positivity)
  rw [split, ← whole]
  exact_mod_cast bound

open Binary (Regular)

section

variable {m m' : Nat} {e e' : Int} {q : ℚ}

theorem twoTo_53 : twoTo 53 = 9007199254740992 := rfl

theorem twoTo_52 : twoTo 52 = 4503599627370496 := rfl

/-- The ends of the interval around a number, in quarters of its last place. -/
theorem around_ends (positive : 0 < m) :
    ∃ below, (Interval.around m e).low + below = 4 * m ∧ (Interval.around m e).middle = 4 * m ∧
      (Interval.around m e).high = 4 * m + 2 ∧ (Interval.around m e).exponent = e - 2 ∧
      (Interval.around m e).closed = (m % 2 == 0) ∧
      (below = 2 ∧ ¬(m = twoTo 52 ∧ Binary.leastExponent < e) ∨ below = 1 ∧ m = twoTo 52) := by
  unfold Interval.around
  dsimp only
  split
  · next edge => exact ⟨1, by omega, rfl, rfl, rfl, rfl, .inr ⟨rfl, edge.1⟩⟩
  · next other => exact ⟨2, by omega, rfl, rfl, rfl, rfl, .inl ⟨rfl, other⟩⟩

/-- Seventeen digits suffice: decimals of that many digits lie closer to each other than the ends of
the interval. -/
theorem seventeen_digits (positive : 0 < m) (regular : Regular m e) :
    scaleBinary (Interval.around m e).low (e - 2) (magnitude m e - 17) +
        scaleDecimal 1 (e - 2) (magnitude m e - 17) <
      scaleBinary (Interval.around m e).high (e - 2) (magnitude m e - 17) := by
  obtain ⟨below, low, -, high, -, -, cases⟩ := around_ends (e := e) positive
  have bound := regular.mantissa_lt
  rw [twoTo_53] at bound
  rw [twoTo_52] at cases
  have wide :
      4 * m + (Interval.around m e).low * 10 ^ 16 < (Interval.around m e).high * 10 ^ 16 := by
    omega
  generalize (Interval.around m e).low = low at wide
  generalize (Interval.around m e).high = high at wide
  have first := tenPow_magnitude_le positive e
  rw [show magnitude m e - 1 = magnitude m e - 17 + 16 by ring, zpow_add₀ (by norm_num),
    show e = e - 2 + 2 by ring, zpow_add₀ (by norm_num), Int.sub_add_cancel] at first
  have positive' := scale_pos (e - 2) (magnitude m e - 17)
  have place : (0 : ℚ) < 2 ^ (e - 2) := by positivity
  have wide : (4 * m + low * 10 ^ 16 : ℚ) < high * 10 ^ 16 := by exact_mod_cast wide
  generalize tens : magnitude m e - 17 = t at first positive' ⊢
  have sum : (low * 2 ^ (e - 2) + 10 ^ t : ℚ) < high * 2 ^ (e - 2) := by
    have ends := mul_lt_mul_of_pos_right wide place
    norm_num at first ends ⊢
    linarith
  have scaled := mul_lt_mul_of_pos_right sum positive'
  rw [add_mul] at scaled
  rw [← Nat.cast_lt (α := ℚ), Nat.cast_add, cast_scaleBinary, cast_scaleBinary, cast_scaleDecimal,
    Nat.cast_one, one_mul]
  exact scaled

/-- The shortest digits lie in the interval around the number. -/
theorem shortest_inside (tie : Tie) (positive : 0 < m) (regular : Regular m e) :
    (Interval.around m e).Inside (shortest tie m e).value := by
  have fine := seventeen_digits positive regular
  obtain ⟨below, low, middle, high, exponent, -, cases⟩ := around_ends (e := e) positive
  refine Interval.value_search_inside (Interval.onGrid?_isSome (by omega) (by omega) ?_)
  rw [exponent]
  exact fine

/-! ## Around two numbers -/

theorem place_eq (less : e ≤ e') :
    (2 : ℚ) ^ (e' - 2) = (2 ^ (e' - e).toNat : Nat) * 2 ^ (e - 2) := by
  push_cast
  rw [← zpow_natCast, ← zpow_add₀ (by norm_num)]
  congr 1
  omega

/-- The interval around a number lies below that around any larger one. Where they touch, one of
them does not contain its end. -/
theorem high_le_low (positive' : 0 < m') (regular : Regular m e) (regular' : Regular m' e')
    (less : e < e' ∨ e = e' ∧ m < m') :
    (Interval.around m e).high < (Interval.around m' e').low * 2 ^ (e' - e).toNat ∨
      (Interval.around m e).high = (Interval.around m' e').low * 2 ^ (e' - e).toNat ∧
        ((Interval.around m e).closed = false ∨ (Interval.around m' e').closed = false) := by
  obtain ⟨below, low, -, -, -, closed', cases⟩ := around_ends (e := e') positive'
  have bound := regular.mantissa_lt
  have bound' := regular'.mantissa_lt
  have high : (Interval.around m e).high = 4 * m + 2 := rfl
  have closed : (Interval.around m e).closed = (m % 2 == 0) := rfl
  rw [closed, closed', high, beq_eq_false_iff_ne, beq_eq_false_iff_ne]
  rw [twoTo_53] at bound bound'
  rw [twoTo_52] at cases
  rcases less with less | ⟨rfl, less⟩
  · have least := regular.least_le
    have full := regular'.least_or_full.resolve_left (by omega)
    rw [twoTo_52] at full
    have double : (Interval.around m' e').low * 2 ≤
        (Interval.around m' e').low * 2 ^ (e' - e).toNat := by
      refine Nat.mul_le_mul_left _ (Nat.le_self_pow ?_ 2)
      omega
    omega
  · rw [Int.sub_self, Int.toNat_zero, Nat.pow_zero, Nat.mul_one]
    omega

/-- No decimal lies in the interval around a number and in that around a larger one. -/
theorem not_inside_both (positive' : 0 < m') (regular : Regular m e) (regular' : Regular m' e')
    (less : e < e' ∨ e = e' ∧ m < m') (inside : (Interval.around m e).Inside q)
    (inside' : (Interval.around m' e').Inside q) : False := by
  have place : (0 : ℚ) < 2 ^ (e - 2) := by positivity
  have places : e ≤ e' := by omega
  obtain ⟨⟨-, high⟩, opened⟩ := inside
  obtain ⟨⟨low, -⟩, opened'⟩ := inside'
  -- Both ends as multiples of the finer place.
  have lowEnd : ((Interval.around m' e').low * 2 ^ (Interval.around m' e').exponent : ℚ) =
      ((Interval.around m' e').low * 2 ^ (e' - e).toNat : Nat) * 2 ^ (e - 2) := by
    rw [show (Interval.around m' e').exponent = e' - 2 from rfl, place_eq places]
    push_cast
    ring
  rw [show (Interval.around m e).exponent = e - 2 from rfl] at high opened
  rw [lowEnd] at low opened'
  rcases high_le_low positive' regular regular' less with apart | ⟨touch, closed | closed⟩
  · have apart : ((Interval.around m e).high : ℚ) <
        ((Interval.around m' e').low * 2 ^ (e' - e).toNat : Nat) := by exact_mod_cast apart
    have := mul_lt_mul_of_pos_right apart place
    linarith
  · rw [← touch] at low
    exact absurd (opened closed).2 (not_lt.2 low)
  · rw [← touch] at opened'
    exact absurd (opened' closed).1 (not_lt.2 high)

theorem eq_of_inside (positive : 0 < m) (positive' : 0 < m') (regular : Regular m e)
    (regular' : Regular m' e') (inside : (Interval.around m e).Inside q)
    (inside' : (Interval.around m' e').Inside q) : m = m' ∧ e = e' := by
  have upward : ¬(e < e' ∨ e = e' ∧ m < m') := fun less =>
    not_inside_both positive' regular regular' less inside inside'
  have downward : ¬(e' < e ∨ e' = e ∧ m' < m) := fun less =>
    not_inside_both positive regular' regular less inside' inside
  omega

/-- Two numbers with shortest digits of the same value are the same. -/
theorem eq_of_value_shortest (tie : Tie) (positive : 0 < m) (positive' : 0 < m')
    (regular : Regular m e) (regular' : Regular m' e')
    (same : (shortest tie m e).value = (shortest tie m' e').value) : m = m' ∧ e = e' :=
  eq_of_inside positive positive' regular regular' (shortest_inside tie positive regular)
    (same ▸ shortest_inside tie positive' regular')

theorem value_shortest_pos (tie : Tie) (positive : 0 < m) (regular : Regular m e) :
    0 < (shortest tie m e).value := by
  obtain ⟨below, low, -, -, -, -, cases⟩ := around_ends (e := e) positive
  obtain ⟨⟨bound, -⟩, -⟩ := shortest_inside tie positive regular
  refine lt_of_lt_of_le ?_ bound
  have start : (0 : ℚ) < (Interval.around m e).low := by
    have : 0 < (Interval.around m e).low := by omega
    exact_mod_cast this
  positivity

end

end Decimal

end SloScript
