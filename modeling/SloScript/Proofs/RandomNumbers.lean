import SloScript.Builtin
import SloScript.Proofs.NearestNumbers

/-!
# The range of random numbers

A random number is drawn between the whole parts of two bounds. On the way the bounds are cut off to
64 bits, and what has been drawn is rounded to a number of the language. Rounding does no harm, even
where not all whole numbers are left: the bounds are numbers of the language themselves, and it does
not go beyond them. Cutting off does: a range that lies above all 64-bit integers, or below them,
becomes a single number next to it.

Results:
1. `between_mem`, `exists_between_eq`: what is drawn, before rounding.
2. `cutOff_le_rounded`, `rounded_le_cutOff`: rounding stays between the bounds, cut off.
3. `random_in_range`: a random number is drawn between its bounds, cut off, and it is between the
   bounds as they are if the range reaches the 64-bit integers.
-/

namespace SloScript

namespace Builtin

open Binary

variable {low high drawn : Int}

/-! ## Drawing -/

theorem between_mem (ordered : low ≤ high) (raw : Nat) :
    low ≤ between low high raw ∧ between low high raw ≤ high := by
  unfold between
  have some : 0 < (high - low + 1).toNat := by omega
  have left := Nat.mod_lt raw some
  omega

/-- Every whole number between the bounds can be drawn. -/
theorem exists_between_eq (above : low ≤ drawn) (below : drawn ≤ high) :
    ∃ raw, between low high raw = drawn := by
  refine ⟨(drawn - low).toNat, ?_⟩
  have less : (drawn - low).toNat < (high - low + 1).toNat := by omega
  rw [between, Nat.mod_eq_of_lt less]
  omega

/-! ## Cutting off and rounding -/

/-- A whole number cut off to the range of 64-bit integers, the power of two above it included. -/
def cutOff (n : Int) : Int := max (-2 ^ 63) (min n (2 ^ 63))

theorem fits_cutOff (fits : Fits low.natAbs) : Fits (cutOff low).natAbs := by
  have power : Fits (2 ^ 63) := ⟨1, 63, by decide, by decide⟩
  unfold cutOff
  rcases max_choice (-2 ^ 63) (min low (2 ^ 63)) with least | rest
  · rw [least]
    exact power
  · rw [rest]
    rcases min_choice low (2 ^ 63) with inside | most
    · rwa [inside]
    · rw [most]
      exact power

theorem saturate_mono (ordered : low ≤ high) : saturate low ≤ saturate high := by
  unfold saturate
  omega

theorem log2_saturated (above : saturate low ≤ drawn) (below : drawn ≤ saturate high) :
    drawn.natAbs.log2 < 1023 := by
  unfold saturate at above below
  by_cases zero : drawn.natAbs = 0
  · rw [zero]
    decide
  · have short : drawn.natAbs.log2 < 64 := (Nat.log2_lt zero).2 (by omega)
    omega

theorem rounded_le_cutOff (fits : Fits high.natAbs) (below : drawn ≤ saturate high) :
    rounded drawn ≤ cutOff high := by
  refine rounded_le (fits_cutOff fits) (below.trans ?_)
  unfold saturate cutOff
  omega

theorem cutOff_le_rounded (fits : Fits low.natAbs) (above : saturate low ≤ drawn)
    (below : drawn ≤ saturate high) : cutOff low ≤ rounded drawn := by
  by_cases inside : low < 2 ^ 63
  · refine le_rounded (fits_cutOff fits) (le_trans ?_ above)
    unfold saturate cutOff
    omega
  · -- Only the largest 64-bit integer is left to be drawn, and it is rounded up.
    have largest : drawn = 2 ^ 63 - 1 := by
      unfold saturate at above below
      omega
    have up : rounded (2 ^ 63 - 1) = 2 ^ 63 := by decide
    rw [largest, up]
    unfold cutOff
    omega

/-! ## Running -/

variable {x y : Float} {p q : ℚ}

/-- With finite bounds in order, one request is made to the host, and its answer decides. -/
theorem random_run (host : Host) (hx : toInt? x = some low) (hy : toInt? y = some high)
    (ordered : low ≤ high) (span : Span) (st : State) :
    random.run host [.number x, .number y] span st =
      (.ok (.number (randomBetween low high (host.draw st.requests))),
        { st with requests := st.requests + 1 }) := by
  have accepted : bounds x y = .ok (low, high) := by
    rw [bounds, hx, hy]
    exact if_neg (Int.not_lt.2 ordered)
  have first : random.numberArg [.number x, .number y] 0 = .ok x := rfl
  have second : random.numberArg [.number x, .number y] 1 = .ok y := rfl
  simp only [run, Action.bind_run, first, second, accepted, Action.settle, Action.pure_run,
    Action.request]

/-- Whatever the host draws, a random number is a whole number between its bounds, cut off. It is
between the bounds as they are if these are not both above or both below the 64-bit integers and
their neighbour, and only then. -/
theorem random_in_range (host : Host) (hx : (ofFloat x).value? = some p)
    (hy : (ofFloat y).value? = some q) (ordered : truncated p ≤ truncated q) (span : Span)
    (st : State) :
    ∃ z, ∃ v : Int, ∃ st', random.run host [.number x, .number y] span st = (.ok (.number z), st') ∧
      (ofFloat z).value? = some (v : ℚ) ∧
      cutOff (truncated p) ≤ v ∧ v ≤ cutOff (truncated q) ∧
      (truncated p ≤ v ∧ v ≤ truncated q ↔ truncated p ≤ 2 ^ 63 ∧ -2 ^ 63 ≤ truncated q) := by
  have hl : toInt? x = some (truncated p) := by rw [toInt?_eq, hx, Option.map_some]
  have hh : toInt? y = some (truncated q) := by rw [toInt?_eq, hy, Option.map_some]
  obtain ⟨above, below⟩ := between_mem (saturate_mono ordered) (host.draw st.requests)
  have least := cutOff_le_rounded (fits_of_toInt? hl) above below
  have most := rounded_le_cutOff (fits_of_toInt? hh) below
  refine ⟨_, _, _, random_run host hl hh ordered span st,
    value?_ofInt (log2_saturated above below), least, most, ?_⟩
  unfold cutOff at least most
  omega

/-- The bounds `1.5` and `2 ^ 64`, and a draw whose number is rounded. -/
theorem random_in_range_rounded :
    let host : Host := ⟨1, fun _ => ⟨0, 0, 0, 1, 1, 2000⟩, fun _ => 2 ^ 53, fun _ => none, #[]⟩
    let x := Float.ofBits 0x3FF8000000000000
    let y := Float.ofBits 0x43F0000000000000
    ∃ z, ∃ v : Int, (∃ st, random.run host [.number x, .number y] Span.nowhere .initial =
      (.ok (.number z), st)) ∧ (ofFloat z).value? = some (v : ℚ) ∧ 1 ≤ v ∧ v ≤ 2 ^ 64 := by
  intro host x y
  have hx : (ofFloat x).value? = some (3 / 2) := by
    have parts : ofFloat x = .finite false (3 * 2 ^ 51) (-52) := by decide
    rw [parts, value?]
    norm_num
  have hy : (ofFloat y).value? = some (2 ^ 64) := by
    have parts : ofFloat y = .finite false (2 ^ 52) 12 := by decide
    rw [parts, value?]
    norm_num
  have one : truncated (3 / 2) = 1 := by norm_num [truncated]
  have large : truncated (2 ^ 64) = 2 ^ 64 := by norm_num [truncated]
  obtain ⟨z, v, st, runs, value, -, -, range⟩ :=
    random_in_range host hx hy (by rw [one, large]; decide) Span.nowhere .initial
  rw [one, large] at range
  obtain ⟨least, most⟩ := range.2 ⟨by decide, by decide⟩
  exact ⟨z, v, ⟨st, runs⟩, value, least, most⟩

/-- Both bounds are `2 ^ 64`, and the random number between them is half of that. -/
theorem random_below_bounds :
    let host : Host := ⟨1, fun _ => ⟨0, 0, 0, 1, 1, 2000⟩, fun _ => 0, fun _ => none, #[]⟩
    let x := Float.ofBits 0x43F0000000000000
    (ofFloat x).value? = some (2 ^ 64) ∧
      ∃ z st, random.run host [.number x, .number x] Span.nowhere .initial = (.ok (.number z), st) ∧
        (ofFloat z).value? = some (2 ^ 63) := by
  intro host x
  have bound : ofFloat x = .finite false (2 ^ 52) 12 := by decide
  have whole : toInt? x = some (2 ^ 64) := by decide
  have half : ofFloat (randomBetween (2 ^ 64) (2 ^ 64) 0) = .finite false (2 ^ 52) 11 := by decide
  refine ⟨?_, _, _, random_run host whole whole le_rfl _ _, ?_⟩
  · rw [bound, value?]
    norm_num
  · rw [half, value?]
    norm_num

end Builtin

end SloScript
