import SloScript.Number.Layout
import SloScript.Proofs.ShortestDigits

/-!
# A number is determined by its text

However a number is laid out, its text is a sign and a numeral: digits, perhaps with a point among
them, perhaps with a power of ten behind them. A numeral can be taken apart again, since digits stop
at a point or at a letter, and its parts say which decimal it stands for. So layouts may set the
digits as they like. Together with the digits, which say which number was meant, this makes the text
of a finite number tell the number.

Results:
1. `Numeral.eq_of_chars`: a numeral is determined by its characters.
2. `Layout.toList_decimal`, `Layout.value_numeral`: decimals are laid out as numerals of their
   value.
3. `Layout.eq_of_write`: finite numbers with the same text are the same.
-/

namespace SloScript

/-- Runs of one sort of characters that end where a character of another sort comes, or at the end,
can be told from what follows. -/
theorem run_cancel {p : Char → Bool} {run run' rest rest' : List Char}
    (all : ∀ c ∈ run, p c = true) (all' : ∀ c ∈ run', p c = true)
    (stops : ∀ c ∈ rest.head?, p c = false) (stops' : ∀ c ∈ rest'.head?, p c = false)
    (same : run ++ rest = run' ++ rest') : run = run' ∧ rest = rest' := by
  induction run generalizing run' with
  | nil =>
    cases run' with
    | nil => exact ⟨rfl, same⟩
    | cons c run' =>
      have stopped := stops c (by rw [show rest = c :: (run' ++ rest') from same]; rfl)
      rw [all' c List.mem_cons_self] at stopped
      cases stopped
  | cons c run ih =>
    cases run' with
    | nil =>
      have stopped := stops' c (by rw [show rest' = c :: (run ++ rest) from same.symm]; rfl)
      rw [all c List.mem_cons_self] at stopped
      cases stopped
    | cons c' run' =>
      obtain ⟨rfl, tails⟩ := List.cons.inj same
      obtain ⟨rfl, rests⟩ := ih (fun d member => all d (List.mem_cons_of_mem _ member))
        (fun d member => all' d (List.mem_cons_of_mem _ member)) tails
      exact ⟨rfl, rests⟩

/-! ## Numerals -/

/-- The parts of the text of a decimal that is not negative. -/
structure Numeral where
  /-- The digits before the point. -/
  whole : List Char
  /-- The digits behind the point, if there is one. -/
  fraction : Option (List Char)
  /-- The power of ten that is split off. -/
  power : Option Int

namespace Numeral

/-- The characters of a fraction, its point included. -/
def fractionChars : Option (List Char) → List Char
  | none => []
  | some digits => '.' :: digits

/-- The characters of a power of ten, its letter and its sign included. -/
def powerChars : Option Int → List Char
  | none => []
  | some k => 'e' :: (if k < 0 then '-' else '+') :: Nat.toDigits 10 k.natAbs

/-- The characters of a numeral. -/
def chars (n : Numeral) : List Char :=
  n.whole ++ (fractionChars n.fraction ++ powerChars n.power)

/-- What a numeral stands for. -/
def value (n : Numeral) : ℚ :=
  let fraction := n.fraction.getD []
  Nat.ofDigitChars 10 (n.whole ++ fraction) 0 * 10 ^ (n.power.getD 0 - fraction.length)

/-- A numeral of digits, with at least one before the point. -/
structure Proper (n : Numeral) : Prop where
  nonempty : n.whole ≠ []
  whole : ∀ c ∈ n.whole, c.isDigit = true
  fraction : ∀ digits ∈ n.fraction, ∀ c ∈ digits, c.isDigit = true

theorem Proper.starts {n : Numeral} (proper : n.Proper) :
    ∃ c cs, n.chars = c :: cs ∧ c.isDigit = true := by
  obtain ⟨c, cs, is⟩ := List.exists_cons_of_ne_nil proper.nonempty
  refine ⟨c, cs ++ (fractionChars n.fraction ++ powerChars n.power), ?_, ?_⟩
  · rw [chars, is, List.cons_append]
  · exact proper.whole c (is ▸ List.mem_cons_self)

theorem powerChars_stops (power : Option Int) :
    ∀ c ∈ (powerChars power).head?, c.isDigit = false := by
  cases power with
  | none => exact nofun
  | some k =>
    intro c first
    obtain rfl := Option.some.inj first
    rfl

theorem fractionChars_stops (fraction : Option (List Char)) (power : Option Int) :
    ∀ c ∈ (fractionChars fraction ++ powerChars power).head?, c.isDigit = false := by
  cases fraction with
  | none => exact powerChars_stops power
  | some digits =>
    intro c first
    obtain rfl := Option.some.inj first
    rfl

theorem powerChars_injective : Function.Injective powerChars := by
  intro k k' same
  cases k with
  | none =>
    cases k' with
    | none => rfl
    | some k' => cases same
  | some k =>
    cases k' with
    | none => cases same
    | some k' =>
      obtain ⟨-, sign, digits⟩ : True ∧
          (if k < 0 then '-' else '+') = (if k' < 0 then '-' else '+') ∧
          Nat.toDigits 10 k.natAbs = Nat.toDigits 10 k'.natAbs := by
        simpa [powerChars] using same
      have size : k.natAbs = k'.natAbs := by
        rw [← @Nat.ofDigitChars_ten_toDigits k.natAbs, digits, Nat.ofDigitChars_ten_toDigits]
      congr 1
      split at sign <;> split at sign
      · omega
      · cases sign
      · cases sign
      · omega

/-- The parts of a numeral can be told from its characters. -/
theorem eq_of_chars {n n' : Numeral} (proper : n.Proper) (proper' : n'.Proper)
    (same : n.chars = n'.chars) : n = n' := by
  obtain ⟨whole, fraction, power⟩ := n
  obtain ⟨whole', fraction', power'⟩ := n'
  obtain ⟨rfl, rests⟩ := run_cancel proper.whole proper'.whole (fractionChars_stops _ _)
    (fractionChars_stops _ _) same
  dsimp only at rests
  cases fraction with
  | none =>
    cases fraction' with
    | none => rw [powerChars_injective rests]
    | some digits' => cases power <;> cases rests
  | some digits =>
    cases fraction' with
    | none => cases power' <;> cases rests
    | some digits' =>
      obtain ⟨rfl, powers⟩ := run_cancel (proper.fraction digits rfl) (proper'.fraction digits' rfl)
        (powerChars_stops _) (powerChars_stops _) (List.cons.inj rests).2
      rw [powerChars_injective powers]

end Numeral

/-! ## Laying out decimals -/

namespace Layout

open Numeral (fractionChars powerChars)

/-- Digits with a point set among them, as a numeral. -/
def positionalNumeral (showsFraction : Bool) (digits : List Char) (point : Int) : Numeral :=
  if point ≤ 0 then ⟨['0'], some (List.replicate (-point).toNat '0' ++ digits), none⟩
  else
    let whole := point.toNat
    if digits.length ≤ whole then
      ⟨digits ++ List.replicate (whole - digits.length) '0',
        if showsFraction then some ['0'] else none, none⟩
    else ⟨digits.take whole, some (digits.drop whole), none⟩

/-- Digits with a power of ten split off, as a numeral. -/
def scientificNumeral (digits : List Char) (power : Int) : Numeral :=
  let fraction := digits.drop 1
  ⟨digits.take 1, if fraction.isEmpty then none else some fraction, some power⟩

/-- A decimal as a numeral. -/
def numeral (l : Layout) (d : Decimal) : Numeral :=
  let digits := Nat.toDigits 10 d.coefficient
  let point := d.exponent + digits.length
  if l.inFull (point - 1) then positionalNumeral l.showsFraction digits point
  else scientificNumeral digits (point - 1)

section

variable (showsFraction : Bool) {digits : List Char} {point power : Int}

theorem toList_positional :
    (positional showsFraction digits point).toList =
      (positionalNumeral showsFraction digits point).chars := by
  unfold positional positionalNumeral
  dsimp only
  split
  · simp [Numeral.chars, fractionChars, powerChars, Text.copies]
  split
  · cases showsFraction <;> simp [Numeral.chars, fractionChars, powerChars, Text.copies]
  · simp [Numeral.chars, fractionChars, powerChars]

theorem toList_scientific :
    (scientific digits power).toList = (scientificNumeral digits power).chars := by
  have sign : (if power < 0 then "-" else "+").toList = [if power < 0 then '-' else '+'] := by
    split <;> rfl
  have size : (toString power.natAbs).toList = Nat.toDigits 10 power.natAbs := Nat.toList_repr
  unfold scientific scientificNumeral
  dsimp only
  rw [String.toList_append, String.toList_append, String.toList_append, String.toList_append, sign,
    size]
  cases digits.drop 1 with
  | nil => simp [Numeral.chars, fractionChars, powerChars]
  | cons => simp [Numeral.chars, fractionChars, powerChars]

theorem isDigit_of_mem_zeros {n : Nat} {c : Char} (member : c ∈ List.replicate n '0') :
    c.isDigit = true :=
  List.eq_of_mem_replicate member ▸ rfl

theorem proper_positional (all : ∀ c ∈ digits, c.isDigit = true) (nonempty : digits ≠ []) :
    (positionalNumeral showsFraction digits point).Proper := by
  unfold positionalNumeral
  dsimp only
  split
  · refine ⟨nofun, by simp, fun fraction is c member => ?_⟩
    obtain rfl := Option.some.inj is
    exact (List.mem_append.1 member).elim isDigit_of_mem_zeros (all c)
  split
  · refine ⟨by simp [nonempty], fun c member => ?_, fun fraction is c member => ?_⟩
    · exact (List.mem_append.1 member).elim (all c) isDigit_of_mem_zeros
    · cases showsFraction with
      | false => cases is
      | true =>
        obtain rfl := Option.some.inj is
        rw [List.mem_singleton.1 member]
        rfl
  · refine ⟨?_, fun c member => all c (List.mem_of_mem_take member), fun fraction is c member => ?_⟩
    · rw [Ne, List.take_eq_nil_iff]
      simp only [nonempty, or_false]
      omega
    · obtain rfl := Option.some.inj is
      exact all c (List.mem_of_mem_drop member)

theorem proper_scientific (all : ∀ c ∈ digits, c.isDigit = true) (nonempty : digits ≠ []) :
    (scientificNumeral digits power).Proper := by
  unfold scientificNumeral
  dsimp only
  refine ⟨by simp [nonempty], fun c member => all c (List.mem_of_mem_take member),
    fun fraction is c member => ?_⟩
  split at is
  · cases is
  · obtain rfl := Option.some.inj is
    exact all c (List.mem_of_mem_drop member)

theorem value_positional :
    (positionalNumeral showsFraction digits point).value =
      Nat.ofDigitChars 10 digits 0 * 10 ^ (point - digits.length) := by
  unfold positionalNumeral
  dsimp only
  split
  · have zero : Nat.ofDigitChars 10 ['0'] 0 = 0 := rfl
    have places : (0 : Int) - (List.replicate (-point).toNat '0' ++ digits).length =
        point - digits.length := by
      rw [List.length_append, List.length_replicate]
      omega
    simp only [Numeral.value, Option.getD_some, Option.getD_none]
    rw [places, Nat.ofDigitChars_append, zero, Nat.ofDigitChars_append,
      Nat.ofDigitChars_replicate_zero, Nat.mul_zero]
  split
  · have shift : (10 : ℚ) ^ (point.toNat - digits.length) = 10 ^ (point - digits.length) := by
      rw [← zpow_natCast]
      congr 1
      omega
    have whole : (Nat.ofDigitChars 10
        (digits ++ List.replicate (point.toNat - digits.length) '0') 0 : ℚ) =
          Nat.ofDigitChars 10 digits 0 * 10 ^ (point - digits.length) := by
      rw [Nat.ofDigitChars_append, Nat.ofDigitChars_replicate_zero, ← shift]
      push_cast
      ring
    rw [← whole]
    cases showsFraction with
    | false => simp [Numeral.value]
    | true =>
      have zero (n : Nat) : Nat.ofDigitChars 10 ['0'] n = 10 * n := rfl
      simp only [Numeral.value, if_true, Option.getD_some, Option.getD_none]
      rw [Nat.ofDigitChars_append _, zero]
      push_cast
      norm_num
      ring
  · have places : (0 : Int) - (digits.drop point.toNat).length = point - digits.length := by
      rw [List.length_drop]
      omega
    simp only [Numeral.value, Option.getD_some, Option.getD_none]
    rw [List.take_append_drop, places]

theorem value_scientific (nonempty : digits ≠ []) :
    (scientificNumeral digits power).value =
      Nat.ofDigitChars 10 digits 0 * 10 ^ (power + 1 - digits.length) := by
  have fraction : (if (digits.drop 1).isEmpty then none else some (digits.drop 1)).getD [] =
      digits.drop 1 := by
    cases digits.drop 1 <;> rfl
  have places : power - (digits.drop 1).length = power + 1 - digits.length := by
    have := List.length_pos_of_ne_nil nonempty
    rw [List.length_drop]
    omega
  simp only [scientificNumeral, Numeral.value, fraction, Option.getD_some]
  rw [List.take_append_drop, places]

end

theorem toList_decimal (l : Layout) (d : Decimal) :
    (l.decimal d).toList = (l.numeral d).chars := by
  unfold decimal numeral
  dsimp only
  split
  · exact toList_positional _
  · exact toList_scientific

theorem isDigit_of_mem_digits {n : Nat} {c : Char} (member : c ∈ Nat.toDigits 10 n) :
    c.isDigit = true :=
  Nat.isDigit_of_mem_toDigits (by decide) (by decide) member

theorem proper_numeral (l : Layout) (d : Decimal) : (l.numeral d).Proper := by
  unfold numeral
  dsimp only
  split
  · exact proper_positional _ (fun _ => isDigit_of_mem_digits) Nat.toDigits_ne_nil
  · exact proper_scientific (fun _ => isDigit_of_mem_digits) Nat.toDigits_ne_nil

theorem value_numeral (l : Layout) (d : Decimal) : (l.numeral d).value = d.value := by
  unfold numeral
  dsimp only
  split
  · rw [value_positional, Nat.ofDigitChars_ten_toDigits, Int.add_sub_cancel]
    rfl
  · rw [value_scientific Nat.toDigits_ne_nil, Nat.ofDigitChars_ten_toDigits, Int.sub_add_cancel,
      Int.add_sub_cancel]
    rfl

/-! ## Numbers -/

theorem exists_of_isFinite {x : Float} (finite : Binary.isFinite x = true) :
    ∃ negative m e, Binary.ofFloat x = .finite negative m e := by
  unfold Binary.isFinite Binary.toInt? at finite
  cases h : Binary.ofFloat x with
  | nan => simp [h] at finite
  | infinite negative => simp [h] at finite
  | finite negative m e => exact ⟨negative, m, e, rfl⟩

/-- The digits that a layout writes for a number that is not negative. -/
def digits (l : Layout) (m : Nat) (e : Int) : Decimal :=
  if m = 0 then ⟨0, 0⟩ else Decimal.shortest l.tie m e

theorem eq_of_value_digits (l : Layout) {m m' : Nat} {e e' : Int} (regular : Binary.Regular m e)
    (regular' : Binary.Regular m' e') (same : (l.digits m e).value = (l.digits m' e').value) :
    m = m' ∧ e = e' := by
  have full : 0 < twoTo 52 := by decide
  have zero : (⟨0, 0⟩ : Decimal).value = 0 := by simp [Decimal.value]
  unfold digits at same
  split at same
  · next none =>
    split at same
    · have := regular.least_or_full
      have := regular'.least_or_full
      omega
    · next some =>
      have positive := Decimal.value_shortest_pos l.tie (Nat.pos_of_ne_zero some) regular'
      rw [← same, zero] at positive
      exact absurd positive (lt_irrefl 0)
  · next some =>
    split at same
    · have positive := Decimal.value_shortest_pos l.tie (Nat.pos_of_ne_zero some) regular
      rw [same, zero] at positive
      exact absurd positive (lt_irrefl 0)
    · next some' =>
      exact Decimal.eq_of_value_shortest l.tie (Nat.pos_of_ne_zero some) (Nat.pos_of_ne_zero some')
        regular regular' same

/-- The characters of a finite number: its sign and a numeral. -/
theorem toList_write (l : Layout) {x : Float} {negative : Bool} {m : Nat} {e : Int}
    (parts : Binary.ofFloat x = .finite negative m e) :
    (l.write x).toList = (if negative then ['-'] else []) ++ (l.numeral (l.digits m e)).chars := by
  rw [write, parts]
  dsimp only
  rw [String.toList_append, ← digits, toList_decimal]
  cases negative <;> rfl

/-- A sign can be told from the numeral behind it. -/
theorem eq_of_signed {negative negative' : Bool} {n n' : Numeral} (proper : n.Proper)
    (proper' : n'.Proper) (same : (if negative then ['-'] else []) ++ n.chars =
      (if negative' then ['-'] else []) ++ n'.chars) : negative = negative' ∧ n = n' := by
  obtain ⟨c, cs, start, digit⟩ := proper.starts
  obtain ⟨c', cs', start', digit'⟩ := proper'.starts
  cases negative with
  | false =>
    cases negative' with
    | false => exact ⟨rfl, Numeral.eq_of_chars proper proper' same⟩
    | true =>
      rw [start] at same
      obtain ⟨rfl, -⟩ := List.cons.inj same
      cases digit
  | true =>
    cases negative' with
    | false =>
      rw [start'] at same
      obtain ⟨rfl, -⟩ := List.cons.inj same
      cases digit'
    | true => exact ⟨rfl, Numeral.eq_of_chars proper proper' (List.cons.inj same).2⟩

/-- Finite numbers with the same text are the same. -/
theorem eq_of_write (l : Layout) {x y : Float} (finite : Binary.isFinite x = true)
    (finite' : Binary.isFinite y = true) (same : l.write x = l.write y) : x = y := by
  obtain ⟨negative, m, e, parts⟩ := exists_of_isFinite finite
  obtain ⟨negative', m', e', parts'⟩ := exists_of_isFinite finite'
  have chars := congrArg String.toList same
  rw [toList_write l parts, toList_write l parts'] at chars
  obtain ⟨rfl, numerals⟩ := eq_of_signed (l.proper_numeral _) (l.proper_numeral _) chars
  have values := congrArg Numeral.value numerals
  rw [value_numeral, value_numeral] at values
  obtain ⟨rfl, rfl⟩ := l.eq_of_value_digits (Binary.regular_of_finite parts)
    (Binary.regular_of_finite parts') values
  exact Binary.ofFloat_injective (parts.trans parts'.symm)

end Layout

end SloScript
