import Custody.Decimal.Integer

/-!
# Decimal numerals

A text is read as an integer of a range just when it is a numeral of an integer in the range:
digits, with a sign before them or not.

* `Decimal.toList_natural`, `Decimal.toList_signed`: the written forms of 64-bit integers;
* `Integer.Numeral`: the numerals, and what they stand for;
* `Integer.read_eq_ok_iff`: what is read, and what is refused;
* `Integer.natural64?_eq_ok_iff`, `Integer.signed64?_eq_ok_iff`: the same for 64 bits;
* `Integer.natural64?_written`, `Integer.signed64?_written`: what was written is read back.
-/

namespace Custody.Decimal

/-! ### Digits -/

/-- A number does not get smaller by digits that are put behind it. -/
theorem le_ofDigitChars (digits : List Char) (n : Nat) : n ≤ Nat.ofDigitChars 10 digits n := by
  rw [Nat.ofDigitChars_eq_ofDigitChars_zero]
  exact Nat.le_add_right_of_le (Nat.le_mul_of_pos_left n (Nat.pow_pos (by decide)))

/-- Only zero is written with a zero in front. -/
theorem toDigits_of_pos {n : Nat} (pos : 0 < n) :
    ∃ c rest, Nat.toDigits 10 n = c :: rest ∧ c ≠ '0' := by
  induction n using Nat.strongRecOn with
  | ind n ih =>
    rw [Nat.toDigits_eq_if (by decide)]
    split
    · refine ⟨n.digitChar, [], rfl, ?_⟩
      rw [Ne, Nat.digitChar_eq_zero]
      omega
    · obtain ⟨c, rest, digits, nonzero⟩ := ih (n / 10) (by omega) (by omega)
      exact ⟨c, rest ++ [(n % 10).digitChar], by rw [digits]; rfl, nonzero⟩

theorem lt_ten_of_isDigit {c : Char} (digit : c.isDigit = true) : c.toNat - '0'.toNat < 10 := by
  have high : c.toNat ≤ '0'.toNat + 9 := (Char.isDigit_iff_toNat.1 digit).2
  omega

/-- A digit is what the number that it stands for is written with. -/
theorem toDigits_of_isDigit {c : Char} (digit : c.isDigit = true) :
    Nat.toDigits 10 (c.toNat - '0'.toNat) = [c] := by
  have chars : ∀ n < 10, n.digitChar = Char.ofNat ('0'.toNat + n) := by decide
  have small := lt_ten_of_isDigit digit
  have low := (Char.isDigit_iff_toNat.1 digit).1
  rw [Nat.toDigits_eq_if (by decide), if_pos small, chars _ small, Nat.add_sub_cancel' low,
    Char.ofNat_toNat]

/-- Digits behind those of a positive number are the digits of a number. -/
theorem toDigits_append {n : Nat} (pos : 0 < n) {digits : List Char}
    (all : ∀ c ∈ digits, c.isDigit = true) :
    Nat.toDigits 10 n ++ digits = Nat.toDigits 10 (Nat.ofDigitChars 10 digits n) := by
  induction digits generalizing n with
  | nil => simp
  | cons c digits ih =>
    have digit : c.isDigit = true := all c List.mem_cons_self
    have front := Nat.toDigits_append_toDigits (by decide) pos (lt_ten_of_isDigit digit)
    rw [toDigits_of_isDigit digit] at front
    rw [Nat.ofDigitChars_cons, ← ih (by omega) fun d mem => all d (List.mem_cons_of_mem c mem),
      ← front, List.append_assoc, List.singleton_append]

theorem toList_natural (n : UInt64) : (toString n).toList = Nat.toDigits 10 n.toNat :=
  Nat.toList_repr

theorem toList_signed (n : Int64) :
    (toString n).toList =
      if 0 ≤ n.toInt then Nat.toDigits 10 n.toInt.toNat
      else '-' :: Nat.toDigits 10 (-n.toInt).toNat := by
  have written : toString n = n.toInt.repr := rfl
  rw [written, Int.repr_eq_if]
  split <;> simp

namespace Integer

/-! ### Numerals -/

/-- At least one digit, and nothing else. -/
structure IsDigits (cs : List Char) : Prop where
  some : cs ≠ []
  all : ∀ c ∈ cs, c.isDigit = true

/-- The numerals and what they stand for. A minus is a sign only for `signed` ones. -/
inductive Numeral (signed : Bool) : List Char → Int → Prop
  | bare {digits : List Char} (proper : IsDigits digits) :
      Numeral signed digits (Nat.ofDigitChars 10 digits 0)
  | plus {digits : List Char} (proper : IsDigits digits) :
      Numeral signed ('+' :: digits) (Nat.ofDigitChars 10 digits 0)
  | minus {digits : List Char} (proper : IsDigits digits) (sign : signed = true) :
      Numeral signed ('-' :: digits) (-(Nat.ofDigitChars 10 digits 0 : Int))

theorem isDigits_toDigits (n : Nat) : IsDigits (Nat.toDigits 10 n) where
  some := Nat.toDigits_ne_nil
  all _ mem := Nat.isDigit_of_mem_toDigits (by decide) (by decide) mem

theorem not_isDigits_cons {c : Char} {rest : List Char} (sign : c.isDigit = false) :
    ¬IsDigits (c :: rest) := by
  intro proper
  have digit := proper.all c List.mem_cons_self
  rw [sign] at digit
  cases digit

theorem numeral_plus_iff {signed : Bool} {digits : List Char} {n : Int} :
    Numeral signed ('+' :: digits) n ↔
      IsDigits digits ∧ n = Nat.ofDigitChars 10 digits 0 := by
  constructor
  · intro numeral
    cases numeral with
    | bare proper => exact absurd proper (not_isDigits_cons rfl)
    | plus proper => exact ⟨proper, rfl⟩
  · rintro ⟨proper, rfl⟩
    exact .plus proper

theorem numeral_minus_iff {signed : Bool} {digits : List Char} {n : Int} :
    Numeral signed ('-' :: digits) n ↔
      signed = true ∧ IsDigits digits ∧ n = -(Nat.ofDigitChars 10 digits 0 : Int) := by
  constructor
  · intro numeral
    cases numeral with
    | bare proper => exact absurd proper (not_isDigits_cons rfl)
    | minus proper sign => exact ⟨sign, proper, rfl⟩
  · rintro ⟨sign, proper, rfl⟩
    exact .minus proper sign

theorem numeral_bare_iff {signed : Bool} {cs : List Char} {n : Int}
    (plus : ∀ digits, cs ≠ '+' :: digits) (minus : ∀ digits, cs ≠ '-' :: digits) :
    Numeral signed cs n ↔ IsDigits cs ∧ n = Nat.ofDigitChars 10 cs 0 := by
  constructor
  · intro numeral
    cases numeral with
    | bare proper => exact ⟨proper, rfl⟩
    | plus => exact absurd rfl (plus _)
    | minus => exact absurd rfl (minus _)
  · rintro ⟨proper, rfl⟩
    exact .bare proper

/-! ### Reading -/

theorem digit?_of_isDigit {c : Char} (digit : c.isDigit = true) :
    digit? c = some (c.toNat - '0'.toNat) := by
  simp [digit?, digit]

/-- Digits are appended up to the end, or to where the number gets too large. -/
theorem readUp_eq_ok_iff {high n : Int} {digits : List Char} {m : Nat} (small : (m : Int) ≤ high) :
    readUp high digits m = .ok n ↔
      (∀ c ∈ digits, c.isDigit = true) ∧ n = Nat.ofDigitChars 10 digits m ∧ n ≤ high := by
  induction digits generalizing m with
  | nil =>
    simp only [readUp, Except.ok.injEq, Nat.ofDigitChars_nil, List.not_mem_nil, false_implies,
      implies_true, true_and]
    constructor
    · rintro rfl
      exact ⟨rfl, small⟩
    · rintro ⟨rfl, _⟩
      rfl
  | cons c rest ih =>
    by_cases digit : c.isDigit = true
    · have larger : (m : Int) * 10 + ((c.toNat - '0'.toNat : Nat) : Int) =
          ((10 * m + (c.toNat - '0'.toNat) : Nat) : Int) := by omega
      rw [readUp, digit?_of_isDigit digit]
      simp only [larger]
      rw [Nat.ofDigitChars_cons]
      split
      · rename_i beyond
        have grows := le_ofDigitChars rest (10 * m + (c.toNat - '0'.toNat))
        simp only [reduceCtorEq, false_iff]
        rintro ⟨-, rfl, inside⟩
        omega
      · rename_i inside
        rw [ih (Int.not_lt.1 inside)]
        simp [digit]
    · simp [readUp, digit?, digit]

/-- Reading downwards is reading upwards with all signs turned. -/
theorem readDown_eq_ok_iff {low n : Int} {digits : List Char} {m : Int} :
    readDown low digits (-m) = .ok n ↔ readUp (-low) digits m = .ok (-n) := by
  induction digits generalizing m with
  | nil =>
    simp only [readDown, readUp, Except.ok.injEq]
    omega
  | cons c rest ih =>
    rw [readDown, readUp]
    cases digit? c with
    | none => simp
    | some d =>
      have turned : -m * 10 - (d : Int) = -(m * 10 + d) := by omega
      simp only [turned]
      by_cases beyond : -low < m * 10 + d
      · rw [if_pos beyond, if_pos (by omega)]
        simp
      · rw [if_neg beyond, if_neg (by omega)]
        exact ih

/-- Digits are read for what they are worth, if that is not too much. -/
theorem readUp_zero_iff {high n : Int} {digits : List Char} (some : digits ≠ [])
    (hhigh : 0 ≤ high) :
    readUp high digits 0 = .ok n ↔
      (IsDigits digits ∧ n = Nat.ofDigitChars 10 digits 0) ∧ n ≤ high := by
  have up : readUp high digits (0 : Nat) = .ok n ↔ _ := readUp_eq_ok_iff hhigh
  rw [show ((0 : Nat) : Int) = 0 from rfl] at up
  rw [up]
  constructor
  · rintro ⟨all, value, inside⟩
    exact ⟨⟨⟨some, all⟩, value⟩, inside⟩
  · rintro ⟨⟨proper, value⟩, inside⟩
    exact ⟨proper.all, value, inside⟩

/-- An integer is read just from its numerals, if it is in the range. -/
theorem read_eq_ok_iff {low high : Int} (hlow : low ≤ 0) (hhigh : 0 ≤ high) (cs : List Char)
    (n : Int) :
    read low high cs = .ok n ↔ Numeral (decide (low < 0)) cs n ∧ low ≤ n ∧ n ≤ high := by
  have nothing : ¬IsDigits [] := fun proper => proper.some rfl
  unfold read
  split
  · rw [numeral_bare_iff (by simp) (by simp)]
    simp [nothing]
  · rw [numeral_plus_iff]
    simp [nothing]
  · rw [numeral_minus_iff]
    simp [nothing]
  · rename_i digits some
    rw [readUp_zero_iff some hhigh, numeral_plus_iff]
    exact ⟨fun ⟨value, high⟩ => ⟨value, by omega, high⟩, fun ⟨value, _, high⟩ => ⟨value, high⟩⟩
  · rename_i digits some
    have down : readDown low digits 0 = .ok n ↔
        (IsDigits digits ∧ -n = Nat.ofDigitChars 10 digits 0) ∧ -n ≤ -low := by
      rw [← Int.neg_zero, readDown_eq_ok_iff, readUp_zero_iff some (by omega)]
    rw [numeral_minus_iff, decide_eq_true_iff]
    split
    · rename_i signed
      rw [down]
      constructor
      · rintro ⟨⟨proper, value⟩, inside⟩
        exact ⟨⟨signed, proper, by omega⟩, by omega, by omega⟩
      · rintro ⟨⟨-, proper, value⟩, inside, -⟩
        exact ⟨⟨proper, by omega⟩, by omega⟩
    · rename_i unsigned
      simp [unsigned]
  · rename_i some _ _ plus minus
    rw [readUp_zero_iff some hhigh, numeral_bare_iff plus minus]
    exact ⟨fun ⟨value, high⟩ => ⟨value, by omega, high⟩, fun ⟨value, _, high⟩ => ⟨value, high⟩⟩

/-! ### Integers of 64 bits -/

theorem map_eq_ok_iff {α β ε : Type} {f : α → β} {result : Except ε α} {b : β} :
    result.map f = .ok b ↔ ∃ a, result = .ok a ∧ f a = b := by
  cases result <;> simp [Except.map]

/-- A natural number of 64 bits is read just from its numerals. None of them has a minus. -/
theorem natural64?_eq_ok_iff {cs : List Char} {n : UInt64} :
    natural64? cs = .ok n ↔ Numeral false cs n.toNat := by
  have above : (0 : Int) ≤ UInt64.size - 1 := by decide
  have ranged := read_eq_ok_iff (Int.le_refl 0) above cs
  simp only [Int.lt_irrefl, decide_false] at ranged
  have bound := n.toNat_lt_size
  rw [natural64?, map_eq_ok_iff]
  constructor
  · rintro ⟨m, read, rfl⟩
    obtain ⟨numeral, low, high⟩ := (ranged m).1 read
    rw [UInt64.toNat_ofNat_of_lt' (by omega), Int.toNat_of_nonneg low]
    exact numeral
  · intro numeral
    exact ⟨n.toNat, (ranged _).2 ⟨numeral, by omega, by omega⟩, by simp⟩

/-- A signed integer of 64 bits is read just from its numerals. -/
theorem signed64?_eq_ok_iff {cs : List Char} {n : Int64} :
    signed64? cs = .ok n ↔ Numeral true cs n.toInt := by
  have below : Int64.minValue.toInt ≤ 0 := by decide
  have above : 0 ≤ Int64.maxValue.toInt := by decide
  have ranged := read_eq_ok_iff below above cs
  rw [show decide (Int64.minValue.toInt < 0) = true by decide] at ranged
  rw [signed64?, map_eq_ok_iff]
  constructor
  · rintro ⟨m, read, rfl⟩
    obtain ⟨numeral, low, high⟩ := (ranged m).1 read
    rw [Int64.toInt_minValue] at low
    rw [Int64.toInt_maxValue] at high
    rw [Int64.toInt_ofInt_of_le low (by omega)]
    exact numeral
  · intro numeral
    exact ⟨n.toInt, (ranged _).2 ⟨numeral, n.minValue_le_toInt, n.toInt_le⟩, n.ofInt_toInt⟩

theorem natural64?_written (n : UInt64) : natural64? (toString n).toList = .ok n := by
  rw [natural64?_eq_ok_iff, toList_natural]
  have numeral : Numeral false _ _ := .bare (isDigits_toDigits n.toNat)
  rwa [Nat.ofDigitChars_ten_toDigits] at numeral

theorem signed64?_written (n : Int64) : signed64? (toString n).toList = .ok n := by
  rw [signed64?_eq_ok_iff, toList_signed]
  split
  · rename_i positive
    have numeral : Numeral true _ _ := .bare (isDigits_toDigits n.toInt.toNat)
    rwa [Nat.ofDigitChars_ten_toDigits, Int.toNat_of_nonneg positive] at numeral
  · rename_i negative
    have numeral : Numeral true _ _ := .minus (isDigits_toDigits (-n.toInt).toNat) rfl
    rwa [Nat.ofDigitChars_ten_toDigits, Int.toNat_of_nonneg (by omega), Int.neg_neg] at numeral

end Integer

end Custody.Decimal
