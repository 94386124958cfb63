import Custody.Json.Record
import Custody.Proofs.Decimal.Integer

/-!
# What readers of JSON take

Each reader takes the written form of its value, whatever follows, and leaves the rest. An
integer has no closing mark, so what follows it must not go on with it.

* `Reads`: a reader takes a text for a value;
* `Reads.plain`, `Reads.escaped`: a text is read one character after the other;
* `reads_natural`, `reads_signed`: every integer of 64 bits is read back.
-/

namespace Custody.Json

/-! ### Places and blanks -/

theorem Position.afterAll_append (p : Position) (front back : List Char) :
    p.afterAll (front ++ back) = (p.afterAll front).afterAll back :=
  List.foldl_append

namespace Input

/-- All that satisfies `p` is skipped, up to where it ends. -/
theorem skipFrom_span {p : Char → Bool} {front rest : List Char} {place : Position}
    (front_all : ∀ c ∈ front, p c = true) (rest_ends : ∀ c ∈ rest.head?, p c = false) :
    skipFrom p (front ++ rest) place = ⟨rest, place.afterAll front⟩ := by
  induction front generalizing place with
  | nil =>
    cases rest with
    | nil => rfl
    | cons c rest => simp [skipFrom, rest_ends c rfl, Position.afterAll]
  | cons c front ih =>
    rw [List.cons_append, skipFrom, if_pos (front_all c List.mem_cons_self)]
    exact ih fun d mem => front_all d (List.mem_cons_of_mem c mem)

theorem skipBlank_of_not_blank {c : Char} {rest : List Char} {place : Position}
    (solid : isBlank c = false) : skipBlank ⟨c :: rest, place⟩ = ⟨c :: rest, place⟩ := by
  simp [skipBlank, skipFrom, solid]

theorem isBlank_of_isDigit {c : Char} (digit : c.isDigit = true) : isBlank c = false := by
  simp only [isBlank, Bool.or_eq_false_iff, beq_eq_false_iff_ne]
  refine ⟨⟨⟨?_, ?_⟩, ?_⟩, ?_⟩ <;> rintro rfl <;> cases digit

end Input

/-- The reader takes the text for the value, and leaves `rest`. -/
def Reads {α ε : Type} (read : Input → Except ε (α × Input)) (text : List Char) (value : α)
    (rest : List Char) : Prop :=
  ∀ place, read ⟨text ++ rest, place⟩ = .ok (value, ⟨rest, place.afterAll text⟩)

/-! ### Texts -/

section Texts

variable {c letter : Char} {cs escape text rest : List Char}

/-- The escapes by one letter. -/
theorem reads_letter (simple : simpleEscape? letter = some c) :
    Reads readEscape [letter] c rest := by
  intro place
  have unit : letter ≠ 'u' := by
    rintro rfl
    cases simple
  simp [readEscape, simple, Input.eat, Position.afterAll]

theorem Reads.escaped (reads : Reads readChars text cs rest)
    (first : Reads readEscape escape c (text ++ rest)) :
    Reads readChars ('\\' :: (escape ++ text)) (c :: cs) rest := by
  intro place
  have first := first (place.after '\\')
  have next := reads ((place.after '\\').afterAll escape)
  rw [List.cons_append, List.append_assoc, readChars]
  split
  · rename_i refused
    rw [first] at refused
    cases refused
  · rename_i taken
    rw [first] at taken
    cases taken
    simp only [next, ← Position.afterAll_append]
    rfl

theorem Reads.plain (reads : Reads readChars text cs rest) (quotes : c ≠ '"')
    (backslash : c ≠ '\\') (control : ¬c < ' ') :
    Reads readChars (c :: text) (c :: cs) rest := by
  intro place
  rw [List.cons_append, readChars, if_neg control, reads (place.after c)]
  · rfl
  · exact quotes
  · exact backslash

end Texts

/-! ### Integers -/

/-- Neither a digit nor a fraction nor an exponent follows. -/
def NumberEnds (rest : List Char) : Prop :=
  ∀ c ∈ rest.head?, c.isDigit = false ∧ c ≠ '.' ∧ isExponentMark c = false

/-- No digit follows. -/
def Undigited (rest : List Char) : Prop := ∀ c ∈ rest.head?, c.isDigit = false

section Numbers

open Decimal (le_ofDigitChars toDigits_of_pos toList_natural toList_signed)
open Decimal.Integer (isDigits_toDigits)

variable {rest : List Char} {n : Nat} {place : Position}

theorem NumberEnds.digit (ends : NumberEnds rest) : Undigited rest :=
  fun c first => (ends c first).1

/-- Digits are kept, as long as the limit is. -/
theorem absorb_eq {digits : List Char} (small : Nat.ofDigitChars 10 digits n ≤ significandLimit) :
    absorb n digits = (Nat.ofDigitChars 10 digits n, digits.length, 0) := by
  induction digits generalizing n with
  | nil => rfl
  | cons c digits ih =>
    have larger : n * 10 + (c.toNat - 48) = 10 * n + (c.toNat - '0'.toNat) := by
      rw [Nat.mul_comm]
      rfl
    rw [Nat.ofDigitChars_cons] at small ⊢
    have within := Nat.le_trans (le_ofDigitChars digits _) small
    rw [absorb, larger, if_neg (Nat.not_lt.2 within), ih small]
    rfl

theorem frontDigits_append {digits : List Char} (all : ∀ c ∈ digits, c.isDigit = true)
    (ends : Undigited rest) : frontDigits ⟨digits ++ rest, place⟩ = digits := by
  rw [frontDigits, List.takeWhile_append_of_pos all]
  cases rest with
  | nil => simp
  | cons c rest => simp [ends c rfl]

/-- A number that ends behind its integer digits is an integer. -/
theorem readTail_eq (ends : NumberEnds rest) (positive : Bool) :
    readTail positive n 0 ⟨rest, place⟩ = .ok (integerOf positive n, ⟨rest, place⟩) := by
  unfold readTail
  split
  · rename_i front
    obtain rfl : rest = _ := front
    exact absurd rfl (ends _ rfl).2.1
  · rename_i front
    obtain rfl : rest = _ := front
    exact absurd (ends _ rfl).2.2 (by decide)
  · rename_i front
    obtain rfl : rest = _ := front
    exact absurd (ends _ rfl).2.2 (by decide)
  · rfl

/-- All digits are read, if the first is not zero. -/
theorem readNumber_eq {i : Input} {c : Char} (front : i.chars = c :: rest) (nonzero : c ≠ '0')
    (digit : c.isDigit = true) (positive : Bool) :
    readNumber positive i =
      readTail positive (absorb 0 (frontDigits i)).1 (absorb 0 (frontDigits i)).2.2
        i.skipDigits := by
  obtain ⟨chars, place⟩ := i
  obtain rfl : chars = c :: rest := front
  simp [readNumber, digit]

/-- The digits of a number are read for the integer that they stand for. -/
theorem reads_number (ends : NumberEnds rest) (small : n ≤ significandLimit) (positive : Bool) :
    Reads (readNumber positive) (Nat.toDigits 10 n) (integerOf positive n) rest := by
  intro place
  have all := (isDigits_toDigits n).all
  have worth := Nat.ofDigitChars_ten_toDigits (n := n)
  rcases Nat.eq_zero_or_pos n with rfl | pos
  · have bare : startsWith Char.isDigit ⟨rest, place.after '0'⟩ = false := by
      cases rest with
      | nil => rfl
      | cons c rest => exact ends.digit c rfl
    rw [Nat.toDigits_zero, List.singleton_append, readNumber]
    simp [Input.eat, bare, readTail_eq ends, Position.afterAll]
  · obtain ⟨c, digits, front, nonzero⟩ := toDigits_of_pos pos
    have first : c.isDigit = true := all c (by simp [front])
    have absorbed : absorb 0 (Nat.toDigits 10 n) = _ := absorb_eq (by rwa [worth])
    have kept : frontDigits ⟨Nat.toDigits 10 n ++ rest, place⟩ = _ :=
      frontDigits_append all ends.digit
    have skipped : Input.skipDigits ⟨Nat.toDigits 10 n ++ rest, place⟩ = _ :=
      Input.skipFrom_span all ends.digit
    have chars : (Nat.toDigits 10 n ++ rest) = c :: (digits ++ rest) := by rw [front]; rfl
    rw [readNumber_eq chars nonzero first, kept, absorbed, worth, skipped]
    exact readTail_eq ends positive

theorem skipBlank_digits :
    Input.skipBlank ⟨Nat.toDigits 10 n ++ rest, place⟩ = ⟨Nat.toDigits 10 n ++ rest, place⟩ := by
  cases written : Nat.toDigits 10 n with
  | nil => exact absurd written Nat.toDigits_ne_nil
  | cons c digits =>
    have digit : c.isDigit = true := (isDigits_toDigits n).all c (by simp [written])
    exact Input.skipBlank_of_not_blank (Input.isBlank_of_isDigit digit)

/-- Digits alone are a number from zero on. -/
theorem reads_digits (ends : NumberEnds rest) (small : n ≤ significandLimit) (expected : String) :
    Reads (readExpectedNumber expected) (Nat.toDigits 10 n) (.natural n) rest := by
  intro place
  have number := reads_number ends small true place
  cases written : Nat.toDigits 10 n with
  | nil => exact absurd written Nat.toDigits_ne_nil
  | cons c digits =>
    have digit : c.isDigit = true := (isDigits_toDigits n).all c (by simp [written])
    have minus : c ≠ '-' := by
      rintro rfl
      cases digit
    rw [written, List.cons_append] at number
    rw [List.cons_append]
    simp [readExpectedNumber, digit, number, integerOf]

/-- Digits behind a minus are a number below zero. -/
theorem reads_minus (ends : NumberEnds rest) (pos : 0 < n) (small : n ≤ Nat.pow 2 63)
    (expected : String) :
    Reads (readExpectedNumber expected) ('-' :: Nat.toDigits 10 n) (.negative (-n)) rest := by
  intro place
  have limit : Nat.pow 2 63 ≤ significandLimit := by decide
  have number := reads_number ends (Nat.le_trans small limit) false (place.after '-')
  have value : integerOf false n = .negative (-n) := by
    simp [integerOf, Nat.not_lt.2 small, Nat.ne_of_gt pos]
  rw [value] at number
  exact number

/-- Every natural number of 64 bits is read back. -/
theorem reads_natural (value : UInt64) (ends : NumberEnds rest) (expected : String) :
    Reads (readNatural expected) (toString value).toList value rest := by
  intro place
  have small : value.toNat ≤ significandLimit := Nat.le_sub_one_of_lt value.toNat_lt_size
  rw [toList_natural, readNatural, skipBlank_digits, reads_digits ends small expected place]
  simp

/-- So is every signed integer of 64 bits, down to the smallest. -/
theorem reads_signed (value : Int64) (ends : NumberEnds rest) (expected : String) :
    Reads (readSigned expected) (toString value).toList value rest := by
  intro place
  have low := value.minValue_le_toInt
  have high := value.toInt_le
  have power : Nat.pow 2 63 = 2 ^ 63 := rfl
  rw [Int64.toInt_minValue] at low
  rw [Int64.toInt_maxValue] at high
  rw [toList_signed]
  split
  · rename_i positive
    have inside : value.toInt.toNat < Nat.pow 2 63 := by omega
    have limit : Nat.pow 2 63 ≤ significandLimit := by decide
    have small := Nat.le_trans (Nat.le_of_lt inside) limit
    have same : Int64.ofNat value.toInt.toNat = value := by
      rw [← Int64.ofInt_eq_ofNat, Int.toNat_of_nonneg positive, Int64.ofInt_toInt]
    simp only [readSigned, skipBlank_digits, reads_digits ends small expected place, inside,
      if_true, same]
  · rename_i negative
    have number := reads_minus (n := (-value.toInt).toNat) ends (by omega) (by omega) expected
      place
    have same : Int64.ofInt (-((-value.toInt).toNat : Int)) = value := by
      rw [Int.toNat_of_nonneg (by omega), Int.neg_neg, Int64.ofInt_toInt]
    rw [List.cons_append] at number ⊢
    simp only [readSigned, Input.skipBlank_of_not_blank (c := '-') rfl, number, same]

end Numbers

end Custody.Json
