import Custody.Json.Fault

/-!
# Numbers in JSON

A number without fraction and exponent is an integer if it fits 64 bits: natural
from zero on, negative below. Every other number, minus zero among them, is the
64-bit binary number that its digits and exponent are brought to in floating
point, in at most a few multiplications or divisions.

* `readNumber`: reads a number;
* `skipNumber`: gets past one, whatever its size.
-/

namespace Custody.Json

/-- A number as it was read. -/
inductive Number
  | natural (value : Nat)
  | negative (value : Int)
  | real (value : Float)

/-- The largest significand that is kept digit by digit. -/
def significandLimit : Nat := UInt64.size - 1

/-- Appends digits to a significand while it stays within the limit. Gives the
significand, the number of digits taken and the number of digits left. -/
def absorb (significand : Nat) : List Char → Nat × Nat × Nat
  | [] => (significand, 0, 0)
  | c :: rest =>
    let larger := significand * 10 + (c.toNat - 48)
    if significandLimit < larger then
      (significand, 0, rest.length + 1)
    else
      let (final, taken, left) := absorb larger rest
      (final, taken + 1, left)

/-- The powers of ten that have a 64-bit number of their own end here. -/
def largestPower : Nat := 308

def powerOfTen (n : Nat) : Float := Float.ofScientific 1 false n

/-- `x · 10 ^ exponent` in floating point, or `none` if it is too large. A very
small exponent is worked off in steps of the largest power. -/
def scale (x : Float) (exponent : Int) : Option Float :=
  if exponent.natAbs ≤ largestPower then
    if 0 ≤ exponent then
      let product := x * powerOfTen exponent.natAbs
      if product.isInf then none else some product
    else
      some (x / powerOfTen exponent.natAbs)
  else if x == 0 then
    some x
  else if 0 ≤ exponent then
    none
  else
    scale (x / powerOfTen largestPower) (exponent + largestPower)
termination_by exponent.natAbs
decreasing_by
  unfold largestPower at *
  omega

/-- The digits at the front. -/
def frontDigits (i : Input) : List Char := i.chars.takeWhile Char.isDigit

def startsWith (p : Char → Bool) (i : Input) : Bool :=
  match i.chars with
  | [] => false
  | c :: _ => p c

def isExponentMark (c : Char) : Bool := c == 'e' || c == 'E'

/-- The sign that was read, put before a number. -/
def withSign (positive : Bool) (x : Float) : Float := if positive then x else -x

/-- The number of a significand and an exponent. -/
def realOf (positive : Bool) (significand : Nat) (exponent : Int) (rest : Input) :
    Except Fault (Number × Input) :=
  match scale (Float.ofNat significand) exponent with
  | some x => .ok (.real (withSign positive x), rest)
  | none => rest.refuse .numberOutOfRange

/-- Past the sign of an exponent, and whether it is positive. -/
def exponentSign (i : Input) : Bool × Input :=
  match i.chars with
  | '+' :: _ => (true, i.eat)
  | '-' :: _ => (false, i.eat)
  | _ => (true, i)

/-- The largest written exponent that is kept. -/
def exponentLimit : Nat := Nat.pow 2 31 - 1

/-- The exponent of the digits, or the input behind the digit that leads out of
the range. -/
def exponentOf (exponent : Nat) : List Char → Position → Nat ⊕ Input
  | [], _ => .inl exponent
  | c :: rest, place =>
    if c.isDigit then
      let larger := exponent * 10 + (c.toNat - 48)
      if exponentLimit < larger then .inr ⟨rest, place.after c⟩
      else exponentOf larger rest (place.after c)
    else
      .inl exponent

/-- Reads an exponent behind its mark and ends the number. -/
def readExponent (positive : Bool) (significand : Nat) (start : Int) (i : Input) :
    Except Fault (Number × Input) :=
  let (upward, digits) := exponentSign i
  match digits.chars with
  | [] => digits.refuse .endInValue
  | c :: _ =>
    if c.isDigit then
      let rest := digits.skipDigits
      match exponentOf 0 digits.chars digits.place with
      | .inl exponent =>
        realOf positive significand (if upward then start + exponent else start - exponent) rest
      | .inr beyond =>
        if significand ≠ 0 && upward then beyond.refuse .numberOutOfRange
        else .ok (.real (withSign positive 0), rest)
    else
      digits.refuseNext .invalidNumber

/-- Reads a fraction behind its point, and an exponent, and ends the number. -/
def readFraction (positive : Bool) (significand : Nat) (start : Int) (i : Input) :
    Except Fault (Number × Input) :=
  let (significand, taken, left) := absorb significand (frontDigits i)
  if taken = 0 && left = 0 then
    i.refuseNext (if i.chars.isEmpty then .endInValue else .invalidNumber)
  else
    let rest := i.skipDigits
    if startsWith isExponentMark rest then
      readExponent positive significand (start - taken) rest.eat
    else
      realOf positive significand (start - taken) rest

/-- An integer of 64 bits. Minus zero and what lies below the range is none. -/
def integerOf (positive : Bool) (significand : Nat) : Number :=
  if positive then .natural significand
  else if significand = 0 || Nat.pow 2 63 < significand then .real (-(Float.ofNat significand))
  else .negative (-significand)

/-- Reads what may follow the integer digits and ends the number. `left` digits
did not fit into the significand. -/
def readTail (positive : Bool) (significand left : Nat) (i : Input) :
    Except Fault (Number × Input) :=
  match i.chars with
  | '.' :: _ => readFraction positive significand left i.eat
  | 'e' :: _ => readExponent positive significand left i.eat
  | 'E' :: _ => readExponent positive significand left i.eat
  | _ =>
    if left = 0 then .ok (integerOf positive significand, i)
    else realOf positive significand left i

/-- Reads a number behind its sign. A zero that starts a number is its only
integer digit. -/
def readNumber (positive : Bool) (i : Input) : Except Fault (Number × Input) :=
  match i.chars with
  | [] => i.refuse .endInValue
  | '0' :: _ =>
    if startsWith Char.isDigit i.eat then i.eat.refuseNext .invalidNumber
    else readTail positive 0 0 i.eat
  | c :: _ =>
    if c.isDigit then
      let (significand, _, left) := absorb 0 (frontDigits i)
      readTail positive significand left i.skipDigits
    else
      i.refuseNext .invalidNumber

/-- Past an exponent behind its mark. -/
def skipExponent (i : Input) : Except Fault Input :=
  let digits := (exponentSign i).2
  if startsWith Char.isDigit digits then .ok digits.skipDigits
  else digits.refuseNext .invalidNumber

/-- Past what may follow the integer digits. -/
def skipTail (i : Input) : Except Fault Input :=
  match i.chars with
  | '.' :: _ =>
    if startsWith Char.isDigit i.eat then
      let rest := i.eat.skipDigits
      if startsWith isExponentMark rest then skipExponent rest.eat else .ok rest
    else
      i.eat.refuseNext .invalidNumber
  | 'e' :: _ => skipExponent i.eat
  | 'E' :: _ => skipExponent i.eat
  | _ => .ok i

/-- Past a number behind its sign. -/
def skipNumber (i : Input) : Except Fault Input :=
  match i.chars with
  | '0' :: _ =>
    if startsWith Char.isDigit i.eat then i.eat.refuseNext .invalidNumber else skipTail i.eat
  | c :: _ => if c.isDigit then skipTail i.skipDigits else i.refuseNext .invalidNumber
  | [] => i.refuse .invalidNumber

end Custody.Json
