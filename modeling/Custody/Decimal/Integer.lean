/-!
# Integers in text

Reading a decimal integer of a fixed width: an optional sign and at least one
digit, nothing else. Digits count from the left, and reading stops at the first
that is no digit or leads out of the range.

* `Integer.read`: the integers from `low` to `high`;
* `Integer.natural64?`, `Integer.signed64?`: the two 64-bit ranges.
-/

namespace Custody.Decimal.Integer

/-- Why a text is not an integer of the range. -/
inductive Fault
  | empty
  | invalidDigit
  | tooLarge
  | tooSmall
  deriving DecidableEq, Repr

def Fault.message : Fault → String
  | .empty => "cannot parse integer from empty string"
  | .invalidDigit => "invalid digit found in string"
  | .tooLarge => "number too large to fit in target type"
  | .tooSmall => "number too small to fit in target type"

/-- The value of an ASCII digit. -/
def digit? (c : Char) : Option Nat :=
  if c.isDigit then some (c.toNat - '0'.toNat) else none

/-- Appends digits to a number that must stay at most `high`. -/
def readUp (high : Int) : List Char → Int → Except Fault Int
  | [], n => .ok n
  | c :: rest, n =>
    match digit? c with
    | none => .error .invalidDigit
    | some d =>
      let n := n * 10 + d
      if high < n then .error .tooLarge else readUp high rest n

/-- Appends digits to a negative number that must stay at least `low`. -/
def readDown (low : Int) : List Char → Int → Except Fault Int
  | [], n => .ok n
  | c :: rest, n =>
    match digit? c with
    | none => .error .invalidDigit
    | some d =>
      let n := n * 10 - d
      if n < low then .error .tooSmall else readDown low rest n

/-- Reads an integer from `low` to `high`. A minus is a sign only where there
are negative integers to read. -/
def read (low high : Int) : List Char → Except Fault Int
  | [] => .error .empty
  | ['+'] => .error .invalidDigit
  | ['-'] => .error .invalidDigit
  | '+' :: digits => readUp high digits 0
  | '-' :: digits => if low < 0 then readDown low digits 0 else .error .invalidDigit
  | digits => readUp high digits 0

/-- Reads an unsigned 64-bit integer. -/
def natural64? (cs : List Char) : Except Fault UInt64 :=
  (read 0 (UInt64.size - 1) cs).map fun n => UInt64.ofNat n.toNat

/-- Reads a signed 64-bit integer. -/
def signed64? (cs : List Char) : Except Fault Int64 :=
  (read Int64.minValue.toInt Int64.maxValue.toInt cs).map Int64.ofInt

end Custody.Decimal.Integer
