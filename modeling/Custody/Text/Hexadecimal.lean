/-!
# Hexadecimal digits

Numbers to the base sixteen, read with letters of either case and written in lower
case.

* `hexDigit?`: what one digit stands for;
* `hexDigits`: the digits of a number.
-/

namespace Custody.Text

/-- The value of a hexadecimal digit. -/
def hexDigit? (c : Char) : Option Nat :=
  if c.isDigit then some (c.toNat - '0'.toNat)
  else if 'a' ≤ c ∧ c ≤ 'f' then some (c.toNat - 'a'.toNat + 10)
  else if 'A' ≤ c ∧ c ≤ 'F' then some (c.toNat - 'A'.toNat + 10)
  else none

/-- The digits of a number, in lower case and without leading zeros. -/
def hexDigits (n : Nat) : List Char := Nat.toDigits 16 n

end Custody.Text
