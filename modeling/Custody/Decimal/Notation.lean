import Custody.Decimal.Shortest

/-!
# Written forms of binary numbers

A number is written with its shortest digits. Numbers of ordinary size stand in
positional notation and always show a digit on both sides of the point; the
others have one digit before the point and a signed exponent.
-/

namespace Custody.Decimal

/-- Which powers of ten the leading digit may count in positional notation. -/
structure Span where
  lowest : Int
  highest : Int

/-- Positional from 0.00001 up to, not including, 10 000 000 000 000 000. -/
def ordinary : Span := ⟨-5, 15⟩

/-- The digits without the zeros at their end, and how many there were. -/
def stripZeros (digits : List Char) : List Char × Nat :=
  let zeros := (digits.reverse.takeWhile (· == '0')).length
  (digits.take (digits.length - zeros), zeros)

/-- The digits behind the point, which follow it only if there are any. -/
def pointed : List Char → List Char
  | [] => []
  | digits => '.' :: digits

/-- The sign and digits of an exponent. -/
def signed (n : Int) : List Char :=
  (if n < 0 then '-' else '+') :: Nat.toDigits 10 n.natAbs

/-- The written form of a positive numeral. -/
def written (span : Span) (d : Numeral) : List Char :=
  let (digits, zeros) := stripZeros (Nat.toDigits 10 d.digits)
  let exponent := d.exponent + zeros
  let lead := exponent + digits.length - 1
  if lead < span.lowest || span.highest < lead then
    digits.take 1 ++ pointed (digits.drop 1) ++ 'e' :: signed lead
  else if 0 ≤ exponent then
    digits ++ List.replicate exponent.toNat '0' ++ ['.', '0']
  else if 0 ≤ lead then
    digits.take (lead.toNat + 1) ++ pointed (digits.drop (lead.toNat + 1))
  else
    ['0', '.'] ++ List.replicate (-lead - 1).toNat '0' ++ digits

/-- The written form of a finite number; zero keeps its sign. -/
def ofFloat (x : Float) : String :=
  let bits := x.toBits.toNat
  let magnitude := bits % Nat.pow 2 63
  let sign := if Nat.pow 2 63 ≤ bits then ['-'] else []
  let body :=
    if magnitude = 0 then ['0', '.', '0']
    else written ordinary (Rounding.ofBits magnitude).decimal
  String.ofList (sign ++ body)

end Custody.Decimal
