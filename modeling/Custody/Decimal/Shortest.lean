/-!
# Shortest decimals

The decimal with the fewest digits that reads back as a given binary number, of
those the nearest one, and of two as near the even one. A 64-bit number is
`significand · 2 ^ exponent`; the reals that round to it lie between the midpoints
to its two neighbours, the midpoints included when the significand is even.

* `Rounding.ofBits`: that interval, for the bits of a positive finite number;
* `Rounding.decimal`: for one digit, two digits and so on, the two neighbours of
  the number on the decimal grid are tried, and the first grid with one inside
  the interval decides.

All arithmetic is exact.
-/

namespace Custody.Decimal

/-- The number `digits · 10 ^ exponent`. -/
structure Numeral where
  digits : Nat
  exponent : Int
  deriving DecidableEq, Repr

/-- A positive number and the interval of reals that round to it, all four
numbers counted in units of `1 / scale`. -/
structure Rounding where
  low : Nat
  value : Nat
  high : Nat
  scale : Nat
  /-- The ends of the interval belong to it. -/
  closed : Bool
  deriving DecidableEq, Repr

namespace Rounding

/-- The interval of `significand · 2 ^ exponent`, whose neighbour below is half
as far as the one above when `narrow` holds. -/
def ofParts (significand : Nat) (exponent : Int) (narrow : Bool) : Rounding :=
  let unit := Nat.pow 2 (exponent - 2).toNat
  { low := (4 * significand - if narrow then 1 else 2) * unit
    value := 4 * significand * unit
    high := (4 * significand + 2) * unit
    scale := Nat.pow 2 (2 - exponent).toNat
    closed := significand % 2 == 0 }

/-- The interval of a positive finite number with the given 64 bits. -/
def ofBits (bits : Nat) : Rounding :=
  let fraction := bits % Nat.pow 2 52
  let biased : Nat := bits / Nat.pow 2 52 % Nat.pow 2 11
  if biased = 0 then
    ofParts fraction (-1074) false
  else
    ofParts (Nat.pow 2 52 + fraction) ((biased : Int) - 1075) (fraction == 0 && 1 < biased)

/-- The number of digits of a positive number. -/
def width (n : Nat) : Nat := (Nat.toDigits 10 n).length

/-- The `e` with `10 ^ (e - 1) ≤ value < 10 ^ e`. -/
def magnitude (r : Rounding) : Int :=
  if r.scale ≤ r.value then
    width (r.value / r.scale)
  else
    1 - (width ((r.scale - 1) / r.value) : Int)

/-- `digits · 10 ^ exponent` lies in the interval. -/
def holds (r : Rounding) (d : Numeral) : Bool :=
  let candidate := d.digits * Nat.pow 10 d.exponent.toNat * r.scale
  let unit := Nat.pow 10 (-d.exponent).toNat
  if r.closed then
    r.low * unit ≤ candidate && candidate ≤ r.high * unit
  else
    r.low * unit < candidate && candidate < r.high * unit

/-- The largest point of the grid `10 ^ exponent` that is at most the value. -/
def floor (r : Rounding) (exponent : Int) : Numeral :=
  ⟨r.value * Nat.pow 10 (-exponent).toNat / (r.scale * Nat.pow 10 exponent.toNat), exponent⟩

/-- The grid point above `d` stands for the value rather than `d`: it is the nearer
one, or it is as near and even. -/
def prefersAbove (r : Rounding) (d : Numeral) : Bool :=
  let middle := (2 * d.digits + 1) * Nat.pow 10 d.exponent.toNat * r.scale
  let value := 2 * r.value * Nat.pow 10 (-d.exponent).toNat
  middle < value || middle == value && d.digits % 2 == 1

/-- The point of the grid `10 ^ exponent` in the interval that is nearest to the
value, if the interval holds one. Of two as near it is the even one. -/
def onGrid? (r : Rounding) (exponent : Int) : Option Numeral :=
  let below := r.floor exponent
  let above : Numeral := ⟨below.digits + 1, exponent⟩
  match r.holds below && below.digits != 0, r.holds above with
  | true, true => some (if r.prefersAbove below then above else below)
  | true, false => some below
  | false, true => some above
  | false, false => none

/-- The decimal of the fewest digits in the interval. Seventeen always do. -/
def decimal (r : Rounding) : Numeral :=
  let top := r.magnitude
  match (List.range 17).findSome? fun n => r.onGrid? (top - (n + 1 : Nat)) with
  | some d => d
  | none => r.floor (top - 17)

end Rounding

end Custody.Decimal
