import TextTemplate.Number.Binary
import TextTemplate.Number.Decimal

/-!
# Shortest decimal text

A floating-point number is written with the fewest decimal digits that still
read back as the same number; of the texts with that many digits the nearest to
the number is taken, the larger one when two are equally near.  The digits are
written out around a point, never with an exponent, and a whole number gets no
point at all.

Main definitions:

- `RoundingInterval.shortest` finds the digits.
- `FloatValue.text` writes a number.
-/

namespace TextTemplate

/-- The positive numbers that round to one floating-point number, as numerators
over a common denominator. -/
structure RoundingInterval where
  /-- The lower end. -/
  low : Nat
  /-- The floating-point number itself. -/
  middle : Nat
  /-- The upper end. -/
  high : Nat
  /-- The denominator of all three. -/
  denominator : Nat
  /-- Whether the ends round to the number as well. -/
  closed : Bool
deriving Repr

/-- The positive decimal `digits * 10 ^ place`. -/
structure DecimalFloat where
  /-- The digits, as one number. -/
  digits : Nat
  /-- The place of the last digit; zero is that of the ones. -/
  place : Int
deriving DecidableEq, Repr

namespace RoundingInterval

/-- The interval around a representable number.  Its ends lie half way to the
neighbours; below a power of two the lower neighbour is only half as far. -/
def around (layout : BinaryLayout) (x : Dyadic) : RoundingInterval :=
  let below :=
    if x.significand = layout.topBit ∧ layout.leastExponent < x.exponent then 1 else 2
  { low := (4 * x.significand - below) <<< x.exponent.toNat
    middle := (4 * x.significand) <<< x.exponent.toNat
    high := (4 * x.significand + 2) <<< x.exponent.toNat
    denominator := 4 * x.denominator
    closed := x.significand % 2 == 0 }

/-- The place of the first digit of a positive fraction. -/
def leadingPlace (numerator denominator : Nat) : Int :=
  if denominator ≤ numerator then
    ((Decimal.digits (numerator / denominator)).length : Int) - 1
  else
    let k := (Decimal.digits (denominator / numerator)).length
    if denominator ≤ numerator * Decimal.powerOfTen (k - 1) then 1 - (k : Int) else -(k : Int)

/-- The digits of the decimal with last digit at `place` that lies in the
interval, if there is one: the nearest to the middle, the larger one of two that
are equally near. -/
def digitsAt? (interval : RoundingInterval) (place : Int) : Option Nat :=
  let up := Decimal.powerOfTen (-place).toNat
  let unit := interval.denominator * Decimal.powerOfTen place.toNat
  let digits := interval.middle * up / unit
  let inside (n : Nat) : Bool :=
    if interval.closed then interval.low * up ≤ n * unit && n * unit ≤ interval.high * up
    else interval.low * up < n * unit && n * unit < interval.high * up
  let below := inside digits
  let above := inside (digits + 1)
  if below && above then
    if 2 * (interval.middle * up % unit) < unit then some digits else some (digits + 1)
  else if below then some digits
  else if above then some (digits + 1)
  else none

/-- Drops zeros at the end of the digits; `fuel` bounds their number. -/
def dropZeros : (fuel : Nat) → DecimalFloat → DecimalFloat
  | 0, x => x
  | fuel + 1, x =>
      if x.digits % 10 = 0 then dropZeros fuel ⟨x.digits / 10, x.place + 1⟩ else x

/-- The decimal with the fewest digits in the interval.  Seventeen digits are
enough for double precision. -/
def shortest (interval : RoundingInterval) : DecimalFloat :=
  let first := leadingPlace interval.middle interval.denominator
  let found := (List.range 17).findSome? fun (count : Nat) =>
    let place := first - count
    (interval.digitsAt? place).map fun digits => (⟨digits, place⟩ : DecimalFloat)
  dropZeros 17 (found.getD ⟨interval.middle / interval.denominator, 0⟩)

end RoundingInterval

/-- The decimal written out around its point, which a whole number does without. -/
def DecimalFloat.text (x : DecimalFloat) : List Char :=
  let digits := Decimal.digits x.digits
  let fraction := (-x.place).toNat
  if fraction = 0 then digits ++ List.replicate x.place.toNat '0'
  else if fraction < digits.length then
    digits.take (digits.length - fraction) ++ '.' :: digits.drop (digits.length - fraction)
  else '0' :: '.' :: List.replicate (fraction - digits.length) '0' ++ digits

/-- The text of a number; `layout` says which neighbours it has. -/
def FloatValue.text (layout : BinaryLayout) : FloatValue → String
  | .nan => "NaN"
  | .infinite negative => if negative then "-inf" else "inf"
  | .finite negative significand exponent =>
      let digits :=
        if significand = 0 then ['0']
        else (RoundingInterval.around layout ⟨significand, exponent⟩).shortest.text
      String.ofList (if negative then '-' :: digits else digits)

/-- The text of a double-precision number. -/
def Binary64.text (x : Binary64) : String := x.value.text BinaryLayout.double

/-- The text of a single-precision number. -/
def Binary32.text (x : Binary32) : String := x.value.text BinaryLayout.single

end TextTemplate
