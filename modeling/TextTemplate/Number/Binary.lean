/-!
# Binary floating-point numbers

Floating-point numbers are kept as their bit patterns and read as exact values:
a whole significand times a power of two.  Every result is found in exact
arithmetic on whole numbers and rounded once, to the nearest representable
number, ties going to the even significand.

Main definitions:

- `BinaryLayout.decode` gives the meaning of a bit pattern.
- `BinaryLayout.nearest?` rounds a fraction; it fails when the result is too large.
- `Binary64.ofRatio` and `Binary32.widen` build double-precision numbers.
- `FloatValue.truncate` drops the fraction and keeps to a range of whole numbers.
-/

namespace TextTemplate

/-- The fields of a binary interchange format, below its sign bit. -/
structure BinaryLayout where
  /-- Bits of the fraction. -/
  fractionBits : Nat
  /-- Bits of the biased exponent. -/
  exponentBits : Nat
deriving DecidableEq, Repr

/-- The layout of single precision. -/
def BinaryLayout.single : BinaryLayout := ⟨23, 8⟩

/-- The layout of double precision. -/
def BinaryLayout.double : BinaryLayout := ⟨52, 11⟩

/-- What a bit pattern stands for. -/
inductive FloatValue
  /-- Not a number. -/
  | nan
  /-- An infinity. -/
  | infinite (negative : Bool)
  /-- The number `significand * 2 ^ exponent`, with a sign that zero has too. -/
  | finite (negative : Bool) (significand : Nat) (exponent : Int)
deriving DecidableEq, Repr

/-- The nonnegative number `significand * 2 ^ exponent`. -/
structure Dyadic where
  /-- The whole factor. -/
  significand : Nat
  /-- The exponent of two. -/
  exponent : Int
deriving DecidableEq, Repr

/-- The numerator of the value as a fraction. -/
def Dyadic.numerator (x : Dyadic) : Nat := x.significand <<< x.exponent.toNat

/-- The denominator of the value as a fraction. -/
def Dyadic.denominator (x : Dyadic) : Nat := 1 <<< (-x.exponent).toNat

/-- The quotient rounded to the nearest whole number, a half to the even one. -/
def roundHalfEven (numerator denominator : Nat) : Nat :=
  let quotient := numerator / denominator
  let twice := 2 * (numerator % denominator)
  if twice < denominator then quotient
  else if denominator < twice then quotient + 1
  else quotient + quotient % 2

namespace BinaryLayout

/-- The number of biased exponents.  The greatest of them marks infinities and what
is not a number. -/
def exponentCount (layout : BinaryLayout) : Nat := 1 <<< layout.exponentBits

/-- The exponent of the smallest numbers, whose significand has no fixed top bit. -/
def leastExponent (layout : BinaryLayout) : Int :=
  2 - (layout.exponentCount / 2 : Nat) - layout.fractionBits

/-- The exponent of the largest finite numbers. -/
def greatestExponent (layout : BinaryLayout) : Int :=
  layout.leastExponent + layout.exponentCount - 3

/-- The least significand with the fixed top bit. -/
def topBit (layout : BinaryLayout) : Nat := 1 <<< layout.fractionBits

/-- The meaning of a bit pattern. -/
def decode (layout : BinaryLayout) (bits : Nat) : FloatValue :=
  let fraction := bits % layout.topBit
  let biased := bits / layout.topBit % layout.exponentCount
  let negative := bits / (layout.topBit * layout.exponentCount) % 2 == 1
  if biased = layout.exponentCount - 1 then
    if fraction = 0 then .infinite negative else .nan
  else if biased = 0 then .finite negative fraction layout.leastExponent
  else .finite negative (layout.topBit + fraction) (layout.leastExponent + (biased - 1 : Nat))

/-- The exponent at which the fraction has a significand with the fixed top bit,
raised to the least exponent where it lies below. -/
def exponentFor (layout : BinaryLayout) (numerator denominator : Nat) : Int :=
  let estimate : Int := Nat.log2 numerator - Nat.log2 denominator - layout.fractionBits - 1
  let significand :=
    (numerator <<< (-estimate).toNat) / (denominator <<< estimate.toNat)
  max layout.leastExponent (if significand < 2 * layout.topBit then estimate else estimate + 1)

/-- The representable number nearest to a fraction, a tie going to the even
significand; `none` when it would be larger than every finite number. -/
def nearest? (layout : BinaryLayout) (numerator denominator : Nat) : Option Dyadic :=
  if numerator = 0 then some ⟨0, layout.leastExponent⟩
  else
    let exponent := layout.exponentFor numerator denominator
    let significand :=
      roundHalfEven (numerator <<< (-exponent).toNat) (denominator <<< exponent.toNat)
    let rounded : Dyadic :=
      if significand = 2 * layout.topBit then ⟨layout.topBit, exponent + 1⟩
      else ⟨significand, exponent⟩
    if layout.greatestExponent < rounded.exponent then none else some rounded

/-- The bit pattern of an infinity, without its sign. -/
def infinityBits (layout : BinaryLayout) : Nat :=
  layout.topBit * (layout.exponentCount - 1)

/-- The bit pattern of a representable number, without its sign. -/
def magnitudeBits (layout : BinaryLayout) (x : Dyadic) : Nat :=
  if x.significand < layout.topBit then x.significand
  else
    (x.exponent - layout.leastExponent + 1).toNat * layout.topBit +
      (x.significand - layout.topBit)

/-- The sign bit, if the number is negative. -/
def signBits (layout : BinaryLayout) (negative : Bool) : Nat :=
  if negative then layout.topBit * layout.exponentCount else 0

end BinaryLayout

/-- A double-precision number, as its bit pattern. -/
structure Binary64 where
  /-- The sign, the biased exponent and the fraction, from the top bit down. -/
  bits : UInt64
deriving DecidableEq, Repr

/-- A single-precision number, as its bit pattern. -/
structure Binary32 where
  /-- The sign, the biased exponent and the fraction, from the top bit down. -/
  bits : UInt32
deriving DecidableEq, Repr

namespace Binary64

/-- The meaning of the bit pattern. -/
def value (x : Binary64) : FloatValue := BinaryLayout.double.decode x.bits.toNat

/-- The quiet number that is not a number. -/
def nan : Binary64 := ⟨0x7FF8000000000000⟩

/-- An infinity. -/
def infinity (negative : Bool) : Binary64 :=
  ⟨UInt64.ofNat
    (BinaryLayout.double.signBits negative + BinaryLayout.double.infinityBits)⟩

/-- A representable number with a sign. -/
def ofDyadic (negative : Bool) (x : Dyadic) : Binary64 :=
  ⟨UInt64.ofNat
    (BinaryLayout.double.signBits negative + BinaryLayout.double.magnitudeBits x)⟩

/-- The number nearest to a fraction; one that is too large becomes infinite. -/
def ofRatio (negative : Bool) (numerator denominator : Nat) : Binary64 :=
  match BinaryLayout.double.nearest? numerator denominator with
  | some x => ofDyadic negative x
  | none => infinity negative

/-- The number nearest to a whole number. -/
def ofInt (n : Int) : Binary64 := ofRatio (n < 0) n.natAbs 1

/-- Equality of numbers: not a number equals nothing, the two zeros are equal. -/
def sameNumber (x y : Binary64) : Bool :=
  match x.value, y.value with
  | .nan, _ => false
  | _, .nan => false
  | .finite _ 0 _, .finite _ 0 _ => true
  | _, _ => x == y

end Binary64

namespace Binary32

/-- The meaning of the bit pattern. -/
def value (x : Binary32) : FloatValue := BinaryLayout.single.decode x.bits.toNat

/-- The same number in double precision; every single-precision number is
representable there. -/
def widen (x : Binary32) : Binary64 :=
  match x.value with
  | .nan => Binary64.nan
  | .infinite negative => Binary64.infinity negative
  | .finite negative significand exponent =>
      let x : Dyadic := ⟨significand, exponent⟩
      Binary64.ofRatio negative x.numerator x.denominator

end Binary32

/-- The whole number between `least` and `greatest` nearest to the value with its
fraction dropped.  Not a number counts as zero. -/
def FloatValue.truncate (least greatest : Int) : FloatValue → Int
  | .nan => 0
  | .infinite negative => if negative then least else greatest
  | .finite negative significand exponent =>
      let x : Dyadic := ⟨significand, exponent⟩
      let whole : Int := (x.numerator / x.denominator : Nat)
      max least (min greatest (if negative then -whole else whole))

end TextTemplate
