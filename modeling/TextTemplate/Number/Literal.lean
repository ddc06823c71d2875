import TextTemplate.Number.Binary
import TextTemplate.Number.Decimal

/-!
# Floating-point literals

A literal is a decimal significand with an optional point and an optional
exponent of ten, or one of the words for infinity and for what is not a number.
It is read as the nearest double-precision number.

Main definitions:

- `Binary64.ofDecimal` rounds a significand times a power of ten.
- `FloatLiteral.read?` reads a literal.
-/

namespace TextTemplate

/-- The number nearest to `significand * 10 ^ exponent`.  Far outside the range
of finite numbers the result is known from the number of digits alone. -/
def Binary64.ofDecimal (negative : Bool) (significand : Nat) (exponent : Int) : Binary64 :=
  let place := (Decimal.digits significand).length + exponent
  if significand = 0 ∨ place < -400 then ofDyadic negative ⟨0, 0⟩
  else if 400 < place then infinity negative
  else
    ofRatio negative (significand * Decimal.powerOfTen exponent.toNat)
      (Decimal.powerOfTen (-exponent).toNat)

namespace FloatLiteral

/-- The digits before and after the point, and the text behind them. -/
def readDigits (text : List Char) : List Char × List Char × List Char :=
  match Decimal.afterLeading text with
  | '.' :: rest => (Decimal.leading text, Decimal.leading rest, Decimal.afterLeading rest)
  | rest => (Decimal.leading text, [], rest)

/-- An exponent that ends the literal: nothing, or a letter `e`, an optional
sign and digits. -/
def readExponent? (text : List Char) : Option Int :=
  match text with
  | [] => some 0
  | c :: rest =>
      let (negative, digits) := Decimal.unsigned rest
      if (c == 'e' || c == 'E') && Decimal.isRun digits then
        some (Decimal.signed negative (Decimal.value digits))
      else none

/-- A literal made of digits, without its sign.  There must be a digit before or
after the point. -/
def readNumber? (negative : Bool) (text : List Char) : Option Binary64 :=
  let (whole, fraction, rest) := readDigits text
  if (whole ++ fraction).isEmpty then none
  else
    (readExponent? rest).map fun exponent =>
      Binary64.ofDecimal negative (Decimal.value (whole ++ fraction))
        (exponent - fraction.length)

/-- A literal made of letters, without its sign, in small letters or capitals. -/
def readWord? (negative : Bool) (text : List Char) : Option Binary64 :=
  let word := String.ofList (text.map Char.toLower)
  if word == "nan" then some Binary64.nan
  else if word == "inf" || word == "infinity" then some (Binary64.infinity negative)
  else none

/-- Reads a literal with an optional sign. -/
def read? (text : List Char) : Option Binary64 :=
  let (negative, rest) := Decimal.unsigned text
  readNumber? negative rest <|> readWord? negative rest

end FloatLiteral

end TextTemplate
