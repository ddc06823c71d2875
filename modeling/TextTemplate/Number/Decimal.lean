/-!
# Decimal digits

Whole numbers written and read in decimal digits.

Main definitions:

- `Decimal.ofNat` and `Decimal.ofInt` write the canonical form: no leading
  zeros, no plus sign, zero without a sign.
- `Decimal.value` reads a run of digits.
- `Decimal.int64?` reads a signed whole number of 64 bits.
-/

namespace TextTemplate.Decimal

/-- The digits of a natural number, the most significant one first. -/
def digits (n : Nat) : List Char := Nat.toDigits 10 n

/-- The canonical text of a natural number. -/
def ofNat (n : Nat) : String := String.ofList (digits n)

/-- The canonical text of a whole number. -/
def ofInt (n : Int) : String :=
  if n < 0 then String.ofList ('-' :: digits n.natAbs) else ofNat n.natAbs

/-- The number a digit stands for. -/
def digitValue (c : Char) : Nat := c.toNat - '0'.toNat

/-- The number a run of digits stands for. -/
def value (digits : List Char) : Nat :=
  digits.foldl (fun n c => 10 * n + digitValue c) 0

/-- The digits at the front of a text. -/
def leading (text : List Char) : List Char := text.takeWhile Char.isDigit

/-- The text after the digits at its front. -/
def afterLeading (text : List Char) : List Char := text.dropWhile Char.isDigit

/-- Whether a text is one or more digits. -/
def isRun (text : List Char) : Bool := !text.isEmpty && text.all Char.isDigit

/-- A text without the sign at its front, and whether that sign is a minus. -/
def unsigned : List Char → Bool × List Char
  | '-' :: rest => (true, rest)
  | '+' :: rest => (false, rest)
  | text => (false, text)

/-- A magnitude with its sign. -/
def signed (negative : Bool) (magnitude : Nat) : Int :=
  if negative then -(magnitude : Int) else magnitude

/-- Ten to the power of a natural number. -/
def powerOfTen (exponent : Nat) : Nat := Nat.pow 10 exponent

/-- The least number of 64 signed bits. -/
def int64Least : Int := -0x8000000000000000

/-- The greatest number of 64 signed bits. -/
def int64Greatest : Int := 0x7FFFFFFFFFFFFFFF

/-- A whole number as one of 64 signed bits, if it fits. -/
def toInt64? (n : Int) : Option Int64 :=
  if int64Least ≤ n ∧ n ≤ int64Greatest then some (Int64.ofInt n) else none

/-- Reads an optional sign and one or more digits, as a number of 64 bits. -/
def int64? (text : List Char) : Option Int64 :=
  let (negative, digits) := unsigned text
  if isRun digits then toInt64? (signed negative (value digits)) else none

end TextTemplate.Decimal
