/-!
# Hexadecimal digits

Bytes written as pairs of hexadecimal digits, the high half first.

Main results:

- `HexDigits.encode` writes two digits per byte, in byte order.
- `HexDigits.length_encode` counts them.
- `HexDigits.encode_append`: joined bytes have joined digits.
-/

namespace TextTemplate.HexDigits

/-- Which letters stand for the digits from ten on. -/
inductive LetterCase
  | lower
  | upper
deriving DecidableEq, Repr

/-- One digit, for a value below sixteen. -/
def digit (letters : LetterCase) (value : Nat) : Char :=
  if value < 10 then Char.ofNat (48 + value)
  else
    match letters with
    | .lower => Char.ofNat (87 + value)
    | .upper => Char.ofNat (55 + value)

/-- The two digits of a byte. -/
def ofByte (letters : LetterCase) (byte : UInt8) : List Char :=
  [digit letters (byte.toNat / 16), digit letters (byte.toNat % 16)]

/-- The digits of a list of bytes. -/
def encode (letters : LetterCase) (bytes : List UInt8) : List Char :=
  bytes.flatMap (ofByte letters)

/-- No bytes have no digits. -/
@[simp] theorem encode_nil (letters : LetterCase) : encode letters [] = [] := rfl

/-- The digits of the first byte come first. -/
@[simp] theorem encode_cons (letters : LetterCase) (byte : UInt8) (bytes : List UInt8) :
    encode letters (byte :: bytes) = ofByte letters byte ++ encode letters bytes := rfl

/-- Joined bytes have joined digits. -/
theorem encode_append (letters : LetterCase) (a b : List UInt8) :
    encode letters (a ++ b) = encode letters a ++ encode letters b := by
  simp [encode]

/-- There are two digits per byte. -/
theorem length_encode (letters : LetterCase) (bytes : List UInt8) :
    (encode letters bytes).length = 2 * bytes.length := by
  induction bytes with
  | nil => rfl
  | cons byte bytes ih => simp [ofByte, ih]; omega

end TextTemplate.HexDigits
