import Mathlib.Data.List.Induction
import TextTemplate.Proofs.Number.Words
import TextTemplate.Text.HexDigits

/-!
# Reading hexadecimal digits

Hexadecimal digits are read in small letters and in capitals: two by two as bytes, or all of
them together as one number.  The digits that are written for bytes are read as these bytes
again, whichever letters are used.

Main results:

- Definition `HexDigits.IsPairs`: a text that has two digits for each byte, in byte order.
- Theorem `HexDigits.isPairs_encode`: this is what is written.
- Theorem `HexDigits.decode?_encode`: reading two by two gives the bytes back.
- Theorem `HexDigits.behindPrefix_encode`: no digits look as if they had a `0x` in front.
- Theorem `HexDigits.number?_encode`: reading all together gives the number that the bytes
  stand for, and theorem `HexDigits.signed?_encode` gives it with its sign.
-/

namespace TextTemplate.HexDigits

/-! ## Single digits -/

/-- The sixteen digits, in order. -/
def alphabet : LetterCase → List Char
  | .lower => ['0', '1', '2', '3', '4', '5', '6', '7', '8', '9', 'a', 'b', 'c', 'd', 'e', 'f']
  | .upper => ['0', '1', '2', '3', '4', '5', '6', '7', '8', '9', 'A', 'B', 'C', 'D', 'E', 'F']

/-- The value of a digit, in small letters or in capitals. -/
def digitValue? (c : Char) : Option Nat :=
  (alphabet .lower).idxOf? c <|> (alphabet .upper).idxOf? c

/-- A value below sixteen is written with the digit at its place. -/
theorem getElem?_alphabet (letters : LetterCase) {value : Nat} (h : value < 16) :
    (alphabet letters)[value]? = some (digit letters value) := by
  revert value
  cases letters <;> decide

/-- A digit is read as the value that it was written for. -/
theorem digitValue?_digit (letters : LetterCase) {value : Nat} (h : value < 16) :
    digitValue? (digit letters value) = some value := by
  revert value
  cases letters <;> decide

theorem digit_ne_x (letters : LetterCase) {value : Nat} (h : value < 16) :
    digit letters value ≠ 'x' := by
  revert value
  cases letters <;> decide

/-- The two halves of a byte. -/
theorem halves_lt (byte : UInt8) : byte.toNat / 16 < 16 ∧ byte.toNat % 16 < 16 := by
  have hbyte : byte.toNat < 256 := byte.toNat_lt
  omega

/-! ## Pairs -/

/-- A text with two digits for each byte, the high half first, in the order of the bytes. -/
structure IsPairs (letters : LetterCase) (bytes : List UInt8) (digits : List Char) : Prop where
  length : digits.length = 2 * bytes.length
  high : ∀ (i : Nat) (byte : UInt8), bytes[i]? = some byte →
    digits[2 * i]? = (alphabet letters)[byte.toNat / 16]?
  low : ∀ (i : Nat) (byte : UInt8), bytes[i]? = some byte →
    digits[2 * i + 1]? = (alphabet letters)[byte.toNat % 16]?

/-- The digits of a byte are at twice its place. -/
theorem getElem?_encode (letters : LetterCase) {bytes : List UInt8} {i : Nat} {byte : UInt8}
    (h : bytes[i]? = some byte) :
    (encode letters bytes)[2 * i]? = some (digit letters (byte.toNat / 16)) ∧
      (encode letters bytes)[2 * i + 1]? = some (digit letters (byte.toNat % 16)) := by
  induction bytes generalizing i with
  | nil => contradiction
  | cons first bytes ih =>
      cases i with
      | zero =>
          obtain rfl : first = byte := by simpa using h
          exact ⟨rfl, rfl⟩
      | succ i =>
          have hrest : bytes[i]? = some byte := by simpa using h
          exact ih hrest

/-- The digits that are written for bytes come in pairs. -/
theorem isPairs_encode (letters : LetterCase) (bytes : List UInt8) :
    IsPairs letters bytes (encode letters bytes) where
  length := length_encode letters bytes
  high := by
    intro i byte h
    rw [(getElem?_encode letters h).1, getElem?_alphabet letters (halves_lt byte).1]
  low := by
    intro i byte h
    rw [(getElem?_encode letters h).2, getElem?_alphabet letters (halves_lt byte).2]

/-- Reads digits two by two. -/
def decode? : List Char → Option (List UInt8)
  | [] => some []
  | [_] => none
  | high :: low :: rest => do
      let high ← digitValue? high
      let low ← digitValue? low
      return UInt8.ofNat (16 * high + low) :: (← decode? rest)

/-- The bytes are read again from their digits. -/
theorem decode?_encode (letters : LetterCase) (bytes : List UInt8) :
    decode? (encode letters bytes) = some bytes := by
  induction bytes with
  | nil => rfl
  | cons byte bytes ih =>
      have hbyte : UInt8.ofNat (16 * (byte.toNat / 16) + byte.toNat % 16) = byte := by
        rw [Nat.div_add_mod, UInt8.ofNat_toNat]
      have hhigh := digitValue?_digit letters (halves_lt byte).1
      have hlow := digitValue?_digit letters (halves_lt byte).2
      simp only [encode_cons, ofByte, List.cons_append, List.nil_append, decode?, hhigh, hlow, ih,
        Option.bind_eq_bind, Option.bind_some, Option.pure_def, hbyte]

/-- The digits behind a `0x`, or all of the text if it does not begin so. -/
def behindPrefix : List Char → List Char
  | '0' :: 'x' :: digits => digits
  | digits => digits

/-- Digits do not begin with a `0x` by themselves. -/
theorem behindPrefix_encode (letters : LetterCase) (bytes : List UInt8) :
    behindPrefix (encode letters bytes) = encode letters bytes := by
  unfold behindPrefix
  split
  next digits h =>
    cases bytes with
    | nil => contradiction
    | cons byte bytes =>
        rw [encode_cons, ofByte] at h
        have hlow : digit letters (byte.toNat % 16) = 'x' :=
          (List.cons.inj (List.cons.inj h).2).1
        exact absurd hlow (digit_ne_x letters (halves_lt byte).2)
  next => rfl

/-! ## Numbers -/

/-- Reads digits as one number. -/
def number? (digits : List Char) : Option Nat :=
  digits.foldlM (fun n c => (digitValue? c).map (16 * n + ·)) 0

theorem number?_concat (digits : List Char) (c : Char) :
    number? (digits ++ [c]) =
      (number? digits).bind fun n => (digitValue? c).map (16 * n + ·) := by
  simp [number?]

/-- The digits of bytes are read as the number that the bytes stand for. -/
theorem number?_encode (letters : LetterCase) (bytes : List UInt8) :
    number? (encode letters bytes) = some (ofBigEndian bytes) := by
  induction bytes using List.reverseRecOn with
  | nil => rfl
  | append_singleton bytes byte ih =>
      have hlast : encode letters [byte] =
          [digit letters (byte.toNat / 16)] ++ [digit letters (byte.toNat % 16)] := rfl
      have hbyte : 16 * (16 * ofBigEndian bytes + byte.toNat / 16) + byte.toNat % 16 =
          256 * ofBigEndian bytes + byte.toNat := by omega
      rw [encode_append, hlast, ← List.append_assoc, number?_concat, number?_concat, ih,
        Option.bind_some, digitValue?_digit letters (halves_lt byte).1, Option.map_some,
        Option.bind_some, digitValue?_digit letters (halves_lt byte).2, Option.map_some, hbyte,
        ofBigEndian_concat]

/-- Reads digits as one number with a sign, in two's complement of a number of bits. -/
def signed? (width : Nat) (digits : List Char) : Option Int :=
  (number? digits).map fun n => (BitVec.ofNat width n).toInt

/-- The digits of a word are read as the number that the word is in two's complement. -/
theorem signed?_encode (letters : LetterCase) {count : Nat} (word : BitVec (8 * count)) :
    signed? (8 * count) (encode letters (bigEndian count word.toNat)) = some word.toInt := by
  rw [signed?, number?_encode, Option.map_some, ofNat_ofBigEndian]

end TextTemplate.HexDigits
