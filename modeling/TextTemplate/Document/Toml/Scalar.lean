import TextTemplate.Document.Toml.Text
import TextTemplate.Document.Value
import TextTemplate.Number.Literal

/-!
# Numbers, truth values and times in TOML

Whole numbers are decimal with an optional sign, or hexadecimal, octal or binary
without one, and must fit into 64 bits.  Single underscores may stand between
digits.  Floating-point numbers are rounded correctly; one that is too large is
refused, unless it is negative.

Main definition:

- `Toml.readScalar?` takes a value of one of these types off the front of a
  document.
-/

namespace TextTemplate.Toml

/-! ### Digits -/

/-- Takes digits off the front of a text; there must be one at least, and an
underscore must stand between two of them. -/
def readRun? (isDigit : Char → Bool) : List Char → Option (List Char × List Char)
  | [] => none
  | c :: '_' :: rest =>
      if isDigit c then (readRun? isDigit rest).map (consChar c) else none
  | [c] => if isDigit c then some ([c], []) else none
  | c :: d :: rest =>
      if isDigit c then
        if isDigit d then (readRun? isDigit (d :: rest)).map (consChar c)
        else some ([c], d :: rest)
      else none

/-- Takes the digits before the point: a zero alone, or digits that do not begin
with one. -/
def readWhole? : List Char → Option (List Char × List Char)
  | '0' :: rest => some (['0'], rest)
  | text => readRun? Char.isDigit text

/-- A digit of a hexadecimal number. -/
def isHexDigit (c : Char) : Bool := (Json.hexValue? c).isSome

/-- The number that digits stand for in a base. -/
def numberInBase (base : Nat) (digits : List Char) : Nat :=
  digits.foldl (fun n c => base * n + (Json.hexValue? c).getD 0) 0

/-! ### Numbers -/

/-- Takes a number in another base, behind the letter that names the base. -/
def readBased? (base : Nat) (isDigit : Char → Bool) (text : List Char) :
    Option (Value × List Char) := do
  let (digits, rest) ← readRun? isDigit text
  let n := numberInBase base digits
  let _ ← Decimal.toInt64? n
  some (.integer n, rest)

/-- Takes a point and the digits behind it, if there is a point. -/
def readFraction? : List Char → Option (Option (List Char) × List Char)
  | '.' :: text => (readRun? Char.isDigit text).map fun read => (some read.1, read.2)
  | text => some (none, text)

/-- Takes an exponent, if there is one. -/
def readExponent? : List Char → Option (Option Int × List Char)
  | [] => some (none, [])
  | c :: text =>
      if c == 'e' || c == 'E' then
        let (negative, unsigned) := Decimal.unsigned text
        (readRun? Char.isDigit unsigned).map fun read =>
          (some (Decimal.signed negative (Decimal.value read.1)), read.2)
      else some (none, c :: text)

/-- A floating-point number that is not too large. -/
def float? (x : Binary64) : Option Value :=
  if x = Binary64.infinity false then none else some (.float x)

/-- Takes a decimal number, behind its sign. -/
def readDecimal? (negative : Bool) (text : List Char) : Option (Value × List Char) := do
  let (whole, afterWhole) ← readWhole? text
  let (fraction, afterFraction) ← readFraction? afterWhole
  let (exponent, rest) ← readExponent? afterFraction
  if fraction.isNone && exponent.isNone then
    let n := Decimal.signed negative (Decimal.value whole)
    let _ ← Decimal.toInt64? n
    some (.integer n, rest)
  else
    let digits := whole ++ fraction.getD []
    let place := exponent.getD 0 - ((fraction.getD []).length : Int)
    let value ← float? (Binary64.ofDecimal negative (Decimal.value digits) place)
    some (value, rest)

/-- Takes a number, behind its sign: digits, or the word for infinity or for what
is not a number. -/
def readSigned? (negative : Bool) : List Char → Option (Value × List Char)
  | 'i' :: 'n' :: 'f' :: rest => some (.float (Binary64.infinity negative), rest)
  | 'n' :: 'a' :: 'n' :: rest => some (.float Binary64.nan, rest)
  | text => readDecimal? negative text

/-- Takes a number. -/
def readNumber? : List Char → Option (Value × List Char)
  | '0' :: 'x' :: rest => readBased? 16 isHexDigit rest
  | '0' :: 'o' :: rest => readBased? 8 (fun c => c.isDigit && c ≤ '7') rest
  | '0' :: 'b' :: rest => readBased? 2 (fun c => c == '0' || c == '1') rest
  | text =>
      let (negative, unsigned) := Decimal.unsigned text
      readSigned? negative unsigned

/-! ### Dates and times -/

/-- Takes a fixed number of digits that stand for a number in a range. -/
def readField? (count least greatest : Nat) (text : List Char) : Option (Nat × List Char) :=
  let digits := text.take count
  let n := Decimal.value digits
  if digits.length = count ∧ digits.all Char.isDigit ∧ least ≤ n ∧ n ≤ greatest then
    some (n, text.drop count)
  else none

/-- Takes one given character. -/
def readMark? (mark : Char) : List Char → Option (List Char)
  | c :: rest => if c == mark then some rest else none
  | [] => none

/-- The number of days of a month. -/
def daysIn (year month : Nat) : Nat :=
  if month = 2 then
    if year % 4 = 0 ∧ (year % 100 ≠ 0 ∨ year % 400 = 0) then 29 else 28
  else if month = 4 ∨ month = 6 ∨ month = 9 ∨ month = 11 then 30
  else 31

/-- Takes a date. -/
def readDate? (text : List Char) : Option (List Char) := do
  let (year, text) ← readField? 4 0 9999 text
  let text ← readMark? '-' text
  let (month, text) ← readField? 2 1 12 text
  let text ← readMark? '-' text
  let (_, text) ← readField? 2 1 (daysIn year month) text
  some text

/-- Takes the fraction of a second, if there is one. -/
def dropSecondFraction? : List Char → Option (List Char)
  | '.' :: text =>
      if (Decimal.leading text).isEmpty then none else some (Decimal.afterLeading text)
  | text => some text

/-- Takes a time of day; there may be a leap second. -/
def readTime? (text : List Char) : Option (List Char) := do
  let (_, text) ← readField? 2 0 23 text
  let text ← readMark? ':' text
  let (_, text) ← readField? 2 0 59 text
  let text ← readMark? ':' text
  let (_, text) ← readField? 2 0 60 text
  dropSecondFraction? text

/-- Takes the difference to universal time, if there is one. -/
def dropOffset? : List Char → Option (List Char)
  | [] => some []
  | c :: text =>
      if c == 'Z' || c == 'z' then some text
      else if c == '+' || c == '-' then do
        let (_, text) ← readField? 2 0 23 text
        let text ← readMark? ':' text
        let (_, text) ← readField? 2 0 59 text
        some text
      else some (c :: text)

/-- Takes the time behind a date, if there is one. -/
def dropTimeOfDate? (text : List Char) : Option (List Char) :=
  match text with
  | c :: rest =>
      if c == 'T' || c == 't' || c == ' ' then
        match readTime? rest with
        | some rest => dropOffset? rest
        | none => some text
      else some text
  | [] => some []

/-- Takes a date, a time, or both. -/
def readMoment? (text : List Char) : Option (Value × List Char) :=
  match readDate? text with
  | some rest => (dropTimeOfDate? rest).map fun rest => (.moment, rest)
  | none => (readTime? text).map fun rest => (.moment, rest)

/-! ### All of them -/

/-- Takes a truth value. -/
def readBool? : List Char → Option (Value × List Char)
  | 't' :: 'r' :: 'u' :: 'e' :: rest => some (.bool true, rest)
  | 'f' :: 'a' :: 'l' :: 's' :: 'e' :: rest => some (.bool false, rest)
  | _ => none

/-- Takes a truth value, a date or time, or a number. -/
def readScalar? (text : List Char) : Option (Value × List Char) :=
  readBool? text <|> readMoment? text <|> readNumber? text

end TextTemplate.Toml
