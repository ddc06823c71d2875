import TextTemplate.Locale.Uppercase
import TextTemplate.Number.Shortest
import TextTemplate.Number.Words
import TextTemplate.Template.Basic
import TextTemplate.Text.HexDigits

/-!
# Parameters

A parameter is a named value that takes the place of a placeholder.  There are
five kinds of values: texts, numbers, single characters, bytes shown in
hexadecimal digits, and values of the caller's own.  Rendering a value never
fails; what cannot be rendered is refused when the value is built.

Main definitions:

- `ParameterValue.render` turns a value into text.
- `ParameterValue.sameValue` compares values.
- `Numeric.number` makes a number of a word or of a floating-point number.
- `Shown.text` is the plain text of a value that may be captured as text.
-/

namespace TextTemplate

/-! ### Values shown as text -/

/-- Types whose values have a plain text. -/
class Shown (α : Type) where
  /-- The plain text of a value. -/
  text : α → String

instance : Shown String := ⟨id⟩

instance : Shown Char := ⟨String.singleton⟩

instance : Shown Bool := ⟨fun value => if value then "true" else "false"⟩

instance : Shown Int := ⟨Decimal.ofInt⟩

instance : Shown Binary64 := ⟨Binary64.text⟩

instance : Shown Binary32 := ⟨Binary32.text⟩

instance : Shown Locale := ⟨Locale.tag⟩

instance : Shown Template := ⟨Template.display⟩

/-! ### Texts -/

/-- A text, put in uppercase when it is rendered if that is asked for. -/
structure TextValue where
  /-- The text as it was given. -/
  text : String
  /-- Whether it is rendered in uppercase. -/
  uppercase : Bool := false
deriving DecidableEq, Repr

/-- The plain text of a value. -/
def TextValue.shown {α : Type} [Shown α] (value : α) : TextValue := ⟨Shown.text value, false⟩

/-- The text with the option for uppercase on or off. -/
def TextValue.withUppercase (value : TextValue) (on : Bool) : TextValue :=
  { value with uppercase := on }

/-- The text, in uppercase by the rules of the locale if that is asked for. -/
def TextValue.render (value : TextValue) (locale : Locale) : String :=
  if value.uppercase then locale.uppercase value.text else value.text

/-! ### Numbers -/

/-- A number.  Only whole numbers are rendered. -/
inductive Number
  /-- A whole number with a sign. -/
  | signed (n : Int64)
  /-- A whole number without a sign. -/
  | unsigned (n : UInt64)
  /-- A floating-point number. -/
  | float (x : Binary64)
deriving Repr

namespace Number

/-- The whole number that is rendered.  A floating-point number loses its
fraction and is kept within 64 signed bits; not a number counts as zero. -/
def whole : Number → Int
  | signed n => n.toInt
  | unsigned n => n.toNat
  | float x => x.value.truncate Decimal.int64Least Decimal.int64Greatest

/-- The decimal digits of the whole number. -/
def render (number : Number) : String := Decimal.ofInt number.whole

/-- Numbers of one kind are compared as numbers; different kinds differ. -/
def sameValue : Number → Number → Bool
  | signed m, signed n => m == n
  | unsigned m, unsigned n => m == n
  | float x, float y => x.sameNumber y
  | _, _ => false

end Number

/-- Types whose values may be given as numbers.  Words are widened to 64 bits and
single-precision numbers to double precision. -/
class Numeric (α : Type) where
  /-- The number that a value is. -/
  number : α → Number

instance : Numeric Int8 := ⟨fun n => .signed n.toInt64⟩

instance : Numeric Int16 := ⟨fun n => .signed n.toInt64⟩

instance : Numeric Int32 := ⟨fun n => .signed n.toInt64⟩

instance : Numeric Int64 := ⟨.signed⟩

instance : Numeric UInt8 := ⟨fun n => .unsigned n.toUInt64⟩

instance : Numeric UInt16 := ⟨fun n => .unsigned n.toUInt64⟩

instance : Numeric UInt32 := ⟨fun n => .unsigned n.toUInt64⟩

instance : Numeric UInt64 := ⟨.unsigned⟩

instance : Numeric Binary32 := ⟨fun x => .float x.widen⟩

instance : Numeric Binary64 := ⟨.float⟩

/-! ### Characters -/

/-- One character, put in uppercase when it is rendered if that is asked for. -/
structure Character where
  /-- The character as it was given. -/
  char : Char
  /-- Whether it is rendered in uppercase. -/
  uppercase : Bool := false
deriving DecidableEq, Repr

namespace Character

/-- The character with a code point; surrogates and numbers beyond the last code
point are refused. -/
def ofCode (code : UInt32) : Except TemplateError Character :=
  if h : code.isValidChar then .ok ⟨⟨code, h⟩, false⟩ else .error (.invalidCharacter code)

/-- The character with the option for uppercase on or off. -/
def withUppercase (value : Character) (on : Bool) : Character := { value with uppercase := on }

/-- The character, in uppercase by the rules of the locale if that is asked for;
the uppercase form may have several characters. -/
def render (value : Character) (locale : Locale) : String :=
  if value.uppercase then locale.uppercaseChar value.char else String.singleton value.char

end Character

/-! ### Bytes -/

/-- Bytes that are rendered as hexadecimal digits. -/
structure Hex where
  /-- The bytes, in order. -/
  bytes : List UInt8
  /-- Whether the digits above nine are capitals. -/
  uppercase : Bool := false
  /-- Whether the digits follow a `0x`; they are capitals then in any case. -/
  prefixed : Bool := false
deriving DecidableEq, Repr

namespace Hex

/-- The two bytes of a number of 16 bits. -/
def ofInt16 (n : Int16) : Hex := { bytes := bigEndian 2 n.toBitVec.toNat }

/-- The four bytes of a number of 32 bits. -/
def ofInt32 (n : Int32) : Hex := { bytes := bigEndian 4 n.toBitVec.toNat }

/-- The eight bytes of a number of 64 bits. -/
def ofInt64 (n : Int64) : Hex := { bytes := bigEndian 8 n.toBitVec.toNat }

/-- The four bytes of a single-precision number. -/
def ofBinary32 (x : Binary32) : Hex := { bytes := bigEndian 4 x.bits.toNat }

/-- The eight bytes of a double-precision number. -/
def ofBinary64 (x : Binary64) : Hex := { bytes := bigEndian 8 x.bits.toNat }

/-- The bytes of a text in UTF-8. -/
def ofText (text : String) : Hex := { bytes := text.toUTF8.toList }

/-- The bytes with the option for capitals on or off. -/
def withUppercase (value : Hex) (on : Bool) : Hex := { value with uppercase := on }

/-- The bytes with the option for the `0x` on or off. -/
def withPrefix (value : Hex) (on : Bool) : Hex := { value with prefixed := on }

/-- The letters used for the digits above nine. -/
def letters (value : Hex) : HexDigits.LetterCase :=
  if value.uppercase || value.prefixed then .upper else .lower

/-- The digits, two for each byte, behind a `0x` if that is asked for. -/
def render (value : Hex) : String :=
  let digits := HexDigits.encode value.letters value.bytes
  String.ofList (if value.prefixed then '0' :: 'x' :: digits else digits)

/-- Whether the bytes and their letters are the same; a `0x` makes no difference. -/
def sameValue (a b : Hex) : Bool := a.bytes == b.bytes && a.uppercase == b.uppercase

end Hex

/-! ### All values -/

/-- Values of a caller's own kind.  The caller says how they are rendered, and by
the equality of the type which of them are the same. -/
class CustomValue (κ : Type) where
  /-- The text of a value in a locale. -/
  render : κ → Locale → String

/-- Where there are no values, nothing has to be rendered. -/
instance : CustomValue Empty := ⟨nofun⟩

/-- The value of a parameter; `κ` is the kind of the caller's own values. -/
inductive ParameterValue (κ : Type)
  | text (value : TextValue)
  | number (value : Number)
  | character (value : Character)
  | hex (value : Hex)
  | custom (value : κ)
deriving Repr

namespace ParameterValue

variable {κ : Type}

/-- The text of a value in a locale. -/
def render [CustomValue κ] (value : ParameterValue κ) (locale : Locale) : String :=
  match value with
  | text value => value.render locale
  | number value => value.render
  | character value => value.render locale
  | hex value => value.render
  | custom value => CustomValue.render value locale

/-- Whether two values are the same.  Not a number is not even the same as itself. -/
def sameValue [DecidableEq κ] : ParameterValue κ → ParameterValue κ → Bool
  | text a, text b => a == b
  | number a, number b => a.sameValue b
  | character a, character b => a == b
  | hex a, hex b => a.sameValue b
  | custom a, custom b => a == b
  | _, _ => false

end ParameterValue

/-- A value with the name that placeholders use for it. -/
structure Parameter (κ : Type) where
  /-- The name; small letters and capitals differ. -/
  name : String
  /-- What takes the place of the placeholder. -/
  value : ParameterValue κ
deriving Repr

namespace Parameter

variable {κ : Type}

/-- The text of the value in a locale. -/
def render [CustomValue κ] (parameter : Parameter κ) (locale : Locale) : String :=
  parameter.value.render locale

/-- Whether names and values are the same. -/
def sameParameter [DecidableEq κ] (a b : Parameter κ) : Bool :=
  a.name == b.name && a.value.sameValue b.value

end Parameter

end TextTemplate
