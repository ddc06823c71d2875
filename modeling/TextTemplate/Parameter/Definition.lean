import TextTemplate.Document.Value
import TextTemplate.Parameter.Basic

/-!
# Definitions of parameters

A definition describes a parameter before it gets its name: in a configuration
document it is a table with a `type`, a `value` and options, or a list with the
same parts in a fixed order.  The order of a table does not matter, and keys that
the type does not know are passed over; a key it knows must not occur twice.

Main definitions:

- `Definition.ofValue?` reads a definition from a document.
- `Definition.withUppercase?` and `Definition.withPrefix?` turn options on.
- `Definition.named` gives the parameter.
-/

namespace TextTemplate

/-- The number of a definition. -/
inductive NumberSource
  | integer (n : Int64)
  | float (x : Binary64)
deriving DecidableEq, Repr

/-- Where the bytes of a definition come from. -/
inductive HexSource
  /-- A whole number: four bytes if it fits, else eight. -/
  | integer (n : Int64)
  /-- The bytes themselves. -/
  | bytes (bytes : List UInt8)
  /-- The bytes of a text in UTF-8. -/
  | text (text : String)
deriving DecidableEq, Repr

/-- A parameter without its name. -/
inductive Definition
  | text (value : String) (uppercase : Bool)
  | number (value : NumberSource)
  | character (value : Char) (uppercase : Bool)
  | hex (source : HexSource) (uppercase prefixed : Bool)
deriving DecidableEq, Repr

/-! ### Parameters -/

/-- The number itself. -/
def NumberSource.toNumber : NumberSource → Number
  | integer n => .signed n
  | float x => .float x

/-- The bytes of a definition, without options. -/
def HexSource.toHex : HexSource → Hex
  | integer n =>
      if -0x80000000 ≤ n.toInt ∧ n.toInt < 0x80000000 then Hex.ofInt32 (Int32.ofInt n.toInt)
      else Hex.ofInt64 n
  | bytes content => { bytes := content }
  | text content => Hex.ofText content

namespace Definition

/-- The value of the parameter. -/
def toValue {κ : Type} : Definition → ParameterValue κ
  | text value uppercase => .text ⟨value, uppercase⟩
  | number value => .number value.toNumber
  | character value uppercase => .character ⟨value, uppercase⟩
  | hex source uppercase prefixed =>
      .hex { source.toHex with uppercase := uppercase, prefixed := prefixed }

/-- The parameter of a name. -/
def named {κ : Type} (definition : Definition) (name : String) : Parameter κ :=
  ⟨name, definition.toValue⟩

/-! ### Options -/

/-- Turns uppercase on; numbers have no such option. -/
def withUppercase? : Definition → Option Definition
  | text value _ => some (text value true)
  | number _ => none
  | character value _ => some (character value true)
  | hex source _ prefixed => some (hex source true prefixed)

/-- Turns the `0x` on; only bytes have such an option. -/
def withPrefix? : Definition → Option Definition
  | hex source uppercase _ => some (hex source uppercase true)
  | _ => none

/-! ### Reading -/

/-- The types of definitions. -/
inductive Kind
  | string
  | number
  | char
  | hex
deriving DecidableEq, Repr

/-- The type of a name. -/
def Kind.ofName? (name : String) : Option Kind :=
  match name with
  | "string" => some string
  | "number" => some number
  | "char" => some char
  | "hex" => some hex
  | _ => none

/-- The keys that a type knows, in the order in which a list has their values. -/
def Kind.keys : Kind → List String
  | string => ["value", "uppercase"]
  | number => ["value"]
  | char => ["value", "uppercase"]
  | hex => ["value", "uppercase", "prefixed"]

/-- The value of a key, if there is one; a key that occurs twice is refused. -/
def single? (key : String) (entries : List (String × Value)) : Option (Option Value) :=
  match entries.filter (·.1 == key) with
  | [] => some none
  | [entry] => some (some entry.2)
  | _ => none

/-- The value of a key that must be there once. -/
def required? (key : String) (entries : List (String × Value)) : Option Value :=
  (single? key entries).join

/-- An option, which is off when it is not mentioned. -/
def flag? (key : String) (entries : List (String × Value)) : Option Bool := do
  match ← single? key entries with
  | none => some false
  | some value => value.bool?

/-- A text of one character. -/
def char? (value : Value) : Option Char := do
  match (← value.text?).toList with
  | [c] => some c
  | _ => none

/-- A whole number that fits into 64 bits is kept as such, any other number as a
floating-point number. -/
def numberSource? : Value → Option NumberSource
  | .integer n =>
      match Decimal.toInt64? n with
      | some n => some (.integer n)
      | none => some (.float (Binary64.ofInt n))
  | .float x => some (.float x)
  | _ => none

/-- A whole number below 256. -/
def byte? : Value → Option UInt8
  | .integer n => if 0 ≤ n ∧ n < 256 then some (UInt8.ofNat n.toNat) else none
  | _ => none

/-- A whole number, a list of bytes, or a text. -/
def hexSource? : Value → Option HexSource
  | .integer n => (Decimal.toInt64? n).map .integer
  | .list items => (items.mapM byte?).map .bytes
  | .text content => some (.text content)
  | _ => none

/-- Reads the parts that a type has. -/
def ofEntries? (kind : Kind) (entries : List (String × Value)) : Option Definition := do
  let value ← required? "value" entries
  match kind with
  | .string => some (text (← value.text?) (← flag? "uppercase" entries))
  | .number => some (number (← numberSource? value))
  | .char => some (character (← char? value) (← flag? "uppercase" entries))
  | .hex =>
      some (hex (← hexSource? value) (← flag? "uppercase" entries) (← flag? "prefixed" entries))

/-- The type that a value names. -/
def kind? (value : Value) : Option Kind := do
  Kind.ofName? (← value.text?)

/-- Reads a definition from a table or from a list. -/
def ofValue? : Value → Option Definition
  | .table entries => do
      let kind ← kind? (← required? "type" entries)
      ofEntries? kind entries
  | .list (type :: values) => do
      let kind ← kind? type
      if values.length ≤ kind.keys.length then ofEntries? kind (kind.keys.zip values) else none
  | _ => none

end Definition

end TextTemplate
