import TextTemplate.Number.Binary

/-!
# Documents

The data that is written down in configuration documents.  A table is kept as it
was written: its entries stay in their order, and a key may occur twice.

Main definitions:

- `Value` is the type of all data.
- `Value.text?`, `Value.bool?` and `Value.table?` ask for data of one type.
-/

namespace TextTemplate

/-- The data of a document. -/
inductive Value
  /-- The absence of data. -/
  | null
  /-- True or false. -/
  | bool (value : Bool)
  /-- A whole number. -/
  | integer (value : Int)
  /-- A floating-point number. -/
  | float (value : Binary64)
  /-- A text. -/
  | text (value : String)
  /-- A date, a time, or both; nothing depends on which one. -/
  | moment
  /-- Values in order. -/
  | list (items : List Value)
  /-- Values under keys. -/
  | table (entries : List (String × Value))
deriving Repr, Inhabited

namespace Value

/-- The text, if the value is one. -/
def text? : Value → Option String
  | text value => some value
  | _ => none

/-- The truth value, if the value is one. -/
def bool? : Value → Option Bool
  | bool value => some value
  | _ => none

/-- The entries, if the value is a table. -/
def table? : Value → Option (List (String × Value))
  | table entries => some entries
  | _ => none

end Value

end TextTemplate
