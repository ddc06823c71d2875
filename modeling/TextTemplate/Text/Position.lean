/-!
# Positions in a text

A place in a text is given as a byte offset in its UTF-8 form; people read rows
and columns.  Rows are separated by line feeds, columns count characters, and
both start at zero.

Main definitions:

- `Text.byteLength` is the length of a text in UTF-8.
- `Text.beginningBefore` is the part of a text that lies before a byte offset.
- `Text.splitAtByte?` cuts a text at a byte offset.
- `Position.ofOffset` finds the row and the column of a byte offset.
-/

namespace TextTemplate

namespace Text

/-- The number of bytes of a text in UTF-8. -/
def byteLength : List Char → Nat
  | [] => 0
  | c :: rest => c.utf8Size + byteLength rest

/-- The empty text has no bytes. -/
@[simp] theorem byteLength_nil : byteLength [] = 0 := rfl

/-- A text has the bytes of its first character and those of its rest. -/
@[simp] theorem byteLength_cons (c : Char) (text : List Char) :
    byteLength (c :: text) = c.utf8Size + byteLength text := rfl

/-- Byte lengths add up. -/
@[simp] theorem byteLength_append (a b : List Char) :
    byteLength (a ++ b) = byteLength a + byteLength b := by
  induction a with
  | nil => simp
  | cons c rest ih => simp [ih, Nat.add_assoc]

/-- The characters that begin before byte `offset`.  An offset inside a
character counts that character in. -/
def beginningBefore : List Char → Nat → List Char
  | [], _ => []
  | _ :: _, 0 => []
  | c :: rest, offset + 1 => c :: beginningBefore rest (offset + 1 - c.utf8Size)

/-- No character begins before the first byte. -/
@[simp] theorem beginningBefore_zero (text : List Char) : beginningBefore text 0 = [] := by
  cases text <;> rfl

/-- The part before an offset is the front of the text. -/
theorem beginningBefore_isPrefix (text : List Char) (offset : Nat) :
    beginningBefore text offset <+: text := by
  induction text generalizing offset with
  | nil => simp [beginningBefore]
  | cons c rest ih =>
      cases offset with
      | zero => simp
      | succ offset =>
          simpa [beginningBefore] using ih (offset + 1 - c.utf8Size)

/-- The text before a byte offset and the text from there on.  An offset inside a
character or behind the end of the text cuts nothing. -/
def splitAtByte? : List Char → Nat → Option (List Char × List Char)
  | text, 0 => some ([], text)
  | [], _ + 1 => none
  | c :: rest, offset + 1 =>
      if c.utf8Size ≤ offset + 1 then
        (splitAtByte? rest (offset + 1 - c.utf8Size)).map fun parts => (c :: parts.1, parts.2)
      else none

/-- The number of characters after the last line feed. -/
def columnAfter (text : List Char) : Nat :=
  (text.reverse.takeWhile (· != '\n')).length

end Text

/-- A place in a text; everything is counted from zero. -/
structure Position where
  /-- Bytes of UTF-8 before the place. -/
  offset : Nat
  /-- Line feeds before the place. -/
  row : Nat
  /-- Characters between the last line feed and the place. -/
  column : Nat
deriving DecidableEq, Repr

/-- The position of a byte offset.  An offset past the end is moved back to the
end of the text. -/
def Position.ofOffset (source : String) (offset : Nat) : Position :=
  let text := source.toList
  let before := Text.beginningBefore text offset
  { offset := min offset (Text.byteLength text)
    row := before.count '\n'
    column := Text.columnAfter before }

end TextTemplate
