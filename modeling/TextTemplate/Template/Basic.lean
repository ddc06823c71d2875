import TextTemplate.Template.Error
import TextTemplate.Template.Piece

/-!
# Templates

A template is a source text together with the segments it is made of.  A
segment is a piece of the text with its range of bytes.

Main definitions:

- `ByteRange.slice?` is the part of a source in a range of bytes.
- `Template.parse` cuts a source into segments or says what is wrong with it.
- `Template.placeholders` lists the names that a template asks for.
- `Template.display` writes a template in normal form.
-/

namespace TextTemplate

/-- The bytes from `start` up to but not including `stop`. -/
structure ByteRange where
  /-- The offset of the first byte. -/
  start : Nat
  /-- The offset behind the last byte. -/
  stop : Nat
deriving DecidableEq, Repr

namespace ByteRange

/-- The slice of a source at a range of bytes, if the range is one of the source:
it does not end before it starts, and cuts no character. -/
def slice? (range : ByteRange) (source : String) : Option String :=
  if range.start ≤ range.stop then
    match Text.splitAtByte? source.toList range.start with
    | none => none
    | some (_, behind) =>
        (Text.splitAtByte? behind (range.stop - range.start)).map fun parts =>
          String.ofList parts.1
  else none

end ByteRange

/-- A piece of a template and where it stands in the source. -/
inductive Segment
  /-- Text that is copied to the output. -/
  | literal (text : String) (range : ByteRange)
  /-- The place of a parameter; the range includes the braces. -/
  | placeholder (name : String) (range : ByteRange)
deriving DecidableEq, Repr

namespace Segment

/-- The bytes of the segment in the source. -/
def range : Segment → ByteRange
  | literal _ range => range
  | placeholder _ range => range

/-- The name of the parameter, if the segment is the place of one. -/
def name? : Segment → Option String
  | literal .. => none
  | placeholder name _ => some name

/-- The segment in normal form: one space on either side of a name. -/
def display : Segment → String
  | literal text _ => text
  | placeholder name _ => "\x7b\x7b " ++ name ++ " \x7d\x7d"

/-- The segment of a piece that begins at byte `start`. -/
def ofPiece (start : Nat) : Piece → Segment
  | .literal text => literal (String.ofList text) ⟨start, start + Text.byteLength text⟩
  | .placeholder before name after =>
      placeholder (String.ofList name)
        ⟨start, start + Text.byteLength (Piece.source (.placeholder before name after))⟩

/-- The segments of pieces that follow each other from byte `start` on. -/
def ofPieces (start : Nat) : List Piece → List Segment
  | [] => []
  | piece :: rest =>
      ofPiece start piece :: ofPieces (start + Text.byteLength piece.source) rest

end Segment

/-- A template that has been parsed. -/
structure Template where
  /-- The text it was parsed from. -/
  source : String
  /-- The segments of the text, in order. -/
  segments : List Segment
deriving DecidableEq, Repr

namespace Template

/-- What is wrong with braces that open no placeholder, given the text from
there on. -/
def faultOf (rest : List Char) : MarkerFault :=
  if (rest.drop 2).isEmpty then .trailing
  else if Piece.hasClose (rest.drop 2) then .invalid
  else .unterminated

/-- Parses a template, or says what is wrong with its first bad braces. -/
def parse (source : String) : Except ParseError Template :=
  let scan := Scan.run source.toList
  if scan.rest.isEmpty then .ok ⟨source, Segment.ofPieces 0 scan.pieces⟩
  else
    .error
      { fault := faultOf scan.rest
        offset := Text.byteLength (scan.pieces.flatMap Piece.source)
        input := source }

/-- The names of the placeholders, each where it appears first. -/
def placeholders (template : Template) : List String :=
  (template.segments.filterMap Segment.name?).eraseDups

/-- The template in normal form. -/
def display (template : Template) : String :=
  String.join (template.segments.map Segment.display)

end Template

end TextTemplate
