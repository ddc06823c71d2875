import TextTemplate.Template.Basic

/-!
# The scanner by byte offsets

A scanner of bytes keeps a cursor in the source and takes slices of it: what is
ahead of the cursor, the literal in front of the next braces, and what lies behind
these.  A slice exists only where both its ends lie between two characters of the
source, in this order.  The loop takes every slice by a look-up that may fail,
finds the end of a placeholder by one that may fail too, and has no other reason to
come to an end than the scanner of bytes has.

Main definitions:

- `Cursor.turn?` is one turn of the loop.
- `Cursor.Visits` relates the loop to the places that it comes to.
- `Cursor.Ends` says how the loop ends.
-/

namespace TextTemplate

namespace Piece

/-- The byte offset of the first two opening braces of a text, if there are any. -/
def findOpening? : List Char → Option Nat
  | [] => none
  | c :: rest =>
      if opens (c :: rest) then some 0 else (findOpening? rest).map (c.utf8Size + ·)

/-- The number of bytes of the placeholder at the front of a text, if there is one. -/
def matchedBytes? (text : List Char) : Option Nat :=
  (read? text).map fun found => Text.byteLength found.1.source

end Piece

namespace Cursor

/-! ### One turn of the loop -/

/-- Braces that the loop has found. -/
structure Braces where
  /-- The literal in front of them, if there is one. -/
  front : List Segment
  /-- The offset of the first brace. -/
  marker : Nat
  /-- The offset behind the second brace. -/
  inside : Nat
deriving DecidableEq, Repr

/-- What one turn of the loop comes to. -/
inductive Turn
  /-- No more braces: the rest of the source is a literal, and the loop is left. -/
  | last (rest : Segment)
  /-- Braces at fault. -/
  | fault (braces : Braces) (fault : MarkerFault)
  /-- A placeholder with its name, and the number of its bytes if that is known. -/
  | next (braces : Braces) (name : String) (matched : Option Nat)
deriving DecidableEq, Repr

/-- The literal in a range of bytes. -/
def literal? (source : String) (range : ByteRange) : Option Segment :=
  (range.slice? source).map fun text => .literal text range

/-- Braces found at an offset, with what lies between them and the cursor. -/
def braces? (source : String) (cursor marker : Nat) : Option Braces :=
  if marker = cursor then some ⟨[], marker, marker + 2⟩
  else (literal? source ⟨cursor, marker⟩).map fun literal => ⟨[literal], marker, marker + 2⟩

/-- What braces open: first it is asked whether anything lies behind them, then whether
closing braces do, and then whether a placeholder begins with them. -/
def inspect? (source : String) (braces : Braces) : Option Turn :=
  if source.utf8ByteSize ≤ braces.inside then some (.fault braces .trailing)
  else do
    let behind ← ByteRange.slice? ⟨braces.inside, source.utf8ByteSize⟩ source
    if Piece.hasClose behind.toList then
      let held ← ByteRange.slice? ⟨braces.marker, source.utf8ByteSize⟩ source
      match Piece.read? held.toList with
      | some (.placeholder _ name _, _) =>
          some (.next braces (String.ofList name) (Piece.matchedBytes? held.toList))
      | _ => some (.fault braces .invalid)
    else some (.fault braces .unterminated)

/-- One turn of the loop; `none` when a slice does not exist. -/
def turn? (source : String) (cursor : Nat) : Option Turn := do
  let ahead ← ByteRange.slice? ⟨cursor, source.utf8ByteSize⟩ source
  match Piece.findOpening? ahead.toList with
  | none => (literal? source ⟨cursor, source.utf8ByteSize⟩).map .last
  | some found => (braces? source cursor (cursor + found)).bind (inspect? source)

/-- The end of a placeholder.  If the number of its bytes were not known, it would end
where it begins. -/
def Braces.stop (braces : Braces) (matched : Option Nat) : Nat := braces.marker + matched.getD 0

/-- The segments that a turn adds for a placeholder. -/
def Braces.found (braces : Braces) (name : String) (matched : Option Nat) : List Segment :=
  braces.front ++ [.placeholder name ⟨braces.marker, braces.stop matched⟩]

/-- The ranges of bytes that begin or end at the offsets of braces. -/
def Braces.ranges (size : Nat) (braces : Braces) : List ByteRange :=
  braces.front.map Segment.range ++ [⟨braces.marker, size⟩, ⟨braces.inside, size⟩]

/-- The ranges of bytes that a turn uses. -/
def Turn.ranges (size : Nat) : Turn → List ByteRange
  | last rest => [rest.range]
  | fault braces _ => braces.ranges size
  | next braces _ matched => ⟨braces.marker, braces.stop matched⟩ :: braces.ranges size

/-! ### The loop -/

/-- The loop comes to a cursor, with the segments so far. -/
inductive Visits (source : String) : Nat → List Segment → Prop
  | start : Visits source 0 []
  | next {cursor : Nat} {segments : List Segment} {braces : Braces} {name : String}
      {matched : Option Nat} :
      Visits source cursor segments → cursor < source.utf8ByteSize →
      turn? source cursor = some (.next braces name matched) →
      Visits source (braces.stop matched) (segments ++ braces.found name matched)

/-- How the loop ends: at the end of the source, in front of it where no more braces
follow, or at braces at fault.  A slice that does not exist is no end. -/
inductive Ends (source : String) : Except ParseError (List Segment) → Prop
  | finished {cursor : Nat} {segments : List Segment} :
      Visits source cursor segments → source.utf8ByteSize ≤ cursor →
      Ends source (.ok segments)
  | last {cursor : Nat} {segments : List Segment} {rest : Segment} :
      Visits source cursor segments → cursor < source.utf8ByteSize →
      turn? source cursor = some (.last rest) → Ends source (.ok (segments ++ [rest]))
  | fault {cursor : Nat} {segments : List Segment} {braces : Braces} {fault : MarkerFault} :
      Visits source cursor segments → cursor < source.utf8ByteSize →
      turn? source cursor = some (.fault braces fault) →
      Ends source (.error ⟨fault, braces.marker, source⟩)

end Cursor

end TextTemplate
