import TextTemplate.Template.Error
import TextTemplate.Text.Columns

/-!
# Reports of parse errors

A report shows the line of a template that is at fault, with a pointer below its
bad braces and an explanation beside the pointer.  It may be coloured for a
terminal.

Main definitions:

- `Report.markedRange` finds the bad braces among the characters of a template.
- `Report.ofError` gathers what is shown.
- `Report.text` draws it.
-/

namespace TextTemplate

/-- What is shown of a parse error. -/
structure Report where
  /-- What is wrong, in one line. -/
  summary : String
  /-- Where the template comes from. -/
  name : String
  /-- The number of the line, counted from one. -/
  number : Nat
  /-- The line, without blanks at its end. -/
  line : List Char
  /-- The characters of the line before the bad braces. -/
  column : Nat
  /-- What is wrong with the braces. -/
  label : String
deriving DecidableEq, Repr

namespace Report

/-! ### Lines -/

/-- The characters that end a line. -/
def isLineBreak (c : Char) : Bool :=
  c == '\n' || c == '\x0b' || c == '\x0c' || c == '\r' || c == '\x85' || c == '\u2028' ||
    c == '\u2029'

/-- The first line of a text and the ones after it.  A carriage return and the line
feed behind it end one line together. -/
def lines : List Char → List Char × List (List Char)
  | [] => ([], [])
  | '\r' :: '\n' :: rest =>
      let (first, more) := lines rest
      ([], first :: more)
  | c :: rest =>
      let (first, more) := lines rest
      if isLineBreak c then ([], first :: more) else (c :: first, more)

/-- The explanation of what is wrong with the braces. -/
def labelOf : MarkerFault → String
  | .trailing => "nothing follows this marker"
  | .unterminated => "no closing `\x7d\x7d` after this marker"
  | .invalid =>
      "expected `\x7b\x7b name \x7d\x7d` with a name of letters, digits, `_`, `-` or `.`"

/-- The braces at a byte offset, as the characters before them and the characters up
to their end. -/
def markedRange (input : String) (offset : Nat) : Nat × Nat :=
  let start := (Text.beginningBefore input.toList offset).length
  (start, start + 2)

/-- What is shown of a parse error in a template of some origin. -/
def ofError (error : ParseError) (name : String) : Report :=
  let text := error.input.toList
  let start := (markedRange error.input error.offset).1
  let (first, more) := lines (text.take start)
  let front := (more.getLast?).getD first
  let behind := (lines (text.drop start)).1
  { summary := error.summary
    name := name
    number := more.length + 1
    line := Text.trimEnd (front ++ behind)
    column := front.length
    label := labelOf error.fault }

/-! ### Columns -/

/-- The columns of a character of the line; a tab goes on to the next multiple of
four, counted in characters. -/
def width (c : Char) (index : Nat) : Nat :=
  if c == '\t' then (index / 4 + 1) * 4 - index
  else if Text.isBlank c then 1
  else Columns.ofChar c

/-- The columns of a character of the line, or the one column of the place behind
its end. -/
def widthAt (report : Report) (index : Nat) : Nat :=
  match report.line[index]? with
  | some c => width c index
  | none => 1

/-- Whether one of the bad braces stands at a place of the line. -/
def isMarked (report : Report) (index : Nat) : Bool :=
  index == report.column || index == report.column + 1

/-! ### Drawing -/

/-- The colours of a report. -/
inductive Colour
  /-- What is at fault. -/
  | fault
  /-- The frame. -/
  | frame
  /-- The frame beside the pointer. -/
  | margin
  /-- The rest of the line. -/
  | plain
deriving DecidableEq, Repr

/-- The parameters that choose a colour on a terminal. -/
def Colour.code : Colour → String
  | fault => "31"
  | frame => "38;5;246"
  | margin => "38;5;240"
  | plain => "38;5;249"

/-- A text in a colour. -/
def paint (coloured : Bool) (colour : Colour) (text : String) : String :=
  if coloured then "\x1b[" ++ colour.code ++ "m" ++ text ++ "\x1b[0m" else text

/-- Some number of equal characters. -/
def times (count : Nat) (c : Char) : String := String.ofList (List.replicate count c)

/-- A character of the line as it is shown, every blank as spaces of its width. -/
def cell (report : Report) (coloured : Bool) (c : Char) (index : Nat) : String :=
  let colour := if report.isMarked index then Colour.fault else Colour.plain
  if Text.isBlank c then
    String.join (List.replicate (width c index) (paint coloured colour " "))
  else paint coloured colour (String.singleton c)

/-- The line as it is shown. -/
def sourceText (report : Report) (coloured : Bool) : String :=
  String.join (report.line.mapIdx fun index c => report.cell coloured c index)

/-- A row below the line: `piece` says what stands below each of its places, from
the first one to the second one behind the braces. -/
def row (report : Report) (coloured : Bool) (piece : Nat → Option Char) : String :=
  String.join ((List.range (report.column + 4)).map fun index =>
    match piece index with
    | some c =>
        String.join (List.replicate (report.widthAt index)
          (paint coloured .fault (String.singleton c)))
    | none => times (report.widthAt index) ' ')

/-- The row that underlines the braces. -/
def underline (report : Report) (coloured : Bool) : String :=
  report.row coloured fun index =>
    if index = report.column then some '─'
    else if index = report.column + 1 then some '┬'
    else none

/-- The row that leads from the braces to the label. -/
def pointer (report : Report) (coloured : Bool) : String :=
  report.row coloured fun index =>
    if index ≤ report.column then none
    else if index = report.column + 1 then some '╰'
    else some '─'

/-- The report, line by line. -/
def text (report : Report) (coloured : Bool) : String :=
  let number := Decimal.ofNat report.number
  let indent := times (number.length + 2) ' '
  let frame := paint coloured .frame
  let margin := " " ++ paint coloured .margin (times (number.length + 1) ' ' ++ "│") ++ " "
  let place :=
    report.name ++ ":" ++ number ++ ":" ++ Decimal.ofNat (report.column + 1)
  String.join
    [paint coloured .fault "Error:", " ", report.summary, "\n",
      indent, frame "╭", frame "─", frame "[", place, frame "]", "\n",
      indent, frame "│", "\n",
      " ", frame (number ++ " │"), " ", report.sourceText coloured, "\n",
      margin, report.underline coloured, "\n",
      margin, report.pointer coloured, " ", report.label, "\n",
      frame (times (number.length + 2) '─' ++ "╯"), "\n"]

end Report

end TextTemplate
