import TextTemplate.Document.Toml.Scalar
import TextTemplate.Document.Toml.Tree

/-!
# TOML documents

A document is a sequence of lines: blank ones, headers that open a table, and
keys with their values.  Everything behind a number sign is a comment.  A value
may go over several lines inside a list.

Main definitions:

- `Toml.Key.read?` takes a dotted key off the front of a text.
- `Toml.readValue?` takes a value.
- `Toml.read?` reads a document.
-/

namespace TextTemplate.Toml

/-- Lists and tables inside each other, and the parts of a dotted key, must stay
below this number. -/
def depthLimit : Nat := 80

/-! ### Keys -/

namespace Key

/-- The characters of a key without quotes. -/
def isBare (c : Char) : Bool := c.isAlphanum || c == '_' || c == '-'

/-- Takes one part of a key: a text of one line, or a bare word. -/
def readPart? : List Char → Option (List Char × List Char)
  | '"' :: rest => readBasic? rest
  | '\'' :: rest => readLiteral? rest
  | text =>
      let word := text.takeWhile isBare
      if word.isEmpty then none else some (word, text.dropWhile isBare)

/-- Takes the parts of a dotted key; `fuel` bounds their number. -/
def readParts? : (fuel : Nat) → List Char → Option (List String × List Char)
  | 0, _ => none
  | fuel + 1, text => do
      let (part, rest) ← readPart? (dropSpaces text)
      match dropSpaces rest with
      | '.' :: rest =>
          let (parts, rest) ← readParts? fuel rest
          some (String.ofList part :: parts, rest)
      | rest => some ([String.ofList part], rest)

/-- Takes a dotted key with the spaces around it, and gives its last part apart
from the ones before it. -/
def read? (text : List Char) : Option (List String × String × List Char) := do
  let (parts, rest) ← readParts? (depthLimit - 1) text
  let key ← parts.getLast?
  some (parts.dropLast, key, rest)

end Key

/-! ### Blanks and comments -/

/-- Takes the blanks, line ends and comments off the front of a text; `none` when
a comment holds a control character. -/
def dropLines? : (inComment : Bool) → List Char → Option (List Char)
  | _, [] => some []
  | _, '\r' :: '\n' :: rest => dropLines? false rest
  | inComment, c :: rest =>
      if c == '\n' then dropLines? false rest
      else if inComment then
        if isVisible c then dropLines? true rest else none
      else if isSpace c then dropLines? false rest
      else if c == '#' then dropLines? true rest
      else some (c :: rest)

/-- Takes the end of a line: spaces, a comment, and the line end, which may be
missing at the end of the document. -/
def endLine? (text : List Char) : Option (List Char) :=
  let behind :=
    match dropSpaces text with
    | '#' :: comment => comment.dropWhile isVisible
    | rest => rest
  match behind with
  | [] => some []
  | c :: rest => lineEnd? (c :: rest)

/-! ### Values -/

mutual

/-- Takes a value; `depth` lists and tables are open, and `fuel` bounds the parts. -/
def readValueWith? : (fuel depth : Nat) → List Char → Option (Value × List Char)
  | 0, _, _ => none
  | fuel + 1, depth, text =>
      match text with
      | '[' :: rest =>
          if depth + 1 < depthLimit then do
            let (items, rest) ← readItems? fuel (depth + 1) rest
            some (.list items, rest)
          else none
      | '{' :: rest =>
          if depth + 1 < depthLimit then
            match dropSpaces rest with
            | '}' :: rest => some (.table [], rest)
            | rest => do
                let (entries, rest) ← readEntries? fuel (depth + 1) [] rest
                some (entries.toValue, rest)
          else none
      | c :: _ =>
          if c == '"' || c == '\'' then
            (readText? text).map fun read => (.text (String.ofList read.1), read.2)
          else readScalar? text
      | [] => none

/-- Takes the items of a list from here on, and its end. -/
def readItems? : (fuel depth : Nat) → List Char → Option (List Value × List Char)
  | 0, _, _ => none
  | fuel + 1, depth, text => do
      match ← dropLines? false text with
      | ']' :: rest => some ([], rest)
      | text =>
          let (value, rest) ← readValueWith? fuel depth text
          match ← dropLines? false rest with
          | ',' :: rest =>
              let (items, rest) ← readItems? fuel depth rest
              some (value :: items, rest)
          | ']' :: rest => some ([value], rest)
          | _ => none

/-- Takes the entries of a table in braces from here on, and its end. -/
def readEntries? : (fuel depth : Nat) → Entries → List Char → Option (Entries × List Char)
  | 0, _, _, _ => none
  | fuel + 1, depth, entries, text => do
      let (path, key, rest) ← Key.read? text
      let rest ← readMark? '=' rest
      let (value, rest) ← readValueWith? fuel depth (dropSpaces rest)
      let entries ← entries.assign? path key value
      match dropSpaces rest with
      | ',' :: rest => readEntries? fuel depth entries rest
      | '}' :: rest => some (entries, rest)
      | _ => none

end

/-- Takes a value off the front of a text. -/
def readValue? (text : List Char) : Option (Value × List Char) :=
  readValueWith? (2 * text.length + 1) 0 text

/-! ### Lines -/

/-- What has been read of a document. -/
structure Progress where
  /-- The tables so far. -/
  entries : Entries := []
  /-- The path to the table of the last header. -/
  header : List String := []

namespace Progress

/-- Takes the header of one more table in a list, behind its opening brackets. -/
def readItemHeader? (progress : Progress) (text : List Char) :
    Option (Progress × List Char) := do
  let (path, key, rest) ← Key.read? text
  let rest ← readMark? ']' rest
  let rest ← readMark? ']' rest
  let rest ← endLine? rest
  let entries ← progress.entries.openItem? path key
  some (⟨entries, path ++ [key]⟩, rest)

/-- Takes the header of a table, behind its opening bracket. -/
def readTableHeader? (progress : Progress) (text : List Char) :
    Option (Progress × List Char) := do
  let (path, key, rest) ← Key.read? text
  let rest ← readMark? ']' rest
  let rest ← endLine? rest
  let entries ← progress.entries.openTable? path key
  some (⟨entries, path ++ [key]⟩, rest)

/-- Takes a key and its value. -/
def readEntry? (progress : Progress) (text : List Char) : Option (Progress × List Char) := do
  let (path, key, rest) ← Key.read? text
  let rest ← readMark? '=' rest
  let (value, rest) ← readValue? (dropSpaces rest)
  let rest ← endLine? rest
  let entries ← progress.entries.assignIn? progress.header path key value
  some ({ progress with entries := entries }, rest)

/-- Takes the next line that is not blank. -/
def readLine? (progress : Progress) (text : List Char) : Option (Progress × List Char) :=
  match text with
  | '[' :: '[' :: rest => progress.readItemHeader? rest
  | '[' :: rest => progress.readTableHeader? rest
  | text => progress.readEntry? text

/-- Takes all lines; `fuel` bounds their number. -/
def readLines? : (fuel : Nat) → Progress → List Char → Option Progress
  | 0, _, _ => none
  | fuel + 1, progress, text => do
      match ← dropLines? false text with
      | [] => some progress
      | text =>
          let (progress, rest) ← progress.readLine? text
          readLines? fuel progress rest

end Progress

/-- A text without the byte order mark at its front. -/
def dropByteOrderMark : List Char → List Char
  | '\ufeff' :: rest => rest
  | text => text

/-- Reads a document. -/
def read? (document : String) : Option Value := do
  let text := dropByteOrderMark document.toList
  let progress ← Progress.readLines? (text.length + 1) {} text
  some progress.entries.toValue

end TextTemplate.Toml
