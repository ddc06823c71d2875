import TextTemplate.Document.Json.Number
import TextTemplate.Document.Json.Text

/-!
# JSON documents

A document is cut into tokens, and the tokens are put together by a machine that
keeps the lists and tables it is inside of on a stack.  The stack has a limit:
documents nested more deeply are refused.  Keys that occur twice are kept, for
the reader of the data to judge.

Main definitions:

- `Json.Token.ofText?` cuts a text into tokens.
- `Json.Assembly.step` takes in one token.
- `Json.read?` reads a document.
-/

namespace TextTemplate.Json

/-! ### Tokens -/

/-- The smallest parts of a document. -/
inductive Token
  | openList
  | closeList
  | openTable
  | closeTable
  | colon
  | comma
  /-- A text, a number, a truth value, or the absence of data. -/
  | scalar (value : Value)
deriving Repr

namespace Token

/-- The characters that may stand between tokens. -/
def isSpace (c : Char) : Bool := c == ' ' || c == '\t' || c == '\n' || c == '\r'

/-- Takes a word off the front of a text. -/
def readWord? (word : List Char) (value : Value) (text : List Char) :
    Option (Token × List Char) :=
  if word.isPrefixOf text then some (scalar value, text.drop word.length) else none

/-- Takes a number off the front of a text. -/
def readNumber? (text : List Char) : Option (Token × List Char) := do
  let (numeral, rest) ← Numeral.read? text
  let value ← numeral.value?
  some (scalar value, rest)

/-- Takes a text off the front, behind its opening quote. -/
def readQuoted? (text : List Char) : Option (Token × List Char) := do
  let (value, rest) ← readText? text
  some (scalar (.text value), rest)

/-- Takes a token off the front of a text that begins with `c`. -/
def read? (c : Char) (rest : List Char) : Option (Token × List Char) :=
  match c with
  | '[' => some (openList, rest)
  | ']' => some (closeList, rest)
  | '{' => some (openTable, rest)
  | '}' => some (closeTable, rest)
  | ':' => some (colon, rest)
  | ',' => some (comma, rest)
  | '"' => readQuoted? rest
  | 'n' => readWord? ['u', 'l', 'l'] .null rest
  | 't' => readWord? ['r', 'u', 'e'] (.bool true) rest
  | 'f' => readWord? ['a', 'l', 's', 'e'] (.bool false) rest
  | c => readNumber? (c :: rest)

/-- A token takes at least its first character. -/
theorem length_lt_of_read? {c : Char} {rest behind : List Char} {token : Token}
    (h : read? c rest = some (token, behind)) : behind.length < (c :: rest).length := by
  have hword : ∀ word value, readWord? word value rest = some (token, behind) →
      behind.length < (c :: rest).length := by
    intro word value hread
    unfold readWord? at hread
    split at hread
    · simp only [Option.some.injEq, Prod.mk.injEq] at hread
      obtain ⟨_, rfl⟩ := hread
      simp only [List.length_drop, List.length_cons]
      omega
    · simp at hread
  have hone : some (token, behind) = some (token, rest) →
      behind.length < (c :: rest).length := by
    intro heq
    simp only [Option.some.injEq, Prod.mk.injEq, true_and] at heq
    simp [heq]
  unfold read? at h
  split at h
  case h_7 =>
    simp only [readQuoted?, Option.bind_eq_bind, Option.bind_eq_some_iff, Prod.exists,
      Option.some.injEq, Prod.mk.injEq] at h
    obtain ⟨_, _, htext, _, rfl⟩ := h
    exact Nat.lt_succ_of_lt (length_lt_of_readText? htext)
  case h_8 => exact hword _ _ h
  case h_9 => exact hword _ _ h
  case h_10 => exact hword _ _ h
  case h_11 =>
    simp only [readNumber?, Option.bind_eq_bind, Option.bind_eq_some_iff, Prod.exists,
      Option.some.injEq, Prod.mk.injEq] at h
    obtain ⟨_, _, hnumber, _, _, _, rfl⟩ := h
    exact Numeral.length_lt_of_read? hnumber
  all_goals
    simp only [Option.some.injEq, Prod.mk.injEq] at h
    exact hone (by simp [h.2])

/-- Cuts a text into tokens. -/
def ofText? (text : List Char) : Option (List Token) :=
  match text with
  | [] => some []
  | c :: rest =>
      if isSpace c then ofText? rest
      else
        match _hread : read? c rest with
        | none => none
        | some (token, behind) => (ofText? behind).map (token :: ·)
termination_by text.length
decreasing_by
  · simp
  · exact length_lt_of_read? _hread

end Token

/-! ### Putting tokens together -/

/-- A list or a table that has been opened but not closed. -/
inductive Frame
  /-- A list with the items so far, the last one first. -/
  | list (items : List Value)
  /-- A table with the entries so far, the last one first, and a key that waits
  for its value. -/
  | table (entries : List (String × Value)) (key : String)
deriving Repr

/-- What may come next. -/
inductive Phase
  /-- A value. -/
  | value
  /-- The first item of a list, or its end. -/
  | item
  /-- A key; in an empty table also its end. -/
  | key (entries : List (String × Value))
  /-- The colon behind a key. -/
  | colon (entries : List (String × Value)) (key : String)
  /-- A comma or an end, behind a value. -/
  | behind (value : Value)
deriving Repr

/-- A document that is being put together. -/
structure Assembly where
  /-- The open lists and tables, the innermost one first. -/
  frames : List Frame := []
  /-- What may come next. -/
  phase : Phase := .value
deriving Repr

namespace Assembly

/-- The greatest depth of lists and tables inside each other. -/
def depthLimit : Nat := 127

/-- Takes in a token where a value may stand. -/
def beginValue (frames : List Frame) : Token → Option Assembly
  | .scalar value => some ⟨frames, .behind value⟩
  | .openList => if frames.length < depthLimit then some ⟨.list [] :: frames, .item⟩ else none
  | .openTable => if frames.length < depthLimit then some ⟨frames, .key []⟩ else none
  | _ => none

/-- Takes in one token; `none` when it may not stand there. -/
def step (assembly : Assembly) (token : Token) : Option Assembly :=
  match assembly.phase, token, assembly.frames with
  | .value, token, frames => beginValue frames token
  | .item, .closeList, .list _ :: frames => some ⟨frames, .behind (.list [])⟩
  | .item, token, frames => beginValue frames token
  | .key entries, .scalar (.text key), frames => some ⟨frames, .colon entries key⟩
  | .key [], .closeTable, frames => some ⟨frames, .behind (.table [])⟩
  | .colon entries key, .colon, frames => some ⟨.table entries key :: frames, .value⟩
  | .behind value, .comma, .list items :: frames =>
      some ⟨.list (value :: items) :: frames, .value⟩
  | .behind value, .closeList, .list items :: frames =>
      some ⟨frames, .behind (.list (value :: items).reverse)⟩
  | .behind value, .comma, .table entries key :: frames =>
      some ⟨frames, .key ((key, value) :: entries)⟩
  | .behind value, .closeTable, .table entries key :: frames =>
      some ⟨frames, .behind (.table ((key, value) :: entries).reverse)⟩
  | _, _, _ => none

/-- The document, once everything that was opened has been closed. -/
def result? (assembly : Assembly) : Option Value :=
  match assembly with
  | ⟨[], .behind value⟩ => some value
  | _ => none

end Assembly

/-- Reads a document. -/
def read? (document : String) : Option Value := do
  let tokens ← Token.ofText? document.toList
  let assembly ← tokens.foldlM Assembly.step {}
  assembly.result?

end TextTemplate.Json
