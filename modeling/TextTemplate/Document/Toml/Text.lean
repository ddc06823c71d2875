import TextTemplate.Document.Json.Text

/-!
# Texts in TOML

A text stands in double quotes, where a backslash begins an escape, or in single
quotes, where every character stands for itself.  Three quotes in a row open and
close a text of several lines; a line feed right behind the opening ones is not
part of it.

Main definition:

- `Toml.readText?` takes a text of any of the four forms off the front of a
  document.
-/

namespace TextTemplate.Toml

/-! ### Characters -/

/-- The characters that may stand between the parts of a line. -/
def isSpace (c : Char) : Bool := c == ' ' || c == '\t'

/-- Characters other than the control characters; a tab counts as one of them. -/
def isVisible (c : Char) : Bool := c == '\t' || (0x20 ≤ c.toNat && c.toNat ≠ 0x7F)

/-- The text without the spaces at its front. -/
def dropSpaces (text : List Char) : List Char := text.dropWhile isSpace

/-- The text behind the line end at its front, if there is one: a line feed, or a
carriage return before a line feed. -/
def lineEnd? : List Char → Option (List Char)
  | '\n' :: rest => some rest
  | '\r' :: '\n' :: rest => some rest
  | _ => none

/-- A line end takes at least one character. -/
theorem length_lt_of_lineEnd? {text rest : List Char} (h : lineEnd? text = some rest) :
    rest.length < text.length := by
  unfold lineEnd? at h
  split at h
  · simp_all
  · simp only [Option.some.injEq] at h
    subst h
    simp only [List.length_cons]
    omega
  · simp at h

/-! ### Escapes -/

/-- The character with a code point; surrogates are refused. -/
def scalar? (code : Nat) : Option Char :=
  if h : code.isValidChar then some (Char.ofNatAux code h) else none

/-- Takes a fixed number of hexadecimal digits, as the code point of a character. -/
def codeEscape? (count : Nat) (text : List Char) : Option (Char × List Char) := do
  let digits := text.take count
  if digits.length < count then none
  else
    let code ← Json.hexNumber? digits
    let c ← scalar? code
    some (c, text.drop count)

/-- The character meant by a one-letter escape. -/
def escaped? (c : Char) : Option Char :=
  match c with
  | '"' => some '"'
  | '\\' => some '\\'
  | 'b' => some '\x08'
  | 'f' => some '\x0c'
  | 'n' => some '\n'
  | 'r' => some '\r'
  | 't' => some '\t'
  | _ => none

/-- Takes an escape, behind its backslash. -/
def escape? : List Char → Option (Char × List Char)
  | [] => none
  | 'u' :: rest => codeEscape? 4 rest
  | 'U' :: rest => codeEscape? 8 rest
  | c :: rest => (escaped? c).map fun meant => (meant, rest)

/-- An escape takes at least one character. -/
theorem length_lt_of_escape? {text rest : List Char} {c : Char}
    (h : escape? text = some (c, rest)) : rest.length < text.length := by
  have hcode : ∀ {count : Nat} {digits : List Char},
      codeEscape? count digits = some (c, rest) → rest.length ≤ digits.length := by
    intro count digits hread
    dsimp only [codeEscape?] at hread
    split at hread
    · simp at hread
    · simp only [Option.bind_eq_bind, Option.bind_eq_some_iff, Option.some.injEq,
        Prod.mk.injEq] at hread
      obtain ⟨_, _, _, _, _, rfl⟩ := hread
      simp only [List.length_drop]
      omega
  unfold escape? at h
  split at h
  · simp at h
  · exact Nat.lt_succ_of_le (hcode h)
  · exact Nat.lt_succ_of_le (hcode h)
  · simp only [Option.map_eq_some_iff, Prod.mk.injEq] at h
    obtain ⟨_, _, _, rfl⟩ := h
    simp

/-! ### Texts of one line -/

/-- One more character in front of a text that has been read. -/
def consChar (c : Char) (read : List Char × List Char) : List Char × List Char :=
  (c :: read.1, read.2)

/-- Takes a text in double quotes, behind the opening one. -/
def readBasic? (text : List Char) : Option (List Char × List Char) :=
  match text with
  | [] => none
  | c :: rest =>
      if c == '"' then some ([], rest)
      else if c == '\\' then
        match _hescape : escape? rest with
        | none => none
        | some (meant, behind) => (readBasic? behind).map (consChar meant)
      else if isVisible c then (readBasic? rest).map (consChar c)
      else none
termination_by text.length
decreasing_by
  · exact Nat.lt_succ_of_lt (length_lt_of_escape? _hescape)
  · simp

/-- Takes a text in single quotes, behind the opening one. -/
def readLiteral? : List Char → Option (List Char × List Char)
  | [] => none
  | c :: rest =>
      if c == '\'' then some ([], rest)
      else if isVisible c then (readLiteral? rest).map (consChar c)
      else none

/-! ### Texts of several lines -/

/-- Three or more quotes close a text of several lines; the ones beyond three, up
to two, belong to the text. -/
def closing? (quote : Char) (text : List Char) : Option (List Char × List Char) :=
  let count := (text.takeWhile (· == quote)).length
  if count < 3 then none
  else some (List.replicate (min count 5 - 3) quote, text.drop (min count 5))

/-- The text behind the spaces and line ends at its front. -/
def dropBlankLines : List Char → List Char
  | [] => []
  | c :: rest =>
      if isSpace c || c == '\n' then dropBlankLines rest
      else
        match c, rest with
        | '\r', '\n' :: behind => dropBlankLines behind
        | _, _ => c :: rest

/-- Nothing is added in front of a text. -/
theorem length_dropBlankLines_le (text : List Char) :
    (dropBlankLines text).length ≤ text.length := by
  fun_induction dropBlankLines text with
  | case1 => simp
  | case2 c rest h ih => simp only [List.length_cons]; omega
  | case3 behind h ih => simp only [List.length_cons]; omega
  | case4 => simp

/-- The text behind a line end with nothing but spaces before it, and behind the
blanks that follow. -/
def continued? (text : List Char) : Option (List Char) :=
  (lineEnd? (dropSpaces text)).map dropBlankLines

/-- A continued line is shorter. -/
theorem length_lt_of_continued? {text rest : List Char} (h : continued? text = some rest) :
    rest.length < text.length := by
  simp only [continued?, Option.map_eq_some_iff] at h
  obtain ⟨behind, hend, rfl⟩ := h
  have h₁ := length_lt_of_lineEnd? hend
  have h₂ := length_dropBlankLines_le behind
  have h₃ : (dropSpaces text).length ≤ text.length :=
    (List.dropWhile_suffix isSpace).length_le
  omega

/-- Takes a text in three double quotes, behind the opening ones.  A backslash at
the end of a line takes the blanks up to the next text away. -/
def readLongBasic? (text : List Char) : Option (List Char × List Char) :=
  match closing? '"' text with
  | some closed => some closed
  | none =>
      match text with
      | [] => none
      | c :: rest =>
          if c == '\\' then
            match _hcontinued : continued? rest with
            | some behind => readLongBasic? behind
            | none =>
                match _hescape : escape? rest with
                | none => none
                | some (meant, behind) => (readLongBasic? behind).map (consChar meant)
          else if isVisible c then (readLongBasic? rest).map (consChar c)
          else
            match _hend : lineEnd? (c :: rest) with
            | none => none
            | some behind => (readLongBasic? behind).map (consChar '\n')
termination_by text.length
decreasing_by
  · exact Nat.lt_succ_of_lt (length_lt_of_continued? _hcontinued)
  · exact Nat.lt_succ_of_lt (length_lt_of_escape? _hescape)
  · simp
  · exact length_lt_of_lineEnd? _hend

/-- Takes a text in three single quotes, behind the opening ones. -/
def readLongLiteral? (text : List Char) : Option (List Char × List Char) :=
  match closing? '\'' text with
  | some closed => some closed
  | none =>
      match text with
      | [] => none
      | c :: rest =>
          if isVisible c then (readLongLiteral? rest).map (consChar c)
          else
            match _hend : lineEnd? (c :: rest) with
            | none => none
            | some behind => (readLongLiteral? behind).map (consChar '\n')
termination_by text.length
decreasing_by
  · simp
  · exact length_lt_of_lineEnd? _hend

/-- The text without the line end at its front. -/
def dropLineEnd (text : List Char) : List Char := (lineEnd? text).getD text

/-- Takes a text of any form off the front of a document. -/
def readText? : List Char → Option (List Char × List Char)
  | '"' :: '"' :: '"' :: rest => readLongBasic? (dropLineEnd rest)
  | '"' :: rest => readBasic? rest
  | '\'' :: '\'' :: '\'' :: rest => readLongLiteral? (dropLineEnd rest)
  | '\'' :: rest => readLiteral? rest
  | _ => none

end TextTemplate.Toml
