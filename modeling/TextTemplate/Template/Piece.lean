import TextTemplate.Text.Position

/-!
# Pieces of template text

Template text is cut into literals, which are copied to the output, and
placeholders, which name a parameter.  A placeholder is two opening braces, a
name with optional padding around it, and two closing braces.  Two opening
braces never stand for themselves.

Main results:

- `Piece.read?` reads the placeholder at the front of a text.
- `Scan.run` cuts a text from the left, as far as it is well formed.
- `Scan.source_run`: the pieces and the rest put together are the text again.
-/

namespace TextTemplate

/-- A piece of template text, with everything that was written in it. -/
inductive Piece
  /-- Text that is copied to the output. -/
  | literal (text : List Char)
  /-- A name between braces, with the padding on either side of it. -/
  | placeholder (before name after : List Char)
deriving DecidableEq, Repr

namespace Piece

/-- The text of the piece as it was written. -/
def source : Piece → List Char
  | literal text => text
  | placeholder before name after => '{' :: '{' :: before ++ name ++ after ++ ['}', '}']

/-- The text of the piece in normal form: one space on either side of a name. -/
def normalForm : Piece → List Char
  | literal text => text
  | placeholder _ name _ => source (placeholder [' '] name [' '])

/-- The characters that may pad a name: space, tab, line feed, vertical tab,
form feed and carriage return. -/
def isPadding (c : Char) : Bool :=
  c == ' ' || c == '\t' || c == '\n' || c == '\x0b' || c == '\x0c' || c == '\r'

/-- The characters of a name: ASCII letters and digits, `_`, `.` and `-`. -/
def isNameChar (c : Char) : Bool :=
  c.isAlphanum || c == '_' || c == '.' || c == '-'

/-- Whether a text begins with two opening braces. -/
def opens : List Char → Bool
  | '{' :: '{' :: _ => true
  | _ => false

/-- Whether two closing braces stand somewhere in a text. -/
def hasClose : List Char → Bool
  | [] => false
  | c :: rest =>
      match c, rest with
      | '}', '}' :: _ => true
      | _, _ => hasClose rest

/-- Reads the inside of a placeholder and its closing braces: padding, a name of
at least one character, padding. -/
def readInside? (text : List Char) : Option (Piece × List Char) :=
  let before := text.takeWhile isPadding
  let named := text.dropWhile isPadding
  let name := named.takeWhile isNameChar
  let padded := named.dropWhile isNameChar
  let after := padded.takeWhile isPadding
  match padded.dropWhile isPadding with
  | '}' :: '}' :: rest =>
      if name.isEmpty then none else some (placeholder before name after, rest)
  | _ => none

/-- Reads the placeholder at the front of a text, and gives the text behind it. -/
def read? : List Char → Option (Piece × List Char)
  | '{' :: '{' :: text => readInside? text
  | _ => none

/-- The characters before the first two opening braces, and the text from there. -/
def splitLiteral : List Char → List Char × List Char
  | [] => ([], [])
  | c :: rest =>
      if opens (c :: rest) then ([], c :: rest)
      else
        let (text, behind) := splitLiteral rest
        (c :: text, behind)

/-- A placeholder that is read has a name, and stands at the front of the text. -/
theorem source_append_of_readInside? {text rest : List Char} {piece : Piece}
    (h : readInside? text = some (piece, rest)) :
    ∃ before name after, piece = placeholder before name after ∧ name ≠ [] ∧
      '{' :: '{' :: text = piece.source ++ rest := by
  dsimp only [readInside?] at h
  split at h
  next behind hbehind =>
    split at h
    · simp at h
    next hname =>
      simp only [Option.some.injEq, Prod.mk.injEq] at h
      obtain ⟨rfl, rfl⟩ := h
      refine ⟨_, _, _, rfl, by simpa using hname, ?_⟩
      have hparts : text = text.takeWhile isPadding ++
          ((text.dropWhile isPadding).takeWhile isNameChar ++
            (((text.dropWhile isPadding).dropWhile isNameChar).takeWhile isPadding ++
              '}' :: '}' :: behind)) := by
        rw [← hbehind]
        simp
      simpa [source] using hparts
  next => simp at h

/-- A placeholder that is read was written at the front of the text. -/
theorem eq_source_append_of_read? {text rest : List Char} {piece : Piece}
    (h : read? text = some (piece, rest)) : text = piece.source ++ rest := by
  unfold read? at h
  split at h
  · obtain ⟨_, _, _, _, _, hsource⟩ := source_append_of_readInside? h
    exact hsource
  · simp at h

/-- Reading a placeholder takes at least its braces off the text. -/
theorem length_lt_of_read? {text rest : List Char} {piece : Piece}
    (h : read? text = some (piece, rest)) : rest.length < text.length := by
  unfold read? at h
  split at h
  · obtain ⟨_, _, _, hpiece, _, hsource⟩ := source_append_of_readInside? h
    rw [hsource, hpiece]
    simp only [source, List.length_append, List.length_cons]
    omega
  · simp at h

/-- The characters before the braces and the text from there are the text again. -/
theorem splitLiteral_append (text : List Char) :
    (splitLiteral text).1 ++ (splitLiteral text).2 = text := by
  induction text with
  | nil => rfl
  | cons c rest ih =>
      rw [splitLiteral]
      split
      · rfl
      · simp [ih]

/-- A text that does not begin with braces loses its first character. -/
theorem length_splitLiteral_lt {c : Char} {rest : List Char} (h : opens (c :: rest) = false) :
    (splitLiteral (c :: rest)).2.length < (c :: rest).length := by
  have happend := congrArg List.length (splitLiteral_append rest)
  rw [splitLiteral]
  simp only [h, Bool.false_eq_true, if_false, List.length_cons]
  simp only [List.length_append] at happend
  omega

end Piece

/-- What cutting a text from the left gives. -/
structure Scan where
  /-- The pieces at the front, in order. -/
  pieces : List Piece
  /-- What is left: nothing, or a text that begins with two opening braces but
  with no placeholder. -/
  rest : List Char
deriving DecidableEq, Repr

namespace Scan

/-- One more piece in front. -/
def cons (piece : Piece) (scan : Scan) : Scan :=
  { scan with pieces := piece :: scan.pieces }

/-- Cuts a text into pieces, up to the first braces that open no placeholder. -/
def run (text : List Char) : Scan :=
  match text with
  | [] => ⟨[], []⟩
  | c :: rest =>
      if _hopens : Piece.opens (c :: rest) then
        match _hread : Piece.read? (c :: rest) with
        | none => ⟨[], c :: rest⟩
        | some (piece, behind) => (run behind).cons piece
      else
        (run (Piece.splitLiteral (c :: rest)).2).cons
          (.literal (Piece.splitLiteral (c :: rest)).1)
termination_by text.length
decreasing_by
  · exact Piece.length_lt_of_read? _hread
  · exact Piece.length_splitLiteral_lt (by simpa using _hopens)

/-- The text of the pieces as it was written. -/
def source (scan : Scan) : List Char :=
  scan.pieces.flatMap Piece.source ++ scan.rest

/-- The text with one more piece in front. -/
@[simp] theorem source_cons (piece : Piece) (scan : Scan) :
    (scan.cons piece).source = piece.source ++ scan.source := by
  simp [source, cons]

/-- The pieces and the rest put together are the text that was cut. -/
theorem source_run (text : List Char) : (run text).source = text := by
  fun_induction run text with
  | case1 => rfl
  | case2 c rest hopens hread => rfl
  | case3 c rest hopens piece behind hread ih =>
      rw [source_cons, ih]
      exact (Piece.eq_source_append_of_read? hread).symm
  | case4 c rest hopens ih =>
      rw [source_cons, ih]
      exact Piece.splitLiteral_append (c :: rest)

end Scan

end TextTemplate
