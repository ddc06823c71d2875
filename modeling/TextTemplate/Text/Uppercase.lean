import TextTemplate.Text.Uppercase.Table

/-!
# Uppercase

The full uppercase mapping of single characters.  No context is looked at, so
the uppercase form of a text is that of its characters, one after the other.

Main definitions:

- `Uppercase.ofChar` gives the one to three characters a character becomes.
- `Uppercase.ofText` maps a whole text.
-/

namespace TextTemplate.Uppercase

/-- A run covers a code point that lies on its grid. -/
def Run.covers (run : Run) (code : Nat) : Bool :=
  run.first ≤ code && code ≤ run.last && (code - run.first) % run.step == 0

/-- The image of a covered code point. -/
def Run.image (run : Run) (code : Nat) : Nat :=
  run.target + (code - run.first)

/-- The code points a code point becomes; one outside the table stays as it is. -/
def ofCode (code : Nat) : List Nat :=
  match runs.find? (·.covers code) with
  | some run => [run.image code]
  | none =>
      match expansions.lookup code with
      | some codes => codes
      | none => [code]

/-- The uppercase form of a character. -/
def ofChar (c : Char) : List Char :=
  (ofCode c.toNat).map Char.ofNat

/-- The uppercase form of a text, character by character. -/
def ofText (text : List Char) : List Char :=
  text.flatMap ofChar

/-- The empty text has no characters to map. -/
@[simp] theorem ofText_nil : ofText [] = [] := rfl

/-- Mapping a joined text joins the mapped parts. -/
theorem ofText_append (a b : List Char) : ofText (a ++ b) = ofText a ++ ofText b := by
  simp [ofText]

end TextTemplate.Uppercase
