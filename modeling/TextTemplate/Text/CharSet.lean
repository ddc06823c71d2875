/-!
# Character sets

A property of characters is given by the ranges of code points that have it.
The tables of such ranges are modules of their own; this one says what a table
means.

Main definition:

- `CharSet.contains` decides whether a character lies in one of the ranges.
-/

namespace TextTemplate

/-- A set of characters, as inclusive ranges of code points. -/
abbrev CharSet := List (Nat × Nat)

/-- A character is in the set when some range holds its code point. -/
def CharSet.contains (set : CharSet) (c : Char) : Bool :=
  set.any fun range => range.1 ≤ c.toNat && c.toNat ≤ range.2

/-- Membership is membership of the code point in some range. -/
theorem CharSet.contains_iff {set : CharSet} {c : Char} :
    set.contains c = true ↔ ∃ range ∈ set, range.1 ≤ c.toNat ∧ c.toNat ≤ range.2 := by
  simp [CharSet.contains]

end TextTemplate
