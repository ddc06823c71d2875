import Mathlib.Data.List.Induction
import TextTemplate.Proofs.Text.Slice

/-!
# Lines of a text

A line feed ends a line and belongs to none, so the lines of a text are what
`List.splitOn` makes of it.  The row of a place is the number of the line that the
place lies in, and its column is a place in that line.

Main results:

- Theorem `Text.exists_lines`: what lies before a place of a text is `row` whole
  lines, each with its line feed, and `column` characters of one more.
- Theorem `Position.exists_line`: the same for the position of any byte offset.
- Theorem `Position.length_beginningBefore`: rows and columns count the characters
  before a place.
-/

namespace TextTemplate

namespace Text

/-! ## Byte offsets between characters -/

/-- A byte offset does not lie inside a character, nor behind the end of the text. -/
def IsBoundary (text : List Char) (offset : Nat) : Prop :=
  ∃ before behind, text = before ++ behind ∧ byteLength before = offset

/-- Between two characters the part before an offset is the part before the cut. -/
theorem beginningBefore_append (before behind : List Char) :
    beginningBefore (before ++ behind) (byteLength before) = before := by
  induction before with
  | nil => simp
  | cons c rest ih =>
      rcases exists_byteLength_cons_eq c rest with ⟨offset, hoffset, -, hsub⟩
      rw [hoffset, List.cons_append, beginningBefore, hsub, ih]

/-! ## The column one character further on -/

/-- A line feed takes the column back to the start of a line. -/
theorem columnAfter_concat_lineFeed (before : List Char) :
    columnAfter (before ++ ['\n']) = 0 := by
  simp [columnAfter]

/-- Every other character moves the column on by one. -/
theorem columnAfter_concat {c : Char} (h : c ≠ '\n') (before : List Char) :
    columnAfter (before ++ [c]) = columnAfter before + 1 := by
  simp [columnAfter, h]

/-! ## Lines -/

/-- A line feed in front of a text puts an empty line there. -/
theorem splitOn_lineFeed_cons (text : List Char) :
    List.splitOn '\n' ('\n' :: text) = [] :: List.splitOn '\n' text := by
  rw [List.splitOn_cons_eq_if_modifyHead, if_pos (beq_self_eq_true _)]

/-- Any other character in front of a text lengthens its first line. -/
theorem splitOn_cons_of_ne {c : Char} (h : c ≠ '\n') {text first : List Char}
    {rest : List (List Char)} (htext : List.splitOn '\n' text = first :: rest) :
    List.splitOn '\n' (c :: text) = (c :: first) :: rest := by
  rw [List.splitOn_cons_eq_if_modifyHead, if_neg (by simpa using h), htext, List.modifyHead_cons]

/-- What lies before a place is whole lines, one for each line feed, and the beginning
of one more, whose length is the column.  Whatever lies behind the place, its first line
goes on where that beginning ends, and the others are lines of the whole text. -/
theorem exists_lines (before : List Char) :
    ∃ done opened, before = done.flatMap (· ++ ['\n']) ++ opened ∧
      done.length = before.count '\n' ∧ opened.length = columnAfter before ∧
      ∀ behind first rest, List.splitOn '\n' behind = first :: rest →
        List.splitOn '\n' (before ++ behind) = done ++ (opened ++ first) :: rest := by
  -- One character after the other, as a reader counts rows and columns.
  induction before using List.reverseRecOn with
  | nil => exact ⟨[], [], rfl, rfl, rfl, fun behind first rest h => h⟩
  | append_singleton before c ih =>
      rcases ih with ⟨done, opened, hbefore, hrow, hcolumn, hlines⟩
      by_cases hc : c = '\n'
      · subst hc
        refine ⟨done ++ [opened], [], ?_, ?_, ?_, ?_⟩
        · simp [← List.append_assoc, ← hbefore]
        · simp [hrow]
        · rw [columnAfter_concat_lineFeed, List.length_nil]
        · intro behind first rest hbehind
          have hnext : List.splitOn '\n' ('\n' :: behind) = [] :: first :: rest := by
            rw [splitOn_lineFeed_cons, hbehind]
          simpa using hlines _ _ _ hnext
      · refine ⟨done, opened ++ [c], ?_, ?_, ?_, ?_⟩
        · rw [← List.append_assoc, ← hbefore]
        · simp [hrow, hc]
        · rw [columnAfter_concat hc, List.length_append, hcolumn, List.length_singleton]
        · intro behind first rest hbehind
          simpa using hlines _ _ _ (splitOn_cons_of_ne hc hbehind)

end Text

/-! ## The line of a position -/

namespace Position

theorem ofOffset_of_append {source : String} {before behind : List Char}
    (h : source.toList = before ++ behind) :
    ofOffset source (Text.byteLength before) =
      { offset := Text.byteLength before
        row := before.count '\n'
        column := Text.columnAfter before } := by
  simp [ofOffset, h, Text.beginningBefore_append]

/-- A position divides a text into whole lines before it, the two parts of its own
line, and the lines after it. -/
theorem exists_line (source : String) (offset : Nat) :
    ∃ done opened first rest,
      Text.beginningBefore source.toList offset = done.flatMap (· ++ ['\n']) ++ opened ∧
        List.splitOn '\n' source.toList = done ++ (opened ++ first) :: rest ∧
        done.length = (ofOffset source offset).row ∧
        opened.length = (ofOffset source offset).column := by
  rcases Text.beginningBefore_isPrefix source.toList offset with ⟨behind, hbehind⟩
  rcases Text.exists_lines (Text.beginningBefore source.toList offset) with
    ⟨done, opened, hbefore, hrow, hcolumn, hlines⟩
  rcases List.exists_cons_of_ne_nil (List.splitOn_ne_nil '\n' behind) with ⟨first, rest, hfirst⟩
  refine ⟨done, opened, first, rest, hbefore, ?_, hrow, hcolumn⟩
  rw [← hlines behind first rest hfirst, hbehind]

theorem row_lt_length (source : String) (offset : Nat) :
    (ofOffset source offset).row < (List.splitOn '\n' source.toList).length := by
  rcases exists_line source offset with ⟨done, opened, first, rest, -, hlines, hrow, -⟩
  rw [hlines, ← hrow, List.length_append, List.length_cons]
  omega

/-- The characters before a place are those of the lines before it, with their line
feeds, and those of its own line up to its column. -/
theorem length_beginningBefore (source : String) (offset : Nat) :
    (Text.beginningBefore source.toList offset).length =
      (((List.splitOn '\n' source.toList).take (ofOffset source offset).row).flatMap
          (· ++ ['\n'])).length +
        (ofOffset source offset).column := by
  rcases exists_line source offset with ⟨done, opened, first, rest, hbefore, hlines, hrow, hcolumn⟩
  rw [hbefore, hlines, ← hrow, ← hcolumn, List.take_left, List.length_append]

end Position

end TextTemplate
