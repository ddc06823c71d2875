import TextTemplate.CommandLine.Report
import TextTemplate.Proofs.Template.Fault
import TextTemplate.Proofs.Text.Lines

/-!
# The braces at fault in a report

The scanner finds braces at fault by their byte offset.  The position of a parse error
counts lines and characters up to them, and a report of the error counts characters
alone.  All three mean the same place, and two opening braces stand there.

Main results:

- Theorem `Position.exists_line_of_markerAt`: the row and the column of opening braces
  lead to them.
- Theorem `Report.markedRange_of_markerAt`: so do the characters marked in a report.
- Theorem `Report.markedRange_agrees`: what the position of a parse error and the report
  of it point at, and how the two agree on every text.
-/

namespace TextTemplate

/-! ## Opening braces -/

namespace Scan

theorem MarkerAt.isBoundary {text : List Char} {offset : Nat} (h : MarkerAt text offset) :
    Text.IsBoundary text offset := by
  rcases h with ⟨before, behind, htext, hoffset⟩
  exact ⟨before, _, htext, hoffset⟩

/-- Both braces lie in the text. -/
theorem MarkerAt.add_two_le {text : List Char} {offset : Nat} (h : MarkerAt text offset) :
    offset + 2 ≤ Text.byteLength text := by
  rcases h with ⟨before, behind, rfl, rfl⟩
  simp only [Text.byteLength_append, Text.byteLength_cons, show '{'.utf8Size = 1 from rfl]
  omega

end Scan

namespace Position

/-- In the line that the row of opening braces names, the braces stand at their column. -/
theorem exists_line_of_markerAt {source : String} {offset : Nat}
    (h : Scan.MarkerAt source.toList offset) :
    ∃ characters,
      (List.splitOn '\n' source.toList)[(ofOffset source offset).row]? = some characters ∧
      characters[(ofOffset source offset).column]? = some '{' ∧
      characters[(ofOffset source offset).column + 1]? = some '{' := by
  rcases h with ⟨before, behind, hsource, rfl⟩
  rcases Text.exists_lines before with ⟨done, opened, -, hrow, hcolumn, hlines⟩
  rcases List.exists_cons_of_ne_nil (List.splitOn_ne_nil '\n' behind) with ⟨first, rest, hfirst⟩
  -- No line ends between the braces and what comes before them.
  have hbraces : List.splitOn '\n' ('{' :: '{' :: behind) = ('{' :: '{' :: first) :: rest :=
    Text.splitOn_cons_of_ne (by decide) (Text.splitOn_cons_of_ne (by decide) hfirst)
  refine ⟨opened ++ '{' :: '{' :: first, ?_, ?_, ?_⟩
  · rw [ofOffset_of_append hsource, hsource, hlines _ _ _ hbraces, ← hrow]
    simp
  · rw [ofOffset_of_append hsource, ← hcolumn]
    simp
  · rw [ofOffset_of_append hsource, ← hcolumn]
    simp

end Position

/-! ## What is marked in a report -/

namespace Report

/-- The characters that are marked for opening braces are the braces. -/
theorem markedRange_of_markerAt {input : String} {offset : Nat}
    (h : Scan.MarkerAt input.toList offset) :
    ∃ start, markedRange input offset = (start, start + 2) ∧
      input.toList[start]? = some '{' ∧ input.toList[start + 1]? = some '{' := by
  rcases h with ⟨before, behind, hinput, rfl⟩
  refine ⟨before.length, ?_, ?_, ?_⟩
  · rw [markedRange, hinput, Text.beginningBefore_append]
  · simp [hinput]
  · simp [hinput]

/-- A parse error points at two opening braces: its offset is one between two characters
and is not moved back by its position, the row and the column lead to the braces in the
lines of the source, and the characters marked in a report are the braces.  For every
text and every offset, the first character that is marked is the one that the row and
the column lead to. -/
theorem markedRange_agrees :
    (∀ source error, Template.parse source = .error error →
        error.input = source ∧ Text.IsBoundary source.toList error.offset ∧
          error.offset + 2 ≤ source.utf8ByteSize ∧ error.position.offset = error.offset ∧
          (∃ characters,
            (List.splitOn '\n' source.toList)[error.position.row]? = some characters ∧
            characters[error.position.column]? = some '{' ∧
            characters[error.position.column + 1]? = some '{') ∧
          ∃ start, markedRange error.input error.offset = (start, start + 2) ∧
            source.toList[start]? = some '{' ∧ source.toList[start + 1]? = some '{') ∧
      ∀ input offset,
        (Position.ofOffset input offset).row < (List.splitOn '\n' input.toList).length ∧
          (markedRange input offset).1 =
            (((List.splitOn '\n' input.toList).take (Position.ofOffset input offset).row).flatMap
                (· ++ ['\n'])).length +
              (Position.ofOffset input offset).column := by
  constructor
  · intro source error h
    have hmarker : error.input = source ∧ Scan.MarkerAt source.toList error.offset := by
      rcases Template.parse_eq_error_iff.mp h with ⟨hrest, rfl⟩
      exact ⟨rfl, (Scan.isLeast_strayMarkers hrest).1.1⟩
    rcases hmarker with ⟨rfl, hmarker⟩
    have hle := hmarker.add_two_le
    refine ⟨rfl, hmarker.isBoundary, ?_, ?_, ?_, markedRange_of_markerAt hmarker⟩
    · rwa [← Text.byteLength_toList]
    · rw [ParseError.position, Position.ofOffset]
      exact Nat.min_eq_left (by omega)
    · exact Position.exists_line_of_markerAt hmarker
  · intro input offset
    exact ⟨Position.row_lt_length input offset, Position.length_beginningBefore input offset⟩

/-- In the third line, behind letters of two bytes each. -/
theorem markedRange_agrees_third_line :
    let source := "é\nx\nüß \x7b\x7ba b\x7d\x7d"
    Template.parse source = .error ⟨.invalid, 10, source⟩ ∧
      Position.ofOffset source 10 = ⟨10, 2, 3⟩ ∧ markedRange source 10 = (7, 9) ∧
      ∃ characters, (List.splitOn '\n' source.toList)[2]? = some characters ∧
        characters[3]? = some '{' ∧ characters[4]? = some '{' := by
  intro source
  have h : Template.parse source = .error ⟨.invalid, 10, source⟩ := by decide +kernel
  have hposition : Position.ofOffset source 10 = ⟨10, 2, 3⟩ := by decide +kernel
  rcases (markedRange_agrees.1 _ _ h) with ⟨-, -, -, -, hline, -⟩
  rw [ParseError.position, hposition] at hline
  exact ⟨h, hposition, by decide +kernel, hline⟩

end Report

end TextTemplate
