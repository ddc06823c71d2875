import Mathlib.Algebra.Order.Ring.Nat
import Mathlib.Data.Prod.Lex
import TextTemplate.Proofs.Text.Lines

/-!
# Byte offsets of rows and columns

The row and the column of a place are made for people to read, and still say
everything about it: the lines before its own, with their line feeds, and the
characters before it in its own line take up the bytes in front of it.

Main results:

- Definition `Text.offsetAt`: the byte offset of a row and a column.
- Theorem `Text.offsetAt_append`: it is the byte length of the part of the text
  that ends there.
- Theorem `Text.beginningBefore_inside`: an offset inside a character means the
  end of that character.
- Theorem `Position.ofOffset_invertible`: rows and columns can be turned back into
  byte offsets and are in the order of these offsets; offsets inside a character
  and behind the end mean the next place that there is.
-/

namespace TextTemplate

namespace Text

/-! ## Offsets of rows and columns -/

/-- The byte offset of a place in lines: the bytes of the lines before its own, each
with a line feed behind it, and of the characters before it in its own line. -/
def offsetAt (lines : List (List Char)) (row column : Nat) : Nat :=
  ((lines.take row).map fun line => byteLength line + 1).sum +
    byteLength ((lines.getD row []).take column)

theorem byteLength_flatMap_lineFeed (lines : List (List Char)) :
    byteLength (lines.flatMap (· ++ ['\n'])) =
      (lines.map fun line => byteLength line + 1).sum := by
  induction lines with
  | nil => rfl
  | cons line lines ih =>
      rw [List.flatMap_cons, byteLength_append, ih, byteLength_append, List.map_cons,
        List.sum_cons]
      rfl

/-- The place behind the beginning of a text lies in one of its lines, and its row and
its column lead to the byte length of that beginning. -/
theorem offsetAt_append (before behind : List Char) :
    ∃ line, (List.splitOn '\n' (before ++ behind))[before.count '\n']? = some line ∧
      columnAfter before ≤ line.length ∧
      offsetAt (List.splitOn '\n' (before ++ behind)) (before.count '\n') (columnAfter before) =
        byteLength before := by
  rcases exists_lines before with ⟨done, opened, hbefore, hrow, hcolumn, hlines⟩
  rcases List.exists_cons_of_ne_nil (List.splitOn_ne_nil '\n' behind) with ⟨first, rest, hfirst⟩
  have hline : (done ++ (opened ++ first) :: rest)[done.length]? = some (opened ++ first) := by
    simp
  rw [hlines _ _ _ hfirst, ← hrow, ← hcolumn]
  refine ⟨opened ++ first, hline, by simp, ?_⟩
  rw [offsetAt, List.take_left, List.getD_eq_getElem?_getD, hline, Option.getD_some,
    List.take_left, ← byteLength_flatMap_lineFeed, ← byteLength_append, ← hbefore]

/-! ## The order of places -/

/-- In one line the column grows with every character. -/
theorem columnAfter_append {more : List Char} (h : '\n' ∉ more) (before : List Char) :
    columnAfter (before ++ more) = columnAfter before + more.length := by
  induction more using List.reverseRecOn with
  | nil => simp
  | append_singleton more c ih =>
      rw [List.mem_append, not_or] at h
      have hc : c ≠ '\n' := by
        rintro rfl
        exact h.2 List.mem_cons_self
      rw [← List.append_assoc, columnAfter_concat hc, ih h.1, List.length_append,
        List.length_singleton, Nat.add_assoc]

/-- A place further on lies in a later row, or in the same one in a later column. -/
theorem toLex_lt_append {more : List Char} (h : more ≠ []) (before : List Char) :
    toLex (before.count '\n', columnAfter before) <
      toLex ((before ++ more).count '\n', columnAfter (before ++ more)) := by
  rw [Prod.Lex.toLex_lt_toLex, List.count_append]
  by_cases hmore : '\n' ∈ more
  · have hpos := List.count_pos_iff.mpr hmore
    exact Or.inl (by omega)
  · have hpos := List.length_pos_of_ne_nil h
    rw [columnAfter_append hmore, List.count_eq_zero_of_not_mem hmore]
    exact Or.inr ⟨rfl, by omega⟩

/-! ## Offsets that are no place between characters -/

/-- An offset behind the first byte of a character, up to its last one, counts the
whole character. -/
theorem beginningBefore_inside {before behind : List Char} {c : Char} {offset : Nat}
    (hstart : byteLength before < offset) (hstop : offset ≤ byteLength (before ++ [c])) :
    beginningBefore (before ++ c :: behind) offset = before ++ [c] := by
  induction before generalizing offset with
  | nil =>
      rw [List.nil_append, byteLength_cons, byteLength_nil, Nat.add_zero] at hstop
      cases offset with
      | zero => simp at hstart
      | succ offset =>
          rw [List.nil_append, beginningBefore, Nat.sub_eq_zero_of_le hstop, beginningBefore_zero]
          rfl
  | cons d before ih =>
      rw [byteLength_cons] at hstart
      rw [List.cons_append, byteLength_cons] at hstop
      cases offset with
      | zero => simp at hstart
      | succ offset =>
          rw [List.cons_append, beginningBefore, ih (by omega) (by omega), List.cons_append]

/-- From the end of a text on, all of it lies before an offset. -/
theorem beginningBefore_of_byteLength_le {text : List Char} {offset : Nat}
    (h : byteLength text ≤ offset) : beginningBefore text offset = text := by
  induction text generalizing offset with
  | nil => rw [beginningBefore]
  | cons c rest ih =>
      have hpos := c.utf8Size_pos
      rw [byteLength_cons] at h
      cases offset with
      | zero => omega
      | succ offset => rw [beginningBefore, ih (by omega)]

end Text

/-! ## Positions -/

namespace Position

/-- The position of a byte offset can be turned back into the offset.  Between two
characters its row is one of the lines, its column lies in that line, and both lead to
the offset; they grow with the offset.  Inside a character they are those of the end of
the character, and behind the end of the source the position is that of the end. -/
theorem ofOffset_invertible (source : String) :
    (∀ offset, Text.IsBoundary source.toList offset →
      ∃ line, (List.splitOn '\n' source.toList)[(ofOffset source offset).row]? = some line ∧
        (ofOffset source offset).column ≤ line.length ∧
        Text.offsetAt (List.splitOn '\n' source.toList) (ofOffset source offset).row
          (ofOffset source offset).column = offset) ∧
    (∀ offset later, Text.IsBoundary source.toList offset → Text.IsBoundary source.toList later →
      offset < later →
      toLex ((ofOffset source offset).row, (ofOffset source offset).column) <
        toLex ((ofOffset source later).row, (ofOffset source later).column)) ∧
    (∀ before c behind offset, source.toList = before ++ c :: behind →
      Text.byteLength before < offset → offset < Text.byteLength (before ++ [c]) →
      ofOffset source offset =
        { ofOffset source (Text.byteLength (before ++ [c])) with offset := offset }) ∧
    ∀ offset, source.utf8ByteSize < offset →
      ofOffset source offset = ofOffset source source.utf8ByteSize := by
  refine ⟨?_, ?_, ?_, ?_⟩
  · rintro offset ⟨before, behind, hsource, rfl⟩
    rw [ofOffset_of_append hsource, hsource]
    exact Text.offsetAt_append before behind
  · rintro offset later ⟨before, behind, hbefore, rfl⟩ ⟨longer, rest, hlonger, rfl⟩ hlt
    have hprefix : before <+: longer :=
      Text.isPrefix_of_byteLength_le ⟨behind, hbefore.symm⟩ ⟨rest, hlonger.symm⟩ hlt.le
    rcases hprefix with ⟨more, rfl⟩
    have hmore : more ≠ [] := by
      rintro rfl
      simp at hlt
    rw [ofOffset_of_append hbefore, ofOffset_of_append hlonger]
    exact Text.toLex_lt_append hmore before
  · intro before c behind offset hsource hstart hstop
    have hend : source.toList = (before ++ [c]) ++ behind := by simp [hsource]
    have hwithin : Text.byteLength (before ++ [c]) ≤ Text.byteLength source.toList := by
      rw [hend, Text.byteLength_append (before ++ [c])]
      omega
    rw [ofOffset_of_append hend, ofOffset, hsource,
      Text.beginningBefore_inside hstart hstop.le, ← hsource, Nat.min_eq_left (by omega)]
  · intro offset h
    rw [← Text.byteLength_toList] at h ⊢
    rw [ofOffset, ofOffset, Text.beginningBefore_of_byteLength_le h.le,
      Text.beginningBefore_of_byteLength_le le_rfl, Nat.min_eq_right h.le, Nat.min_self]

/-- Behind an empty line, before, inside and behind a character of four bytes. -/
theorem ofOffset_invertible_empty_line :
    let source := "é\n\n😀b"
    let lines := List.splitOn '\n' source.toList
    (ofOffset source 4 = ⟨4, 2, 0⟩ ∧ Text.IsBoundary source.toList 4 ∧
      Text.offsetAt lines 2 0 = 4) ∧
    (ofOffset source 8 = ⟨8, 2, 1⟩ ∧ Text.IsBoundary source.toList 8 ∧
      toLex (2, 0) < toLex (2, 1)) ∧
    (4 < 6 ∧ 6 < 8 ∧ ofOffset source 6 = ⟨6, 2, 1⟩) ∧
    (source.utf8ByteSize < 12 ∧ ofOffset source 12 = ⟨9, 2, 2⟩) := by
  intro source lines
  rcases ofOffset_invertible source with ⟨hinvert, horder, hinside, hbehind⟩
  have hfour : Text.IsBoundary source.toList 4 :=
    ⟨['é', '\n', '\n'], ['😀', 'b'], by decide, by decide⟩
  have height : Text.IsBoundary source.toList 8 :=
    ⟨['é', '\n', '\n', '😀'], ['b'], by decide, by decide⟩
  have hplace : ofOffset source 4 = ⟨4, 2, 0⟩ := by decide
  have hnext : ofOffset source 8 = ⟨8, 2, 1⟩ := by decide
  have hlast : ofOffset source source.utf8ByteSize = ⟨9, 2, 2⟩ := by decide
  have hlonger : source.utf8ByteSize < 12 := by decide
  rcases hinvert 4 hfour with ⟨-, -, -, hoffset⟩
  rw [hplace] at hoffset
  have hlex := horder 4 8 hfour height (by decide)
  rw [hplace, hnext] at hlex
  have hsix := hinside ['é', '\n', '\n'] '😀' ['b'] 6 (by decide) (by decide) (by decide)
  have hend : Text.byteLength (['é', '\n', '\n'] ++ ['😀']) = 8 := by decide
  rw [hend, hnext] at hsix
  have htwelve := hbehind 12 hlonger
  rw [hlast] at htwelve
  exact ⟨⟨hplace, hfour, hoffset⟩, ⟨hnext, height, hlex⟩, ⟨by decide, by decide, hsix⟩, hlonger,
    htwelve⟩

end Position

end TextTemplate
