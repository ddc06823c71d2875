import TextTemplate.Proofs.Template.Cut
import TextTemplate.Proofs.Text.Slice

/-!
# Parsing and the grammar

A template is parsed exactly when its source has a cut, and its segments are the
pieces of that cut with the bytes that they take up.

Main results:

- Definition `Segment.Spells`: a segment is a piece at its place in the source.
- Theorem `Template.parse_eq_ok_iff`: parsing succeeds with the segments of a cut,
  and in no other way.
- Theorem `Template.parse_grammar`: the grammar of templates, the uniqueness of
  the cut and the ranges of the segments.
-/

namespace TextTemplate

/-! ## Segments of a cut -/

namespace Segment

/-- A segment is a piece at its place: the slice of the source at the range of the
segment is the text of the piece, and a placeholder has the name in that slice. -/
def Spells (source : String) : Segment → Piece → Prop
  | literal text range, .literal chars =>
      text.toList = chars ∧ range.slice? source = some text
  | placeholder name range, .placeholder before chars after =>
      name.toList = chars ∧
        range.slice? source =
          some (String.ofList (Piece.placeholder before chars after).source)
  | literal .., .placeholder .. => False
  | placeholder .., .literal _ => False

theorem range_ofPiece (start : Nat) (piece : Piece) :
    (ofPiece start piece).range = ⟨start, start + Text.byteLength piece.source⟩ := by
  cases piece with
  | literal text => rfl
  | placeholder before name after => rfl

/-- A segment made of a piece of the source spells that piece. -/
theorem spells_ofPiece {source : String} {piece : Piece} {before behind : List Char}
    (hsource : source.toList = before ++ (piece.source ++ behind)) :
    Spells source (ofPiece (Text.byteLength before) piece) piece := by
  have hslice : (ofPiece (Text.byteLength before) piece).range.slice? source =
      some (String.ofList piece.source) := by
    rw [range_ofPiece, ByteRange.slice?_eq_some_iff]
    exact ⟨before, behind, by simpa using hsource, rfl, by simp⟩
  cases piece with
  | literal text => exact ⟨String.toList_ofList, hslice⟩
  | placeholder padding name after => exact ⟨String.toList_ofList, hslice⟩

/-- The segments made of pieces that follow each other spell these pieces. -/
theorem spells_ofPieces {source : String} {pieces : List Piece} {before behind : List Char}
    (hsource : source.toList = before ++ (pieces.flatMap Piece.source ++ behind)) :
    List.Forall₂ (Spells source) (ofPieces (Text.byteLength before) pieces) pieces := by
  induction pieces generalizing before with
  | nil => exact .nil
  | cons piece pieces ih =>
      rw [List.flatMap_cons, List.append_assoc] at hsource
      have hrest : List.Forall₂ (Spells source)
          (ofPieces (Text.byteLength (before ++ piece.source)) pieces) pieces :=
        ih (by simpa using hsource)
      rw [Text.byteLength_append] at hrest
      exact .cons (spells_ofPiece hsource) hrest

/-- The ranges of the segments cover the bytes of the pieces, in order. -/
theorem cover_ofPieces {pieces : List Piece} (h : ∀ piece ∈ pieces, piece.source ≠ [])
    (start : Nat) :
    ByteRange.Cover start (start + Text.byteLength (pieces.flatMap Piece.source))
      ((ofPieces start pieces).map range) := by
  induction pieces generalizing start with
  | nil => rfl
  | cons piece pieces ih =>
      have hpos := Text.byteLength_pos (h piece List.mem_cons_self)
      have hrest := ih (fun other hother => h other (List.mem_cons_of_mem piece hother))
        (start + Text.byteLength piece.source)
      rw [List.flatMap_cons, Text.byteLength_append, ← Nat.add_assoc]
      rw [ofPieces, List.map_cons, range_ofPiece]
      exact ⟨rfl, Nat.lt_add_of_pos_right hpos, hrest⟩

end Segment

/-! ## The grammar of templates -/

/-- The pieces of a cut take up some text each. -/
theorem Piece.IsCut.source_ne_nil {text : List Char} {pieces : List Piece}
    (h : IsCut text pieces) : ∀ piece ∈ pieces, piece.source ≠ [] := by
  intro piece hpiece
  rcases h.wellFormed piece hpiece with hliteral | hplaceholder
  · cases piece with
    | literal text => exact hliteral.1
    | placeholder before name after => exact hliteral.elim
  · exact hplaceholder.source_ne_nil

/-- The segments of a cut spell its pieces. -/
theorem Piece.IsCut.spells {source : String} {pieces : List Piece}
    (h : IsCut source.toList pieces) :
    List.Forall₂ (Segment.Spells source) (Segment.ofPieces 0 pieces) pieces := by
  have hsource : source.toList = [] ++ (pieces.flatMap Piece.source ++ []) := by
    simp [h.source_eq]
  exact Segment.spells_ofPieces hsource

/-- The segments of a cut cover the source. -/
theorem Piece.IsCut.cover {source : String} {pieces : List Piece}
    (h : IsCut source.toList pieces) :
    ByteRange.Cover 0 source.utf8ByteSize ((Segment.ofPieces 0 pieces).map Segment.range) := by
  have hcover := Segment.cover_ofPieces h.source_ne_nil 0
  rw [Nat.zero_add, h.source_eq, Text.byteLength_toList] at hcover
  exact hcover

/-- A text has at most one cut. -/
theorem Piece.IsCut.unique {text : List Char} {pieces other : List Piece}
    (h : IsCut text pieces) (hother : IsCut text other) : other = pieces := by
  have hrun := Scan.run_eq_iff_isCut.mpr h
  rw [Scan.run_eq_iff_isCut.mpr hother] at hrun
  exact congrArg Scan.pieces hrun

namespace Template

/-- Parsing succeeds with the segments of a cut of the source, and in no other
way. -/
theorem parse_eq_ok_iff {source : String} {template : Template} :
    parse source = .ok template ↔
      ∃ pieces, Piece.IsCut source.toList pieces ∧
        template = ⟨source, Segment.ofPieces 0 pieces⟩ := by
  constructor
  · intro h
    simp only [parse] at h
    split at h
    next hrest =>
      refine ⟨(Scan.run source.toList).pieces, ?_, by simpa using h.symm⟩
      rw [← Scan.run_eq_iff_isCut]
      have hnil : (Scan.run source.toList).rest = [] := by simpa using hrest
      rw [← hnil]
    next => contradiction
  · rintro ⟨pieces, hcut, rfl⟩
    simp only [parse]
    rw [Scan.run_eq_iff_isCut.mpr hcut]
    rfl

/-- The grammar of templates.  Parsing succeeds exactly when the source has a cut.
The cut is the only one, the segments are its pieces in order, and their ranges
cover the source. -/
theorem parse_grammar (source : String) :
    ((∃ template, parse source = .ok template) ↔
        ∃ pieces, Piece.IsCut source.toList pieces) ∧
      ∀ pieces, Piece.IsCut source.toList pieces →
        (∀ other, Piece.IsCut source.toList other → other = pieces) ∧
          ∃ template, parse source = .ok template ∧ template.source = source ∧
            List.Forall₂ (Segment.Spells source) template.segments pieces ∧
            ByteRange.Cover 0 source.utf8ByteSize (template.segments.map Segment.range) := by
  constructor
  · constructor
    · rintro ⟨template, h⟩
      rcases parse_eq_ok_iff.mp h with ⟨pieces, hcut, -⟩
      exact ⟨pieces, hcut⟩
    · rintro ⟨pieces, hcut⟩
      exact ⟨_, parse_eq_ok_iff.mpr ⟨pieces, hcut, rfl⟩⟩
  · intro pieces hcut
    refine ⟨fun other hother => hcut.unique hother, ?_⟩
    exact ⟨_, parse_eq_ok_iff.mpr ⟨pieces, hcut, rfl⟩, rfl, hcut.spells, hcut.cover⟩

/-- A third closing brace is a literal, and characters count by their bytes. -/
theorem parse_grammar_third_brace :
    let source := "é\x7b\x7ba\x7d\x7d\x7d"
    let pieces := [Piece.literal ['é'], .placeholder [] ['a'] [], .literal ['}']]
    Piece.IsCut source.toList pieces ∧
      ∃ template, parse source = .ok template ∧
        List.Forall₂ (Segment.Spells source) template.segments pieces ∧
        template.segments.map Segment.range = [⟨0, 2⟩, ⟨2, 7⟩, ⟨7, 8⟩] := by
  intro source pieces
  have hcut : Piece.IsCut source.toList pieces := by
    rw [← Scan.run_eq_iff_isCut]
    decide +kernel
  rcases ((parse_grammar source).2 pieces hcut).2 with ⟨template, hparse, -, hspells, -⟩
  refine ⟨hcut, template, hparse, hspells, ?_⟩
  have hsegments : parse source = .ok ⟨source, Segment.ofPieces 0 pieces⟩ := by decide +kernel
  rw [hsegments] at hparse
  cases hparse
  decide +kernel

end Template

end TextTemplate
