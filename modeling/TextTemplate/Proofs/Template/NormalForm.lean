import TextTemplate.Proofs.Template.Parse
import TextTemplate.Proofs.Template.Rendering

/-!
# The normal form of a template

Writing a template in normal form changes nothing but the padding of its names.
The text that is written is a template again, with the same literals and names,
and writing that one changes nothing any more.

Main results:

- Theorem `Piece.IsCut.normalize`: the pieces of a cut in normal form are a cut of
  the text in normal form.
- Theorem `Segment.forall_isNormal_iff`: the pieces are in normal form exactly when
  the placeholders stand so in the source.
- Theorem `Template.parse_display`: parsing the normal form, and comparing it with
  the template and with other templates.
-/

namespace TextTemplate

/-! ## Pieces in normal form -/

namespace Piece

/-- The content of the segment of a piece. -/
def content : Piece → Segment.Content
  | literal text => .literal (String.ofList text)
  | placeholder _ name _ => .placeholder (String.ofList name)

/-- The piece with one space on either side of a name. -/
def normalize : Piece → Piece
  | literal text => literal text
  | placeholder _ name _ => placeholder [' '] name [' ']

@[simp] theorem source_normalize (piece : Piece) : piece.normalize.source = piece.normalForm := by
  cases piece with
  | literal text => rfl
  | placeholder before name after => rfl

@[simp] theorem content_normalize (piece : Piece) : piece.normalize.content = piece.content := by
  cases piece with
  | literal text => rfl
  | placeholder before name after => rfl

/-- A well-formed piece stays well formed. -/
theorem wellFormed_normalize {piece : Piece} (h : piece.IsLiteral ∨ piece.IsPlaceholder) :
    piece.normalize.IsLiteral ∨ piece.normalize.IsPlaceholder := by
  cases piece with
  | literal text => exact h
  | placeholder before name after =>
      rcases h with h | ⟨-, hne, hname, -⟩
      · exact h.elim
      · refine Or.inr ⟨?_, hne, hname, ?_⟩
        · intro c hc
          rw [List.mem_singleton.mp hc]
          exact List.mem_cons_self
        · intro c hc
          rw [List.mem_singleton.mp hc]
          exact List.mem_cons_self

/-- Pieces in their normal forms may stand behind each other if the pieces may. -/
theorem mayPrecede_normalize {piece next : Piece} (h : piece.MayPrecede next) :
    piece.normalize.MayPrecede next.normalize := by
  cases piece with
  | placeholder before name after => trivial
  | literal text =>
      cases next with
      | literal other => exact h.elim
      | placeholder before name after => exact h

/-- Placeholders that are written in the same way are the same. -/
theorem IsPlaceholder.eq_of_source_eq {piece other : Piece} (h : piece.IsPlaceholder)
    (hother : other.IsPlaceholder) (hsource : piece.source = other.source) : piece = other := by
  have hread := read?_source_append h []
  rw [hsource, read?_source_append hother []] at hread
  exact (congrArg Prod.fst (Option.some.inj hread)).symm

/-- The pieces of a cut in normal form are a cut of the text in normal form. -/
theorem IsCut.normalize {text : List Char} {pieces : List Piece} (h : IsCut text pieces) :
    IsCut (pieces.flatMap normalForm) (pieces.map Piece.normalize) where
  wellFormed := by
    intro piece hpiece
    rcases List.mem_map.mp hpiece with ⟨original, horiginal, rfl⟩
    exact wellFormed_normalize (h.wellFormed original horiginal)
  separated := by
    rw [List.isChain_map]
    exact h.separated.imp fun _ _ => mayPrecede_normalize
  source_eq := by
    rw [List.flatMap_map]
    simp only [source_normalize]

end Piece

namespace Segment

/-- A segment has the content of its piece. -/
theorem content_ofPiece (start : Nat) (piece : Piece) :
    (ofPiece start piece).content = piece.content := by
  cases piece with
  | literal text => rfl
  | placeholder before name after => rfl

/-- Segments have the contents of their pieces, in the same order. -/
theorem map_content_ofPieces (start : Nat) (pieces : List Piece) :
    (ofPieces start pieces).map content = pieces.map Piece.content := by
  induction pieces generalizing start with
  | nil => rfl
  | cons piece pieces ih => rw [ofPieces, List.map_cons, List.map_cons, content_ofPiece, ih]

/-- A segment is displayed in the normal form of its piece. -/
theorem toList_display_ofPiece (start : Nat) (piece : Piece) :
    (ofPiece start piece).display.toList = piece.normalForm := by
  cases piece with
  | literal text => exact String.toList_ofList
  | placeholder before name after =>
      simp [ofPiece, display, Piece.normalForm, Piece.source]

/-- The segments of pieces are displayed as the pieces in normal form. -/
theorem toList_join_display_ofPieces (start : Nat) (pieces : List Piece) :
    (String.join ((ofPieces start pieces).map display)).toList =
      pieces.flatMap Piece.normalForm := by
  induction pieces generalizing start with
  | nil => rfl
  | cons piece pieces ih =>
      rw [ofPieces, List.map_cons, String.join_cons, String.toList_append,
        toList_display_ofPiece, ih, List.flatMap_cons]

/-- A segment stands in normal form in the source: the slice of a placeholder has
one space on either side of the name. -/
def IsNormal (source : String) : Segment → Prop
  | literal .. => True
  | placeholder name range =>
      range.slice? source = some ("\x7b\x7b " ++ name ++ " \x7d\x7d")

/-- A piece of the source is in normal form exactly when its segment is. -/
theorem isNormal_iff_of_spells {source : String} {segment : Segment} {piece : Piece}
    (h : Spells source segment piece) (hpiece : piece.IsLiteral ∨ piece.IsPlaceholder) :
    segment.IsNormal source ↔ piece.normalize = piece := by
  cases piece with
  | literal text =>
      cases segment with
      | placeholder name range => exact h.elim
      | literal text range => simp [IsNormal, Piece.normalize]
  | placeholder before chars after =>
      cases segment with
      | literal text range => exact h.elim
      | placeholder name range =>
          rcases h with ⟨rfl, hslice⟩
          have hform : "\x7b\x7b " ++ name ++ " \x7d\x7d" =
              String.ofList (Piece.placeholder [' '] name.toList [' ']).source := by
            rw [← String.toList_inj]
            simp [Piece.source]
          rw [IsNormal, hslice, hform, Option.some.injEq, String.ofList_inj]
          constructor
          · intro hsource
            have hnormal := (Piece.wellFormed_normalize hpiece).resolve_left id
            exact (hpiece.resolve_left id).eq_of_source_eq hnormal hsource |>.symm
          · intro hnormal
            exact (congrArg Piece.source hnormal).symm

/-- The pieces are in normal form exactly when all their segments are. -/
theorem forall_isNormal_iff {source : String} {segments : List Segment} {pieces : List Piece}
    (h : List.Forall₂ (Spells source) segments pieces)
    (hpieces : ∀ piece ∈ pieces, piece.IsLiteral ∨ piece.IsPlaceholder) :
    (∀ segment ∈ segments, segment.IsNormal source) ↔ pieces.map Piece.normalize = pieces := by
  induction h with
  | nil => simp
  | cons hspells _ ih =>
      rw [List.forall_mem_cons] at hpieces
      rw [List.forall_mem_cons, isNormal_iff_of_spells hspells hpieces.1, ih hpieces.2,
        List.map_cons, List.cons.injEq]

end Segment

namespace Template

/-! ## The normal form of a template -/

/-- Parsing the normal form of a template gives its pieces in normal form. -/
theorem parse_display_of_isCut {source : String} {pieces : List Piece}
    (h : Piece.IsCut source.toList pieces) :
    parse (display ⟨source, Segment.ofPieces 0 pieces⟩) =
      .ok ⟨display ⟨source, Segment.ofPieces 0 pieces⟩,
        Segment.ofPieces 0 (pieces.map Piece.normalize)⟩ := by
  rw [parse_eq_ok_iff]
  refine ⟨_, ?_, rfl⟩
  rw [display, Segment.toList_join_display_ofPieces]
  exact h.normalize

/-- A template is in normal form when its pieces are. -/
theorem map_normalize_eq_of_display_eq {source : String} {pieces : List Piece}
    (h : Piece.IsCut source.toList pieces)
    (hdisplay : display ⟨source, Segment.ofPieces 0 pieces⟩ = source) :
    pieces.map Piece.normalize = pieces := by
  have hnormal := h.normalize
  rw [← Segment.toList_join_display_ofPieces 0] at hnormal
  change Piece.IsCut (display ⟨source, Segment.ofPieces 0 pieces⟩).toList _ at hnormal
  rw [hdisplay] at hnormal
  exact h.unique hnormal

theorem display_eq_of_map_normalize_eq {source : String} {pieces : List Piece}
    (h : Piece.IsCut source.toList pieces) (hnormal : pieces.map Piece.normalize = pieces) :
    display ⟨source, Segment.ofPieces 0 pieces⟩ = source := by
  rw [← String.toList_inj, display, Segment.toList_join_display_ofPieces]
  have hsource := h.normalize.source_eq
  rw [hnormal, h.source_eq] at hsource
  exact hsource.symm

/-- The normal form of a template parses to a template of the same contents, which
is displayed and rendered in the same way.  It is the template itself exactly when
all placeholders stand in normal form in the source.  Two templates have the same
contents exactly when they have the same normal form. -/
theorem parse_display {source : String} {template : Template}
    (h : parse source = .ok template) :
    (∃ again, parse template.display = .ok again ∧
      again.segments.map Segment.content = template.segments.map Segment.content ∧
      again.display = template.display ∧
      (∀ (κ : Type) [CustomValue κ] (parameters : ParameterSet κ) (locale : Locale),
        again.render parameters locale = template.render parameters locale) ∧
      (again = template ↔ ∀ segment ∈ template.segments, segment.IsNormal source)) ∧
    ∀ other otherSource, parse otherSource = .ok other →
      (template.segments.map Segment.content = other.segments.map Segment.content ↔
        template.display = other.display) := by
  rcases parse_eq_ok_iff.mp h with ⟨pieces, hcut, rfl⟩
  have hagain := parse_display_of_isCut hcut
  have hcontent : (Segment.ofPieces 0 (pieces.map Piece.normalize)).map Segment.content =
      (Segment.ofPieces 0 pieces).map Segment.content := by
    rw [Segment.map_content_ofPieces, Segment.map_content_ofPieces, List.map_map]
    exact List.map_congr_left fun piece _ => Piece.content_normalize piece
  constructor
  · refine ⟨_, hagain, hcontent, ?_, ?_, ?_⟩
    · exact congrArg String.join (Segment.map_display_congr hcontent)
    · intro κ _ parameters locale
      exact Segment.renderAll_congr hcontent
    · rw [Segment.forall_isNormal_iff hcut.spells hcut.wellFormed]
      constructor
      · intro hsame
        exact map_normalize_eq_of_display_eq hcut (congrArg Template.source hsame)
      · intro hnormal
        rw [hnormal, display_eq_of_map_normalize_eq hcut hnormal]
  · intro other otherSource hother
    constructor
    · intro hsame
      exact congrArg String.join (Segment.map_display_congr hsame)
    · intro hsame
      rcases parse_eq_ok_iff.mp hother with ⟨otherPieces, hotherCut, rfl⟩
      have hotherAgain := parse_display_of_isCut hotherCut
      rw [← hsame, hagain] at hotherAgain
      have hsegments := congrArg Template.segments (Except.ok.inj hotherAgain)
      have hcontents := congrArg (List.map Segment.content) hsegments
      simp only [Segment.map_content_ofPieces, List.map_map] at hcontents
      simpa [Segment.map_content_ofPieces, Function.comp_def] using hcontents

/-- A name without padding gets some in the normal form, which is another template. -/
theorem parse_display_unpadded_name :
    let source := "x\x7b\x7ba\x7d\x7d"
    let template : Template :=
      ⟨source, [.literal "x" ⟨0, 1⟩, .placeholder "a" ⟨1, 6⟩]⟩
    parse source = .ok template ∧
      ∃ again, parse template.display = .ok again ∧ again.display = "x\x7b\x7b a \x7d\x7d" ∧
        again ≠ template := by
  intro source template
  have h : parse source = .ok template := by decide +kernel
  rcases (parse_display h).1 with ⟨again, hagain, -, hdisplay, -, hsame⟩
  refine ⟨h, again, hagain, hdisplay.trans (by decide +kernel), ?_⟩
  rw [Ne, hsame]
  intro hnormal
  have hslice := hnormal (.placeholder "a" ⟨1, 6⟩) (by simp [template])
  revert hslice
  unfold Segment.IsNormal
  decide +kernel

end Template

end TextTemplate
