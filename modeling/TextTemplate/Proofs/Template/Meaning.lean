import TextTemplate.Proofs.Template.Concatenation

/-!
# Segments of the same meaning

Different segments may ask for the same names and be rendered alike: literals can be
cut or empty, and ranges do not count.  Segments that are written one behind the other
are read as segments of the same meaning, as long as no opening braces arise where they
meet.

Main results:

- Definition `Segment.SameMeaning`: segments that ask for the same names and are
  rendered alike.
- Definition `Segment.IsLoose`: segments that can be written one behind the other.
- Theorem `Segment.IsLoose.exists_parse`: loose segments are read as segments of the
  same meaning.
- Theorem `Segment.isLoose_ofPieces`: the segments of a template are loose.
-/

namespace TextTemplate

namespace Segment

/-! ## Segments of the same meaning -/

/-- Two lists of segments ask for the same names in the same order, and are rendered
alike whatever the parameters are. -/
structure SameMeaning (segments others : List Segment) : Prop where
  names : segments.filterMap name? = others.filterMap name?
  rendering : ∀ (κ : Type) [CustomValue κ] (parameters : ParameterSet κ) (locale : Locale),
    renderAll parameters locale segments = renderAll parameters locale others

theorem SameMeaning.trans {segments middle others : List Segment}
    (h : SameMeaning segments middle) (hother : SameMeaning middle others) :
    SameMeaning segments others where
  names := h.names.trans hother.names
  rendering := by
    intro κ _ parameters locale
    exact (h.rendering κ parameters locale).trans (hother.rendering κ parameters locale)

/-- Segments of the same meaning behind others of the same meaning. -/
theorem SameMeaning.append {segments others more otherMore : List Segment}
    (h : SameMeaning segments others) (hmore : SameMeaning more otherMore) :
    SameMeaning (segments ++ more) (others ++ otherMore) where
  names := by rw [List.filterMap_append, List.filterMap_append, h.names, hmore.names]
  rendering := by
    intro κ _ parameters locale
    rw [renderAll_append, renderAll_append, h.rendering, hmore.rendering]

theorem sameMeaning_map_shift (offset : Nat) (segments : List Segment) :
    SameMeaning (segments.map (shift offset)) segments where
  names := by
    have hname : name? ∘ shift offset = name? := by
      funext segment
      cases segment with
      | literal text range => rfl
      | placeholder name range => rfl
    rw [List.filterMap_map, hname]
  rendering := by
    intro κ _ parameters locale
    apply renderAll_congr
    rw [List.map_map]
    exact List.map_congr_left fun segment _ => content_shift offset segment

/-- Making two literals one changes no meaning. -/
theorem sameMeaning_joined (segments others : List Segment) :
    SameMeaning (joined segments others) (segments ++ others) where
  names := by
    unfold joined
    split
    next text range other otherRange rest hlast =>
      have hsegments : segments = segments.dropLast ++ [literal text range] :=
        (List.dropLast_append_getLast? _ hlast).symm
      rw [hsegments, List.dropLast_concat, List.append_assoc, List.filterMap_append,
        List.filterMap_append]
      rfl
    next => rfl
  rendering := by
    intro κ _ parameters locale
    exact renderAll_joined segments others

/-- An empty literal has no meaning. -/
theorem sameMeaning_nil_literal (range : ByteRange) :
    SameMeaning [] [literal "" range] where
  names := rfl
  rendering := by
    intro κ _ parameters locale
    rw [renderAll_cons]
    rfl

/-! ## Segments written one behind the other -/

/-- A segment that can be written into a template: a literal without two opening
braces, which may be empty, or a placeholder with a name. -/
def IsWritable : Segment → Prop
  | literal text _ => ¬ ['{', '{'] <:+: text.toList
  | placeholder name _ => name.toList ≠ [] ∧ ∀ c ∈ name.toList, Piece.IsNameChar c

/-- Segments that can be written one behind the other: only the last one may end in an
opening brace.  Literals may be empty, and may stand next to each other. -/
structure IsLoose (segments : List Segment) : Prop where
  writable : ∀ segment ∈ segments, segment.IsWritable
  separated : segments.IsChain fun segment _ => segment.display.toList.getLast? ≠ some '{'

theorem getLast?_display_placeholder (name : String) (range : ByteRange) :
    (placeholder name range).display.toList.getLast? = some '}' := by
  have hdisplay : (placeholder name range).display.toList =
      (['{', '{', ' '] ++ name.toList ++ [' ', '}']) ++ ['}'] := by
    simp [display]
  rw [hdisplay, List.getLast?_concat]

/-- What is written of one segment has a cut of the same meaning. -/
theorem IsWritable.exists_isCut {segment : Segment} (h : segment.IsWritable) :
    ∃ pieces, Piece.IsCut segment.display.toList pieces ∧
      SameMeaning (ofPieces 0 pieces) [segment] := by
  cases segment with
  | literal text range =>
      by_cases hempty : text = ""
      · subst hempty
        exact ⟨[], ⟨by simp, .nil, rfl⟩, sameMeaning_nil_literal range⟩
      · refine ⟨[.literal text.toList], ⟨?_, .singleton _, by simp [Piece.source, display]⟩, ?_⟩
        · intro piece hpiece
          rw [List.mem_singleton.mp hpiece]
          exact Or.inl ⟨by simpa using hempty, h⟩
        · refine ⟨rfl, fun κ _ parameters locale => renderAll_congr ?_⟩
          simp [ofPieces, ofPiece, content]
  | placeholder name range =>
      refine ⟨[.placeholder [' '] name.toList [' ']],
        ⟨?_, .singleton _, by simp [Piece.source, display]⟩, ?_⟩
      · intro piece hpiece
        rw [List.mem_singleton.mp hpiece]
        exact Or.inr ⟨by simp [Piece.IsPadding], h.1, h.2, by simp [Piece.IsPadding]⟩
      · refine ⟨by simp [ofPieces, ofPiece, name?], fun κ _ parameters locale => renderAll_congr ?_⟩
        simp [ofPieces, ofPiece, content]

/-- What is written of loose segments has a cut of the same meaning. -/
theorem IsLoose.exists_isCut {segments : List Segment} (h : IsLoose segments) :
    ∃ pieces, Piece.IsCut (String.join (segments.map display)).toList pieces ∧
      SameMeaning (ofPieces 0 pieces) segments := by
  induction segments with
  | nil => exact ⟨[], ⟨by simp, .nil, rfl⟩, rfl, fun κ _ parameters locale => rfl⟩
  | cons segment rest ih =>
      rcases List.forall_mem_cons.mp h.writable with ⟨hsegment, hwritable⟩
      rcases hsegment.exists_isCut with ⟨pieces, hcut, hmeaning⟩
      rcases ih ⟨hwritable, h.separated.tail⟩ with ⟨others, hothers, hrest⟩
      -- Where the first segment ends in a brace, nothing follows it.
      have hmeet : ¬ (segment.display.toList.getLast? = some '{' ∧
          (String.join (rest.map display)).toList.head? = some '{') := by
        rintro ⟨hlast, hhead⟩
        cases rest with
        | nil => simp at hhead
        | cons next rest => exact (List.isChain_cons_cons.mp h.separated).1 hlast
      rcases hcut.exists_joined hothers hmeet with ⟨whole, hwhole, hsegments⟩
      refine ⟨whole, ?_, ?_⟩
      · rwa [List.map_cons, String.join_cons, String.toList_append]
      · rw [hsegments]
        exact (sameMeaning_joined _ _).trans
          (hmeaning.append ((sameMeaning_map_shift _ _).trans hrest))

/-- Loose segments written one behind the other are read as segments of the same
meaning. -/
theorem IsLoose.exists_parse {segments : List Segment} (h : IsLoose segments) :
    ∃ template, Template.parse (String.join (segments.map display)) = .ok template ∧
      SameMeaning template.segments segments := by
  rcases h.exists_isCut with ⟨pieces, hcut, hmeaning⟩
  exact ⟨_, Template.parse_eq_ok_iff.mpr ⟨pieces, hcut, rfl⟩, hmeaning⟩

/-- The segments of a cut are loose. -/
theorem isLoose_ofPieces {pieces : List Piece}
    (hpieces : ∀ piece ∈ pieces, piece.IsLiteral ∨ piece.IsPlaceholder)
    (hseparated : pieces.IsChain Piece.MayPrecede) (start : Nat) :
    IsLoose (ofPieces start pieces) := by
  induction pieces generalizing start with
  | nil => exact ⟨by simp [ofPieces], .nil⟩
  | cons piece pieces ih =>
      rcases List.forall_mem_cons.mp hpieces with ⟨hpiece, hrest⟩
      have hloose := ih hrest hseparated.tail (start + Text.byteLength piece.source)
      constructor
      · rw [ofPieces, List.forall_mem_cons]
        refine ⟨?_, hloose.writable⟩
        cases piece with
        | literal text => simpa [ofPiece, IsWritable] using (hpiece.resolve_right id).2
        | placeholder before name after =>
            rcases hpiece.resolve_left id with ⟨-, hne, hname, -⟩
            simpa [ofPiece, IsWritable] using And.intro hne hname
      · rw [ofPieces, List.isChain_cons]
        refine ⟨?_, hloose.separated⟩
        intro next hnext
        cases piece with
        | placeholder before name after =>
            rw [ofPiece, getLast?_display_placeholder]
            decide
        | literal text =>
            -- A literal stands before a placeholder, and does not end in a brace then.
            cases pieces with
            | nil => simp [ofPieces] at hnext
            | cons other pieces =>
                have hprecede := (List.isChain_cons_cons.mp hseparated).1
                cases other with
                | literal more => exact hprecede.elim
                | placeholder before name after =>
                    simpa [ofPiece, display, Piece.MayPrecede] using hprecede

end Segment

end TextTemplate
