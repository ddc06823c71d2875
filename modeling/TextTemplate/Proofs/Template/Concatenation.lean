import Mathlib.Data.List.Infix
import TextTemplate.Proofs.Template.Parse
import TextTemplate.Proofs.Template.Rendering

/-!
# One template after another

Two texts that are templates make a template when one is put behind the other,
unless two opening braces arise where they meet.  Nothing else changes: the pieces
are those of the two texts, except that a literal at the end of the first text and
one at the beginning of the second become one literal.

Main results:

- Definition `Segment.joined`: the segments of two texts, one behind the other.
- Theorem `Piece.IsCut.append` and `Piece.IsCut.append_literal`: the cuts of two
  texts make a cut of the whole, without and with literals that meet.
- Theorem `Segment.renderAll_append`: segments in front are rendered first.
- Theorem `Template.parse_append`: parsing and rendering the whole.
-/

namespace TextTemplate

/-! ## Cuts of two texts -/

namespace Piece

/-- No braces arise where two texts without braces meet, unless each of them has
one there. -/
theorem not_braces_isInfix_append {text other : List Char} (htext : ¬ ['{', '{'] <:+: text)
    (hother : ¬ ['{', '{'] <:+: other)
    (hmeet : ¬ (text.getLast? = some '{' ∧ other.head? = some '{')) :
    ¬ ['{', '{'] <:+: text ++ other := by
  rw [List.infix_append_iff]
  rintro (h | h | ⟨before, behind, hbraces, hbefore, hbehind⟩)
  · exact htext h
  · exact hother h
  · -- The braces are cut before, between or behind them.
    rcases before with _ | ⟨c, _ | ⟨d, before⟩⟩
    · obtain rfl : behind = ['{', '{'] := by simpa using hbraces.symm
      exact hother hbehind.isInfix
    · simp only [List.cons_append, List.nil_append, List.cons.injEq] at hbraces
      rcases hbraces with ⟨rfl, rfl⟩
      rcases hbefore with ⟨front, rfl⟩
      rcases hbehind with ⟨rest, rfl⟩
      exact hmeet (by simp)
    · have hlength := congrArg List.length hbraces
      obtain rfl : behind = [] := by
        rw [← List.length_eq_zero_iff]
        simp only [List.length_cons, List.length_nil, List.length_append] at hlength
        omega
      rw [List.append_nil] at hbraces
      rw [← hbraces] at hbefore
      exact htext hbefore.isInfix

theorem IsLiteral.append {text other : List Char} (htext : (literal text).IsLiteral)
    (hother : (literal other).IsLiteral)
    (hmeet : ¬ (text.getLast? = some '{' ∧ other.head? = some '{')) :
    (literal (text ++ other)).IsLiteral :=
  ⟨List.append_ne_nil_of_left_ne_nil htext.1 other,
    not_braces_isInfix_append htext.2 hother.2 hmeet⟩

/-- The cuts of two texts make a cut of the whole, if the last piece of the first
may stand before the first piece of the second. -/
theorem IsCut.append {text other : List Char} {pieces others : List Piece}
    (h : IsCut text pieces) (hother : IsCut other others)
    (hmeet : ∀ last ∈ pieces.getLast?, ∀ next ∈ others.head?, last.MayPrecede next) :
    IsCut (text ++ other) (pieces ++ others) where
  wellFormed := by
    intro piece hpiece
    rcases List.mem_append.mp hpiece with hpiece | hpiece
    · exact h.wellFormed piece hpiece
    · exact hother.wellFormed piece hpiece
  separated := List.isChain_append.mpr ⟨h.separated, hother.separated, hmeet⟩
  source_eq := by rw [List.flatMap_append, h.source_eq, hother.source_eq]

/-- A literal may stand where a shorter one does, if it ends in the same way. -/
theorem mayPrecede_literal_append {text other : List Char} {next : Piece} (hother : other ≠ [])
    (h : (literal other).MayPrecede next) : (literal (text ++ other)).MayPrecede next := by
  cases next with
  | literal more => exact h.elim
  | placeholder before name after =>
      rw [MayPrecede, List.getLast?_append_of_ne_nil text hother]
      exact h

/-- Literals at the end of one text and at the beginning of the other become one. -/
theorem IsCut.append_literal {text other front back : List Char} {pieces others : List Piece}
    (h : IsCut text (pieces ++ [literal front])) (hother : IsCut other (literal back :: others))
    (hmeet : ¬ (front.getLast? = some '{' ∧ back.head? = some '{')) :
    IsCut (text ++ other) (pieces ++ literal (front ++ back) :: others) where
  wellFormed := by
    have hfront := (h.wellFormed (literal front) (by simp)).resolve_right id
    have hback := (hother.wellFormed (literal back) (by simp)).resolve_right id
    intro piece hpiece
    rcases List.mem_append.mp hpiece with hpiece | hpiece
    · exact h.wellFormed piece (List.mem_append_left _ hpiece)
    · rcases List.mem_cons.mp hpiece with rfl | hpiece
      · exact Or.inl (hfront.append hback hmeet)
      · exact hother.wellFormed piece (List.mem_cons_of_mem _ hpiece)
  separated := by
    have hback := (hother.wellFormed (literal back) (by simp)).resolve_right id
    rcases List.isChain_append.mp h.separated with ⟨hpieces, -, hlast⟩
    rcases List.isChain_cons.mp hother.separated with ⟨hnext, hothers⟩
    refine List.isChain_append.mpr ⟨hpieces, List.isChain_cons.mpr ⟨?_, hothers⟩, ?_⟩
    · intro next hmem
      exact mayPrecede_literal_append hback.1 (hnext next hmem)
    · intro last hmem next hfirst
      obtain rfl : literal (front ++ back) = next := by simpa using hfirst
      -- What stands before a literal is a placeholder, whatever the literal is.
      have hprecede := hlast last hmem (literal front) rfl
      cases last with
      | literal more => exact hprecede.elim
      | placeholder before name after => trivial
  source_eq := by
    rw [← h.source_eq, ← hother.source_eq]
    simp [source]

/-- Where two cuts meet there are two literals, or a piece that may stand before the
next one. -/
theorem IsCut.meet_cases {text other : List Char} {pieces others : List Piece}
    (h : IsCut text pieces) (hother : IsCut other others)
    (hmeet : ¬ (text.getLast? = some '{' ∧ other.head? = some '{')) :
    (∃ before front back behind, pieces = before ++ [literal front] ∧
        others = literal back :: behind ∧ ¬ (front.getLast? = some '{' ∧ back.head? = some '{')) ∨
      ∀ last ∈ pieces.getLast?, ∀ next ∈ others.head?, last.MayPrecede next := by
  rcases List.eq_nil_or_concat' pieces with rfl | ⟨before, last, rfl⟩
  · exact Or.inr (by simp)
  cases last with
  | placeholder padding name after =>
      refine Or.inr ?_
      intro last hlast next _
      obtain rfl : placeholder padding name after = last := by simpa using hlast
      trivial
  | literal front =>
      have hfront := (h.wellFormed (literal front) (by simp)).resolve_right id
      have htext : text.getLast? = front.getLast? := by
        rw [← h.source_eq, List.flatMap_append, List.flatMap_singleton]
        exact List.getLast?_append_of_ne_nil _ hfront.1
      rw [htext] at hmeet
      cases others with
      | nil => exact Or.inr (by simp)
      | cons next behind =>
          cases next with
          | literal back =>
              have hback := (hother.wellFormed (literal back) (by simp)).resolve_right id
              have hhead : other.head? = back.head? := by
                rw [← hother.source_eq, List.flatMap_cons]
                exact List.head?_append_of_ne_nil _ hback.1
              rw [hhead] at hmeet
              exact Or.inl ⟨before, front, back, behind, rfl, rfl, hmeet⟩
          | placeholder padding name after =>
              have hhead : other.head? = some '{' := by
                rw [← hother.source_eq]
                rfl
              refine Or.inr ?_
              intro last hlast next hnext
              obtain rfl : literal front = last := by simpa using hlast
              obtain rfl : placeholder padding name after = next := by simpa using hnext
              intro hbrace
              exact hmeet ⟨hbrace, hhead⟩

end Piece

/-! ## Segments of two texts -/

namespace Segment

/-- The segment `offset` bytes further on. -/
def shift (offset : Nat) : Segment → Segment
  | literal text range => literal text ⟨range.start + offset, range.stop + offset⟩
  | placeholder name range => placeholder name ⟨range.start + offset, range.stop + offset⟩

/-- Segments one behind the other.  A literal at the end of the first ones and one
at the beginning of the others become one literal, with both texts and ranges. -/
def joined (segments others : List Segment) : List Segment :=
  match segments.getLast?, others with
  | some (literal text range), literal other otherRange :: rest =>
      segments.dropLast ++ literal (text ++ other) ⟨range.start, otherRange.stop⟩ :: rest
  | _, _ => segments ++ others

/-- Texts that meet become one segment. -/
theorem joined_literal (segments others : List Segment) (text other : String)
    (range otherRange : ByteRange) :
    joined (segments ++ [literal text range]) (literal other otherRange :: others) =
      segments ++ literal (text ++ other) ⟨range.start, otherRange.stop⟩ :: others := by
  simp only [joined, List.getLast?_concat, List.dropLast_concat]

/-- Pieces that come later begin where those in front end. -/
theorem ofPieces_append (start : Nat) (pieces others : List Piece) :
    ofPieces start (pieces ++ others) =
      ofPieces start pieces ++
        ofPieces (start + Text.byteLength (pieces.flatMap Piece.source)) others := by
  induction pieces generalizing start with
  | nil => rfl
  | cons piece pieces ih =>
      rw [List.cons_append, ofPieces, ofPieces, ih, List.flatMap_cons, Text.byteLength_append,
        ← Nat.add_assoc, List.cons_append]

/-- A segment that is shifted is that of its piece at the new place. -/
theorem shift_ofPiece (offset start : Nat) (piece : Piece) :
    (ofPiece start piece).shift offset = ofPiece (start + offset) piece := by
  cases piece with
  | literal text => simp only [ofPiece, shift, Nat.add_right_comm]
  | placeholder before name after => simp only [ofPiece, shift, Nat.add_right_comm]

theorem map_shift_ofPieces (offset start : Nat) (pieces : List Piece) :
    (ofPieces start pieces).map (shift offset) = ofPieces (start + offset) pieces := by
  induction pieces generalizing start with
  | nil => rfl
  | cons piece pieces ih =>
      rw [ofPieces, List.map_cons, shift_ofPiece, ih, ofPieces, Nat.add_right_comm]

/-- Pieces that may stand next to each other give segments that are not joined. -/
theorem joined_ofPieces {pieces others : List Piece} (start behind : Nat)
    (h : ∀ last ∈ pieces.getLast?, ∀ next ∈ others.head?, last.MayPrecede next) :
    joined (ofPieces start pieces) (ofPieces behind others) =
      ofPieces start pieces ++ ofPieces behind others := by
  rcases List.eq_nil_or_concat' pieces with rfl | ⟨before, last, rfl⟩
  · rfl
  · rw [ofPieces_append, ofPieces, ofPieces]
    unfold joined
    rw [List.getLast?_concat]
    cases last with
    | placeholder padding name after => rfl
    | literal front =>
        cases others with
        | nil => rfl
        | cons next others =>
            cases next with
            | placeholder padding name after => rfl
            | literal back => exact (h (.literal front) (by simp) (.literal back) rfl).elim

theorem content_shift (offset : Nat) (segment : Segment) :
    (segment.shift offset).content = segment.content := by
  cases segment with
  | literal text range => rfl
  | placeholder name range => rfl

end Segment

/-- The cuts of two texts give the segments of the whole. -/
theorem Piece.IsCut.exists_joined {text other : List Char} {pieces others : List Piece}
    (h : IsCut text pieces) (hother : IsCut other others)
    (hmeet : ¬ (text.getLast? = some '{' ∧ other.head? = some '{')) :
    ∃ whole, IsCut (text ++ other) whole ∧
      Segment.ofPieces 0 whole =
        Segment.joined (Segment.ofPieces 0 pieces)
          ((Segment.ofPieces 0 others).map (Segment.shift (Text.byteLength text))) := by
  rw [Segment.map_shift_ofPieces, Nat.zero_add]
  rcases h.meet_cases hother hmeet with
    ⟨before, front, back, behind, rfl, rfl, hbrace⟩ | hprecede
  · refine ⟨_, h.append_literal hother hbrace, ?_⟩
    have hlength : Text.byteLength text =
        Text.byteLength (before.flatMap source) + Text.byteLength front := by
      rw [← h.source_eq, List.flatMap_append, List.flatMap_singleton, Text.byteLength_append]
      rfl
    simp only [Segment.ofPieces_append, Segment.ofPieces, Segment.ofPiece, source,
      Segment.joined_literal, hlength, String.ofList_append, Text.byteLength_append, Nat.zero_add,
      Nat.add_assoc]
  · refine ⟨_, h.append hother hprecede, ?_⟩
    rw [Segment.joined_ofPieces 0 _ hprecede, Segment.ofPieces_append, h.source_eq, Nat.zero_add]

namespace Segment

/-! ## Rendering -/

variable {κ : Type} [CustomValue κ] {parameters : ParameterSet κ} {locale : Locale}

/-- Segments in front are rendered first, and their error wins. -/
theorem renderAll_append (segments others : List Segment) :
    renderAll parameters locale (segments ++ others) =
      match renderAll parameters locale segments with
      | .error error => .error error
      | .ok front => (renderAll parameters locale others).map (front ++ ·) := by
  induction segments with
  | nil =>
      rw [List.nil_append, renderAll]
      cases renderAll parameters locale others <;> simp [Except.map]
  | cons segment segments ih =>
      rw [List.cons_append, renderAll_cons, renderAll_cons, ih]
      cases segment.content.render parameters locale with
      | error error => rfl
      | ok front =>
          cases renderAll parameters locale segments with
          | error error => rfl
          | ok middle =>
              cases renderAll parameters locale others with
              | error error => rfl
              | ok behind => simp [Except.map, String.append_assoc]

/-- A literal is rendered as two literals that it is made of. -/
theorem renderAll_literal_append (text other : String) (range otherRange whole : ByteRange)
    (segments : List Segment) :
    renderAll parameters locale (literal (text ++ other) whole :: segments) =
      renderAll parameters locale (literal text range :: literal other otherRange :: segments) := by
  rw [renderAll_cons, renderAll_cons, renderAll_cons]
  cases renderAll parameters locale segments with
  | error error => rfl
  | ok behind => simp [content, Content.render, Except.map, String.append_assoc]

/-- Joining segments has no influence on the result. -/
theorem renderAll_joined (segments others : List Segment) :
    renderAll parameters locale (joined segments others) =
      renderAll parameters locale (segments ++ others) := by
  unfold joined
  split
  next text range other otherRange rest hlast =>
    have hsegments : segments = segments.dropLast ++ [literal text range] :=
      (List.dropLast_append_getLast? _ hlast).symm
    rw [hsegments, List.dropLast_concat, List.append_assoc, List.singleton_append,
      renderAll_append, renderAll_append, renderAll_literal_append text other range otherRange]
  next => rfl

end Segment

namespace Template

/-- Two texts that are templates make a template, unless two opening braces arise
where they meet.  Its segments are those of the first text and those of the second
one, moved behind it, with literals that meet made one.  It is rendered to both
renderings, one behind the other, and fails for the parameter that is missing in the
first text, or else in the second one. -/
theorem parse_append {a b : String} {first second : Template} (ha : parse a = .ok first)
    (hb : parse b = .ok second)
    (hmeet : ¬ (a.toList.getLast? = some '{' ∧ b.toList.head? = some '{')) :
    ∃ whole, parse (a ++ b) = .ok whole ∧
      whole.segments = Segment.joined first.segments
        (second.segments.map (Segment.shift a.utf8ByteSize)) ∧
      ∀ (κ : Type) [CustomValue κ] (parameters : ParameterSet κ) (locale : Locale),
        (∀ front behind, first.render parameters locale = .ok front →
          second.render parameters locale = .ok behind →
          whole.render parameters locale = .ok (front ++ behind)) ∧
        (∀ error, first.render parameters locale = .error error →
          whole.render parameters locale = .error error ∧
            ∃ name, error = .missingParameter name) ∧
        ∀ front error, first.render parameters locale = .ok front →
          second.render parameters locale = .error error →
          whole.render parameters locale = .error error ∧
            ∃ name, error = .missingParameter name := by
  rcases parse_eq_ok_iff.mp ha with ⟨pieces, hpieces, rfl⟩
  rcases parse_eq_ok_iff.mp hb with ⟨others, hothers, rfl⟩
  rcases hpieces.exists_joined hothers hmeet with ⟨whole, hwhole, hsegments⟩
  rw [← String.toList_append] at hwhole
  rw [Text.byteLength_toList] at hsegments
  refine ⟨_, parse_eq_ok_iff.mpr ⟨whole, hwhole, rfl⟩, hsegments, ?_⟩
  intro κ _ parameters locale
  have hshift : Segment.renderAll parameters locale
      ((Segment.ofPieces 0 others).map (Segment.shift a.utf8ByteSize)) =
        Segment.renderAll parameters locale (Segment.ofPieces 0 others) := by
    apply Segment.renderAll_congr
    rw [List.map_map]
    exact List.map_congr_left fun segment _ => Segment.content_shift _ segment
  have hrender : render ⟨a ++ b, Segment.ofPieces 0 whole⟩ parameters locale =
      match render ⟨a, Segment.ofPieces 0 pieces⟩ parameters locale with
      | .error error => .error error
      | .ok front =>
          (render ⟨b, Segment.ofPieces 0 others⟩ parameters locale).map (front ++ ·) := by
    rw [render, hsegments, Segment.renderAll_joined, Segment.renderAll_append, hshift]
    rfl
  refine ⟨?_, ?_, ?_⟩
  · intro front behind hfirst hsecond
    rw [hrender, hfirst, hsecond]
    rfl
  · intro error hfirst
    rw [hrender, hfirst]
    exact ⟨rfl, Segment.exists_missing_of_renderAll hfirst⟩
  · intro front error hfirst hsecond
    rw [hrender, hfirst, hsecond]
    exact ⟨rfl, Segment.exists_missing_of_renderAll hsecond⟩

/-- A brace at the end of the first text alone does no harm: the literals become one,
and the placeholder moves by the bytes of the first text. -/
theorem parse_append_single_brace :
    let first : Template := ⟨"é\x7b", [.literal "é\x7b" ⟨0, 3⟩]⟩
    let second : Template :=
      ⟨"y\x7b\x7bn\x7d\x7d", [.literal "y" ⟨0, 1⟩, .placeholder "n" ⟨1, 6⟩]⟩
    let parameters : ParameterSet Empty := ParameterSet.empty.addText "n" "\x7b"
    parse first.source = .ok first ∧ parse second.source = .ok second ∧
      ¬ (first.source.toList.getLast? = some '{' ∧ second.source.toList.head? = some '{') ∧
      ∃ whole, parse (first.source ++ second.source) = .ok whole ∧
        whole.segments = [.literal "é\x7by" ⟨0, 4⟩, .placeholder "n" ⟨4, 9⟩] ∧
        whole.render parameters .root = .ok "é\x7by\x7b" := by
  intro first second parameters
  have hfirst : parse first.source = .ok first := by decide +kernel
  have hsecond : parse second.source = .ok second := by decide +kernel
  have hmeet : ¬ (first.source.toList.getLast? = some '{' ∧
      second.source.toList.head? = some '{') := by decide +kernel
  rcases parse_append hfirst hsecond hmeet with ⟨whole, hwhole, hsegments, hrender⟩
  refine ⟨hfirst, hsecond, hmeet, whole, hwhole, hsegments.trans (by decide +kernel), ?_⟩
  have hfront : first.render parameters .root = .ok "é\x7b" := by decide +kernel
  have hbehind : second.render parameters .root = .ok "y\x7b" := by decide +kernel
  exact ((hrender Empty parameters .root).1 _ _ hfront hbehind).trans (by decide +kernel)

/-- Where the braces of two literals meet, they open a placeholder. -/
example :
    (parse "\x7b").isOk ∧ (parse "\x7bx\x7d\x7d").isOk ∧
      parse ("\x7b" ++ "\x7bx\x7d\x7d") =
        .ok ⟨"\x7b\x7bx\x7d\x7d", [.placeholder "x" ⟨0, 5⟩]⟩ := by
  decide +kernel

end Template

end TextTemplate
