import TextTemplate.Proofs.Template.Fault

/-!
# Text behind a template

More text at the end of a source leaves alone what the scanner has done before it comes
to the end.  Of braces at fault it can only mend those that wait for more text: invalid
ones have their closing braces, and what lies between those is no name.

Main results:

- Theorem `Piece.read?_append_eq_none`: an invalid placeholder stays one.
- Theorem `Scan.run_append_of_rest_ne_nil`: the scanner comes to the same braces at
  fault, and goes on from there.
- Theorem `Scan.stop_le_of_run_append`: in a source that is a template, nothing is at
  fault except with its last character.
- Theorem `Template.parse_append_fault`: parse errors of a text and of a longer one.
-/

namespace TextTemplate

namespace Piece

/-! ## Placeholders in a longer text -/

theorem opens_append {text : List Char} (h : opens text = true) (more : List Char) :
    opens (text ++ more) = true := by
  rcases opens_iff.mp h with ⟨rest, rfl⟩
  rfl

/-- A placeholder that is read is also read in a longer text. -/
theorem read?_append {text rest : List Char} {piece : Piece}
    (h : read? text = some (piece, rest)) (more : List Char) :
    read? (text ++ more) = some (piece, rest ++ more) := by
  rcases read?_eq_some_iff.mp h with ⟨hpiece, rfl⟩
  rw [List.append_assoc]
  exact read?_source_append hpiece (rest ++ more)

/-- Behind its opening braces a placeholder has no closing brace before its end. -/
theorem IsPlaceholder.exists_inside {piece : Piece} (h : piece.IsPlaceholder) :
    ∃ inside, piece.source = '{' :: '{' :: inside ++ ['}', '}'] ∧ '}' ∉ inside := by
  cases piece with
  | literal text => exact h.elim
  | placeholder before name after =>
      rcases h with ⟨hbefore, -, hname, hafter⟩
      refine ⟨before ++ name ++ after, rfl, ?_⟩
      have hpadding : ¬ IsPadding '}' := by
        rw [← isPadding_iff]
        decide
      have hnameChar : ¬ IsNameChar '}' := by
        rw [← isNameChar_iff]
        decide
      simp only [List.mem_append, not_or]
      exact ⟨⟨fun hmem => hpadding (hbefore _ hmem), fun hmem => hnameChar (hname _ hmem)⟩,
        fun hmem => hpadding (hafter _ hmem)⟩

/-- Where closing braces follow, but no placeholder begins, none begins in a longer text
either: it would have to end with the first closing brace. -/
theorem read?_append_eq_none {behind : List Char} (hclose : ['}', '}'] <:+: behind)
    (hread : read? ('{' :: '{' :: behind) = none) (more : List Char) :
    read? ('{' :: '{' :: behind ++ more) = none := by
  rw [read?_eq_none_iff] at hread ⊢
  intro piece rest hpiece htext
  rcases hpiece.exists_inside with ⟨inside, hsource, hinside⟩
  rcases hclose with ⟨front, back, rfl⟩
  have hbehind : front ++ ['}', '}'] ++ back ++ more = inside ++ ['}', '}'] ++ rest := by
    rw [hsource] at htext
    simpa using htext
  -- A brace stands behind `front`, so that `inside` ends there at the latest.
  have hle : inside.length ≤ front.length := by
    by_contra hlt
    have hbrace : (inside ++ (['}', '}'] ++ rest))[front.length]? = some '}' := by
      rw [← List.append_assoc, ← hbehind]
      simp
    rw [List.getElem?_append_left (by omega)] at hbrace
    exact hinside (List.mem_of_getElem? hbrace)
  have hwhole : inside ++ ['}', '}'] <+: front ++ ['}', '}'] ++ back ++ more :=
    ⟨rest, hbehind.symm⟩
  have hprefix : inside ++ ['}', '}'] <+: front ++ ['}', '}'] ++ back := by
    refine List.prefix_of_prefix_length_le hwhole (List.prefix_append _ more) ?_
    simp only [List.length_append]
    omega
  rcases hprefix with ⟨last, hlast⟩
  apply hread piece last hpiece
  rw [hsource, ← hlast]
  simp

/-- What may be cut off in front of opening braces may be cut off in front of any. -/
theorem IsCutBefore.of_opens {rest other : List Char} {pieces : List Piece}
    (h : IsCutBefore rest pieces) (hrest : rest ≠ []) (hother : opens other = true) :
    IsCutBefore other pieces where
  wellFormed := h.wellFormed
  separated := h.separated
  meets := by
    intro piece hpiece
    have hmeets := h.meets piece hpiece
    cases piece with
    | placeholder before name after => trivial
    | literal text => exact Or.inr ⟨hother, (hmeets.resolve_left hrest).2⟩

end Piece

namespace Scan

/-! ## The scanner on a longer text -/

/-- In a longer text the scanner comes to the same braces at fault, and goes on there. -/
theorem run_append_of_rest_ne_nil {text : List Char} (h : (run text).rest ≠ [])
    (more : List Char) :
    run (text ++ more) =
      ⟨(run text).pieces ++ (run ((run text).rest ++ more)).pieces,
        (run ((run text).rest ++ more)).rest⟩ := by
  rcases isCutBefore_run text with ⟨hcut, hend⟩
  have hopens := Piece.opens_append (hend.resolve_left h).1 more
  have hsource := source_run text
  rw [source] at hsource
  rw [← run_append (hcut.of_opens h hopens), ← List.append_assoc, hsource]

/-- If a text can be cut as a whole, braces at fault in a longer one do not stand in it;
only the first one of them may be its last character. -/
theorem stop_le_of_run_append {text more : List Char} (h : (run text).rest = [])
    (hmore : (run (text ++ more)).rest ≠ []) :
    Text.byteLength text ≤
      Text.byteLength ((run (text ++ more)).pieces.flatMap Piece.source) + 1 := by
  rcases isCutBefore_run (text ++ more) with ⟨hcut, hend⟩
  have hsource := source_run (text ++ more)
  rw [source] at hsource
  generalize run (text ++ more) = scan at *
  rcases hend.resolve_left hmore with ⟨hopens, hread⟩
  rcases Piece.opens_iff.mp hopens with ⟨behind, hbehind⟩
  rw [hbehind] at hsource hread
  by_contra hlt
  -- Both braces stand in the text, and the same pieces lie before them.
  have hwhole : scan.pieces.flatMap Piece.source ++ ['{', '{'] <+: text ++ more :=
    ⟨behind, by simpa using hsource⟩
  have hprefix : scan.pieces.flatMap Piece.source ++ ['{', '{'] <+: text := by
    refine Text.isPrefix_of_byteLength_le hwhole (List.prefix_append text more) ?_
    have hbraces : Text.byteLength ['{', '{'] = 2 := rfl
    rw [Text.byteLength_append, hbraces]
    omega
  rcases hprefix with ⟨rest, rfl⟩
  rw [List.append_assoc, List.append_assoc, List.append_cancel_left_eq] at hsource
  rw [List.append_assoc, run_append (hcut.of_opens hmore rfl)] at h
  -- Something begins there, since nothing is left of the text, but not in the longer one.
  cases hfound : Piece.read? ('{' :: '{' :: rest) with
  | none =>
      have hleft : (run ('{' :: '{' :: rest)).rest = '{' :: '{' :: rest :=
        rest_run_of_read?_eq_none rfl hfound
      exact List.cons_ne_nil _ _ (hleft.symm.trans h)
  | some found =>
      have hlonger := Piece.read?_append hfound more
      change Piece.read? (['{', '{'] ++ (rest ++ more)) = _ at hlonger
      rw [← hsource, hread] at hlonger
      contradiction

end Scan

namespace Template

/-! ## Parse errors of a longer text -/

theorem rest_run_of_parse {source : String} {template : Template}
    (h : parse source = .ok template) : (Scan.run source.toList).rest = [] := by
  rcases parse_eq_ok_iff.mp h with ⟨pieces, hcut, -⟩
  rw [Scan.run_eq_iff_isCut.mpr hcut]

/-- Nothing is passed before braces that open no placeholder. -/
theorem byteLength_run_of_read?_eq_none {text : List Char} (hopens : Piece.opens text = true)
    (hread : Piece.read? text = none) :
    Text.byteLength ((Scan.run text).pieces.flatMap Piece.source) = 0 := by
  have hlength := Scan.byteLength_run text
  rw [Scan.rest_run_of_read?_eq_none hopens hread] at hlength
  omega

/-- More text leaves an invalid placeholder where it is. -/
theorem parse_append_of_invalid {source : String} {error : ParseError}
    (h : parse source = .error error) (hinvalid : error.fault = .invalid) (more : String) :
    parse (source ++ more) = .error { error with input := source ++ more } := by
  rcases parse_eq_error_iff.mp h with ⟨hrest, rfl⟩
  have hrun := Scan.run_append_of_rest_ne_nil hrest more.toList
  rcases (Scan.isCutBefore_run source.toList).2.resolve_left hrest with ⟨hopens, hread⟩
  rw [← String.toList_append] at hrun
  generalize Scan.run source.toList = scan at *
  rcases Piece.opens_iff.mp hopens with ⟨behind, hbehind⟩
  rw [hbehind] at hread hrun hinvalid
  change faultOf ('{' :: '{' :: behind) = .invalid at hinvalid
  have hclose : ['}', '}'] <:+: behind := faultOf_eq_invalid_iff.mp hinvalid
  have hlonger := Piece.read?_append_eq_none hclose hread more.toList
  have hleft := Scan.rest_run_of_read?_eq_none rfl hlonger
  have hpassed := byteLength_run_of_read?_eq_none rfl hlonger
  have hfault : faultOf ('{' :: '{' :: behind ++ more.toList) = .invalid :=
    faultOf_eq_invalid_iff.mpr (hclose.trans (List.prefix_append behind _).isInfix)
  rw [parse_eq_error_iff, hrun]
  simp only [hleft, hfault, hbehind, hinvalid, List.flatMap_append, Text.byteLength_append, hpassed,
    Nat.add_zero]
  exact ⟨nofun, trivial⟩

/-- In a longer text nothing is at fault before the braces that were at fault. -/
theorem offset_le_of_parse_append {source more : String} {error later : ParseError}
    (h : parse source = .error error) (hlater : parse (source ++ more) = .error later) :
    error.offset ≤ later.offset := by
  rcases parse_eq_error_iff.mp h with ⟨hrest, rfl⟩
  rcases parse_eq_error_iff.mp hlater with ⟨-, rfl⟩
  rw [String.toList_append, Scan.run_append_of_rest_ne_nil hrest more.toList,
    List.flatMap_append, Text.byteLength_append]
  exact Nat.le_add_right _ _

/-- An invalid placeholder is reported in the same place whatever text is added.  Where
text is missing behind opening braces, more text makes a template of the source, or the
error of the longer source lies there or further on.  Where the source is a template, the
error of a longer one lies in the text that is added, apart from a brace at the end of the
source. -/
theorem parse_append_fault (source more : String) :
    (∀ error, parse source = .error error → error.fault = .invalid →
        parse (source ++ more) = .error { error with input := source ++ more }) ∧
      (∀ error, parse source = .error error →
        error.fault = .trailing ∨ error.fault = .unterminated →
        (∃ template, parse (source ++ more) = .ok template) ∨
          ∃ later, parse (source ++ more) = .error later ∧ error.offset ≤ later.offset) ∧
      ∀ template later, parse source = .ok template → parse (source ++ more) = .error later →
        source.utf8ByteSize ≤ later.offset + 1 := by
  refine ⟨fun error h hinvalid => parse_append_of_invalid h hinvalid more, ?_, ?_⟩
  · intro error h _
    cases hmore : parse (source ++ more) with
    | ok template => exact Or.inl ⟨template, rfl⟩
    | error later => exact Or.inr ⟨later, rfl, offset_le_of_parse_append h hmore⟩
  · intro template later h hlater
    rcases parse_eq_error_iff.mp hlater with ⟨hrest, rfl⟩
    rw [String.toList_append] at hrest ⊢
    rw [← Text.byteLength_toList]
    exact Scan.stop_le_of_run_append (rest_run_of_parse h) hrest

/-- An invalid placeholder is not mended by a valid one behind it.  Braces without an end
are mended by one, and then a later pair is at fault; and two single braces that meet are
at fault where the first one of them stands. -/
theorem parse_append_fault_braces :
    let invalid := "é\x7b\x7ba b\x7d\x7d"
    let unterminated := "é \x7b\x7b a"
    let single := "aé\x7b"
    parse (invalid ++ "\x7b\x7bc\x7d\x7d") = .error ⟨.invalid, 2, invalid ++ "\x7b\x7bc\x7d\x7d"⟩ ∧
      (∃ later, parse (unterminated ++ "\x7d\x7d\x7b\x7b") = .error later ∧ 3 ≤ later.offset) ∧
      ∃ later, parse (single ++ "\x7b") = .error later ∧
        single.utf8ByteSize = later.offset + 1 := by
  intro invalid unterminated single
  have hinvalid : parse invalid = .error ⟨.invalid, 2, invalid⟩ := by decide +kernel
  have hunterminated : parse unterminated = .error ⟨.unterminated, 3, unterminated⟩ := by
    decide +kernel
  have hsingle : parse single = .ok ⟨single, [.literal single ⟨0, 4⟩]⟩ := by decide +kernel
  refine ⟨(parse_append_fault invalid _).1 _ hinvalid rfl, ?_, ?_⟩
  · have hsecond := (parse_append_fault unterminated "\x7d\x7d\x7b\x7b").2.1
    rcases hsecond _ hunterminated (Or.inr rfl) with ⟨template, htemplate⟩ | hlater
    · have hfault : (parse (unterminated ++ "\x7d\x7d\x7b\x7b")).isOk = false := by decide +kernel
      rw [htemplate] at hfault
      contradiction
    · exact hlater
  · have hlater : parse (single ++ "\x7b") = .error ⟨.trailing, 3, single ++ "\x7b"⟩ := by
      decide +kernel
    have hle := (parse_append_fault single "\x7b").2.2 _ _ hsingle hlater
    exact ⟨_, hlater, Nat.le_antisymm hle (by decide +kernel)⟩

end Template

end TextTemplate
