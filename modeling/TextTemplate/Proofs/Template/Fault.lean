import Mathlib.Order.Bounds.Defs
import TextTemplate.Proofs.Template.Parse
import TextTemplate.Proofs.Text.Blank

/-!
# Faults in a template

A template that cannot be parsed is reported with the offset of one pair of
opening braces and with what is wrong there.  Reading from the left passes over
single characters and over whole placeholders; the braces at fault are the first
ones that such a reading does not find inside a placeholder.

Main results:

- Definition `Scan.strayMarkers`: the offsets of opening braces that lie in no
  placeholder found from the left.
- Theorem `Scan.isLeast_strayMarkers`: the scanner stops at the first of them.
- Theorem `Template.message_of_parse_eq_error`: a parse error shows its template.
- Theorem `Template.parse_fault`: where a parse error points, and which fault it
  names.
-/

namespace TextTemplate

namespace Piece

theorem opens_iff_isPrefix {text : List Char} :
    opens text = true ↔ ['{', '{'] <+: text := by
  rw [opens_iff]
  constructor
  · rintro ⟨rest, rfl⟩
    exact ⟨rest, rfl⟩
  · rintro ⟨rest, rfl⟩
    exact ⟨rest, rfl⟩

/-- Two closing braces are found wherever they stand. -/
theorem hasClose_iff {text : List Char} : hasClose text = true ↔ ['}', '}'] <:+: text := by
  induction text with
  | nil => simp [hasClose]
  | cons c rest ih =>
      rw [List.infix_cons_iff, ← ih, hasClose.eq_def]
      simp only
      split
      next more =>
        simp only [true_iff]
        exact Or.inl ⟨more, rfl⟩
      next hbraces =>
        constructor
        · exact Or.inr
        · rintro (⟨more, hmore⟩ | h)
          · simp only [List.cons_append, List.nil_append, List.cons.injEq] at hmore
            exact (hbraces more hmore.1.symm hmore.2.symm).elim
          · exact h

end Piece

namespace Scan

/-! ## Reading from the left -/

/-- Reading a text from the left comes to stand between two parts of it.  A
character is passed if no two opening braces begin there, and a placeholder is
passed as a whole. -/
inductive Reads (text : List Char) : List Char → List Char → Prop
  | start : Reads text [] text
  | character {before behind : List Char} {c : Char} :
      Reads text before (c :: behind) → ¬ ['{', '{'] <+: c :: behind →
      Reads text (before ++ [c]) behind
  | placeholder {before behind : List Char} {piece : Piece} :
      Reads text before (piece.source ++ behind) → piece.IsPlaceholder →
      Reads text (before ++ piece.source) behind

/-- A placeholder found from the left takes up a range of bytes. -/
def Finds (text : List Char) (range : ByteRange) : Prop :=
  ∃ before piece behind, Reads text before (piece.source ++ behind) ∧
    Piece.IsPlaceholder piece ∧
    range = ⟨Text.byteLength before, Text.byteLength (before ++ piece.source)⟩

/-- Two opening braces begin at a byte offset. -/
def MarkerAt (text : List Char) (offset : Nat) : Prop :=
  ∃ before behind, text = before ++ '{' :: '{' :: behind ∧ Text.byteLength before = offset

/-- The offsets of opening braces that lie in no placeholder found from the left. -/
def strayMarkers (text : List Char) : Set Nat :=
  {offset | MarkerAt text offset ∧
    ∀ range, Finds text range → ¬ (range.start ≤ offset ∧ offset < range.stop)}

/-! ## The scanner reads from the left -/

/-- What has been read and what is left make up the text. -/
theorem Reads.append_eq {text before behind : List Char} (h : Reads text before behind) :
    text = before ++ behind := by
  induction h with
  | start => rfl
  | character _ _ ih => simpa using ih
  | placeholder _ _ ih => simpa using ih

/-- Text in front of a marker does not change what is left in the end. -/
theorem rest_run_splitLiteral (text : List Char) :
    (run (Piece.splitLiteral text).2).rest = (run text).rest := by
  cases text with
  | nil => rfl
  | cons c text =>
      by_cases hopens : Piece.opens (c :: text) = true
      · rw [Piece.splitLiteral_eq_self (Or.inr hopens)]
      · rw [run.eq_def (c :: text)]
        simp [hopens]

/-- A character where no braces begin does not change what is left in the end. -/
theorem rest_run_cons {c : Char} {text : List Char} (h : Piece.opens (c :: text) = false) :
    (run (c :: text)).rest = (run text).rest := by
  have hsplit : (Piece.splitLiteral (c :: text)).2 = (Piece.splitLiteral text).2 := by
    rw [Piece.splitLiteral, h]
    rfl
  rw [← rest_run_splitLiteral (c :: text), hsplit, rest_run_splitLiteral]

/-- At braces that open no placeholder the scanner leaves everything. -/
theorem run_of_read?_eq_none {text : List Char} (hopens : Piece.opens text = true)
    (hread : Piece.read? text = none) : run text = ⟨[], text⟩ := by
  cases text with
  | nil => contradiction
  | cons c text =>
      rw [run, dif_pos hopens]
      split
      next => rfl
      next piece behind hsome => rw [hsome] at hread; contradiction

theorem rest_run_of_read?_eq_none {text : List Char} (hopens : Piece.opens text = true)
    (hread : Piece.read? text = none) : (run text).rest = text := by
  rw [run_of_read?_eq_none hopens hread]

/-- Whatever has been passed, the scanner leaves the same in the end. -/
theorem Reads.rest_eq {text before behind : List Char} (h : Reads text before behind) :
    (run behind).rest = (run text).rest := by
  induction h with
  | start => rfl
  | character _ hnone ih =>
      rw [← ih, rest_run_cons]
      rw [← Piece.opens_iff_isPrefix] at hnone
      simpa using hnone
  | placeholder _ hpiece ih => rw [← ih, run_placeholder hpiece, rest_cons]

/-- The bytes in front of what the scanner leaves. -/
theorem byteLength_run (text : List Char) :
    Text.byteLength ((run text).pieces.flatMap Piece.source) +
      Text.byteLength (run text).rest = Text.byteLength text := by
  have hsource := congrArg Text.byteLength (source_run text)
  rwa [source, Text.byteLength_append] at hsource

/-- Every placeholder found from the left ends before what the scanner leaves. -/
theorem stop_le_of_finds {text : List Char} {range : ByteRange} (h : Finds text range) :
    range.stop ≤ Text.byteLength ((run text).pieces.flatMap Piece.source) := by
  rcases h with ⟨before, piece, behind, hreads, hpiece, rfl⟩
  have hpassed := Reads.placeholder hreads hpiece
  have htext := congrArg Text.byteLength hpassed.append_eq
  have hrest := hpassed.rest_eq
  have hbehind := byteLength_run behind
  have hwhole := byteLength_run text
  rw [hrest] at hbehind
  rw [Text.byteLength_append (before ++ piece.source)] at htext
  simp only
  omega

/-- Braces in front of what the scanner leaves lie in a placeholder that is found
when the reading goes on. -/
theorem Reads.exists_finds {text before behind front rest : List Char}
    (h : Reads text before behind) (hfront : text = front ++ '{' :: '{' :: rest)
    (hbefore : before <+: front)
    (hlt : Text.byteLength front < Text.byteLength ((run text).pieces.flatMap Piece.source)) :
    ∃ range, Finds text range ∧ range.start ≤ Text.byteLength front ∧
      Text.byteLength front < range.stop := by
  -- The reading goes on over what lies behind, which gets shorter.
  induction hlength : behind.length using Nat.strong_induction_on generalizing before behind with
  | _ length ih =>
    subst hlength
    have htext := h.append_eq
    have hle : Text.byteLength before ≤ Text.byteLength front := by
      rcases hbefore with ⟨more, rfl⟩
      simp
    cases behind with
    | nil =>
        have hlengths := congrArg List.length hfront
        have hprefix := hbefore.length_le
        rw [htext] at hlengths
        simp only [List.append_nil, List.length_append, List.length_cons] at hlengths
        omega
    | cons c behind =>
        by_cases hopens : Piece.opens (c :: behind) = true
        · cases hread : Piece.read? (c :: behind) with
          | none =>
              -- The scanner stops here, so the braces cannot lie further on.
              have hwhole := byteLength_run text
              rw [← h.rest_eq, rest_run_of_read?_eq_none hopens hread, htext,
                Text.byteLength_append, ← htext] at hwhole
              omega
          | some found =>
              rcases found with ⟨piece, behind'⟩
              have hshorter := Piece.length_lt_of_read? hread
              rcases Piece.read?_eq_some_iff.mp hread with ⟨hpiece, hsource⟩
              rw [hsource] at h
              have hpassed := Reads.placeholder h hpiece
              by_cases hinside :
                  Text.byteLength front < Text.byteLength (before ++ piece.source)
              · exact ⟨_, ⟨before, piece, behind', h, hpiece, rfl⟩, hle, hinside⟩
              · refine ih _ hshorter hpassed ?_ rfl
                apply Text.isPrefix_of_byteLength_le ⟨behind', hpassed.append_eq.symm⟩
                  ⟨_, hfront.symm⟩
                omega
        · -- No braces begin here, so those in question are not the next ones.
          have hnone : ¬ ['{', '{'] <+: c :: behind := by
            rwa [← Piece.opens_iff_isPrefix]
          refine ih _ (Nat.lt_succ_self _) (Reads.character h hnone) ?_ rfl
          rcases hbefore with ⟨more, rfl⟩
          rw [htext, List.append_assoc, List.append_cancel_left_eq] at hfront
          cases more with
          | nil => exact absurd ⟨rest, hfront.symm⟩ hnone
          | cons d more =>
              have hd : c = d := (List.cons.inj hfront).1
              exact ⟨more, by simp [hd]⟩

/-- The scanner stops at the first opening braces that lie in no placeholder found
from the left. -/
theorem isLeast_strayMarkers {text : List Char} (h : (run text).rest ≠ []) :
    IsLeast (strayMarkers text)
      (Text.byteLength ((run text).pieces.flatMap Piece.source)) := by
  constructor
  · refine ⟨?_, ?_⟩
    · rcases Piece.opens_iff.mp ((isCutBefore_run text).2.resolve_left h).1 with ⟨behind, hrest⟩
      refine ⟨_, behind, ?_, rfl⟩
      rw [← hrest]
      exact (source_run text).symm
    · intro range hrange hinside
      have hstop := stop_le_of_finds hrange
      omega
  · rintro offset ⟨⟨front, rest, htext, rfl⟩, hstray⟩
    by_contra hlt
    rw [Nat.not_le] at hlt
    rcases Reads.start.exists_finds htext List.nil_prefix hlt with ⟨range, hfinds, hinside⟩
    exact hstray range hfinds hinside

end Scan

namespace Template

/-! ## Parse errors -/

/-- Parsing fails exactly when the scanner leaves something, and reports that. -/
theorem parse_eq_error_iff {source : String} {error : ParseError} :
    parse source = .error error ↔
      (Scan.run source.toList).rest ≠ [] ∧
        error =
          { fault := faultOf (Scan.run source.toList).rest
            offset :=
              Text.byteLength ((Scan.run source.toList).pieces.flatMap Piece.source)
            input := source } := by
  simp only [parse]
  split
  next hrest => simp_all
  next hrest =>
    constructor
    · intro h
      exact ⟨by simpa using hrest, by simpa using h.symm⟩
    · rintro ⟨_, rfl⟩
      rfl

/-- The message of a parse error ends with the template: one with braces in it is never blank. -/
theorem message_of_parse_eq_error {source : String} {error : ParseError}
    (h : parse source = .error error) :
    error.message = error.summary ++ "\n\nInput: " ++ source := by
  rcases parse_eq_error_iff.mp h with ⟨hrest, rfl⟩
  rcases (Scan.isCutBefore_run source.toList).2.resolve_left hrest with ⟨hopens, -⟩
  rcases Piece.opens_iff.mp hopens with ⟨behind, hbehind⟩
  have hbrace : '{' ∈ source.toList := by
    rw [← Scan.source_run source.toList, Scan.source, hbehind]
    simp
  have hblank : Text.trim source.toList ≠ [] := by
    intro hnil
    have hspace := Text.trim_eq_nil_iff.mp hnil '{' hbrace
    contradiction
  rw [ParseError.message, if_neg]
  simpa using hblank

/-- The template ends right behind the braces at fault. -/
theorem faultOf_eq_trailing_iff {behind : List Char} :
    faultOf ('{' :: '{' :: behind) = .trailing ↔ behind = [] := by
  cases behind with
  | nil => simp [faultOf]
  | cons c behind => by_cases h : Piece.hasClose (c :: behind) <;> simp [faultOf, h]

theorem faultOf_eq_invalid_iff {behind : List Char} :
    faultOf ('{' :: '{' :: behind) = .invalid ↔ ['}', '}'] <:+: behind := by
  rw [← Piece.hasClose_iff]
  cases behind with
  | nil => simp [faultOf, Piece.hasClose]
  | cons c behind => by_cases h : Piece.hasClose (c :: behind) <;> simp [faultOf, h]

theorem faultOf_eq_unterminated_iff {behind : List Char} :
    faultOf ('{' :: '{' :: behind) = .unterminated ↔
      behind ≠ [] ∧ ¬ ['}', '}'] <:+: behind := by
  rw [← Piece.hasClose_iff]
  cases behind with
  | nil => simp [faultOf]
  | cons c behind => by_cases h : Piece.hasClose (c :: behind) <;> simp [faultOf, h]

/-- A parse error holds the source and points at opening braces that begin no
placeholder; what lies before them is a template.  They are the first braces
outside of all placeholders found from the left.  The fault says whether the
source ends right behind them, and if not, whether closing braces follow. -/
theorem parse_fault {source : String} {error : ParseError} (h : parse source = .error error) :
    error.input = source ∧
      ∃ before behind, source.toList = before ++ '{' :: '{' :: behind ∧
        Text.byteLength before = error.offset ∧
        (∀ piece rest, Piece.IsPlaceholder piece →
          '{' :: '{' :: behind ≠ piece.source ++ rest) ∧
        (∃ template, parse (String.ofList before) = .ok template) ∧
        IsLeast (Scan.strayMarkers source.toList) error.offset ∧
        (error.fault = .trailing ↔ error.offset + 2 = source.utf8ByteSize) ∧
        (error.fault = .unterminated ↔
          error.offset + 2 < source.utf8ByteSize ∧ ¬ ['}', '}'] <:+: behind) ∧
        (error.fault = .invalid ↔ ['}', '}'] <:+: behind) := by
  rcases parse_eq_error_iff.mp h with ⟨hrest, rfl⟩
  refine ⟨rfl, ?_⟩
  rcases Scan.isCutBefore_run source.toList with ⟨hcut, hend⟩
  rcases hend.resolve_left hrest with ⟨hopens, hread⟩
  have hleast := Scan.isLeast_strayMarkers hrest
  have hsource := Scan.source_run source.toList
  have hlength := Scan.byteLength_run source.toList
  rcases Piece.opens_iff.mp hopens with ⟨behind, hbehind⟩
  rw [Text.byteLength_toList, hbehind] at hlength
  rw [Scan.source, hbehind] at hsource
  rw [hbehind] at hread
  have hbytes : source.utf8ByteSize =
      Text.byteLength ((Scan.run source.toList).pieces.flatMap Piece.source) + 2 +
        Text.byteLength behind := by
    rw [← hlength]
    simp only [Text.byteLength_cons, show '{'.utf8Size = 1 from rfl]
    omega
  refine ⟨_, behind, hsource.symm, rfl, Piece.read?_eq_none_iff.mp hread, ?_, hleast, ?_, ?_, ?_⟩
  · refine ⟨_, parse_eq_ok_iff.mpr ⟨(Scan.run source.toList).pieces, ?_, rfl⟩⟩
    rw [String.toList_ofList]
    exact hcut.isCut
  · rw [hbehind, faultOf_eq_trailing_iff, ← Text.byteLength_eq_zero_iff, hbytes]
    simp only
    omega
  · rw [hbehind, faultOf_eq_unterminated_iff, ne_eq, ← Text.byteLength_eq_zero_iff, hbytes]
    simp only
    constructor
    · rintro ⟨hsome, hclose⟩
      exact ⟨by omega, hclose⟩
    · rintro ⟨hsome, hclose⟩
      exact ⟨by omega, hclose⟩
  · rw [hbehind, faultOf_eq_invalid_iff]

/-- Behind a placeholder, a name with a space in it is at fault. -/
theorem parse_fault_space_in_name :
    let source := "\x7b\x7ba\x7d\x7dé\x7b\x7bb c\x7d\x7d"
    parse source = .error ⟨.invalid, 7, source⟩ ∧
      IsLeast (Scan.strayMarkers source.toList) 7 := by
  intro source
  have h : parse source = .error ⟨.invalid, 7, source⟩ := by decide +kernel
  rcases parse_fault h with ⟨-, before, behind, -, -, -, -, hleast, -⟩
  exact ⟨h, hleast⟩

end Template

end TextTemplate
