import TextTemplate.Template.Cursor
import TextTemplate.Proofs.Template.Concatenation
import TextTemplate.Proofs.Template.Extension
import TextTemplate.Proofs.Text.Lines

/-!
# Safety of the scanner by byte offsets

The loop of the scanner takes every slice by a look-up that may fail, and finds the
end of a placeholder by one that may fail too.  Here it is compared with the scanner
of characters: where that one cuts off a piece, a turn of the loop finds the same
piece, and all slices that it takes exist.

Main results:

- Theorem `ByteRange.exists_slice?_iff`: which slices exist.
- Theorem `Cursor.turn?_spec`: what a turn comes to, compared with the scanner.
- Theorem `Cursor.Visits.exists_pieces`: wherever the loop comes to, it stands between
  two pieces.
- Theorem `Cursor.loop_safe`: no slice fails, the cursor moves on in every turn, and
  the loop ends with what parsing gives.
-/

namespace TextTemplate

/-! ## Slices that exist -/

/-- A range does not end before it starts, does not go past the end of a source, and
cuts none of its characters. -/
structure ByteRange.IsWithin (range : ByteRange) (source : String) : Prop where
  start_le_stop : range.start ≤ range.stop
  stop_le : range.stop ≤ source.utf8ByteSize
  start_isBoundary : Text.IsBoundary source.toList range.start
  stop_isBoundary : Text.IsBoundary source.toList range.stop

/-- No boundary lies behind the end of a source. -/
theorem Text.IsBoundary.le_utf8ByteSize {source : String} {offset : Nat}
    (h : IsBoundary source.toList offset) : offset ≤ source.utf8ByteSize := by
  rcases h with ⟨before, behind, hsource, rfl⟩
  rw [← byteLength_toList, hsource, byteLength_append]
  omega

namespace ByteRange

/-- The range of a part of the source can be sliced, and gives that part. -/
theorem slice?_of_append {source : String} {before part behind : List Char}
    (h : source.toList = before ++ (part ++ behind)) :
    slice? ⟨Text.byteLength before, Text.byteLength (before ++ part)⟩ source =
      some (String.ofList part) := by
  rw [slice?_eq_some_iff, String.toList_ofList]
  exact ⟨before, behind, h, rfl, by rw [Text.byteLength_append]⟩

/-- The same for all that lies behind the beginning of a source. -/
theorem slice?_ahead {source : String} {before ahead : List Char}
    (h : source.toList = before ++ ahead) :
    slice? ⟨Text.byteLength before, source.utf8ByteSize⟩ source =
      some (String.ofList ahead) := by
  rw [← Text.byteLength_toList, h]
  exact slice?_of_append (by rw [h, List.append_nil])

/-- A slice exists exactly for the ranges within a source. -/
theorem exists_slice?_iff {range : ByteRange} {source : String} :
    (∃ part, range.slice? source = some part) ↔ range.IsWithin source := by
  constructor
  · rintro ⟨part, hpart⟩
    rcases slice?_eq_some_iff.mp hpart with ⟨before, behind, hsource, hstart, hstop⟩
    have hboundary : Text.IsBoundary source.toList range.stop :=
      ⟨before ++ part.toList, behind, by simp [hsource], by
        rw [Text.byteLength_append, hstart, hstop]⟩
    exact ⟨by omega, hboundary.le_utf8ByteSize, ⟨before, _, hsource, hstart⟩, hboundary⟩
  · rintro ⟨hle, -, ⟨before, behind, hbefore, hstart⟩, ⟨longer, rest, hlonger, hstop⟩⟩
    have hprefix : before <+: longer := by
      apply Text.isPrefix_of_byteLength_le ⟨behind, hbefore.symm⟩ ⟨rest, hlonger.symm⟩
      rw [hstart, hstop]
      exact hle
    rcases hprefix with ⟨part, rfl⟩
    refine ⟨String.ofList part, ?_⟩
    rw [List.append_assoc] at hlonger
    have hslice := slice?_of_append hlonger
    rw [hstart, hstop] at hslice
    exact hslice

/-- The range of a part of the source lies within it. -/
theorem isWithin_of_append {source : String} {before part behind : List Char}
    (h : source.toList = before ++ (part ++ behind)) :
    IsWithin ⟨Text.byteLength before, Text.byteLength (before ++ part)⟩ source :=
  exists_slice?_iff.mp ⟨_, slice?_of_append h⟩

/-- So does the range of all that lies behind a beginning. -/
theorem isWithin_ahead {source : String} {before ahead : List Char}
    (h : source.toList = before ++ ahead) :
    IsWithin ⟨Text.byteLength before, source.utf8ByteSize⟩ source :=
  exists_slice?_iff.mp ⟨_, slice?_ahead h⟩

end ByteRange

/-! ## Opening braces and the literal in front of them -/

namespace Piece

/-- A text without braces as a literal; there is none for the empty text. -/
def literals : List Char → List Piece
  | [] => []
  | text => [literal text]

theorem flatMap_source_literals (text : List Char) : (literals text).flatMap source = text := by
  cases text with
  | nil => rfl
  | cons c text => simp [literals, source]

/-- The braces that are found stand where the text is split. -/
theorem findOpening?_eq (text : List Char) :
    findOpening? text =
      if (splitLiteral text).2 = [] then none
      else some (Text.byteLength (splitLiteral text).1) := by
  induction text with
  | nil => rfl
  | cons c rest ih =>
      rw [findOpening?, splitLiteral]
      split
      · rfl
      · rw [ih]
        split <;> rfl

/-- A placeholder has at least five bytes: its braces and one for the name. -/
theorem IsPlaceholder.five_le_byteLength {piece : Piece} (h : piece.IsPlaceholder) :
    5 ≤ Text.byteLength piece.source := by
  cases piece with
  | literal text => exact h.elim
  | placeholder before name after =>
      have hname := Text.byteLength_pos h.2.1
      simp only [source, Text.byteLength_cons, Text.byteLength_append, Text.byteLength_nil,
        show '{'.utf8Size = 1 from rfl, show '}'.utf8Size = 1 from rfl]
      omega

end Piece

/-- The scanner cuts off the text in front of the first braces. -/
theorem Scan.run_splitLiteral (text : List Char) :
    run text =
      ⟨Piece.literals (Piece.splitLiteral text).1 ++ (run (Piece.splitLiteral text).2).pieces,
        (run (Piece.splitLiteral text).2).rest⟩ := by
  cases text with
  | nil => rfl
  | cons c text =>
      by_cases hopens : Piece.opens (c :: text) = true
      · rw [Piece.splitLiteral_eq_self (Or.inr hopens)]
        rfl
      · rw [run, dif_neg hopens, Piece.splitLiteral, if_neg hopens]
        rfl

namespace Cursor

/-! ## What a turn comes to -/

/-- The braces behind some text, when the cursor stands in front of it. -/
def bracesBehind (before front : List Char) : Braces where
  front := Segment.ofPieces (Text.byteLength before) (Piece.literals front)
  marker := Text.byteLength (before ++ front)
  inside := Text.byteLength (before ++ front) + 2

theorem braces?_eq {source : String} {before front held : List Char}
    (h : source.toList = before ++ (front ++ held)) :
    braces? source (Text.byteLength before) (Text.byteLength before + Text.byteLength front) =
      some (bracesBehind before front) := by
  rw [braces?, bracesBehind, ← Text.byteLength_append]
  cases front with
  | nil =>
      rw [List.append_nil, if_pos rfl]
      rfl
  | cons c front =>
      have hpos := Text.byteLength_pos (List.cons_ne_nil c front)
      have hne : Text.byteLength (before ++ c :: front) ≠ Text.byteLength before := by
        rw [Text.byteLength_append]
        omega
      rw [if_neg hne, literal?, ByteRange.slice?_of_append h, Text.byteLength_append]
      rfl

/-- Braces that open no placeholder are given the fault that parsing names. -/
theorem inspect?_of_read?_eq_none {source : String} {braces : Braces}
    {before held : List Char} (h : source.toList = before ++ held)
    (hopens : Piece.opens held = true) (hread : Piece.read? held = none)
    (hmarker : braces.marker = Text.byteLength before)
    (hinside : braces.inside = braces.marker + 2) :
    inspect? source braces = some (.fault braces (Template.faultOf held)) := by
  rcases Piece.opens_iff.mp hopens with ⟨behind, rfl⟩
  have hbehind : source.toList = (before ++ ['{', '{']) ++ behind := by simp [h]
  have hbraces : braces.inside = Text.byteLength (before ++ ['{', '{']) := by
    rw [hinside, hmarker, Text.byteLength_append]
    rfl
  have hsize : source.utf8ByteSize = braces.inside + Text.byteLength behind := by
    rw [← Text.byteLength_toList, hbehind, Text.byteLength_append, hbraces]
  have hheld := ByteRange.slice?_ahead h
  have hrest := ByteRange.slice?_ahead hbehind
  rw [← hmarker] at hheld
  rw [← hbraces] at hrest
  rw [inspect?, hheld, hrest]
  cases behind with
  | nil => exact if_pos hsize.le
  | cons c behind =>
      have hpos := Text.byteLength_pos (List.cons_ne_nil c behind)
      rw [if_neg (by omega)]
      by_cases hclose : Piece.hasClose (c :: behind) = true
      · simp [hclose, hread, Template.faultOf]
      · simp [hclose, Template.faultOf]

/-- Braces that open a placeholder are found to do so. -/
theorem inspect?_of_placeholder {source : String} {braces : Braces}
    {before padding name after behind : List Char}
    (hpiece : (Piece.placeholder padding name after).IsPlaceholder)
    (h : source.toList = before ++ ((Piece.placeholder padding name after).source ++ behind))
    (hmarker : braces.marker = Text.byteLength before)
    (hinside : braces.inside = braces.marker + 2) :
    inspect? source braces =
      some (.next braces (String.ofList name)
        (some (Text.byteLength (Piece.placeholder padding name after).source))) := by
  have hread := Piece.read?_source_append hpiece behind
  rcases hpiece.exists_inside with ⟨inner, hinner, -⟩
  have hheld := ByteRange.slice?_ahead h
  rw [← hmarker] at hheld
  have hbehind : source.toList = (before ++ ['{', '{']) ++ (inner ++ '}' :: '}' :: behind) := by
    rw [h, hinner]
    simp
  have hbraces : braces.inside = Text.byteLength (before ++ ['{', '{']) := by
    rw [hinside, hmarker, Text.byteLength_append]
    rfl
  have hrest := ByteRange.slice?_ahead hbehind
  rw [← hbraces] at hrest
  have hclose : Piece.hasClose (inner ++ '}' :: '}' :: behind) = true :=
    Piece.hasClose_iff.mpr ⟨inner, behind, by simp⟩
  have hsize : ¬ source.utf8ByteSize ≤ braces.inside := by
    rw [← Text.byteLength_toList, hbehind, Text.byteLength_append, hbraces,
      Text.byteLength_append inner]
    have hpos := Text.byteLength_pos (List.cons_ne_nil '}' ('}' :: behind))
    omega
  rw [inspect?, if_neg hsize, hrest, hheld]
  simp [hclose, hread, Piece.matchedBytes?]

/-- What a turn comes to, by what the scanner finds in the text ahead of the cursor: a
literal and nothing else, braces that open no placeholder, or a placeholder. -/
inductive TurnsTo (before ahead : List Char) : Turn → Prop
  | last : Scan.run ahead = ⟨[.literal ahead], []⟩ →
      TurnsTo before ahead (.last (Segment.ofPiece (Text.byteLength before) (.literal ahead)))
  | fault {front held : List Char} :
      ahead = front ++ held → Piece.opens held = true →
      Scan.run ahead = ⟨Piece.literals front, held⟩ →
      TurnsTo before ahead (.fault (bracesBehind before front) (Template.faultOf held))
  | next {front padding name after behind : List Char} :
      (Piece.placeholder padding name after).IsPlaceholder →
      ahead = front ++ ((Piece.placeholder padding name after).source ++ behind) →
      Scan.run ahead =
        ⟨Piece.literals front ++ .placeholder padding name after :: (Scan.run behind).pieces,
          (Scan.run behind).rest⟩ →
      TurnsTo before ahead
        (.next (bracesBehind before front) (String.ofList name)
          (some (Text.byteLength (Piece.placeholder padding name after).source)))

/-- Where no braces are found, what is ahead is a literal. -/
theorem turn?_of_none {source : String} {before ahead : List Char}
    (h : source.toList = before ++ ahead) (hopening : Piece.findOpening? ahead = none) :
    turn? source (Text.byteLength before) =
      (literal? source ⟨Text.byteLength before, source.utf8ByteSize⟩).map .last := by
  rw [turn?, ByteRange.slice?_ahead h]
  simp [hopening]

/-- Braces that are found are inspected. -/
theorem turn?_of_some {source : String} {before ahead : List Char} {found : Nat}
    (h : source.toList = before ++ ahead) (hopening : Piece.findOpening? ahead = some found) :
    turn? source (Text.byteLength before) =
      (braces? source (Text.byteLength before) (Text.byteLength before + found)).bind
        (inspect? source) := by
  rw [turn?, ByteRange.slice?_ahead h]
  simp [hopening]

/-- All slices of a turn exist, and it comes to what the scanner finds. -/
theorem turn?_spec {source : String} {before ahead : List Char}
    (h : source.toList = before ++ ahead) (hahead : ahead ≠ []) :
    ∃ turn, turn? source (Text.byteLength before) = some turn ∧ TurnsTo before ahead turn := by
  have hopening := Piece.findOpening?_eq ahead
  have happend := Piece.splitLiteral_append ahead
  have hrun := Scan.run_splitLiteral ahead
  rcases Piece.splitLiteral_spec ahead with ⟨-, -, hheld⟩
  generalize Piece.splitLiteral ahead = parts at happend hrun hheld hopening
  rcases parts with ⟨front, held⟩
  dsimp only at happend hrun hheld hopening
  subst happend
  rcases hheld with rfl | hopens
  · -- Nothing is held back: all that is ahead is one literal.
    rw [if_pos rfl] at hopening
    have hturn := turn?_of_none h hopening
    rw [List.append_nil] at h hahead hrun ⊢
    have hsize : source.utf8ByteSize = Text.byteLength before + Text.byteLength front := by
      rw [← Text.byteLength_toList, h, Text.byteLength_append]
    rw [literal?, ByteRange.slice?_ahead h, hsize] at hturn
    refine ⟨_, hturn, .last ?_⟩
    rw [hrun]
    cases front with
    | nil => contradiction
    | cons c front => simp [Piece.literals, Scan.run]
  · have hne : held ≠ [] := by
      rintro rfl
      contradiction
    have hheld : source.toList = (before ++ front) ++ held := by rw [h, List.append_assoc]
    rw [if_neg hne] at hopening
    have hturn := turn?_of_some h hopening
    rw [braces?_eq h, Option.bind_some] at hturn
    cases hread : Piece.read? held with
    | none =>
        rw [inspect?_of_read?_eq_none hheld hopens hread rfl rfl] at hturn
        refine ⟨_, hturn, .fault rfl hopens ?_⟩
        rw [hrun, Scan.run_of_read?_eq_none hopens hread, List.append_nil]
    | some found =>
        rcases found with ⟨piece, behind⟩
        rcases Piece.read?_eq_some_iff.mp hread with ⟨hpiece, rfl⟩
        cases piece with
        | literal text => exact hpiece.elim
        | placeholder padding name after =>
            rw [inspect?_of_placeholder hpiece hheld rfl rfl] at hturn
            refine ⟨_, hturn, .next hpiece rfl ?_⟩
            rw [hrun, Scan.run_placeholder hpiece]
            rfl

theorem ne_nil_of_lt {source : String} {before ahead : List Char}
    (h : source.toList = before ++ ahead) (hlt : Text.byteLength before < source.utf8ByteSize) :
    ahead ≠ [] := by
  rintro rfl
  rw [← Text.byteLength_toList, h, List.append_nil] at hlt
  exact lt_irrefl _ hlt

theorem turnsTo_of_turn? {source : String} {before ahead : List Char} {turn : Turn}
    (h : source.toList = before ++ ahead) (hlt : Text.byteLength before < source.utf8ByteSize)
    (hturn : turn? source (Text.byteLength before) = some turn) : TurnsTo before ahead turn := by
  rcases turn?_spec h (ne_nil_of_lt h hlt) with ⟨other, hother, hturns⟩
  rw [hturn, Option.some.injEq] at hother
  rw [hother]
  exact hturns

/-! ### Slices, progress and segments of one turn -/

/-- The ranges around braces lie within the source. -/
theorem isWithin_bracesBehind {source : String} {before front held : List Char}
    (h : source.toList = before ++ (front ++ held)) (hopens : Piece.opens held = true) :
    ∀ range ∈ (bracesBehind before front).ranges source.utf8ByteSize, range.IsWithin source := by
  rcases Piece.opens_iff.mp hopens with ⟨behind, rfl⟩
  intro range hrange
  simp only [Braces.ranges, bracesBehind, List.mem_append, List.mem_cons, List.not_mem_nil,
    or_false] at hrange
  rcases hrange with hfront | rfl | rfl
  · cases front with
    | nil => simp [Piece.literals, Segment.ofPieces] at hfront
    | cons c front =>
        have hrange : range = ⟨Text.byteLength before, Text.byteLength (before ++ c :: front)⟩ := by
          simpa [Piece.literals, Segment.ofPieces, Segment.ofPiece, Segment.range] using hfront
        rw [hrange]
        exact ByteRange.isWithin_of_append h
  · exact ByteRange.isWithin_ahead (by rw [h, List.append_assoc])
  · have hbraces : Text.byteLength (before ++ front) + 2 =
        Text.byteLength (before ++ front ++ ['{', '{']) := by
      rw [Text.byteLength_append (before ++ front)]
      rfl
    have hinside : source.toList = (before ++ front ++ ['{', '{']) ++ behind := by simp [h]
    rw [hbraces]
    exact ByteRange.isWithin_ahead hinside

/-- The ranges that a turn uses lie within the source. -/
theorem TurnsTo.isWithin {source : String} {before ahead : List Char} {turn : Turn}
    (h : TurnsTo before ahead turn) (hsource : source.toList = before ++ ahead) :
    ∀ range ∈ turn.ranges source.utf8ByteSize, range.IsWithin source := by
  cases h with
  | last =>
      intro range hrange
      rw [Turn.ranges, List.mem_singleton, Segment.range_ofPiece, Piece.source,
        ← Text.byteLength_append] at hrange
      rw [hrange]
      exact ByteRange.isWithin_of_append (by rw [hsource, List.append_nil])
  | fault hahead hopens =>
      rw [hahead] at hsource
      exact isWithin_bracesBehind hsource hopens
  | @next front padding name after behind hpiece hahead =>
      rw [hahead] at hsource
      intro range hrange
      rw [Turn.ranges, List.mem_cons] at hrange
      rcases hrange with rfl | hrange
      · rw [Braces.stop, bracesBehind, Option.getD_some, ← Text.byteLength_append]
        exact ByteRange.isWithin_of_append (by rw [hsource, List.append_assoc])
      · exact isWithin_bracesBehind hsource (hpiece.opens_source_append behind) range hrange

/-- A turn that finds a placeholder knows its length, and moves the cursor on by five bytes
or more. -/
theorem TurnsTo.progress {before ahead : List Char} {braces : Braces} {name : String}
    {matched : Option Nat} (h : TurnsTo before ahead (.next braces name matched)) :
    (∃ bytes, matched = some bytes ∧ 5 ≤ bytes) ∧
      Text.byteLength before + 5 ≤ braces.stop matched := by
  cases h with
  | next hpiece =>
      have hfive := hpiece.five_le_byteLength
      refine ⟨⟨_, rfl, hfive⟩, ?_⟩
      simp only [Braces.stop, bracesBehind, Option.getD_some, Text.byteLength_append]
      omega

end Cursor

/-! ## Counting segments -/

namespace Segment

/-- The number of placeholders among segments. -/
def placeholderCount (segments : List Segment) : Nat := segments.countP (·.name?.isSome)

/-- The number of literals among segments. -/
def literalCount (segments : List Segment) : Nat := segments.countP (·.name?.isNone)

@[simp] theorem placeholderCount_append (segments others : List Segment) :
    placeholderCount (segments ++ others) = placeholderCount segments + placeholderCount others :=
  List.countP_append

@[simp] theorem literalCount_append (segments others : List Segment) :
    literalCount (segments ++ others) = literalCount segments + literalCount others :=
  List.countP_append

end Segment

namespace Cursor

open Segment (placeholderCount literalCount)

/-- A turn that finds a placeholder adds it, and at most one literal in front of it. -/
theorem TurnsTo.counts {before ahead : List Char} {braces : Braces} {name : String}
    {matched : Option Nat} (h : TurnsTo before ahead (.next braces name matched)) :
    placeholderCount (braces.found name matched) = 1 ∧
      literalCount (braces.found name matched) ≤ 1 := by
  cases h with
  | @next front =>
      cases front with
      | nil => exact ⟨rfl, Nat.zero_le 1⟩
      | cons c front => exact ⟨rfl, le_rfl⟩

/-! ## The places that the loop comes to -/

/-- The loop stands between two pieces: the scanner has cut off what lies before the cursor,
and the segments so far are the pieces of that. -/
theorem Visits.exists_pieces {source : String} {cursor : Nat} {segments : List Segment}
    (h : Visits source cursor segments) :
    ∃ pieces ahead, source.toList = pieces.flatMap Piece.source ++ ahead ∧
      cursor = Text.byteLength (pieces.flatMap Piece.source) ∧
      segments = Segment.ofPieces 0 pieces ∧
      Scan.run source.toList = ⟨pieces ++ (Scan.run ahead).pieces, (Scan.run ahead).rest⟩ := by
  induction h with
  | start => exact ⟨[], source.toList, rfl, rfl, rfl, rfl⟩
  | next hvisits hlt hturn ih =>
      rcases ih with ⟨pieces, ahead, hsource, rfl, rfl, hrun⟩
      cases turnsTo_of_turn? hsource hlt hturn with
      | @next front padding name after behind hpiece hahead hcut =>
        subst hahead
        refine ⟨pieces ++ (Piece.literals front ++ [.placeholder padding name after]), behind,
          ?_, ?_, ?_, ?_⟩
        · rw [hsource]
          simp [Piece.flatMap_source_literals]
        · simp only [Braces.stop, bracesBehind, Option.getD_some, List.flatMap_append,
            Piece.flatMap_source_literals, List.flatMap_singleton, Text.byteLength_append,
            Nat.add_assoc]
        · rw [Segment.ofPieces_append, Segment.ofPieces_append, Nat.zero_add,
            Piece.flatMap_source_literals, ← Text.byteLength_append]
          rfl
        · rw [hrun, hcut]
          simp

theorem Visits.isBoundary {source : String} {cursor : Nat} {segments : List Segment}
    (h : Visits source cursor segments) : Text.IsBoundary source.toList cursor := by
  rcases h.exists_pieces with ⟨pieces, ahead, hsource, rfl, -, -⟩
  exact ⟨_, ahead, hsource, rfl⟩

/-- Wherever the loop comes to, five bytes have been passed for every placeholder, and there
are no more literals than placeholders. -/
theorem Visits.counts {source : String} {cursor : Nat} {segments : List Segment}
    (h : Visits source cursor segments) :
    5 * placeholderCount segments ≤ cursor ∧
      literalCount segments ≤ placeholderCount segments := by
  induction h with
  | start => exact ⟨le_rfl, le_rfl⟩
  | next hvisits hlt hturn ih =>
      rcases hvisits.exists_pieces with ⟨pieces, ahead, hsource, rfl, -, -⟩
      have hturns := turnsTo_of_turn? hsource hlt hturn
      have hprogress := hturns.progress.2
      rcases hturns.counts with ⟨hplaceholders, hliterals⟩
      rw [Segment.placeholderCount_append, Segment.literalCount_append, hplaceholders]
      omega

/-! ## How the loop ends -/

/-- From every place that the loop comes to, it goes on to an end. -/
theorem Visits.exists_ends {source : String} {cursor : Nat} {segments : List Segment}
    (h : Visits source cursor segments) : ∃ outcome, Ends source outcome := by
  -- The bytes ahead of the cursor become fewer in every turn.
  induction hleft : source.utf8ByteSize - cursor using Nat.strong_induction_on
    generalizing cursor segments with
  | _ left ih =>
    by_cases hlt : cursor < source.utf8ByteSize
    · rcases h.exists_pieces with ⟨pieces, ahead, hsource, rfl, -, -⟩
      rcases turn?_spec hsource (ne_nil_of_lt hsource hlt) with ⟨turn, hturn, hturns⟩
      cases turn with
      | last rest => exact ⟨_, .last h hlt hturn⟩
      | fault braces fault => exact ⟨_, .fault h hlt hturn⟩
      | next braces name matched =>
          have hprogress := hturns.progress.2
          exact ih _ (by omega) (.next h hlt hturn) rfl
    · exact ⟨_, .finished h (not_lt.mp hlt)⟩

/-- An end of the loop is what parsing gives. -/
theorem Ends.eq_parse {source : String} {outcome : Except ParseError (List Segment)}
    (h : Ends source outcome) : (Template.parse source).map Template.segments = outcome := by
  cases h with
  | finished hvisits hle =>
      rcases hvisits.exists_pieces with ⟨pieces, ahead, hsource, rfl, rfl, hrun⟩
      have hahead : ahead = [] := by
        rw [← Text.byteLength_toList, hsource, Text.byteLength_append] at hle
        exact Text.byteLength_eq_zero_iff.mp (by omega)
      subst hahead
      have hcut : Piece.IsCut source.toList pieces := by
        rw [← Scan.run_eq_iff_isCut, hrun]
        simp [Scan.run]
      rw [Template.parse_eq_ok_iff.mpr ⟨pieces, hcut, rfl⟩]
      rfl
  | last hvisits hlt hturn =>
      rcases hvisits.exists_pieces with ⟨pieces, ahead, hsource, rfl, rfl, hrun⟩
      cases turnsTo_of_turn? hsource hlt hturn with
      | last hcut =>
        rw [hcut] at hrun
        rw [Template.parse_eq_ok_iff.mpr ⟨_, Scan.run_eq_iff_isCut.mp hrun, rfl⟩]
        change Except.ok (Segment.ofPieces 0 (pieces ++ [.literal ahead])) = _
        rw [Segment.ofPieces_append, Nat.zero_add]
        rfl
  | fault hvisits hlt hturn =>
      rcases hvisits.exists_pieces with ⟨pieces, ahead, hsource, rfl, rfl, hrun⟩
      cases turnsTo_of_turn? hsource hlt hturn with
      | @fault front held hahead hopens hcut =>
        rw [hcut] at hrun
        have hne : held ≠ [] := by
          rintro rfl
          contradiction
        have herror : Template.parse source =
            .error ⟨Template.faultOf held,
              (bracesBehind (pieces.flatMap Piece.source) front).marker, source⟩ := by
          rw [Template.parse_eq_error_iff, hrun]
          refine ⟨hne, ?_⟩
          simp [bracesBehind, Piece.flatMap_source_literals]
        rw [herror]
        rfl

/-- The loop ends with what parsing gives, and in no other way. -/
theorem ends_iff {source : String} {outcome : Except ParseError (List Segment)} :
    Ends source outcome ↔ (Template.parse source).map Template.segments = outcome := by
  constructor
  · exact Ends.eq_parse
  · rintro rfl
    rcases Visits.start.exists_ends with ⟨outcome, hends⟩
    rw [hends.eq_parse]
    exact hends

/-- The segments with which the loop ends are counted against the bytes of the source. -/
theorem Ends.counts {source : String} {segments : List Segment} (h : Ends source (.ok segments)) :
    5 * placeholderCount segments ≤ source.utf8ByteSize ∧
      literalCount segments ≤ placeholderCount segments + 1 := by
  cases h with
  | finished hvisits hle =>
      have hcursor := hvisits.isBoundary.le_utf8ByteSize
      rcases hvisits.counts with ⟨hplaceholders, hliterals⟩
      omega
  | @last cursor segments rest hvisits hlt hturn =>
      rcases hvisits.counts with ⟨hplaceholders, hliterals⟩
      rcases hvisits.exists_pieces with ⟨pieces, ahead, hsource, rfl, -, -⟩
      cases turnsTo_of_turn? hsource hlt hturn with
      | last =>
        have hnone : placeholderCount [Segment.ofPiece
            (Text.byteLength (pieces.flatMap Piece.source)) (.literal ahead)] = 0 := rfl
        have hone : literalCount [Segment.ofPiece
            (Text.byteLength (pieces.flatMap Piece.source)) (.literal ahead)] = 1 := rfl
        rw [Segment.placeholderCount_append, Segment.literalCount_append, hnone, hone]
        omega

/-- The loop is safe and makes progress.  Wherever it comes to, the cursor lies between two
characters of the source; while some text is ahead, every slice of a turn exists, and every
range that a turn uses lies within the source.  A turn that finds a placeholder knows its
length and moves the cursor on by five bytes or more.  The loop ends, and with what parsing
gives; for every placeholder of a template there are five bytes in its source, and there is
at most one literal more than that allows placeholders. -/
theorem loop_safe (source : String) :
    (∀ cursor segments, Visits source cursor segments →
      cursor ≤ source.utf8ByteSize ∧ Text.IsBoundary source.toList cursor ∧
        (cursor < source.utf8ByteSize →
          ∃ turn, turn? source cursor = some turn ∧
            (∀ range ∈ ⟨cursor, source.utf8ByteSize⟩ :: turn.ranges source.utf8ByteSize,
              range.IsWithin source) ∧
            ∀ braces name matched, turn = .next braces name matched →
              (∃ bytes, matched = some bytes ∧ 5 ≤ bytes) ∧
                cursor + 5 ≤ braces.stop matched)) ∧
    (∃ outcome, Ends source outcome) ∧
    (∀ outcome, Ends source outcome ↔
      (Template.parse source).map Template.segments = outcome) ∧
    ∀ template, Template.parse source = .ok template →
      placeholderCount template.segments ≤ source.utf8ByteSize / 5 ∧
        literalCount template.segments ≤ source.utf8ByteSize / 5 + 1 := by
  refine ⟨?_, Visits.start.exists_ends, fun outcome => ends_iff, ?_⟩
  · intro cursor segments hvisits
    refine ⟨hvisits.isBoundary.le_utf8ByteSize, hvisits.isBoundary, ?_⟩
    intro hlt
    rcases hvisits.exists_pieces with ⟨pieces, ahead, hsource, rfl, -, -⟩
    rcases turn?_spec hsource (ne_nil_of_lt hsource hlt) with ⟨turn, hturn, hturns⟩
    refine ⟨turn, hturn, ?_, ?_⟩
    · intro range hrange
      rcases List.mem_cons.mp hrange with rfl | hrange
      · exact ByteRange.isWithin_ahead hsource
      · exact hturns.isWithin hsource range hrange
    · rintro braces name matched rfl
      exact hturns.progress
  · intro template hparse
    have hends : Ends source (.ok template.segments) := by
      rw [ends_iff, hparse]
      rfl
    have hcounts := hends.counts
    omega

/-- A placeholder of five bytes between characters of two and of four bytes. -/
theorem loop_safe_five_bytes :
    let source := "é\x7b\x7ba\x7d\x7d😀"
    let segments : List Segment := [.literal "é" ⟨0, 2⟩, .placeholder "a" ⟨2, 7⟩]
    Visits source 7 segments ∧ 7 < source.utf8ByteSize ∧ Text.IsBoundary source.toList 7 ∧
      turn? source 0 = some (.next ⟨[.literal "é" ⟨0, 2⟩], 2, 4⟩ "a" (some 5)) ∧
      ByteRange.IsWithin ⟨4, 11⟩ source ∧
      turn? source 7 = some (.last (.literal "😀" ⟨7, 11⟩)) ∧
      ∃ template, Template.parse source = .ok template ∧
        placeholderCount template.segments ≤ 11 / 5 ∧
        literalCount template.segments ≤ 11 / 5 + 1 := by
  intro source segments
  have hsize : source.utf8ByteSize = 11 := by decide
  have hfirst : turn? source 0 = some (.next ⟨[.literal "é" ⟨0, 2⟩], 2, 4⟩ "a" (some 5)) := by
    decide +kernel
  have hsecond : turn? source 7 = some (.last (.literal "😀" ⟨7, 11⟩)) := by decide +kernel
  have hvisits : Visits source 7 segments := .next .start (by decide) hfirst
  rcases loop_safe source with ⟨hsafe, -, hends, hcounts⟩
  rcases (hsafe 0 [] .start).2.2 (by decide) with ⟨turn, hturn, hranges, -⟩
  obtain rfl : _ = turn := Option.some.inj (hfirst.symm.trans hturn)
  have hwithin := hranges ⟨4, 11⟩ (by rw [hsize]; decide)
  have hend : Ends source (.ok (segments ++ [.literal "😀" ⟨7, 11⟩])) :=
    .last hvisits (by decide) hsecond
  have hparse := (hends _).mp hend
  cases htemplate : Template.parse source with
  | error error =>
      rw [htemplate] at hparse
      cases hparse
  | ok template =>
      have hcount := hcounts template htemplate
      rw [hsize] at hcount
      exact ⟨hvisits, by decide, (hsafe 7 segments hvisits).2.1, hfirst, hwithin, hsecond,
        template, rfl, hcount⟩

end Cursor

end TextTemplate
