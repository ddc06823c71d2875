import Mathlib.Data.List.Chain
import Mathlib.Data.List.TakeWhile
import TextTemplate.Template.Piece

/-!
# Cuts of template text

The grammar of templates as a relation: which lists of pieces are a cut of a
text.  Nothing here says how a cut is found; the scanner is then shown to find it.

Main results:

- Definition `Piece.IsCut`: the pieces are well formed, may stand next to each
  other, and put together are the text.
- Theorem `Piece.read?_eq_some_iff`: reading finds exactly the placeholders of
  the grammar.
- Theorem `Scan.run_append`: pieces in front of a text are cut off one by one.
- Theorem `Scan.isCutBefore_run`: what the scanner cuts off is a cut, and what it
  leaves begins with braces that open no placeholder.
- Theorem `Scan.run_eq_iff_isCut`: the scanner leaves nothing exactly when there
  is a cut, which is then the one it found.
-/

namespace TextTemplate

namespace Piece

/-! ## The grammar -/

/-- The characters that may pad a name: space, tab, line feed, vertical tab, form
feed and carriage return. -/
def IsPadding (c : Char) : Prop := c ∈ [' ', '\t', '\n', '\x0b', '\x0c', '\r']

/-- The characters of a name: ASCII letters and digits, `_`, `.` and `-`. -/
def IsNameChar (c : Char) : Prop :=
  ('A' ≤ c ∧ c ≤ 'Z') ∨ ('a' ≤ c ∧ c ≤ 'z') ∨ ('0' ≤ c ∧ c ≤ '9') ∨ c ∈ ['_', '.', '-']

/-- A literal is some text without two opening braces in it. -/
def IsLiteral : Piece → Prop
  | literal text => text ≠ [] ∧ ¬ ['{', '{'] <:+: text
  | placeholder .. => False

/-- A placeholder is a name between its braces, with padding on either side. -/
def IsPlaceholder : Piece → Prop
  | literal _ => False
  | placeholder before name after =>
      (∀ c ∈ before, IsPadding c) ∧ name ≠ [] ∧ (∀ c ∈ name, IsNameChar c) ∧
        ∀ c ∈ after, IsPadding c

/-- Whether one piece may stand right before another.  Two literals would be one,
and a literal that ends in a brace would begin the braces of the placeholder. -/
def MayPrecede : Piece → Piece → Prop
  | literal _, literal _ => False
  | literal text, placeholder .. => text.getLast? ≠ some '{'
  | placeholder .., _ => True

/-- The pieces are a cut of a text. -/
structure IsCut (text : List Char) (pieces : List Piece) : Prop where
  wellFormed : ∀ piece ∈ pieces, piece.IsLiteral ∨ piece.IsPlaceholder
  separated : pieces.IsChain MayPrecede
  source_eq : pieces.flatMap source = text

/-! ### Characters and braces -/

/-- Padding is told by its characters. -/
theorem isPadding_iff {c : Char} : isPadding c = true ↔ IsPadding c := by
  simp [isPadding, IsPadding, or_assoc]

/-- The characters of names are told by these rules. -/
theorem isNameChar_iff {c : Char} : isNameChar c = true ↔ IsNameChar c := by
  have halphanum : c.isAlphanum =
      (decide ('A' ≤ c ∧ c ≤ 'Z') || (decide ('a' ≤ c) && decide (c ≤ 'z')) ||
        (decide ('0' ≤ c) && decide (c ≤ '9'))) := rfl
  simp only [isNameChar, IsNameChar, halphanum, Bool.or_eq_true, Bool.and_eq_true,
    decide_eq_true_eq, beq_iff_eq, List.mem_cons, List.not_mem_nil, or_false]
  tauto

/-- Padding does not belong to names. -/
theorem isNameChar_eq_false_of_isPadding {c : Char} (h : IsPadding c) : isNameChar c = false := by
  simp only [IsPadding, List.mem_cons, List.not_mem_nil, or_false] at h
  rcases h with rfl | rfl | rfl | rfl | rfl | rfl <;> decide

/-- The characters of names are no padding. -/
theorem isPadding_eq_false_of_isNameChar {c : Char} (h : IsNameChar c) : isPadding c = false := by
  by_contra hpadding
  rw [Bool.not_eq_false, isPadding_iff] at hpadding
  have hname := isNameChar_eq_false_of_isPadding hpadding
  rw [isNameChar_iff.mpr h] at hname
  contradiction

/-- A text begins with two opening braces when it is those braces and more. -/
theorem opens_iff {text : List Char} : opens text = true ↔ ∃ rest, text = '{' :: '{' :: rest := by
  constructor
  · intro h
    unfold opens at h
    split at h
    · exact ⟨_, rfl⟩
    · contradiction
  · rintro ⟨rest, rfl⟩
    rfl

/-- A text with no two opening braces in it does not begin with them, whatever
follows, if it has two characters. -/
theorem opens_append_eq_false {c d : Char} {text rest : List Char}
    (h : ¬ ['{', '{'] <:+: c :: d :: text) : opens (c :: d :: text ++ rest) = false := by
  by_contra hopens
  rw [Bool.not_eq_false, opens_iff] at hopens
  rcases hopens with ⟨more, hmore⟩
  simp only [List.cons_append, List.cons.injEq] at hmore
  rcases hmore with ⟨rfl, rfl, -⟩
  exact h ⟨[], text, rfl⟩

/-- A placeholder begins with an opening marker. -/
theorem IsPlaceholder.opens_source_append {piece : Piece} (h : piece.IsPlaceholder)
    (rest : List Char) : opens (piece.source ++ rest) = true := by
  cases piece with
  | literal text => exact h.elim
  | placeholder before name after => rfl

theorem IsPlaceholder.source_ne_nil {piece : Piece} (h : piece.IsPlaceholder) :
    piece.source ≠ [] := by
  cases piece with
  | literal text => exact h.elim
  | placeholder before name after => simp [source]

/-! ## Reading a placeholder -/

/-- A run of characters that satisfy a test ends where the first one does not. -/
theorem takeWhile_dropWhile_append {p : Char → Bool} {text rest : List Char}
    (htext : ∀ c ∈ text, p c = true) (hrest : ∀ c ∈ rest.head?, p c = false) :
    (text ++ rest).takeWhile p = text ∧ (text ++ rest).dropWhile p = rest := by
  rw [List.takeWhile_append_of_pos htext, List.dropWhile_append_of_pos htext]
  cases rest with
  | nil => simp
  | cons c rest =>
      have hc : p c = false := hrest c rfl
      simp [hc]

/-- A placeholder at the front of a text is read as it was written. -/
theorem read?_source_append {piece : Piece} (h : piece.IsPlaceholder) (rest : List Char) :
    read? (piece.source ++ rest) = some (piece, rest) := by
  cases piece with
  | literal text => exact h.elim
  | placeholder before name after =>
      rcases h with ⟨hbefore, hne, hname, hafter⟩
      have hafter' : (after ++ '}' :: '}' :: rest).takeWhile isPadding = after ∧
          (after ++ '}' :: '}' :: rest).dropWhile isPadding = '}' :: '}' :: rest := by
        apply takeWhile_dropWhile_append
        · intro c hc
          exact isPadding_iff.mpr (hafter c hc)
        · simp [isPadding]
      have hname' : (name ++ (after ++ '}' :: '}' :: rest)).takeWhile isNameChar = name ∧
          (name ++ (after ++ '}' :: '}' :: rest)).dropWhile isNameChar =
            after ++ '}' :: '}' :: rest := by
        apply takeWhile_dropWhile_append
        · intro c hc
          exact isNameChar_iff.mpr (hname c hc)
        · intro c hc
          cases after with
          | nil =>
              have hbrace : '}' = c := by simpa using hc
              subst hbrace
              decide
          | cons d after =>
              have hd : d = c := by simpa using hc
              subst hd
              exact isNameChar_eq_false_of_isPadding (hafter d List.mem_cons_self)
      have hbefore' :
          (before ++ (name ++ (after ++ '}' :: '}' :: rest))).takeWhile isPadding = before ∧
            (before ++ (name ++ (after ++ '}' :: '}' :: rest))).dropWhile isPadding =
              name ++ (after ++ '}' :: '}' :: rest) := by
        apply takeWhile_dropWhile_append
        · intro c hc
          exact isPadding_iff.mpr (hbefore c hc)
        · intro c hc
          rw [List.head?_append_of_ne_nil _ hne] at hc
          exact isPadding_eq_false_of_isNameChar (hname c (List.mem_of_mem_head? hc))
      have hsource : (placeholder before name after).source ++ rest =
          '{' :: '{' :: (before ++ (name ++ (after ++ '}' :: '}' :: rest))) := by
        simp [source]
      rw [hsource, read?, readInside?]
      simp only [hbefore'.1, hbefore'.2, hname'.1, hname'.2, hafter'.1, hafter'.2]
      rw [if_neg (by simpa using hne)]

/-- What is read is a placeholder of the grammar. -/
theorem isPlaceholder_of_readInside? {text rest : List Char} {piece : Piece}
    (h : readInside? text = some (piece, rest)) : piece.IsPlaceholder := by
  dsimp only [readInside?] at h
  split at h
  next =>
    split at h
    · contradiction
    next hname =>
      simp only [Option.some.injEq, Prod.mk.injEq] at h
      rcases h with ⟨rfl, rfl⟩
      refine ⟨?_, by simpa using hname, ?_, ?_⟩
      · intro c hc
        exact isPadding_iff.mp (List.mem_takeWhile_imp hc)
      · intro c hc
        exact isNameChar_iff.mp (List.mem_takeWhile_imp hc)
      · intro c hc
        exact isPadding_iff.mp (List.mem_takeWhile_imp hc)
  next => contradiction

/-- Reading finds exactly the placeholders of the grammar. -/
theorem read?_eq_some_iff {text rest : List Char} {piece : Piece} :
    read? text = some (piece, rest) ↔ piece.IsPlaceholder ∧ text = piece.source ++ rest := by
  constructor
  · intro h
    refine ⟨?_, eq_source_append_of_read? h⟩
    unfold read? at h
    split at h
    · exact isPlaceholder_of_readInside? h
    · contradiction
  · rintro ⟨hpiece, rfl⟩
    exact read?_source_append hpiece rest

/-- Nothing is read exactly where no placeholder of the grammar begins. -/
theorem read?_eq_none_iff {text : List Char} :
    read? text = none ↔ ∀ piece rest, IsPlaceholder piece → text ≠ source piece ++ rest := by
  rw [Option.eq_none_iff_forall_ne_some]
  constructor
  · intro h piece rest hpiece htext
    exact h (piece, rest) (read?_eq_some_iff.mpr ⟨hpiece, htext⟩)
  · rintro h ⟨piece, rest⟩ hread
    rcases read?_eq_some_iff.mp hread with ⟨hpiece, htext⟩
    exact h piece rest hpiece htext

/-! ## Splitting off a literal -/

/-- Whether a piece may stand right before some text: nothing may run into the
text, and a literal has to end there. -/
def Meets (rest : List Char) : Piece → Prop
  | literal text => rest = [] ∨ (opens rest = true ∧ text.getLast? ≠ some '{')
  | placeholder .. => True

@[simp] theorem meets_nil (piece : Piece) : piece.Meets [] := by
  cases piece with
  | literal text => exact Or.inl rfl
  | placeholder before name after => trivial

theorem IsPlaceholder.meets {piece : Piece} (h : piece.IsPlaceholder) (rest : List Char) :
    piece.Meets rest := by
  cases piece with
  | literal text => exact h.elim
  | placeholder before name after => trivial

theorem IsPlaceholder.mayPrecede {piece : Piece} (h : piece.IsPlaceholder) (next : Piece) :
    piece.MayPrecede next := by
  cases piece with
  | literal text => exact h.elim
  | placeholder before name after => trivial

/-- A piece that meets some text may stand before a placeholder in its place. -/
theorem Meets.mayPrecede {piece next : Piece} {rest : List Char} (h : piece.Meets rest)
    (hrest : rest ≠ []) (hnext : next.IsPlaceholder) : piece.MayPrecede next := by
  cases piece with
  | placeholder before name after => trivial
  | literal text =>
      cases next with
      | literal other => exact hnext.elim
      | placeholder before name after => exact (h.resolve_left hrest).2

/-- No text is split off in front of a marker or at the end. -/
theorem splitLiteral_eq_self {rest : List Char} (h : rest = [] ∨ opens rest = true) :
    splitLiteral rest = ([], rest) := by
  cases rest with
  | nil => rfl
  | cons c rest =>
      rcases h with h | h
      · contradiction
      · rw [splitLiteral, if_pos h]

/-- A text without braces is split off as a whole where it has to end. -/
theorem splitLiteral_append_of_meets {text rest : List Char} (htext : ¬ ['{', '{'] <:+: text)
    (hrest : (literal text).Meets rest) : splitLiteral (text ++ rest) = (text, rest) := by
  induction text with
  | nil => exact splitLiteral_eq_self (hrest.imp_right And.left)
  | cons c text ih =>
      have htail : ¬ ['{', '{'] <:+: text := fun h =>
        htext (h.trans (List.suffix_cons c text).isInfix)
      -- Braces that begin at `c` would lie in the text or run into the rest.
      have hopens : opens (c :: text ++ rest) = false := by
        cases text with
        | cons d text => exact opens_append_eq_false htext
        | nil =>
            by_contra hopens
            rw [Bool.not_eq_false, opens_iff] at hopens
            rcases hopens with ⟨more, hmore⟩
            simp only [List.cons_append, List.nil_append, List.cons.injEq] at hmore
            rcases hrest with rfl | ⟨-, hlast⟩
            · simp at hmore
            · exact hlast (by simp [hmore.1])
      have hmeets : (literal text).Meets rest := by
        rcases hrest with hnil | ⟨hopen, hlast⟩
        · exact Or.inl hnil
        · refine Or.inr ⟨hopen, ?_⟩
          cases text with
          | nil => simp
          | cons d text => simpa using hlast
      rw [List.cons_append] at hopens ⊢
      rw [splitLiteral, hopens, ih htail hmeets]
      rfl

/-- What is split off holds no braces, and has to end where the rest begins. -/
theorem splitLiteral_spec (text : List Char) :
    (¬ ['{', '{'] <:+: (splitLiteral text).1) ∧
      (literal (splitLiteral text).1).Meets (splitLiteral text).2 ∧
      ((splitLiteral text).2 = [] ∨ opens (splitLiteral text).2 = true) := by
  induction text with
  | nil => simp [splitLiteral, Meets]
  | cons c text ih =>
      rcases ih with ⟨hbraceless, hmeets, hrest⟩
      have happend := splitLiteral_append text
      rw [splitLiteral]
      split
      next hopens => simp [Meets, hopens]
      next hopens =>
        generalize splitLiteral text = parts at *
        rcases parts with ⟨front, behind⟩
        subst happend
        refine ⟨?_, ?_, hrest⟩
        · intro h
          rcases List.infix_cons_iff.mp h with ⟨more, hmore⟩ | h
          · apply hopens
            rw [opens_iff]
            refine ⟨more ++ behind, ?_⟩
            rw [← List.cons_append, ← hmore]
            rfl
          · exact hbraceless h
        · rcases hmeets with hnil | ⟨hopen, hlast⟩
          · exact Or.inl hnil
          · refine Or.inr ⟨hopen, ?_⟩
            cases front with
            | cons d front => simpa using hlast
            | nil =>
                rcases opens_iff.mp hopen with ⟨more, rfl⟩
                intro hc
                have hc : c = '{' := by simpa using hc
                exact hopens (by rw [hc]; rfl)

/-! ## Cuts in front of a text -/

/-- The pieces may be cut off in front of a text. -/
structure IsCutBefore (rest : List Char) (pieces : List Piece) : Prop where
  wellFormed : ∀ piece ∈ pieces, piece.IsLiteral ∨ piece.IsPlaceholder
  separated : pieces.IsChain MayPrecede
  meets : ∀ piece ∈ pieces.getLast?, piece.Meets rest

/-- A cut of a text is a cut in front of nothing. -/
theorem isCut_iff {text : List Char} {pieces : List Piece} :
    IsCut text pieces ↔ IsCutBefore [] pieces ∧ pieces.flatMap source = text := by
  constructor
  · intro h
    exact ⟨⟨h.wellFormed, h.separated, fun piece _ => meets_nil piece⟩, h.source_eq⟩
  · rintro ⟨h, hsource⟩
    exact ⟨h.wellFormed, h.separated, hsource⟩

/-- The pieces cut off in front of a text are a cut of what they take up. -/
theorem IsCutBefore.isCut {rest : List Char} {pieces : List Piece} (h : IsCutBefore rest pieces) :
    IsCut (pieces.flatMap source) pieces :=
  ⟨h.wellFormed, h.separated, rfl⟩

theorem IsCutBefore.tail {rest : List Char} {piece : Piece} {pieces : List Piece}
    (h : IsCutBefore rest (piece :: pieces)) : IsCutBefore rest pieces where
  wellFormed := fun other hother => h.wellFormed other (List.mem_cons_of_mem piece hother)
  separated := h.separated.tail
  meets := by
    intro last hlast
    apply h.meets
    cases pieces with
    | nil => simp at hlast
    | cons next pieces => simpa using hlast

/-- A well-formed piece in front of a cut that begins as the piece allows. -/
theorem IsCutBefore.cons {rest : List Char} {piece : Piece} {pieces : List Piece}
    (h : IsCutBefore rest pieces) (hpiece : piece.IsLiteral ∨ piece.IsPlaceholder)
    (hnext : ∀ next ∈ pieces.head?, piece.MayPrecede next)
    (hmeets : pieces = [] → piece.Meets rest) : IsCutBefore rest (piece :: pieces) where
  wellFormed := by
    intro other hother
    rcases List.mem_cons.mp hother with rfl | hother
    · exact hpiece
    · exact h.wellFormed other hother
  separated := List.isChain_cons.mpr ⟨hnext, h.separated⟩
  meets := by
    intro last hlast
    cases pieces with
    | nil =>
        have hlast : piece = last := by simpa using hlast
        rw [← hlast]
        exact hmeets rfl
    | cons next pieces => exact h.meets last (by simpa using hlast)

/-- The first piece of a cut may stand before the text of all others. -/
theorem IsCutBefore.meets_head {rest : List Char} {piece : Piece} {pieces : List Piece}
    (h : IsCutBefore rest (piece :: pieces)) :
    piece.Meets (pieces.flatMap source ++ rest) := by
  cases pieces with
  | nil => simpa using h.meets piece rfl
  | cons next pieces =>
      have hnext : piece.MayPrecede next := (List.isChain_cons_cons.mp h.separated).1
      cases piece with
      | placeholder before name after => trivial
      | literal text =>
          cases next with
          | literal other => exact hnext.elim
          | placeholder before name after => exact Or.inr ⟨rfl, hnext⟩

end Piece

namespace Scan

@[simp] theorem pieces_cons (piece : Piece) (scan : Scan) :
    (scan.cons piece).pieces = piece :: scan.pieces := rfl

@[simp] theorem rest_cons (piece : Piece) (scan : Scan) : (scan.cons piece).rest = scan.rest := rfl

/-! ## What the scanner does at each piece -/

/-- A placeholder in front of a text is cut off. -/
theorem run_placeholder {piece : Piece} (h : piece.IsPlaceholder) (rest : List Char) :
    run (piece.source ++ rest) = (run rest).cons piece := by
  have hopens := h.opens_source_append rest
  have hread := Piece.read?_source_append h rest
  generalize piece.source ++ rest = text at hopens hread
  cases text with
  | nil => contradiction
  | cons c text =>
      rw [run, dif_pos hopens]
      split
      next hnone => rw [hnone] at hread; contradiction
      next other behind hsome =>
        rw [hsome] at hread
        simp only [Option.some.injEq, Prod.mk.injEq] at hread
        rw [hread.1, hread.2]

/-- A piece of text is taken off in front of what it can meet. -/
theorem run_literal {text rest : List Char} (h : (Piece.literal text).IsLiteral)
    (hrest : (Piece.literal text).Meets rest) :
    run (text ++ rest) = (run rest).cons (.literal text) := by
  rcases h with ⟨hne, hbraceless⟩
  have hsplit := Piece.splitLiteral_append_of_meets hbraceless hrest
  have hopens : Piece.opens (text ++ rest) = false := by
    by_contra hopens
    rw [Bool.not_eq_false] at hopens
    rw [Piece.splitLiteral_eq_self (Or.inr hopens)] at hsplit
    exact hne (congrArg Prod.fst hsplit).symm
  generalize hwhole : text ++ rest = whole at hsplit hopens
  cases whole with
  | nil => exact absurd (List.append_eq_nil_iff.mp hwhole).1 hne
  | cons c whole =>
      rw [run, dif_neg (by simp [hopens]), hsplit]

/-- A well-formed piece in front of a text that it meets is cut off. -/
theorem run_source_append {piece : Piece} (h : piece.IsLiteral ∨ piece.IsPlaceholder)
    {rest : List Char} (hrest : piece.Meets rest) :
    run (piece.source ++ rest) = (run rest).cons piece := by
  cases piece with
  | placeholder before name after => exact run_placeholder (h.resolve_left id) rest
  | literal text => exact run_literal (h.resolve_right id) hrest

/-- Pieces in front of a text are cut off one by one. -/
theorem run_append {rest : List Char} {pieces : List Piece} (h : Piece.IsCutBefore rest pieces) :
    run (pieces.flatMap Piece.source ++ rest) =
      ⟨pieces ++ (run rest).pieces, (run rest).rest⟩ := by
  induction pieces with
  | nil => rfl
  | cons piece pieces ih =>
      have hpiece := h.wellFormed piece List.mem_cons_self
      rw [List.flatMap_cons, List.append_assoc, run_source_append hpiece h.meets_head, ih h.tail]
      rfl

/-! ## What the scanner finds -/

/-- At braces the scanner finds a placeholder or nothing. -/
theorem pieces_run_of_opens {text : List Char} (h : Piece.opens text = true) :
    ∀ piece ∈ (run text).pieces.head?, piece.IsPlaceholder := by
  cases text with
  | nil => contradiction
  | cons c text =>
      rw [run, dif_pos h]
      split
      next => simp
      next piece behind hread =>
        intro first hfirst
        have hfirst : piece = first := by simpa using hfirst
        rw [← hfirst]
        exact (Piece.read?_eq_some_iff.mp hread).1

/-- The scanner cuts off a cut, and leaves nothing or braces that open no
placeholder. -/
theorem isCutBefore_run (text : List Char) :
    Piece.IsCutBefore (run text).rest (run text).pieces ∧
      ((run text).rest = [] ∨
        (Piece.opens (run text).rest = true ∧ Piece.read? (run text).rest = none)) := by
  fun_induction run text with
  | case1 => exact ⟨⟨by simp, .nil, by simp⟩, Or.inl rfl⟩
  | case2 c rest hopens hread => exact ⟨⟨by simp, .nil, by simp⟩, Or.inr ⟨hopens, hread⟩⟩
  | case3 c rest hopens piece behind hread ih =>
      have hpiece := (Piece.read?_eq_some_iff.mp hread).1
      refine ⟨ih.1.cons (Or.inr hpiece) ?_ ?_, ih.2⟩
      · intro next _
        exact hpiece.mayPrecede next
      · intro _
        exact hpiece.meets _
  | case4 c rest hopens ih =>
      have hspec := Piece.splitLiteral_spec (c :: rest)
      have happend := Piece.splitLiteral_append (c :: rest)
      generalize Piece.splitLiteral (c :: rest) = parts at ih hspec happend
      rcases parts with ⟨front, behind⟩
      rcases hspec with ⟨hbraceless, hmeets, hbehind⟩
      -- The text does not begin with braces, so something is split off.
      have hfront : front ≠ [] := by
        rintro rfl
        have hbehind' : behind = c :: rest := by simpa using happend
        rw [hbehind'] at hbehind
        exact hopens (hbehind.resolve_left (List.cons_ne_nil c rest))
      refine ⟨ih.1.cons (Or.inl ⟨hfront, hbraceless⟩) ?_ ?_, ih.2⟩
      · intro next hnext
        rcases hbehind with rfl | hbraces
        · simp [run] at hnext
        · have hplaceholder := pieces_run_of_opens hbraces next hnext
          exact hmeets.mayPrecede (by rintro rfl; contradiction) hplaceholder
      · -- Without further pieces the scanner leaves what it was given.
        intro hnone
        have hsource := source_run behind
        rw [source, hnone, List.flatMap_nil, List.nil_append] at hsource
        change (Piece.literal front).Meets (run behind).rest
        rw [hsource]
        exact hmeets

/-- The scanner leaves nothing exactly when there is a cut, and finds it then. -/
theorem run_eq_iff_isCut {text : List Char} {pieces : List Piece} :
    run text = ⟨pieces, []⟩ ↔ Piece.IsCut text pieces := by
  rw [Piece.isCut_iff]
  constructor
  · intro h
    have hcut := (isCutBefore_run text).1
    have hsource := source_run text
    rw [h] at hcut hsource
    exact ⟨hcut, by simpa [source] using hsource⟩
  · rintro ⟨hcut, rfl⟩
    have hrun := run_append hcut
    simpa [run] using hrun

end Scan

end TextTemplate
