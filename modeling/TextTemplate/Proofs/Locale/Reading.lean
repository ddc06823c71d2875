import Mathlib.Data.List.Basic
import TextTemplate.Locale.Basic

/-!
# Reading a tag

A tag is read in three steps: its base is compared with the names of the root locale, it
falls into pieces at the separators, and the further pieces are looked at from the left.
The lemmas here say of each step what it can give, so that nothing else has to unfold it.

Main results:

- Theorem `Locale.splitOnP_isSeparator`: the subtags are the pieces between separators.
- Theorem `Locale.exists_readParts?_iff`: which further pieces can be read.
- Theorem `Locale.normal_forms_of_readParts?`: the pieces that become script and region.
- Theorem `Locale.read?_eq_some_iff`: what a tag is read as.
-/

namespace TextTemplate.Locale

/-! ## Characters of tags -/

/-- The numbers of ASCII letters and digits. -/
theorem toNat_of_isAlphanum {c : Char} (h : c.isAlphanum = true) :
    (48 ≤ c.toNat ∧ c.toNat ≤ 57) ∨ (65 ≤ c.toNat ∧ c.toNat ≤ 90) ∨
      (97 ≤ c.toNat ∧ c.toNat ≤ 122) := by
  unfold Char.isAlphanum Char.isAlpha Char.isUpper Char.isLower Char.isDigit at h
  simp only [Bool.or_eq_true, Bool.and_eq_true, decide_eq_true_eq, ge_iff_le,
    UInt32.le_iff_toNat_le, Char.reduceVal, UInt32.reduceToNat] at h
  unfold Char.toNat
  omega

theorem isAlphanum_of_isAlpha {c : Char} (h : c.isAlpha = true) : c.isAlphanum = true := by
  rw [Char.isAlphanum, h, Bool.true_or]

theorem isAlphanum_of_isLetters {subtag : List Char} (h : isLetters subtag = true) :
    ∀ c ∈ subtag, c.isAlphanum = true := by
  intro c hc
  exact isAlphanum_of_isAlpha (List.all_eq_true.mp h c hc)

theorem isAlphanum_of_isDigits {subtag : List Char} (h : isDigits subtag = true) :
    ∀ c ∈ subtag, c.isAlphanum = true := by
  intro c hc
  rw [Char.isAlphanum, List.all_eq_true.mp h c hc, Bool.or_true]

/-- Letters and digits are no blanks. -/
theorem isBlank_of_isAlphanum {c : Char} (h : c.isAlphanum = true) : Text.isBlank c = false := by
  have hnumber := toNat_of_isAlphanum h
  simp only [Text.isBlank, Bool.or_eq_false_iff, Bool.and_eq_false_iff, decide_eq_false_iff_not,
    beq_eq_false_iff_ne]
  omega

/-- Letters and digits separate nothing. -/
theorem isSeparator_of_isAlphanum {c : Char} (h : c.isAlphanum = true) :
    isSeparator c = false := by
  by_contra hseparator
  simp only [isSeparator, Bool.not_eq_false, Bool.or_eq_true, beq_iff_eq] at hseparator
  rcases hseparator with rfl | rfl <;> exact absurd h (by decide)

/-! ## Pieces -/

/-- The subtags are the pieces between the separators. -/
theorem splitOnP_isSeparator (text : List Char) :
    text.splitOnP isSeparator = (subtags text).1 :: (subtags text).2 := by
  induction text with
  | nil => rfl
  | cons c rest ih =>
      rw [List.splitOnP_cons_eq_if_modifyHead, ih, subtags]
      split <;> rfl

/-- A text without separators belongs to the first subtag. -/
theorem subtags_append {text : List Char} (h : ∀ c ∈ text, isSeparator c = false)
    (rest : List Char) :
    subtags (text ++ rest) = (text ++ (subtags rest).1, (subtags rest).2) := by
  induction text with
  | nil => rfl
  | cons c text ih =>
      rw [List.forall_mem_cons] at h
      simp [subtags, h.1, ih h.2]

/-- A plain subtag is made of letters and digits, and is not empty. -/
theorem isPlain_iff {piece : List Char} :
    isPlain piece = true ↔ piece ≠ [] ∧ ∀ c ∈ piece, c.isAlphanum = true := by
  rw [isPlain, Bool.and_eq_true, Bool.not_eq_true', List.isEmpty_eq_false_iff,
    List.all_eq_true]

/-- A language is made of two to eight letters. -/
theorem isLanguage_iff {piece : List Char} :
    isLanguage piece = true ↔
      2 ≤ piece.length ∧ piece.length ≤ 8 ∧ ∀ c ∈ piece, c.isAlpha = true := by
  rw [isLanguage, Bool.and_eq_true, Bool.and_eq_true, decide_eq_true_eq, decide_eq_true_eq,
    isLetters, List.all_eq_true, and_assoc]

/-- A piece of four letters can be the script. -/
def IsScriptPiece (piece : List Char) : Prop :=
  piece.length = 4 ∧ isLetters piece = true

/-- A piece of two letters or three digits can be the region. -/
def IsRegionPiece (piece : List Char) : Prop :=
  (piece.length = 2 ∧ isLetters piece = true) ∨ (piece.length = 3 ∧ isDigits piece = true)

theorem ne_nil_of_length {piece : List Char} {n : Nat} (h : piece.length = n + 1) :
    piece ≠ [] := by
  rintro rfl
  contradiction

/-- A script is a plain subtag. -/
theorem IsScriptPiece.isPlain {piece : List Char} (h : IsScriptPiece piece) :
    isPlain piece = true :=
  isPlain_iff.mpr ⟨ne_nil_of_length h.1, isAlphanum_of_isLetters h.2⟩

/-- A region is a plain subtag. -/
theorem IsRegionPiece.isPlain {piece : List Char} (h : IsRegionPiece piece) :
    isPlain piece = true := by
  rcases h with ⟨hlength, hletters⟩ | ⟨hlength, hdigits⟩
  · exact isPlain_iff.mpr ⟨ne_nil_of_length hlength, isAlphanum_of_isLetters hletters⟩
  · exact isPlain_iff.mpr ⟨ne_nil_of_length hlength, isAlphanum_of_isDigits hdigits⟩

/-! ## The further pieces -/

/-- The further pieces can be read when each is made of letters and digits and none is
empty, whatever has been read before them. -/
theorem exists_readParts?_iff (script region : Option String) (pieces : List (List Char)) :
    (∃ parts, readParts? script region pieces = some parts) ↔
      ∀ piece ∈ pieces, isPlain piece = true := by
  -- A piece that is kept as a name is one that could also have been passed over.
  fun_induction readParts? script region pieces with
  | case1 script region => exact iff_of_true ⟨_, rfl⟩ nofun
  | case2 script region piece rest hcase ih =>
      have hplain := IsScriptPiece.isPlain ⟨hcase.1, hcase.2.1⟩
      rw [ih, List.forall_mem_cons, and_iff_right hplain]
  | case3 script region piece rest _ hcase ih =>
      have hplain := IsRegionPiece.isPlain (.inl ⟨hcase.1, hcase.2.1⟩)
      rw [ih, List.forall_mem_cons, and_iff_right hplain]
  | case4 script region piece rest _ _ hcase ih =>
      have hplain := IsRegionPiece.isPlain (.inr ⟨hcase.1, hcase.2.1⟩)
      rw [ih, List.forall_mem_cons, and_iff_right hplain]
  | case5 script region piece rest _ _ _ hplain ih =>
      rw [ih, List.forall_mem_cons, and_iff_right hplain]
  | case6 script region piece rest _ _ _ hplain =>
      exact iff_of_false nofun fun hall => hplain (hall piece List.mem_cons_self)

/-- A region of digits is written in capitals as it is. -/
theorem capitals_of_isDigits {piece : List Char} (h : isDigits piece = true) :
    capitals piece = String.ofList piece := by
  have hsame : ∀ c ∈ piece, c.toUpper = c := by
    intro c hc
    have hdigit := List.all_eq_true.mp h c hc
    unfold Char.toUpper
    rw [dif_neg]
    rintro ⟨hlower, -⟩
    simp only [Char.isDigit, Bool.and_eq_true, decide_eq_true_eq, ge_iff_le,
      UInt32.le_iff_toNat_le, Char.reduceVal, UInt32.reduceToNat] at hdigit hlower
    omega
  rw [capitals, List.map_congr_left hsame, List.map_id']

/-- The script and the region that are read were there before, or are the normal form of a
piece. -/
theorem sources_of_readParts? {pieces : List (List Char)}
    {script region readScript readRegion : Option String}
    (hread : readParts? script region pieces = some (readScript, readRegion)) :
    (readScript = script ∨
        ∃ piece ∈ pieces, IsScriptPiece piece ∧ readScript = some (titlecased piece)) ∧
      (readRegion = region ∨
        ∃ piece ∈ pieces, IsRegionPiece piece ∧ readRegion = some (capitals piece)) := by
  fun_induction readParts? script region pieces with
  | case1 script region =>
      simp only [Option.some.injEq, Prod.mk.injEq] at hread
      exact ⟨.inl hread.1.symm, .inl hread.2.symm⟩
  | case2 script region piece rest hcase ih =>
      rcases ih hread with ⟨hscript, hregion⟩
      refine ⟨.inr ?_, hregion.imp_right List.exists_mem_cons_of_exists⟩
      rcases hscript with hscript | hscript
      · exact ⟨piece, List.mem_cons_self, ⟨hcase.1, hcase.2.1⟩, hscript⟩
      · exact List.exists_mem_cons_of_exists hscript
  | case3 script region piece rest _ hcase ih =>
      rcases ih hread with ⟨hscript, hregion⟩
      refine ⟨hscript.imp_right List.exists_mem_cons_of_exists, .inr ?_⟩
      rcases hregion with hregion | hregion
      · exact ⟨piece, List.mem_cons_self, .inl ⟨hcase.1, hcase.2.1⟩, hregion⟩
      · exact List.exists_mem_cons_of_exists hregion
  | case4 script region piece rest _ _ hcase ih =>
      rcases ih hread with ⟨hscript, hregion⟩
      refine ⟨hscript.imp_right List.exists_mem_cons_of_exists, .inr ?_⟩
      rcases hregion with hregion | hregion
      · rw [← capitals_of_isDigits hcase.2.1] at hregion
        exact ⟨piece, List.mem_cons_self, .inr ⟨hcase.1, hcase.2.1⟩, hregion⟩
      · exact List.exists_mem_cons_of_exists hregion
  | case5 script region piece rest _ _ _ _ ih =>
      rcases ih hread with ⟨hscript, hregion⟩
      exact ⟨hscript.imp_right List.exists_mem_cons_of_exists,
        hregion.imp_right List.exists_mem_cons_of_exists⟩
  | case6 => contradiction

/-- A script that is read is the normal form of a piece, and so is a region. -/
theorem normal_forms_of_readParts? {pieces : List (List Char)} {script region : Option String}
    (hread : readParts? none none pieces = some (script, region)) :
    (∀ name ∈ script, ∃ piece ∈ pieces, IsScriptPiece piece ∧ name = titlecased piece) ∧
      ∀ name ∈ region, ∃ piece ∈ pieces, IsRegionPiece piece ∧ name = capitals piece := by
  rcases sources_of_readParts? hread with ⟨hscript, hregion⟩
  constructor
  · rintro name (hname : script = some name)
    simpa [hname] using hscript
  · rintro name (hname : region = some name)
    simpa [hname] using hregion

/-! ## A whole tag -/

/-- A tag is read by its base: as the root, as a language with what its subtags give, or not at
all. -/
theorem read?_eq (tag : String) :
    read? tag =
      if namesRoot (base tag.toList) then some root
      else if isLanguage (subtags (base tag.toList)).1 then
        (readParts? none none (subtags (base tag.toList)).2).map fun parts =>
          tagged (lowercased (subtags (base tag.toList)).1) parts.1 parts.2
      else none :=
  rfl

/-- What a tag is read as: the root locale under one of its names, or else a language with
what is read of the further pieces. -/
theorem read?_eq_some_iff {tag : String} {locale : Locale} :
    read? tag = some locale ↔
      (namesRoot (base tag.toList) = true ∧ locale = root) ∨
        (¬ namesRoot (base tag.toList) = true ∧
          isLanguage (subtags (base tag.toList)).1 = true ∧
          ∃ script region,
            readParts? none none (subtags (base tag.toList)).2 = some (script, region) ∧
            locale = tagged (lowercased (subtags (base tag.toList)).1) script region) := by
  rw [read?_eq]
  by_cases hroot : namesRoot (base tag.toList) = true
  · rw [if_pos hroot, Option.some.injEq]
    constructor
    · intro hlocale
      exact .inl ⟨hroot, hlocale.symm⟩
    · rintro (⟨-, hlocale⟩ | ⟨hlanguage, -⟩)
      · exact hlocale.symm
      · contradiction
  · rw [if_neg hroot]
    by_cases hlanguage : isLanguage (subtags (base tag.toList)).1 = true
    · rw [if_pos hlanguage, Option.map_eq_some_iff]
      constructor
      · rintro ⟨⟨script, region⟩, hparts, hlocale⟩
        exact .inr ⟨hroot, hlanguage, script, region, hparts, hlocale.symm⟩
      · rintro (⟨hname, -⟩ | ⟨-, -, script, region, hparts, hlocale⟩)
        · contradiction
        · exact ⟨(script, region), hparts, hlocale.symm⟩
    · rw [if_neg hlanguage]
      refine iff_of_false nofun ?_
      rintro (⟨hname, -⟩ | ⟨-, hfirst, -⟩)
      · exact hroot hname
      · exact hlanguage hfirst

end TextTemplate.Locale
