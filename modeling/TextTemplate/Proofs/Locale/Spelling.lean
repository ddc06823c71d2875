import TextTemplate.Proofs.Locale.Grammar

/-!
# Spellings of one tag

Capitals and small letters mean the same in a tag, and so do hyphens and underscores;
an encoding, a modifier and blanks around the base are cut off before anything is read.
Two tags whose bases differ in nothing else are read as the same locale, or are both
refused.

The names `C` and `POSIX` are left out.  They are compared as they stand, and in other
letters they are no names of the root locale.

Main results:

- Definition `Locale.folded`: the base in small letters with hyphens.
- Theorem `Locale.subtags_folded`: folding a base folds its pieces.
- Theorem `Locale.readParts?_map_toLower`: script and region are read from small letters
  as from capitals.
- Theorem `Locale.ofTag_spelling`: tags with the same folded base are read alike.
-/

namespace TextTemplate.Locale

/-! ## Characters -/

/-- The character in small letters, with a hyphen for an underscore. -/
def foldedChar (c : Char) : Char := if c.toLower = '_' then '-' else c.toLower

theorem isSeparator_foldedChar (c : Char) : isSeparator (foldedChar c) = isSeparator c := by
  rw [← isSeparator_toLower c, foldedChar]
  split
  next hunderscore => rw [hunderscore]; rfl
  next => rfl

theorem foldedChar_of_not_separator {c : Char} (h : isSeparator c = false) :
    foldedChar c = c.toLower := by
  refine if_neg fun hunderscore => ?_
  rw [← isSeparator_toLower, hunderscore] at h
  contradiction

/-! ## Bases -/

/-- The base in small letters, with hyphens for underscores. -/
def folded (base : List Char) : List Char := base.map foldedChar

/-- Folding keeps the separators, so it folds the subtags. -/
theorem subtags_folded (base : List Char) :
    subtags (folded base) =
      ((subtags base).1.map Char.toLower, (subtags base).2.map (List.map Char.toLower)) := by
  induction base with
  | nil => rfl
  | cons c rest ih =>
      rw [folded, List.map_cons, subtags, subtags, isSeparator_foldedChar]
      rw [folded] at ih
      rw [ih]
      cases hseparator : isSeparator c with
      | true => rfl
      | false => simp [foldedChar_of_not_separator hseparator]

/-- A word without separators is the folded form of a base when it is that base in small
letters. -/
theorem folded_eq_iff {base word : List Char} (hword : word.any isSeparator = false) :
    folded base = word ↔ base.map Char.toLower = word := by
  rw [List.any_eq_false] at hword
  have hsame : (∀ c ∈ base, isSeparator c = false) → folded base = base.map Char.toLower :=
    fun h => List.map_congr_left fun c hc => foldedChar_of_not_separator (h c hc)
  constructor
  · intro hfolded
    rw [← hsame, hfolded]
    intro c hc
    rw [← isSeparator_foldedChar]
    exact Bool.eq_false_of_not_eq_true (hword _ (hfolded ▸ List.mem_map_of_mem hc))
  · intro hlower
    rw [hsame, hlower]
    intro c hc
    rw [← isSeparator_toLower]
    exact Bool.eq_false_of_not_eq_true (hword _ (hlower ▸ List.mem_map_of_mem hc))

/-! ## Pieces in small letters -/

/-- Script and region are read from small letters as from capitals. -/
theorem readParts?_map_toLower (script region : Option String) (pieces : List (List Char)) :
    readParts? script region (pieces.map (List.map Char.toLower)) =
      readParts? script region pieces := by
  induction pieces generalizing script region with
  | nil => rfl
  | cons piece rest ih =>
      simp only [List.map_cons, readParts?, List.length_map, isLetters_map_toLower,
        isDigits_map_toLower, isPlain_map_toLower, titlecased_map_toLower, capitals_map_toLower, ih]
      -- Only the digits of a region are kept without a change of letters.
      split
      · rfl
      · split
        · rfl
        · split
          next hdigits => rw [ofList_map_toLower piece hdigits.2.1]
          next => rfl

/-! ## A whole tag -/

/-- Apart from `C` and `POSIX`, a base names the root locale when it is folded to `und`. -/
theorem namesRoot_iff_folded {base : List Char} (hc : folded base ≠ ['c'])
    (hposix : folded base ≠ ['p', 'o', 's', 'i', 'x']) :
    namesRoot base = true ↔ folded base = ['u', 'n', 'd'] := by
  have hund : folded base = ['u', 'n', 'd'] ↔ base.map Char.toLower = ['u', 'n', 'd'] :=
    folded_eq_iff (by decide)
  rw [hund, namesRoot, Bool.or_eq_true, Bool.or_eq_true, beq_iff_eq, beq_iff_eq, beq_iff_eq]
  constructor
  · rintro ((rfl | rfl) | hund)
    · exact absurd (by decide) hc
    · exact absurd (by decide) hposix
    · exact hund
  · exact .inr

/-- Tags with the same folded base are read as the same locale, or both not at all. -/
theorem read?_eq_of_folded {tag other : String}
    (hfolded : folded (base tag.toList) = folded (base other.toList))
    (hc : folded (base tag.toList) ≠ ['c'])
    (hposix : folded (base tag.toList) ≠ ['p', 'o', 's', 'i', 'x']) :
    read? tag = read? other := by
  have hroot : namesRoot (base tag.toList) = namesRoot (base other.toList) := by
    rw [Bool.eq_iff_iff, namesRoot_iff_folded hc hposix,
      namesRoot_iff_folded (hfolded ▸ hc) (hfolded ▸ hposix), hfolded]
  have hsubtags := congrArg subtags hfolded
  rw [subtags_folded, subtags_folded, Prod.mk.injEq] at hsubtags
  rcases hsubtags with ⟨hfirst, hmore⟩
  have hlanguage : isLanguage (subtags (base tag.toList)).1 =
      isLanguage (subtags (base other.toList)).1 := by
    rw [← isLanguage_map_toLower, hfirst, isLanguage_map_toLower]
  have hlower : lowercased (subtags (base tag.toList)).1 =
      lowercased (subtags (base other.toList)).1 := by
    rw [← lowercased_map_toLower, hfirst, lowercased_map_toLower]
  have hparts : readParts? none none (subtags (base tag.toList)).2 =
      readParts? none none (subtags (base other.toList)).2 := by
    rw [← readParts?_map_toLower, hmore, readParts?_map_toLower]
  rw [read?_eq, read?_eq, hroot, hlanguage, hlower, hparts]

/-- Tags are read without regard to capitals, to which separator is used, and to what stands
around the base: two tags with the same folded base, which is not that of `C` or `POSIX`, give
the same locale or are both refused. -/
theorem ofTag_spelling {tag other : String}
    (hfolded : folded (base tag.toList) = folded (base other.toList))
    (hc : lowercased (base tag.toList) ≠ "c") (hposix : lowercased (base tag.toList) ≠ "posix") :
    (∃ locale, ofTag tag = .ok locale ∧ ofTag other = .ok locale) ∨
      (ofTag tag = .error (.invalidLocale tag) ∧ ofTag other = .error (.invalidLocale other)) := by
  have hread : read? tag = read? other := by
    apply read?_eq_of_folded hfolded
    · intro hname
      exact hc (congrArg String.ofList ((folded_eq_iff (by decide)).mp hname))
    · intro hname
      exact hposix (congrArg String.ofList ((folded_eq_iff (by decide)).mp hname))
  cases hlocale : read? tag with
  | none =>
      rw [hlocale] at hread
      exact .inr ⟨ofTag_eq_error_iff.mpr ⟨hlocale, rfl⟩,
        ofTag_eq_error_iff.mpr ⟨hread.symm, rfl⟩⟩
  | some locale =>
      rw [hlocale] at hread
      exact .inl ⟨locale, ofTag_eq_ok_iff.mpr hlocale, ofTag_eq_ok_iff.mpr hread.symm⟩

/-- Small letters, capitals and blanks, with and without an encoding and a modifier. -/
theorem ofTag_spelling_zh_hant_tw :
    let tag := "zh-hant_TW"
    let other := "\u00a0ZH_Hant-tw\u3000.UTF-8@euro"
    folded (base tag.toList) = folded (base other.toList) ∧
      lowercased (base tag.toList) ≠ "c" ∧ lowercased (base tag.toList) ≠ "posix" ∧
      ofTag tag = .ok (tagged "zh" (some "Hant") (some "TW")) ∧
      ofTag other = .ok (tagged "zh" (some "Hant") (some "TW")) := by
  intro tag other
  have hfolded : folded (base tag.toList) = folded (base other.toList) := by decide +kernel
  have hc : lowercased (base tag.toList) ≠ "c" := by decide +kernel
  have hposix : lowercased (base tag.toList) ≠ "posix" := by decide +kernel
  have htag : ofTag tag = .ok (tagged "zh" (some "Hant") (some "TW")) :=
    ofTag_eq_ok_iff.mpr (by decide +kernel)
  refine ⟨hfolded, hc, hposix, htag, ?_⟩
  rcases ofTag_spelling hfolded hc hposix with ⟨locale, hlocale, hother⟩ | ⟨herror, -⟩
  · rwa [← Except.ok.inj (hlocale.symm.trans htag)]
  · exact absurd (htag.symm.trans herror) nofun

/-- The names left out do depend on their letters. -/
example : folded (base "POSIX".toList) = folded (base "posix".toList) ∧
    read? "POSIX" ≠ read? "posix" := by
  decide

end TextTemplate.Locale
