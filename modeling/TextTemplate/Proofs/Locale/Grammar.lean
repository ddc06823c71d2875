import TextTemplate.Proofs.Locale.Tag

/-!
# The tags that are read

A tag names the root locale, or it names a language.  In the second case its base
falls into pieces at the hyphens and underscores: the first piece has two to eight
letters, and the further pieces are made of letters and digits, none of them empty.
Whatever stands in the further pieces, they never make a tag unreadable as long as
they have this form; the script and the region are taken from them where they fit.

Only `und` names the root locale in any mixture of small letters and capitals.  `C`
and `POSIX` name it as they stand: `c` is too short for a language, and `posix` is
the name of a language of its own.

Main results:

- Definition `Locale.IsLanguageTag`: the pieces that name a language.
- Theorem `Locale.exists_ofTag_iff`: which tags are read.
- Definition `Locale.IsMadeOf`: what the pieces of a tag make of a locale.
- Theorem `Locale.ofTag_grammar`: the tags that are read, and what their locales are
  made of.
-/

namespace TextTemplate.Locale

/-! ## Which tags are read -/

/-- The names of the root locale: `C` and `POSIX` as they stand, `und` in any mixture of
small letters and capitals. -/
def IsRootName (base : List Char) : Prop :=
  String.ofList base = "C" ∨ String.ofList base = "POSIX" ∨ lowercased base = "und"

/-- The tags of the root are those that name it. -/
theorem namesRoot_iff {base : List Char} : namesRoot base = true ↔ IsRootName base := by
  simp [namesRoot, IsRootName, lowercased, String.ofList_eq, or_assoc]

/-- The pieces of a tag that names a language: a first piece of two to eight letters, and
further pieces of letters and digits, none of them empty. -/
structure IsLanguageTag (first : List Char) (more : List (List Char)) : Prop where
  two_le_length : 2 ≤ first.length
  length_le_eight : first.length ≤ 8
  letters : ∀ c ∈ first, c.isAlpha = true
  nonempty : ∀ piece ∈ more, piece ≠ []
  alphanumeric : ∀ piece ∈ more, ∀ c ∈ piece, c.isAlphanum = true

/-- A tag of a language begins with one, and all of its subtags are plain. -/
theorem isLanguageTag_iff {first : List Char} {more : List (List Char)} :
    IsLanguageTag first more ↔
      isLanguage first = true ∧ ∀ piece ∈ more, isPlain piece = true := by
  simp only [isLanguage_iff, isPlain_iff]
  constructor
  · intro h
    exact ⟨⟨h.two_le_length, h.length_le_eight, h.letters⟩,
      fun piece hpiece => ⟨h.nonempty piece hpiece, h.alphanumeric piece hpiece⟩⟩
  · rintro ⟨⟨htwo, height, hletters⟩, hmore⟩
    exact ⟨htwo, height, hletters, fun piece hpiece => (hmore piece hpiece).1,
      fun piece hpiece => (hmore piece hpiece).2⟩

/-- A tag is read exactly when it names the root locale or its pieces name a language. -/
theorem exists_ofTag_iff (tag : String) :
    (∃ locale, ofTag tag = .ok locale) ↔
      IsRootName (base tag.toList) ∨
        IsLanguageTag (subtags (base tag.toList)).1 (subtags (base tag.toList)).2 := by
  simp only [ofTag_eq_ok_iff, read?_eq_some_iff, ← namesRoot_iff, isLanguageTag_iff,
    ← exists_readParts?_iff none none, Prod.exists]
  constructor
  · rintro ⟨locale, ⟨hroot, -⟩ | ⟨-, hlanguage, script, region, hparts, -⟩⟩
    · exact .inl hroot
    · exact .inr ⟨hlanguage, script, region, hparts⟩
  · intro haccepted
    by_cases hroot : namesRoot (base tag.toList) = true
    · exact ⟨root, .inl ⟨hroot, rfl⟩⟩
    · rcases haccepted.resolve_left hroot with ⟨hlanguage, script, region, hparts⟩
      exact ⟨_, .inr ⟨hroot, hlanguage, script, region, hparts, rfl⟩⟩

/-! ## The form of the names -/

/-- A capital and three small letters. -/
def IsScriptForm (name : String) : Prop :=
  ∃ c rest, name.toList = c :: rest ∧ rest.length = 3 ∧ c.isUpper = true ∧
    ∀ d ∈ rest, d.isLower = true

/-- Two capitals or three digits. -/
def IsRegionForm (name : String) : Prop :=
  (name.toList.length = 2 ∧ ∀ c ∈ name.toList, c.isUpper = true) ∨
    (name.toList.length = 3 ∧ ∀ c ∈ name.toList, c.isDigit = true)

theorem isLower_of_mem_lowercased {piece : List Char} (h : isLanguage piece = true) :
    ∀ c ∈ (lowercased piece).toList, c.isLower = true := by
  intro c hc
  rw [lowercased, String.toList_ofList, List.mem_map] at hc
  rcases hc with ⟨d, hd, rfl⟩
  rw [Char.isLower_toLower_eq_isAlpha]
  exact (isLanguage_iff.mp h).2.2 d hd

/-- A script in title case has the form of scripts. -/
theorem IsScriptPiece.isScriptForm {piece : List Char} (h : IsScriptPiece piece) :
    IsScriptForm (titlecased piece) := by
  rcases h with ⟨hlength, hletters⟩
  rcases piece with _ | ⟨c, rest⟩
  · contradiction
  · rw [isLetters, List.all_cons, Bool.and_eq_true, List.all_eq_true] at hletters
    refine ⟨c.toUpper, rest.map Char.toLower, String.toList_ofList, ?_, ?_, ?_⟩
    · rw [List.length_map]
      exact Nat.succ.inj hlength
    · rw [Char.isUpper_toUpper_eq_isAlpha]
      exact hletters.1
    · intro d hd
      rcases List.mem_map.mp hd with ⟨e, he, rfl⟩
      rw [Char.isLower_toLower_eq_isAlpha]
      exact hletters.2 e he

/-- A region in capitals has the form of regions. -/
theorem IsRegionPiece.isRegionForm {piece : List Char} (h : IsRegionPiece piece) :
    IsRegionForm (capitals piece) := by
  rcases h with ⟨hlength, hletters⟩ | ⟨hlength, hdigits⟩
  · refine .inl ⟨by rw [capitals, String.toList_ofList, List.length_map, hlength], ?_⟩
    intro c hc
    rw [capitals, String.toList_ofList, List.mem_map] at hc
    rcases hc with ⟨d, hd, rfl⟩
    rw [Char.isUpper_toUpper_eq_isAlpha]
    exact List.all_eq_true.mp hletters d hd
  · rw [capitals_of_isDigits hdigits]
    refine .inr ⟨by rw [String.toList_ofList, hlength], ?_⟩
    rw [String.toList_ofList]
    exact List.all_eq_true.mp hdigits

/-- What the pieces of a tag make of a locale: the first one is the language in small letters,
and the script and the region are each the normal form of a further piece. -/
structure IsMadeOf (locale : Locale) (first : List Char) (more : List (List Char)) : Prop where
  language : locale.language = some (lowercased first)
  small : ∀ c ∈ (lowercased first).toList, c.isLower = true
  script : ∀ name ∈ locale.script,
    IsScriptForm name ∧ ∃ piece ∈ more, name = titlecased piece
  region : ∀ name ∈ locale.region,
    IsRegionForm name ∧ ∃ piece ∈ more, name = capitals piece

/-- A language that is read is made of the pieces of its tag. -/
theorem isMadeOf_of_readParts? {first : List Char} {more : List (List Char)}
    {script region : Option String} (hlanguage : isLanguage first = true)
    (hparts : readParts? none none more = some (script, region)) :
    (tagged (lowercased first) script region).IsMadeOf first more := by
  rcases normal_forms_of_readParts? hparts with ⟨hscript, hregion⟩
  refine ⟨rfl, isLower_of_mem_lowercased hlanguage, ?_, ?_⟩
  · intro name hname
    rcases hscript name hname with ⟨piece, hpiece, hform, rfl⟩
    exact ⟨hform.isScriptForm, piece, hpiece, rfl⟩
  · intro name hname
    rcases hregion name hname with ⟨piece, hpiece, hform, rfl⟩
    exact ⟨hform.isRegionForm, piece, hpiece, rfl⟩

/-- The document of a normal locale is its tag in quotes. -/
theorem json_eq_quoted {locale : Locale} (hnormal : locale.IsNormal) :
    locale.json = "\"" ++ locale.tag ++ "\"" := by
  apply Json.encodeText_plain
  intro c hc
  rcases isAlphanum_or_hyphen_of_mem_tag hnormal c hc with halphanum | rfl
  · have hnumber := toNat_of_isAlphanum halphanum
    refine ⟨?_, ?_, by omega⟩ <;> rintro rfl <;> exact absurd halphanum (by decide)
  · decide

/-- A tag is read exactly when its base is a name of the root locale, or falls at the hyphens
and underscores into pieces that name a language.  The names of the root locale give that
locale, which has no language, script or region; any other tag gives a locale made of its
pieces.  Only the root locale counts as root, and tags are written in letters, digits and
hyphens, in documents between quotes. -/
theorem ofTag_grammar (tag : String) :
    let pieces := (base tag.toList).splitOnP isSeparator
    ((∃ locale, ofTag tag = .ok locale) ↔
        IsRootName (base tag.toList) ∨
          ∃ first more, pieces = first :: more ∧ IsLanguageTag first more) ∧
      (IsRootName (base tag.toList) →
        ofTag tag = .ok root ∧ root.language = none ∧ root.script = none ∧
          root.region = none) ∧
      ∀ locale, ofTag tag = .ok locale →
        (¬ IsRootName (base tag.toList) →
          ∃ first more, pieces = first :: more ∧ locale.IsMadeOf first more) ∧
        (locale.isRoot = true ↔ locale = root) ∧
        (∀ c ∈ locale.tag.toList, c.isAlphanum = true ∨ c = '-') ∧
        locale.json = "\"" ++ locale.tag ++ "\"" := by
  intro pieces
  have hpieces : pieces = (subtags (base tag.toList)).1 :: (subtags (base tag.toList)).2 :=
    splitOnP_isSeparator _
  refine ⟨(exists_ofTag_iff tag).trans (or_congr_right ?_), ?_, ?_⟩
  · constructor
    · intro htag
      exact ⟨_, _, hpieces, htag⟩
    · rintro ⟨first, more, hsame, htag⟩
      obtain ⟨rfl, rfl⟩ := List.cons.inj (hpieces.symm.trans hsame)
      exact htag
  · intro hname
    refine ⟨?_, rfl, rfl, rfl⟩
    exact ofTag_eq_ok_iff.mpr (read?_eq_some_iff.mpr (.inl ⟨namesRoot_iff.mpr hname, rfl⟩))
  · intro locale hlocale
    have hread := ofTag_eq_ok_iff.mp hlocale
    have hnormal := isNormal_of_read? hread
    refine ⟨?_, isRoot_iff, isAlphanum_or_hyphen_of_mem_tag hnormal, json_eq_quoted hnormal⟩
    intro hname
    rcases read?_eq_some_iff.mp hread with ⟨hroot, -⟩ | ⟨-, hlanguage, script, region, hparts, rfl⟩
    · exact absurd (namesRoot_iff.mp hroot) hname
    · exact ⟨_, _, hpieces, isMadeOf_of_readParts? hlanguage hparts⟩

/-- In small letters, `c` and `posix` are not names of the root locale: the one names nothing,
the other a language. -/
theorem ofTag_small_posix_names :
    lowercased (base "c".toList) = lowercased "C".toList ∧
      ofTag "c" = .error (.invalidLocale "c") ∧ (¬ ∃ locale, ofTag "c" = .ok locale) ∧
      lowercased (base "posix".toList) = lowercased "POSIX".toList ∧
      ofTag "posix" = .ok (tagged "posix" none none) ∧ tagged "posix" none none ≠ root := by
  have hrefused : ofTag "c" = .error (.invalidLocale "c") :=
    ofTag_eq_error_iff.mpr ⟨by decide, rfl⟩
  refine ⟨by decide, hrefused, ?_, by decide, ofTag_eq_ok_iff.mpr (by decide), nofun⟩
  rintro ⟨locale, hlocale⟩
  rw [hrefused] at hlocale
  contradiction

end TextTemplate.Locale
