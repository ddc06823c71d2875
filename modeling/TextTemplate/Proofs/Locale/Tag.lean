import TextTemplate.Locale.Tag
import TextTemplate.Proofs.Document.Json.Text
import TextTemplate.Proofs.Locale.LetterCase

/-!
# Tags that are read back

The tag of a locale is its normal form, so reading it should give the locale
again.  It does for every locale but one.  A tag whose language is `und` and
whose other subtags are all passed over, such as `und-x`, gives a locale with
the language `und` and nothing else; the tag of this locale is `und`, and that
tag is a name of the root locale.

The proof describes the locales that can be read by the form of their names.
The language, the script and the region each have a form that reading produces
and that reading leaves alone.

Main results:

- Definition `Locale.IsNormal`: the names of a locale are in the form of tags.
- Theorem `Locale.exists_read?_iff`: these are the locales that some tag names.
- Theorem `Locale.read?_tag`: a tag is read back as its locale, unless the locale
  is `Locale.undetermined`.
- Theorem `Locale.read?_eq_undetermined_iff`: the tags of that one locale.
- Theorem `Locale.tag_round_trip`: reading back, as a tag and as a document; the
  locales that share a tag, and those with the tag `und`.
-/

namespace TextTemplate.Locale

/-! ## Subtags joined by hyphens -/

/-- Nothing is cut off a text of letters, digits and hyphens. -/
theorem base_eq_self {text : List Char} (h : ∀ c ∈ text, c.isAlphanum = true ∨ c = '-') :
    base text = text := by
  have hblank : ∀ c ∈ text, Text.isBlank c = false := by
    intro c hc
    rcases h c hc with halphanum | rfl
    · exact isBlank_of_isAlphanum halphanum
    · decide
  have hends : ∀ c ∈ text, (c != '.' && c != '@') = true := by
    intro c hc
    rcases h c hc with halphanum | rfl
    · simp only [Bool.and_eq_true, bne_iff_ne]
      constructor <;> rintro rfl <;> exact absurd halphanum (by decide)
    · decide
  rw [base, List.takeWhile_eq_self_iff.mpr hends, Text.trim_eq_self hblank]

/-- A first subtag and more of them, with hyphens in between. -/
def hyphenated (first : List Char) (more : List (List Char)) : List Char :=
  first ++ more.flatMap ('-' :: ·)

/-- Subtags without separators are found again between the hyphens. -/
theorem subtags_hyphenated {first : List Char} {more : List (List Char)}
    (hfirst : ∀ c ∈ first, isSeparator c = false)
    (hmore : ∀ subtag ∈ more, ∀ c ∈ subtag, isSeparator c = false) :
    subtags (hyphenated first more) = (first, more) := by
  induction more generalizing first with
  | nil => simpa [hyphenated, subtags] using subtags_append hfirst []
  | cons subtag more ih =>
      rw [List.forall_mem_cons] at hmore
      have hrest : subtags ('-' :: hyphenated subtag more) = ([], subtag :: more) := by
        simp [subtags, ih hmore.1 hmore.2, isSeparator]
      have happend := subtags_append hfirst ('-' :: hyphenated subtag more)
      rw [hrest, List.append_nil] at happend
      simpa [hyphenated] using happend

/-- A text with one subtag is that subtag. -/
theorem fst_subtags_of_snd_eq_nil {text : List Char} (h : (subtags text).2 = []) :
    (subtags text).1 = text := by
  induction text with
  | nil => rfl
  | cons c rest ih =>
      simp only [subtags] at h ⊢
      split at h <;> simp_all

/-! ## The form of the names -/

/-- A language as tags write it: two to eight small letters. -/
def IsLanguageName (name : String) : Prop :=
  isLanguage name.toList = true ∧ lowercased name.toList = name

/-- A script as tags write it: four letters, the first one a capital. -/
def IsScriptName (name : String) : Prop :=
  name.toList.length = 4 ∧ isLetters name.toList = true ∧ titlecased name.toList = name

/-- A region as tags write it: two capitals or three digits. -/
def IsRegionName (name : String) : Prop :=
  (name.toList.length = 2 ∧ isLetters name.toList = true ∧ capitals name.toList = name) ∨
    (name.toList.length = 3 ∧ isDigits name.toList = true)

/-- The locales whose names have the form in which tags write them. -/
def IsNormal : Locale → Prop
  | root => True
  | tagged language script region =>
      IsLanguageName language ∧ (∀ name ∈ script, IsScriptName name) ∧
        ∀ name ∈ region, IsRegionName name

/-- The language that is kept has the form of one. -/
theorem isLanguageName_lowercased {subtag : List Char} (h : isLanguage subtag = true) :
    IsLanguageName (lowercased subtag) := by
  refine ⟨by rwa [isLanguage_lowercased], ?_⟩
  simp [lowercased, Function.comp_def]

/-- The script that is kept has the form of one. -/
theorem isScriptName_titlecased {subtag : List Char} (hlength : subtag.length = 4)
    (hletters : isLetters subtag = true) : IsScriptName (titlecased subtag) := by
  cases subtag with
  | nil => contradiction
  | cons c rest =>
      simp only [isLetters, List.all_cons, Bool.and_eq_true] at hletters
      refine ⟨by simpa [titlecased] using hlength, ?_, by simp [titlecased, Function.comp_def]⟩
      simpa [titlecased, isLetters] using hletters

/-- The region that is kept of two letters has the form of one. -/
theorem isRegionName_capitals {subtag : List Char} (hlength : subtag.length = 2)
    (hletters : isLetters subtag = true) : IsRegionName (capitals subtag) := by
  refine .inl ⟨by simpa [capitals] using hlength, ?_, by simp [capitals, Function.comp_def]⟩
  simpa [capitals, isLetters_map Char.isAlpha_toUpper_eq_isAlpha] using hletters

/-- The region that is kept has the form of one. -/
theorem IsRegionPiece.isRegionName {piece : List Char} (h : IsRegionPiece piece) :
    IsRegionName (capitals piece) := by
  rcases h with ⟨hlength, hletters⟩ | ⟨hlength, hdigits⟩
  · exact isRegionName_capitals hlength hletters
  · rw [capitals_of_isDigits hdigits]
    exact .inr ⟨by rwa [String.toList_ofList], by rwa [String.toList_ofList]⟩

/-- What is read of the subtags after the language has the form of names. -/
theorem names_of_readParts? {subtags : List (List Char)} {script region : Option String}
    (hread : readParts? none none subtags = some (script, region)) :
    (∀ name ∈ script, IsScriptName name) ∧ ∀ name ∈ region, IsRegionName name := by
  rcases normal_forms_of_readParts? hread with ⟨hscript, hregion⟩
  constructor
  · intro name hname
    rcases hscript name hname with ⟨piece, -, hpiece, rfl⟩
    exact isScriptName_titlecased hpiece.1 hpiece.2
  · intro name hname
    rcases hregion name hname with ⟨piece, -, hpiece, rfl⟩
    exact hpiece.isRegionName

/-- A locale that is read has names in the form of tags. -/
theorem isNormal_of_read? {tag : String} {locale : Locale} (hread : read? tag = some locale) :
    locale.IsNormal := by
  rcases read?_eq_some_iff.mp hread with ⟨-, rfl⟩ | ⟨-, hlanguage, script, region, hparts, rfl⟩
  · trivial
  · exact ⟨isLanguageName_lowercased hlanguage, names_of_readParts? hparts⟩

/-! ## Reading a tag back -/

/-- The names behind the language. -/
def namesOf (script region : Option String) : List (List Char) :=
  (script.toList ++ region.toList).map String.toList

/-- A tag is its names with hyphens in between. -/
theorem toList_tag (language : String) (script region : Option String) :
    (tagged language script region).tag.toList =
      hyphenated language.toList (namesOf script region) := by
  cases script <;> cases region <;> simp [tag, partText, hyphenated, namesOf]

/-- The names of a normal locale are made of letters and digits. -/
theorem isAlphanum_of_isNormal {language : String} {script region : Option String}
    (hnormal : (tagged language script region).IsNormal) :
    ∀ name ∈ language.toList :: namesOf script region, ∀ c ∈ name, c.isAlphanum = true := by
  obtain ⟨⟨hlanguage, _⟩, hscript, hregion⟩ := hnormal
  intro name hname
  simp only [namesOf, List.map_append, List.mem_cons, List.mem_append, List.mem_map,
    Option.mem_toList] at hname
  rcases hname with rfl | ⟨name, hname, rfl⟩ | ⟨name, hname, rfl⟩
  · simp only [isLanguage, Bool.and_eq_true] at hlanguage
    exact isAlphanum_of_isLetters hlanguage.2
  · exact isAlphanum_of_isLetters (hscript name hname).2.1
  · rcases hregion name hname with ⟨_, hletters, _⟩ | ⟨_, hdigits⟩
    · exact isAlphanum_of_isLetters hletters
    · exact isAlphanum_of_isDigits hdigits

/-- The tag of a normal locale is made of letters, digits and hyphens. -/
theorem isAlphanum_or_hyphen_of_mem_tag {locale : Locale} (hnormal : locale.IsNormal) :
    ∀ c ∈ locale.tag.toList, c.isAlphanum = true ∨ c = '-' := by
  cases locale with
  | root => simp [tag, Char.isAlphanum]
  | tagged language script region =>
      have halphanum := isAlphanum_of_isNormal hnormal
      intro c hc
      simp only [toList_tag, hyphenated, List.mem_append, List.mem_flatMap, List.mem_cons] at hc
      rcases hc with hc | ⟨name, hname, rfl | hc⟩
      · exact .inl (halphanum _ List.mem_cons_self c hc)
      · exact .inr rfl
      · exact .inl (halphanum _ (List.mem_cons_of_mem _ hname) c hc)

/-- The names of a normal locale are read as they are written. -/
theorem readParts?_namesOf {script region : Option String}
    (hscript : ∀ name ∈ script, IsScriptName name)
    (hregion : ∀ name ∈ region, IsRegionName name) :
    readParts? none none (namesOf script region) = some (script, region) := by
  have hlast : ∀ script, readParts? script none (region.toList.map String.toList) =
      some (script, region) := by
    intro script
    cases region with
    | none => rfl
    | some name =>
        rcases hregion name rfl with ⟨hlength, hletters, hcapitals⟩ | ⟨hlength, hdigits⟩
        · simp [readParts?, hlength, hletters, hcapitals]
        · simp [readParts?, hlength, hdigits]
  cases script with
  | none => simpa [namesOf] using hlast none
  | some name =>
      obtain ⟨hlength, hletters, htitle⟩ := hscript name rfl
      simpa [namesOf, readParts?, hlength, hletters, htitle] using hlast (some name)

/-- The locale of the language `und` without script and region.  It is not the root
locale, but has its tag. -/
def undetermined : Locale := tagged "und" none none

/-- A name of the root locale has no separators. -/
theorem isSeparator_of_namesRoot {text : List Char} (h : namesRoot text = true) :
    ∀ c ∈ text, isSeparator c = false := by
  simp only [namesRoot, Bool.or_eq_true, beq_iff_eq] at h
  rcases h with (rfl | rfl) | hund
  · simp [isSeparator]
  · simp [isSeparator]
  · intro c hc
    have hmem : c.toLower ∈ ['u', 'n', 'd'] := hund ▸ List.mem_map_of_mem hc
    by_contra hseparator
    simp only [isSeparator, Bool.not_eq_false, Bool.or_eq_true, beq_iff_eq] at hseparator
    rcases hseparator with rfl | rfl <;> exact absurd hmem (by decide)

/-- The tag of a locale with a language names the root locale only if it is `und`. -/
theorem namesRoot_tag_iff {language : String} {script region : Option String}
    (hnormal : (tagged language script region).IsNormal) :
    namesRoot (tagged language script region).tag.toList = true ↔
      tagged language script region = undetermined := by
  constructor
  · intro hroot
    have hseparator := isSeparator_of_namesRoot hroot
    rw [toList_tag] at hroot hseparator
    -- A hyphen would separate, so there are no names behind the language.
    have hnames : namesOf script region = [] := by
      cases hnames : namesOf script region with
      | nil => rfl
      | cons name names =>
          have := hseparator '-' (by simp [hnames, hyphenated])
          contradiction
    have hnone : script = none ∧ region = none := by
      cases script <;> cases region <;> simp_all [namesOf]
    obtain ⟨rfl, rfl⟩ := hnone
    obtain ⟨⟨hlanguage, hlower⟩, _⟩ := hnormal
    rw [lowercased] at hlower
    simp only [hyphenated, hnames, List.flatMap_nil, List.append_nil, namesRoot,
      Bool.or_eq_true, beq_iff_eq] at hroot
    rcases hroot with (hc | hposix) | hund
    · rw [hc] at hlanguage
      exact absurd hlanguage (by decide)
    · rw [hposix] at hlower
      have hsmall : language.toList = ['p', 'o', 's', 'i', 'x'] := by rw [← hlower]; rfl
      exact absurd (hposix.symm.trans hsmall) (by decide)
    · rw [hund] at hlower
      rw [undetermined, ← hlower]
  · intro heq
    rw [heq]
    rfl

/-- A tag is read back as its locale. -/
theorem read?_tag {locale : Locale} (hnormal : locale.IsNormal)
    (hund : locale ≠ undetermined) : read? locale.tag = some locale := by
  cases locale with
  | root => rfl
  | tagged language script region =>
      have halphanum := isAlphanum_of_isNormal hnormal
      have hbase := base_eq_self (isAlphanum_or_hyphen_of_mem_tag hnormal)
      have hsubtags : subtags (tagged language script region).tag.toList =
          (language.toList, namesOf script region) := by
        rw [List.forall_mem_cons] at halphanum
        rw [toList_tag]
        exact subtags_hyphenated (fun c hc => isSeparator_of_isAlphanum (halphanum.1 c hc))
          fun name hname c hc => isSeparator_of_isAlphanum (halphanum.2 name hname c hc)
      have hroot := (namesRoot_tag_iff hnormal).not.mpr hund
      obtain ⟨⟨hlanguage, hlower⟩, hscript, hregion⟩ := hnormal
      simp [read?, hbase, hroot, hsubtags, hlanguage, hlower,
        readParts?_namesOf hscript hregion]

/-- The locales that some tag names are those with names in the form of tags. -/
theorem exists_read?_iff {locale : Locale} :
    (∃ tag, read? tag = some locale) ↔ locale.IsNormal := by
  constructor
  · rintro ⟨tag, hread⟩
    exact isNormal_of_read? hread
  · intro hnormal
    by_cases hund : locale = undetermined
    · exact ⟨"und-x", by rw [hund]; decide⟩
    · exact ⟨locale.tag, read?_tag hnormal hund⟩

/-- Reading the document of a locale is reading its tag. -/
theorem ofJson?_json (locale : Locale) : ofJson? locale.json = read? locale.tag := by
  simp [ofJson?, json, Json.read?_encodeText, Value.text?]

/-- Of the locales that have a language, only one has the tag of the root locale. -/
theorem tag_eq_und_iff {locale : Locale} (hnormal : locale.IsNormal) :
    locale.tag = "und" ↔ locale = root ∨ locale = undetermined := by
  constructor
  · intro htag
    by_cases hund : locale = undetermined
    · exact .inr hund
    · have hread := read?_tag hnormal hund
      rw [htag] at hread
      have hroot : read? "und" = some root := by decide
      exact .inl (Option.some.inj (hread.symm.trans hroot))
  · rintro (rfl | rfl) <;> rfl

/-! ## The tags of the undetermined language -/

/-- A subtag that is neither the script nor the region, wherever it stands. -/
def IsPassedOver (subtag : List Char) : Prop :=
  isPlain subtag = true ∧ ¬(subtag.length = 4 ∧ isLetters subtag = true) ∧
    ¬(subtag.length = 2 ∧ isLetters subtag = true) ∧
    ¬(subtag.length = 3 ∧ isDigits subtag = true)

/-- A script or region that has been read stays. -/
theorem readParts?_keeps {subtags : List (List Char)}
    {script region readScript readRegion : Option String}
    (hread : readParts? script region subtags = some (readScript, readRegion)) :
    (readScript = none → script = none) ∧ (readRegion = none → region = none) := by
  fun_induction readParts? script region subtags with
  | case1 => simp_all
  | case2 _ _ _ _ hcase ih => exact ⟨fun h => by simpa using (ih hread).1 h, (ih hread).2⟩
  | case3 _ _ _ _ _ hcase ih => exact ⟨(ih hread).1, fun h => by simpa using (ih hread).2 h⟩
  | case4 _ _ _ _ _ _ hcase ih => exact ⟨(ih hread).1, fun h => by simpa using (ih hread).2 h⟩
  | case5 _ _ _ _ _ _ _ _ ih => exact ih hread
  | case6 => contradiction

/-- Neither script nor region is read exactly when all subtags are passed over. -/
theorem readParts?_eq_none_none_iff {subtags : List (List Char)} :
    readParts? none none subtags = some (none, none) ↔
      ∀ subtag ∈ subtags, IsPassedOver subtag := by
  induction subtags with
  | nil => simp [readParts?]
  | cons subtag rest ih =>
      rw [List.forall_mem_cons, ← ih, readParts?]
      constructor
      · intro hread
        split at hread
        · simpa using (readParts?_keeps hread).1 rfl
        next hscript =>
          split at hread
          · simpa using (readParts?_keeps hread).2 rfl
          next hletters =>
            split at hread
            · simpa using (readParts?_keeps hread).2 rfl
            next hdigits =>
              split at hread
              next hplain =>
                simp only [and_true] at hscript hletters hdigits
                exact ⟨⟨hplain, hscript, hletters, hdigits⟩, hread⟩
              · contradiction
      · rintro ⟨⟨hplain, hscript, hletters, hdigits⟩, hread⟩
        simp only [and_true, hscript, hletters, hdigits, hplain, if_true, if_false, hread]

/-- The tags that are read as the undetermined language: `und` in small letters or
capitals, and behind it at least one subtag and none that is not passed over. -/
theorem read?_eq_undetermined_iff {tag : String} :
    read? tag = some undetermined ↔
      lowercased (subtags (base tag.toList)).1 = "und" ∧ (subtags (base tag.toList)).2 ≠ [] ∧
        ∀ subtag ∈ (subtags (base tag.toList)).2, IsPassedOver subtag := by
  rw [← readParts?_eq_none_none_iff]
  constructor
  · intro hread
    rcases read?_eq_some_iff.mp hread with ⟨-, hnone⟩ | ⟨hroot, -, script, region, hparts, hlocale⟩
    · contradiction
    · rw [undetermined, tagged.injEq] at hlocale
      obtain ⟨hlower, rfl, rfl⟩ := hlocale
      refine ⟨hlower.symm, ?_, hparts⟩
      -- A lone `und` would have named the root locale.
      intro hnil
      rw [fst_subtags_of_snd_eq_nil hnil, lowercased, eq_comm, String.ofList_eq] at hlower
      simp [namesRoot, hlower] at hroot
  · rintro ⟨hlower, hmore, hparts⟩
    have hroot : ¬namesRoot (base tag.toList) = true := by
      intro hroot
      have halone := subtags_append (isSeparator_of_namesRoot hroot) []
      rw [List.append_nil] at halone
      exact hmore (congrArg Prod.snd halone)
    have hlanguage : isLanguage (subtags (base tag.toList)).1 = true := by
      rw [← isLanguage_lowercased, hlower]
      decide
    exact read?_eq_some_iff.mpr (.inr ⟨hroot, hlanguage, none, none, hparts, by
      rw [hlower, undetermined]⟩)

/-! ## The round trip -/

/-- A locale that was read from a tag is read again from its own tag and from its
document, unless it is the undetermined language: that is read as the root locale.
The root locale and the undetermined language share the tag `und`, and no other
locales share a tag. -/
theorem tag_round_trip {tag : String} {locale : Locale} (hread : read? tag = some locale) :
    (locale ≠ undetermined →
      read? locale.tag = some locale ∧ ofJson? locale.json = some locale) ∧
    (locale = undetermined →
      read? locale.tag = some root ∧ ofJson? locale.json = some root) ∧
    (∀ otherTag other, read? otherTag = some other → other.tag = locale.tag →
      other ≠ undetermined → locale ≠ undetermined → other = locale) ∧
    (locale.tag = "und" ↔ locale = root ∨ locale = undetermined) := by
  have hnormal := isNormal_of_read? hread
  simp only [ofJson?_json, and_self]
  refine ⟨read?_tag hnormal, ?_, ?_, tag_eq_und_iff hnormal⟩
  · rintro rfl
    decide
  · intro otherTag other hother htag hotherUnd hund
    have hback := read?_tag (isNormal_of_read? hother) hotherUnd
    rw [htag, read?_tag hnormal hund] at hback
    exact (Option.some.inj hback).symm

/-- A tag in mixed capitals with an encoding, and the tag of its locale. -/
theorem tag_round_trip_az_latn_az :
    read? "AZ_latn_az.UTF-8" = some (tagged "az" (some "Latn") (some "AZ")) ∧
      read? "az-Latn-AZ" = some (tagged "az" (some "Latn") (some "AZ")) ∧
      ofJson? (Json.encodeText "az-Latn-AZ") = some (tagged "az" (some "Latn") (some "AZ")) := by
  have hread : read? "AZ_latn_az.UTF-8" = some (tagged "az" (some "Latn") (some "AZ")) := by
    decide
  exact ⟨hread, (tag_round_trip hread).1 (by decide)⟩

/-- The tag `und-x` names a locale that is not the root locale but is read back as it. -/
theorem undetermined_read_as_root :
    read? "und-x" = some undetermined ∧ undetermined ≠ root ∧
      undetermined.tag = root.tag ∧ read? undetermined.tag = some root ∧
      ofJson? undetermined.json = some root := by
  rw [ofJson?_json]
  decide

end TextTemplate.Locale
