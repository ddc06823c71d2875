import TextTemplate.Proofs.Locale.Grammar
import TextTemplate.Proofs.Text.Blank

/-!
# Subtags behind a tag

Extensions and private parts of a language tag stand behind a subtag of one character,
as in `en-u-ca-buddhist`.  Reading knows nothing of such a subtag: it passes over it, and
looks at the subtags behind it like at any others.  So the calendar key `ca` is taken for
a region, and a private subtag of four letters for a script, wherever the tag in front
leaves the region or the script open.

The proof reads a list of pieces in one equation, first for pieces alone and then for
pieces behind others.  On texts it has to be shown that subtags put behind a tag are found
behind its own subtags; this fails for a tag that ends in a blank, because the blank is
then no longer at the end and is not cut off.

Main results:

- Theorem `Locale.readParts?_of_isPlain`: the script and the region that are read of pieces.
- Theorem `Locale.readParts?_append`: pieces behind others.
- Theorem `Locale.read?_extended`: what a tag with further subtags is read as.
- Theorem `Locale.ofTag_extension`: which extensions of a tag are read, and when they
  change its locale.
- Theorem `Locale.ofTag_calendar_key`: extensions that do.
-/

namespace TextTemplate

namespace Locale

/-! ## Pieces behind pieces -/

/-- Later pieces are read with the script and the region found before them. -/
theorem readParts?_append (script region : Option String) (pieces more : List (List Char)) :
    readParts? script region (pieces ++ more) =
      (readParts? script region pieces).bind fun names => readParts? names.1 names.2 more := by
  fun_induction readParts? script region pieces with
  | case1 script region => rfl
  | case2 script region piece rest hcase ih => rw [List.cons_append, readParts?, if_pos hcase, ih]
  | case3 script region piece rest hscript hcase ih =>
      rw [List.cons_append, readParts?, if_neg hscript, if_pos hcase, ih]
  | case4 script region piece rest hscript hletters hcase ih =>
      rw [List.cons_append, readParts?, if_neg hscript, if_neg hletters, if_pos hcase, ih]
  | case5 script region piece rest hscript hletters hdigits hplain ih =>
      rw [List.cons_append, readParts?, if_neg hscript, if_neg hletters, if_neg hdigits,
        if_pos hplain, ih]
  | case6 script region piece rest hscript hletters hdigits hplain =>
      rw [List.cons_append, readParts?, if_neg hscript, if_neg hletters, if_neg hdigits,
        if_neg hplain]
      rfl

/-! ## Names among pieces -/

instance : DecidablePred IsScriptPiece := fun _ => inferInstanceAs (Decidable (_ ∧ _))

instance : DecidablePred IsRegionPiece := fun _ => inferInstanceAs (Decidable (_ ∨ _))

/-- The region among some pieces: the first piece that can be one. -/
def regionAmong (pieces : List (List Char)) : Option String :=
  (pieces.find? fun piece => IsRegionPiece piece).map capitals

/-- The script among some pieces: the first piece that can be one, if no region stands before
it. -/
def scriptAmong (pieces : List (List Char)) : Option String :=
  ((pieces.takeWhile fun piece => ¬ IsRegionPiece piece).find? fun piece => IsScriptPiece piece).map
    titlecased

theorem IsScriptPiece.not_isRegionPiece {piece : List Char} (h : IsScriptPiece piece) :
    ¬ IsRegionPiece piece := by
  rintro (⟨hlength, -⟩ | ⟨hlength, -⟩) <;> rw [h.1] at hlength <;> contradiction

theorem regionAmong_cons (piece : List Char) (rest : List (List Char)) :
    regionAmong (piece :: rest) =
      if IsRegionPiece piece then some (capitals piece) else regionAmong rest := by
  by_cases hregion : IsRegionPiece piece <;> simp [regionAmong, hregion]

theorem scriptAmong_cons (piece : List Char) (rest : List (List Char)) :
    scriptAmong (piece :: rest) =
      if IsRegionPiece piece then none
      else if IsScriptPiece piece then some (titlecased piece) else scriptAmong rest := by
  by_cases hregion : IsRegionPiece piece
  · simp [scriptAmong, hregion]
  · by_cases hscript : IsScriptPiece piece <;> simp [scriptAmong, hregion, hscript]

/-- The script that is known behind some pieces: the one known before them, or else one among
them, unless a region stands before it. -/
def scriptAfter (script region : Option String) (pieces : List (List Char)) : Option String :=
  script.or (if region = none then scriptAmong pieces else none)

/-- The region that is known behind some pieces: the one known before them, or else the first
one among them. -/
def regionAfter (region : Option String) (pieces : List (List Char)) : Option String :=
  region.or (regionAmong pieces)

/-- What is read of pieces that can be read. -/
theorem readParts?_of_isPlain {pieces : List (List Char)}
    (hplain : ∀ piece ∈ pieces, isPlain piece = true) (script region : Option String) :
    readParts? script region pieces =
      some (scriptAfter script region pieces, regionAfter region pieces) := by
  fun_induction readParts? script region pieces with
  | case1 script region => simp [scriptAfter, regionAfter, scriptAmong, regionAmong]
  | case2 script region piece rest hcase ih =>
      rw [List.forall_mem_cons] at hplain
      obtain ⟨hlength, hletters, rfl, rfl⟩ := hcase
      have hscript : IsScriptPiece piece := ⟨hlength, hletters⟩
      rw [ih hplain.2]
      simp [scriptAfter, regionAfter, scriptAmong_cons, regionAmong_cons, hscript,
        hscript.not_isRegionPiece]
  | case3 script region piece rest _ hcase ih =>
      rw [List.forall_mem_cons] at hplain
      obtain ⟨hlength, hletters, rfl⟩ := hcase
      have hregion : IsRegionPiece piece := .inl ⟨hlength, hletters⟩
      rw [ih hplain.2]
      simp [scriptAfter, regionAfter, scriptAmong_cons, regionAmong_cons, hregion]
  | case4 script region piece rest _ _ hcase ih =>
      rw [List.forall_mem_cons] at hplain
      obtain ⟨hlength, hdigits, rfl⟩ := hcase
      have hregion : IsRegionPiece piece := .inr ⟨hlength, hdigits⟩
      rw [ih hplain.2]
      simp [scriptAfter, regionAfter, scriptAmong_cons, regionAmong_cons, hregion,
        capitals_of_isDigits hdigits]
  | case5 script region piece rest hscript hletters hdigits _ ih =>
      rw [List.forall_mem_cons] at hplain
      rw [ih hplain.2]
      cases region with
      | some region => simp [scriptAfter, regionAfter]
      | none =>
          have hregion : ¬ IsRegionPiece piece := by
            rintro (hpiece | hpiece)
            · exact hletters ⟨hpiece.1, hpiece.2, rfl⟩
            · exact hdigits ⟨hpiece.1, hpiece.2, rfl⟩
          cases script with
          | some script => simp [scriptAfter, regionAfter, regionAmong_cons, hregion]
          | none =>
              have hnot : ¬ IsScriptPiece piece := fun hpiece =>
                hscript ⟨hpiece.1, hpiece.2, rfl, rfl⟩
              simp [scriptAfter, regionAfter, scriptAmong_cons, regionAmong_cons, hregion, hnot]
  | case6 script region piece rest _ _ _ hnot => exact absurd (hplain piece List.mem_cons_self) hnot

/-- A single character is neither a script nor a region. -/
theorem scriptAfter_singleton_cons (script region : Option String) (c : Char)
    (more : List (List Char)) :
    scriptAfter script region ([c] :: more) = scriptAfter script region more := by
  have hscript : ¬ IsScriptPiece [c] := fun h => absurd h.1 (by simp)
  have hregion : ¬ IsRegionPiece [c] := by simp [IsRegionPiece]
  rw [scriptAfter, scriptAmong_cons, if_neg hregion, if_neg hscript, scriptAfter]

theorem regionAfter_singleton_cons (region : Option String) (c : Char) (more : List (List Char)) :
    regionAfter region ([c] :: more) = regionAfter region more := by
  have hregion : ¬ IsRegionPiece [c] := by simp [IsRegionPiece]
  rw [regionAfter, regionAmong_cons, if_neg hregion, regionAfter]

/-- No region is found among pieces that cannot be one, and conversely. -/
theorem regionAmong_eq_none_iff {pieces : List (List Char)} :
    regionAmong pieces = none ↔ ∀ piece ∈ pieces, ¬ IsRegionPiece piece := by
  simp only [regionAmong, Option.map_eq_none_iff, List.find?_eq_none, decide_eq_true_eq]

/-- Where no region stands, no script is found among pieces that cannot be one, and conversely. -/
theorem scriptAmong_eq_none_iff {pieces : List (List Char)}
    (hregion : ∀ piece ∈ pieces, ¬ IsRegionPiece piece) :
    scriptAmong pieces = none ↔ ∀ piece ∈ pieces, ¬ IsScriptPiece piece := by
  have hall : (pieces.takeWhile fun piece => ¬ IsRegionPiece piece) = pieces :=
    List.takeWhile_eq_self_iff.mpr fun piece hpiece => decide_eq_true (hregion piece hpiece)
  simp only [scriptAmong, hall, Option.map_eq_none_iff, List.find?_eq_none, decide_eq_true_eq]

/-- Pieces change neither the script nor the region when the region is known, or when none of
them can be a region and none that can be a script meets an unknown one. -/
theorem names_after_eq_self_iff {script region : Option String} {pieces : List (List Char)} :
    scriptAfter script region pieces = script ∧ regionAfter region pieces = region ↔
      (region = none → (∀ piece ∈ pieces, ¬ IsRegionPiece piece) ∧
        (script = none → ∀ piece ∈ pieces, ¬ IsScriptPiece piece)) := by
  cases region with
  | some region => simp [scriptAfter, regionAfter]
  | none =>
      have hregion : regionAfter none pieces = none ↔ ∀ piece ∈ pieces, ¬ IsRegionPiece piece := by
        rw [regionAfter, Option.none_or, regionAmong_eq_none_iff]
      rw [hregion, and_comm, forall_prop_of_true rfl]
      refine and_congr_right fun hnone => ?_
      cases script with
      | some script => simp [scriptAfter]
      | none =>
          rw [scriptAfter, Option.none_or, if_pos rfl, scriptAmong_eq_none_iff hnone,
            forall_prop_of_true rfl]

/-! ## Subtags behind a tag -/

/-- The base of a tag without encoding and modifier is the tag without blanks around it. -/
theorem base_eq_trim {text : List Char} (h : ∀ c ∈ text, c ≠ '.' ∧ c ≠ '@') :
    base text = Text.trim text := by
  have hends : ∀ c ∈ text, (c != '.' && c != '@') = true := by
    intro c hc
    rw [Bool.and_eq_true, bne_iff_ne, bne_iff_ne]
    exact h c hc
  rw [base, List.takeWhile_eq_self_iff.mpr hends]

/-- The subtags behind a hyphen follow those in front of it. -/
theorem subtags_append_hyphen (text rest : List Char) :
    subtags (text ++ '-' :: rest) =
      ((subtags text).1, (subtags text).2 ++ (subtags rest).1 :: (subtags rest).2) := by
  induction text with
  | nil => rfl
  | cons c text ih =>
      simp only [List.cons_append, subtags, ih]
      split <;> rfl

/-- A character that separates nothing belongs to a subtag. -/
theorem exists_subtag_of_mem {text : List Char} {c : Char} (hc : c ∈ text)
    (hseparator : isSeparator c = false) :
    ∃ piece ∈ (subtags text).1 :: (subtags text).2, c ∈ piece := by
  induction text with
  | nil => contradiction
  | cons d text ih =>
      simp only [subtags]
      rcases List.mem_cons.mp hc with rfl | hmem
      · rw [hseparator]
        exact ⟨_, List.mem_cons_self, List.mem_cons_self⟩
      · rcases ih hmem with ⟨piece, hpiece, hcpiece⟩
        split
        · exact ⟨piece, List.mem_cons_of_mem _ hpiece, hcpiece⟩
        · rcases List.mem_cons.mp hpiece with rfl | hpiece
          · exact ⟨_, List.mem_cons_self, List.mem_cons_of_mem _ hcpiece⟩
          · exact ⟨piece, List.mem_cons_of_mem _ hpiece, hcpiece⟩

/-- The base of a tag that names a language is made of letters, digits and separators. -/
theorem isAlphanum_of_isLanguageTag {text : List Char} {c : Char}
    (htag : IsLanguageTag (subtags text).1 (subtags text).2) (hc : c ∈ text)
    (hseparator : isSeparator c = false) : c.isAlphanum = true := by
  rcases exists_subtag_of_mem hc hseparator with ⟨piece, hpiece, hcpiece⟩
  rcases List.mem_cons.mp hpiece with rfl | hpiece
  · exact isAlphanum_of_isAlpha (htag.letters c hcpiece)
  · exact htag.alphanumeric piece hpiece c hcpiece

/-- A tag with further subtags behind it, a hyphen before each. -/
def extended (tag : String) (more : List (List Char)) : String :=
  String.ofList (hyphenated tag.toList more)

/-- The tag ends with a blank. -/
def EndsInBlank (tag : String) : Prop := ∃ c ∈ tag.toList.getLast?, Text.isBlank c = true

section Extended

variable {tag : String} {piece : List Char} {more : List (List Char)}

/-- What stands behind the tag are letters, digits and hyphens. -/
theorem isAlphanum_or_hyphen_of_mem_flatMap {pieces : List (List Char)}
    (hplain : ∀ piece ∈ pieces, isPlain piece = true) :
    ∀ c ∈ pieces.flatMap ('-' :: ·), c.isAlphanum = true ∨ c = '-' := by
  intro c hc
  simp only [List.mem_flatMap, List.mem_cons] at hc
  rcases hc with ⟨piece, hpiece, rfl | hc⟩
  · exact .inr rfl
  · exact .inl ((isPlain_iff.mp (hplain piece hpiece)).2 c hc)

/-- The base of an extended tag: only the blanks in front of the tag are cut off. -/
theorem base_extended (hends : ∀ c ∈ tag.toList, c ≠ '.' ∧ c ≠ '@')
    (hplain : ∀ subtag ∈ piece :: more, isPlain subtag = true) :
    base (extended tag (piece :: more)).toList =
      hyphenated (tag.toList.dropWhile Text.isBlank) (piece :: more) := by
  have hbehind := isAlphanum_or_hyphen_of_mem_flatMap hplain
  have hblank : ∀ c ∈ (piece :: more).flatMap ('-' :: ·), Text.isBlank c = false := by
    intro c hc
    rcases hbehind c hc with halphanum | rfl
    · exact isBlank_of_isAlphanum halphanum
    · decide
  rw [extended, String.toList_ofList, hyphenated, base_eq_trim, Text.trim_append _ hblank,
    hyphenated]
  · exact List.cons_ne_nil _ _
  · intro c hc
    rcases List.mem_append.mp hc with hc | hc
    · exact hends c hc
    · rcases hbehind c hc with halphanum | rfl
      · constructor <;> rintro rfl <;> exact absurd halphanum (by decide)
      · decide

/-- Further subtags without separators follow those of the text. -/
theorem subtags_hyphenated_behind (text : List Char)
    (hplain : ∀ subtag ∈ more, isPlain subtag = true) :
    subtags (hyphenated text more) = ((subtags text).1, (subtags text).2 ++ more) := by
  have hseparator : ∀ subtag ∈ more, ∀ c ∈ subtag, isSeparator c = false := by
    intro subtag hsubtag c hc
    exact isSeparator_of_isAlphanum ((isPlain_iff.mp (hplain subtag hsubtag)).2 c hc)
  cases more with
  | nil => simp [hyphenated]
  | cons piece more =>
      rw [List.forall_mem_cons] at hseparator
      have hrest := subtags_hyphenated hseparator.1 hseparator.2
      have happend := subtags_append_hyphen text (hyphenated piece more)
      rw [hrest] at happend
      simpa [hyphenated] using happend

/-- No name of the root locale has further subtags. -/
theorem namesRoot_hyphenated (text : List Char) :
    namesRoot (hyphenated text (piece :: more)) = false := by
  by_contra hroot
  rw [Bool.not_eq_false] at hroot
  have hseparator := isSeparator_of_namesRoot hroot '-' (by simp [hyphenated])
  contradiction

/-- Only the blanks in front of a tag that does not end in one are cut off. -/
theorem base_of_not_endsInBlank (hends : ∀ c ∈ tag.toList, c ≠ '.' ∧ c ≠ '@')
    (hblank : ¬ EndsInBlank tag) : base tag.toList = tag.toList.dropWhile Text.isBlank := by
  rw [base_eq_trim hends]
  refine List.rdropWhile_eq_self_iff.mpr fun hne hlast => hblank ?_
  refine ⟨_, ?_, hlast⟩
  rw [← Text.getLast?_dropWhile hne]
  exact List.getLast?_eq_some_getLast hne

/-- What an extended tag is read as: the further subtags follow those of the tag. -/
theorem read?_extended_eq (hends : ∀ c ∈ tag.toList, c ≠ '.' ∧ c ≠ '@')
    (hplain : ∀ subtag ∈ piece :: more, isPlain subtag = true) :
    read? (extended tag (piece :: more)) =
      if isLanguage (subtags (tag.toList.dropWhile Text.isBlank)).1 then
        (readParts? none none
          ((subtags (tag.toList.dropWhile Text.isBlank)).2 ++ piece :: more)).map fun parts =>
            tagged (lowercased (subtags (tag.toList.dropWhile Text.isBlank)).1) parts.1 parts.2
      else none := by
  rw [read?_eq, base_extended hends hplain, namesRoot_hyphenated, if_neg Bool.false_ne_true,
    subtags_hyphenated_behind _ hplain]

/-- A tag that ends in a blank cannot be extended: the blank would belong to a subtag. -/
theorem read?_extended_of_endsInBlank (hends : ∀ c ∈ tag.toList, c ≠ '.' ∧ c ≠ '@')
    (hplain : ∀ subtag ∈ piece :: more, isPlain subtag = true) (hblank : EndsInBlank tag) :
    read? (extended tag (piece :: more)) = none := by
  rw [Option.eq_none_iff_forall_ne_some, read?_extended_eq hends hplain]
  intro locale hread
  rw [Option.ite_none_right_eq_some, Option.map_eq_some_iff] at hread
  obtain ⟨hlanguage, parts, hparts, -⟩ := hread
  have hpieces := (exists_readParts?_iff none none _).mp ⟨parts, hparts⟩
  have htag := isLanguageTag_iff.mpr
    ⟨hlanguage, fun subtag hsubtag => hpieces subtag (List.mem_append_left _ hsubtag)⟩
  have hne : tag.toList.dropWhile Text.isBlank ≠ [] := by
    intro hnil
    rw [hnil] at hlanguage
    exact absurd hlanguage (by decide)
  obtain ⟨c, hlast, hc⟩ := hblank
  rw [← Text.getLast?_dropWhile hne] at hlast
  -- The blank separates nothing, so it would stand in a subtag, and those hold no blanks.
  have hseparator : isSeparator c = false := by
    by_contra hseparator
    simp only [isSeparator, Bool.not_eq_false, Bool.or_eq_true, beq_iff_eq] at hseparator
    rcases hseparator with rfl | rfl <;> exact absurd hc (by decide)
  have halphanum := isAlphanum_of_isLanguageTag htag (List.mem_of_getLast? hlast) hseparator
  exact Bool.false_ne_true ((isBlank_of_isAlphanum halphanum).symm.trans hc)

/-- The further subtags are read with the script and the region that the tag itself has. -/
theorem read?_extended {language : String} {script region : Option String}
    (hends : ∀ c ∈ tag.toList, c ≠ '.' ∧ c ≠ '@')
    (hplain : ∀ subtag ∈ piece :: more, isPlain subtag = true) (hblank : ¬ EndsInBlank tag)
    (hread : read? tag = some (tagged language script region)) :
    read? (extended tag (piece :: more)) =
      some (tagged language (scriptAfter script region (piece :: more))
        (regionAfter region (piece :: more))) := by
  rw [read?_eq_some_iff, base_of_not_endsInBlank hends hblank] at hread
  rcases hread with ⟨-, hroot⟩ | ⟨-, hlanguage, _, _, hparts, hlocale⟩
  · exact absurd hroot nofun
  · obtain ⟨rfl, rfl, rfl⟩ := tagged.inj hlocale
    rw [read?_extended_eq hends hplain, if_pos hlanguage, readParts?_append, hparts,
      Option.bind_some, readParts?_of_isPlain hplain, Option.map_some]

end Extended

/-! ## Extensions -/

/-- Subtags behind a tag, the first of them a single character, are looked at like those of the
tag itself.  They make the tag unreadable when it ends in a blank, and in no other case.  The
language stays; the script and the region are taken from the subtags where the tag leaves them
open.  So the locale stays the same exactly when the tag has a region, or when none of the
further subtags has the form of a region and, unless the tag has a script, none has that of a
script. -/
theorem ofTag_extension {tag : String} {locale : Locale} {singleton : Char}
    {more : List (List Char)} (hends : ∀ c ∈ tag.toList, c ≠ '.' ∧ c ≠ '@')
    (hname : ¬ IsRootName (base tag.toList)) (htag : ofTag tag = .ok locale)
    (hsingleton : singleton.isAlphanum = true)
    (hmore : ∀ subtag ∈ more, subtag ≠ [] ∧ ∀ c ∈ subtag, c.isAlphanum = true) :
    ((∃ other, ofTag (extended tag ([singleton] :: more)) = .ok other) ↔ ¬ EndsInBlank tag) ∧
      ∀ other, ofTag (extended tag ([singleton] :: more)) = .ok other →
        other.language = locale.language ∧
        other.script = scriptAfter locale.script locale.region more ∧
        other.region = regionAfter locale.region more ∧
        (other = locale ↔
          (locale.region = none → (∀ subtag ∈ more, ¬ IsRegionPiece subtag) ∧
            (locale.script = none → ∀ subtag ∈ more, ¬ IsScriptPiece subtag))) := by
  have hplain : ∀ subtag ∈ [singleton] :: more, isPlain subtag = true := by
    rw [List.forall_mem_cons]
    refine ⟨isPlain_iff.mpr ⟨List.cons_ne_nil _ _, ?_⟩, ?_⟩
    · rw [List.forall_mem_singleton]
      exact hsingleton
    · intro subtag hsubtag
      exact isPlain_iff.mpr (hmore subtag hsubtag)
  obtain ⟨language, script, region, rfl⟩ :
      ∃ language script region, locale = tagged language script region := by
    rcases read?_eq_some_iff.mp (ofTag_eq_ok_iff.mp htag) with
      ⟨hroot, -⟩ | ⟨-, -, script, region, -, hlocale⟩
    · exact absurd (namesRoot_iff.mp hroot) hname
    · exact ⟨_, script, region, hlocale⟩
  by_cases hblank : EndsInBlank tag
  · have hrefused := read?_extended_of_endsInBlank hends hplain hblank
    have hnone : ¬ ∃ other, ofTag (extended tag ([singleton] :: more)) = .ok other := by
      rintro ⟨other, hother⟩
      rw [ofTag_eq_ok_iff, hrefused] at hother
      exact absurd hother nofun
    exact ⟨iff_of_false hnone (not_not_intro hblank),
      fun other hother => absurd ⟨other, hother⟩ hnone⟩
  · have hextended := read?_extended hends hplain hblank (ofTag_eq_ok_iff.mp htag)
    rw [scriptAfter_singleton_cons, regionAfter_singleton_cons, ← ofTag_eq_ok_iff] at hextended
    refine ⟨iff_of_true ⟨_, hextended⟩ hblank, ?_⟩
    intro other hother
    obtain rfl := Except.ok.inj (hextended.symm.trans hother)
    refine ⟨rfl, rfl, rfl, ?_⟩
    rw [tagged.injEq, and_iff_right rfl]
    exact names_after_eq_self_iff

/-- A tag that has a script and no region, with a blank in front of it.  The key of a collation
becomes the region; the script behind it is too late, and so are the digits. -/
theorem ofTag_extension_collation :
    let tag := " sr_Latn"
    let more := ["co".toList, "Cyrl".toList, "419".toList]
    ofTag tag = .ok (tagged "sr" (some "Latn") none) ∧
      ¬ IsRootName (base tag.toList) ∧ ¬ EndsInBlank tag ∧
      extended tag (['u'] :: more) = " sr_Latn-u-co-Cyrl-419" ∧
      ∃ other, ofTag " sr_Latn-u-co-Cyrl-419" = .ok other ∧ other.language = some "sr" ∧
        other.script = some "Latn" ∧ other.region = some "CO" := by
  intro tag more
  have htag : ofTag tag = .ok (tagged "sr" (some "Latn") none) :=
    ofTag_eq_ok_iff.mpr (by decide +kernel)
  have hname : ¬ IsRootName (base tag.toList) := by
    rw [← namesRoot_iff]
    decide +kernel
  have hlast : tag.toList.getLast? = some 'n' := by decide +kernel
  have hblank : ¬ EndsInBlank tag := by
    rintro ⟨c, hc, hblank⟩
    obtain rfl := Option.some.inj (hlast.symm.trans hc)
    exact absurd hblank (by decide)
  have hends : ∀ c ∈ tag.toList, c ≠ '.' ∧ c ≠ '@' := by simp [tag]
  have hsingleton : Char.isAlphanum 'u' = true := by decide
  have hmore : ∀ subtag ∈ more, subtag ≠ [] ∧ ∀ c ∈ subtag, c.isAlphanum = true := by
    simp [more]
  have hextended : extended tag (['u'] :: more) = " sr_Latn-u-co-Cyrl-419" := by decide +kernel
  obtain ⟨haccepted, hnames⟩ := ofTag_extension hends hname htag hsingleton hmore
  obtain ⟨other, hother⟩ := haccepted.mpr hblank
  obtain ⟨hlanguage, hscript, hregion, -⟩ := hnames other hother
  rw [hextended] at hother
  refine ⟨htag, hname, hblank, hextended, other, hother, hlanguage, ?_, ?_⟩
  · rw [hscript]
    decide +kernel
  · rw [hregion]
    decide +kernel

/-- The key of a calendar is taken for a region, and a private subtag of four letters for a
script. -/
theorem ofTag_calendar_key :
    ofTag "en" = .ok (tagged "en" none none) ∧
      extended "en" ["u".toList, "ca".toList, "buddhist".toList] = "en-u-ca-buddhist" ∧
      ofTag "en-u-ca-buddhist" = .ok (tagged "en" none (some "CA")) ∧
      ofTag "en-u-ca-buddhist" ≠ ofTag "en" ∧
      extended "en" ["x".toList, "priv".toList] = "en-x-priv" ∧
      ofTag "en-x-priv" = .ok (tagged "en" (some "Priv") none) := by
  have hplain : ofTag "en" = .ok (tagged "en" none none) :=
    ofTag_eq_ok_iff.mpr (by decide +kernel)
  have hcalendar : ofTag "en-u-ca-buddhist" = .ok (tagged "en" none (some "CA")) :=
    ofTag_eq_ok_iff.mpr (by decide +kernel)
  refine ⟨hplain, by decide +kernel, hcalendar, ?_, by decide +kernel,
    ofTag_eq_ok_iff.mpr (by decide +kernel)⟩
  rw [hplain, hcalendar]
  nofun

end Locale

end TextTemplate
