import Mathlib
import TextTemplate.Proofs.Locale.Reading

/-!
# Capitals and small letters in subtags

A change of case keeps letters, digits and separators, and the last one of several changes
decides.  So a subtag in small letters is taken for what it is in capitals, and is written in
the same way.

What is used of single letters are the case lemmas on `Char`.  They belong to no part of Mathlib
that could be imported alone, hence the import of the whole library.

Main results:

- Theorem `Locale.apply_toLower`: a test that does not look at capitals.
- Theorems `Locale.isLetters_map_toLower`, `Locale.isDigits_map_toLower` and
  `Locale.isPlain_map_toLower`: a subtag in small letters is taken for the same.
- Theorems `Locale.lowercased_map_toLower`, `Locale.capitals_map_toLower` and
  `Locale.titlecased_map_toLower`: it is written in the same way.
-/

namespace TextTemplate.Locale

/-! ## Characters -/

/-- A test that gives the same answer for all letters does not look at capitals. -/
theorem apply_toLower {test : Char → Bool} {answer : Bool}
    (h : ∀ c, c.isAlpha = true → test c = answer) (c : Char) : test c.toLower = test c := by
  by_cases hupper : c.isUpper = true
  · have halpha : c.isAlpha = true := by rw [Char.isAlpha, hupper, Bool.true_or]
    rw [h c halpha, h c.toLower (by rwa [Char.isAlpha_toLower_eq_isAlpha])]
  · rw [Char.toLower_eq_of_not_isUpper hupper]

/-- Letters are no digits. -/
theorem isDigit_of_isAlpha {c : Char} (h : c.isAlpha = true) : c.isDigit = false := by
  simp only [Char.isAlpha, Char.isUpper, Char.isLower, Bool.or_eq_true, Bool.and_eq_true,
    decide_eq_true_eq, ge_iff_le, UInt32.le_iff_toNat_le, Char.reduceVal, UInt32.reduceToNat] at h
  simp only [Char.isDigit, Bool.and_eq_false_iff, decide_eq_false_iff_not, ge_iff_le,
    UInt32.le_iff_toNat_le, Char.reduceVal, UInt32.reduceToNat]
  omega

/-- Separators stay separators in small letters. -/
theorem isSeparator_toLower (c : Char) : isSeparator c.toLower = isSeparator c :=
  apply_toLower (fun _ h => isSeparator_of_isAlphanum (isAlphanum_of_isAlpha h)) c

/-- Digits stay digits. -/
theorem isDigit_toLower (c : Char) : c.toLower.isDigit = c.isDigit :=
  apply_toLower (fun _ h => isDigit_of_isAlpha h) c

theorem isAlphanum_toLower (c : Char) : c.toLower.isAlphanum = c.isAlphanum :=
  apply_toLower (fun _ h => isAlphanum_of_isAlpha h) c

/-! ## Subtags -/

/-- A change of case that keeps letters keeps a text of letters. -/
theorem isLetters_map {change : Char → Char} (hchange : ∀ c, (change c).isAlpha = c.isAlpha)
    (subtag : List Char) : isLetters (subtag.map change) = isLetters subtag := by
  simp [isLetters, List.all_map, Function.comp_def, hchange]

/-- Whether a subtag is a language does not depend on capitals. -/
theorem isLanguage_lowercased (subtag : List Char) :
    isLanguage (lowercased subtag).toList = isLanguage subtag := by
  simp [lowercased, isLanguage, isLetters_map Char.isAlpha_toLower_eq_isAlpha]

section

variable (subtag : List Char)

/-- Letters in small letters are letters. -/
theorem isLetters_map_toLower : isLetters (subtag.map Char.toLower) = isLetters subtag :=
  isLetters_map Char.isAlpha_toLower_eq_isAlpha subtag

/-- Digits in small letters are digits. -/
theorem isDigits_map_toLower : isDigits (subtag.map Char.toLower) = isDigits subtag := by
  simp only [isDigits, List.all_map, Function.comp_def, isDigit_toLower]

theorem isPlain_map_toLower : isPlain (subtag.map Char.toLower) = isPlain subtag := by
  simp only [isPlain, List.isEmpty_map, List.all_map, Function.comp_def, isAlphanum_toLower]

theorem isLanguage_map_toLower : isLanguage (subtag.map Char.toLower) = isLanguage subtag := by
  rw [← isLanguage_lowercased subtag, lowercased, String.toList_ofList]

/-- A language is written in small letters, whichever letters it is read from. -/
theorem lowercased_map_toLower : lowercased (subtag.map Char.toLower) = lowercased subtag := by
  simp only [lowercased, List.map_map, Function.comp_def, Char.toLower_toLower_eq_toLower]

/-- A region is written in capitals, whichever letters it is read from. -/
theorem capitals_map_toLower : capitals (subtag.map Char.toLower) = capitals subtag := by
  simp only [capitals, List.map_map, Function.comp_def, Char.toUpper_toLower_eq_toUpper]

/-- A script has its capital in front, whichever letters it is read from. -/
theorem titlecased_map_toLower : titlecased (subtag.map Char.toLower) = titlecased subtag := by
  cases subtag with
  | nil => rfl
  | cons c rest =>
      simp only [titlecased, List.map_cons, List.map_map, Function.comp_def,
        Char.toUpper_toLower_eq_toUpper, Char.toLower_toLower_eq_toLower]

/-- A region of digits is kept as it is. -/
theorem ofList_map_toLower (h : isDigits subtag = true) :
    String.ofList (subtag.map Char.toLower) = String.ofList subtag := by
  rw [← capitals_of_isDigits h, ← capitals_of_isDigits (by rwa [isDigits_map_toLower]),
    capitals_map_toLower]

end

end TextTemplate.Locale
