import TextTemplate.Proofs.Locale.Influence
import TextTemplate.Proofs.Text.Uppercase

/-!
# Uppercase in all locales

A text can be put in uppercase as a whole or character by character, and in a Turkic locale
or in another one.  All these ways are the general mapping, after the small `i` has been
given its dot where the locale is Turkic.  Whatever has been put in uppercase stays as it is
from then on: a second pass changes nothing, whichever locale it is made in.

Main results:

- Theorem `Locale.uppercase_eq_join`: a text is mapped as its characters are.
- Theorem `Locale.uppercase_eq_root`: the Turkic rule as a step before the general mapping.
- Theorem `Locale.upperOf_of_mem_upperOf`: a character of an uppercase form stays as it is
  in all locales.
- Theorem `Locale.uppercase_ways`: the ways to the uppercase form agree.
- Theorem `Locale.uppercase_again`: a second pass changes nothing.
-/

namespace TextTemplate.Locale

/-! ## Texts and characters -/

/-- The uppercase form of a text joins those of its characters. -/
theorem uppercase_eq_join (locale : Locale) (text : String) :
    locale.uppercase text = String.join (text.toList.map locale.uppercaseChar) := by
  rw [uppercase_eq_flatMap]
  induction text.toList with
  | nil => rfl
  | cons c rest ih =>
      rw [List.flatMap_cons, List.map_cons, String.join_cons, ← ih, uppercaseChar,
        String.ofList_append]

/-- A character is put in uppercase like the text that holds nothing else. -/
theorem uppercase_singleton (locale : Locale) (c : Char) :
    locale.uppercase (String.singleton c) = locale.uppercaseChar c := by
  rw [uppercase_eq_join, String.toList_singleton, List.map_singleton, String.join_cons]
  simp

/-! ## The Turkic rule as a first step -/

/-- The character with its dot: a small `i` becomes a capital that keeps it. -/
def dotted (c : Char) : Char := if c = 'i' then '\u0130' else c

/-- The capital with a dot is its own uppercase form. -/
theorem upperOf_capital_dotted (locale : Locale) : locale.upperOf '\u0130' = ['\u0130'] := by
  rw [upperOf_of_ne locale (by decide)]
  decide

/-- The root locale has the general mapping. -/
theorem upperOf_root (c : Char) : root.upperOf c = Uppercase.ofChar c := by
  have hgeneral : root.isTurkic = false := rfl
  rw [upperOf, hgeneral, Bool.and_false, if_neg Bool.false_ne_true]

/-- A character becomes what the root locale makes of it, dotted first in a Turkic locale. -/
theorem upperOf_eq_root (locale : Locale) (c : Char) :
    locale.upperOf c = root.upperOf (if locale.isTurkic then dotted c else c) := by
  by_cases hi : c = 'i'
  · rw [hi, upperOf_small_i, dotted, if_pos rfl]
    cases locale.isTurkic with
    | true => rw [if_pos rfl, if_pos rfl, upperOf_capital_dotted]
    | false => decide
  · rw [dotted, if_neg hi, ite_self, upperOf_of_ne locale hi, upperOf_root]

/-- A text becomes what the root locale makes of it, dotted first in a Turkic locale. -/
theorem uppercase_eq_root (locale : Locale) (text : String) :
    locale.uppercase text =
      root.uppercase (if locale.isTurkic then text.map dotted else text) := by
  rw [uppercase_eq_flatMap, uppercase_eq_flatMap, funext (upperOf_eq_root locale)]
  cases locale.isTurkic with
  | true => simp only [if_true, String.toList_map, List.flatMap_map]
  | false => rfl

/-! ## A second pass -/

/-- A character of an uppercase form stays as it is in all locales. -/
theorem upperOf_of_mem_upperOf {first : Locale} {c d : Char} (h : d ∈ first.upperOf c)
    (second : Locale) : second.upperOf d = [d] := by
  rw [upperOf_eq_root, upperOf_root] at h
  have hstays := Uppercase.ofChar_of_mem_ofChar h
  -- A small `i` is changed by the general mapping, so it is in no uppercase form.
  have hi : d ≠ 'i' := by
    rintro rfl
    exact absurd hstays (by decide)
  rw [upperOf_of_ne second hi, hstays]

/-- A text in uppercase stays as it is in all locales. -/
theorem uppercase_uppercase (first second : Locale) (text : String) :
    second.uppercase (first.uppercase text) = first.uppercase text := by
  rw [uppercase_eq_flatMap second, uppercase_eq_flatMap first, String.toList_ofList,
    String.ofList_inj]
  have hstays : ∀ d ∈ text.toList.flatMap first.upperOf, second.upperOf d = [d] := by
    intro d hd
    obtain ⟨c, -, hc⟩ := List.mem_flatMap.mp hd
    exact upperOf_of_mem_upperOf hc second
  rw [List.flatMap_congr hstays, List.flatMap_singleton']

/-! ## Values -/

/-- The ways to the uppercase form agree: a text is mapped as its characters are, and as its
parts are; the Turkic locales give each small `i` its dot before the general mapping; and a
character is rendered like the text that holds nothing else. -/
theorem uppercase_ways (locale : Locale) :
    (∀ text, locale.uppercase text = String.join (text.toList.map locale.uppercaseChar)) ∧
      (∀ a b, locale.uppercase (a ++ b) = locale.uppercase a ++ locale.uppercase b) ∧
      (∀ text : String, locale.uppercase text =
        root.uppercase
          (if locale.language = some "tr" ∨ locale.language = some "az" then text.map dotted
            else text)) ∧
      ∀ c uppercase, (Character.mk c uppercase).render locale =
        (TextValue.mk (String.singleton c) uppercase).render locale := by
  refine ⟨uppercase_eq_join locale, uppercase_append locale, ?_, ?_⟩
  · intro text
    rw [uppercase_eq_root]
    simp only [isTurkic_iff]
  · intro c uppercase
    cases uppercase with
    | true => exact (uppercase_singleton locale c).symm
    | false => rfl

/-- One character of each kind: a small `i`, one that becomes two, and the `i` without a dot. -/
example : (tagged "tr" none (some "TR")).uppercase "i\u00df\u0131" = "\u0130SSI" := by
  decide +kernel

/-- A second pass changes nothing, whichever locales the two are made in; so a text that is in
uppercase already is rendered as it is when it is to be put in uppercase again. -/
theorem uppercase_again (first second : Locale) (text : String) :
    second.uppercase (first.uppercase text) = first.uppercase text ∧
      (TextValue.mk (first.uppercase text) true).render second = first.uppercase text :=
  ⟨uppercase_uppercase first second text, uppercase_uppercase first second text⟩

end TextTemplate.Locale
