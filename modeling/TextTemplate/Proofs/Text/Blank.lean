import Mathlib.Data.List.DropRight
import TextTemplate.Text.Blank

/-!
# Cutting off blanks

What is left of a text without the blanks at its ends: nothing of a text of blanks, and the
end of a text as it is where that end has none.

Main results:

- Theorem `Text.trim_eq_nil_iff`: nothing is left exactly when every character is blank.
- Theorem `Text.trim_append`: in front of a text without blanks, they are cut off at the front
  only.
-/

namespace TextTemplate.Text

/-- Trimming the end leaves nothing exactly when every character is blank. -/
theorem trimEnd_eq_nil_iff {text : List Char} :
    trimEnd text = [] ↔ ∀ c ∈ text, isBlank c = true :=
  List.rdropWhile_eq_nil_iff

/-- Trimming leaves nothing exactly when every character is blank. -/
theorem trim_eq_nil_iff {text : List Char} :
    trim text = [] ↔ ∀ c ∈ text, isBlank c = true := by
  induction text with
  | nil => simp [trim, trimEnd]
  | cons c rest ih =>
      by_cases hblank : isBlank c = true
      · simpa [trim, List.dropWhile_cons, hblank] using ih
      · simp [trim, hblank, trimEnd_eq_nil_iff]

/-- Behind a text without blanks nothing is cut off. -/
theorem trimEnd_append {rest : List Char} (hne : rest ≠ [])
    (hrest : ∀ c ∈ rest, isBlank c = false) (text : List Char) :
    trimEnd (text ++ rest) = text ++ rest := by
  have hlast : ∀ h : text ++ rest ≠ [], ¬ isBlank ((text ++ rest).getLast h) = true := by
    intro h
    rw [List.getLast_append_of_right_ne_nil _ _ hne, hrest _ (List.getLast_mem hne)]
    exact Bool.false_ne_true
  exact List.rdropWhile_eq_self_iff.mpr hlast

/-- In front of a text without blanks, blanks are cut off at the front only. -/
theorem trim_append {rest : List Char} (hne : rest ≠ [])
    (hrest : ∀ c ∈ rest, isBlank c = false) (text : List Char) :
    trim (text ++ rest) = text.dropWhile isBlank ++ rest := by
  induction text with
  | nil =>
      have hall := trim_eq_self hrest
      rwa [List.nil_append, List.dropWhile_nil, List.nil_append]
  | cons c text ih =>
      rw [List.cons_append, trim, List.dropWhile_cons, List.dropWhile_cons]
      split
      · exact ih
      · exact trimEnd_append hne hrest (c :: text)

/-- What is left behind the blanks in front ends as the whole text does. -/
theorem getLast?_dropWhile {text : List Char} (h : text.dropWhile isBlank ≠ []) :
    (text.dropWhile isBlank).getLast? = text.getLast? := by
  obtain ⟨front, htext⟩ := List.dropWhile_suffix (l := text) isBlank
  rw [← htext, List.getLast?_append_of_ne_nil _ h]
  rw [htext]

end TextTemplate.Text
