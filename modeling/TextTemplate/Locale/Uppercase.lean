import TextTemplate.Locale.Basic
import TextTemplate.Text.Uppercase

/-!
# Uppercase in a locale

The Turkic locales turn a small `i` into a capital with a dot; for all other
characters, and in all other locales, the uppercase form is the general one.

Main results:

- `Locale.uppercaseChar` and `Locale.uppercase` map a character and a text.
- `Locale.uppercase_eq_flatMap`: a text is mapped character by character.
- `Locale.uppercase_append`: mapping a joined text joins the mapped parts.
-/

namespace TextTemplate.Locale

/-- The characters that a character becomes. -/
def upperOf (locale : Locale) (c : Char) : List Char :=
  if c == 'i' && locale.isTurkic then ['\u0130'] else Uppercase.ofChar c

/-- The uppercase form of one character; it may have several. -/
def uppercaseChar (locale : Locale) (c : Char) : String :=
  String.ofList (locale.upperOf c)

/-- The uppercase form of a text: outside the Turkic locales the general form of the whole
text. -/
def uppercase (locale : Locale) (text : String) : String :=
  if locale.isTurkic then String.ofList (text.toList.flatMap locale.upperOf)
  else String.ofList (Uppercase.ofText text.toList)

/-- A text is mapped character by character in all locales. -/
theorem uppercase_eq_flatMap (locale : Locale) (text : String) :
    locale.uppercase text = String.ofList (text.toList.flatMap locale.upperOf) := by
  unfold uppercase
  split
  next => rfl
  next hgeneral =>
    have hchar : locale.upperOf = Uppercase.ofChar := by
      funext c
      simp [upperOf, hgeneral]
    rw [hchar, Uppercase.ofText]

/-- The uppercase form of a joined text joins those of its parts. -/
theorem uppercase_append (locale : Locale) (a b : String) :
    locale.uppercase (a ++ b) = locale.uppercase a ++ locale.uppercase b := by
  simp [uppercase_eq_flatMap]

end TextTemplate.Locale
