import TextTemplate.Document.Json.Basic
import TextTemplate.Locale.Basic
import TextTemplate.Template.Error

/-!
# Locales named by tags

A locale is written as its tag wherever it leaves the program, and read back from
a tag; a tag that names no locale is an error.

Main definitions:

- `Locale.ofTag` reads a tag or reports it.
- `Locale.json` and `Locale.ofJson?` write and read a locale as a JSON document.
-/

namespace TextTemplate.Locale

/-- The locale of a tag. -/
def ofTag (tag : String) : Except TemplateError Locale :=
  match read? tag with
  | some locale => .ok locale
  | none => .error (.invalidLocale tag)

theorem ofTag_eq_ok_iff {tag : String} {locale : Locale} :
    ofTag tag = .ok locale ↔ read? tag = some locale := by
  unfold ofTag
  cases read? tag <;> simp

/-- A tag that is not read is what the error reports. -/
theorem ofTag_eq_error_iff {tag : String} {error : TemplateError} :
    ofTag tag = .error error ↔ read? tag = none ∧ error = .invalidLocale tag := by
  unfold ofTag
  cases read? tag <;> simp [eq_comm]

/-- The locale as a JSON document: a text that holds the tag. -/
def json (locale : Locale) : String := Json.encodeText locale.tag

/-- The locale of a JSON document. -/
def ofJson? (document : String) : Option Locale := do
  let value ← Json.read? document
  let tag ← value.text?
  read? tag

end TextTemplate.Locale
