import TextTemplate.CommandLine.Error
import TextTemplate.Locale.Basic

/-!
# Choosing a locale

A locale given on the command line comes first, then the one of the
configuration, then the environment.  There only the first variable counts that
is set and not empty; if its tag names no locale, the root locale is used and a
warning is due.

Main definitions:

- `chooseLocale` makes the choice.
- `environmentTag` finds the tag of the environment.
-/

namespace TextTemplate

/-- The variables of the environment; one that is not set has no value. -/
abbrev Environment := String → Option String

/-- The variables that name a locale, the most important one first. -/
def localeVariables : List String := ["LC_ALL", "LC_CTYPE", "LANG"]

/-- The tag that the environment names. -/
def environmentTag (environment : Environment) : Option String :=
  localeVariables.findSome? fun name =>
    (environment name).filter fun value => !value.isEmpty

/-- A locale, and the tag that was passed over for it, if there was one. -/
structure LocaleChoice where
  /-- The locale to use. -/
  locale : Locale
  /-- A tag of the environment that names no locale. -/
  rejected : Option String := none
deriving DecidableEq, Repr

/-- The choice that the environment makes. -/
def LocaleChoice.ofEnvironment (environment : Environment) : LocaleChoice :=
  match environmentTag environment with
  | none => ⟨.root, none⟩
  | some tag =>
      match Locale.read? tag with
      | some locale => ⟨locale, none⟩
      | none => ⟨.root, some tag⟩

/-- The choice between a tag on the command line, the locale of the configuration
and the environment. -/
def chooseLocale (flag : Option String) (config : Option Locale) (environment : Environment) :
    Except CommandError LocaleChoice :=
  match flag, config with
  | some tag, _ =>
      match Locale.read? tag with
      | some locale => .ok ⟨locale, none⟩
      | none => .error (.invalidLocale tag)
  | none, some locale => .ok ⟨locale, none⟩
  | none, none => .ok (LocaleChoice.ofEnvironment environment)

end TextTemplate
