import TextTemplate.Text.Blank

/-!
# Locales

A locale names the conventions a text is written for by a language, a script
and a region.  It is read from tags in the style of `en-US` and `de_DE.UTF-8@euro`,
and is put into one normal form as it is read: the language in lowercase
letters, the script with a capital, the region in capitals or digits.

Main definitions:

- `Locale.read?` reads a tag; `Locale.tag` writes the normal form.
- `Locale.root` is the locale without a language.
- `Locale.isTurkic` marks the languages that keep the dot on a capital `i`.
-/

namespace TextTemplate

/-- The conventions of one language, or of none. -/
inductive Locale
  /-- The locale without a language. -/
  | root
  /-- A language with an optional script and region. -/
  | tagged (language : String) (script region : Option String)
deriving DecidableEq, Repr, Inhabited

namespace Locale

/-- The language in lowercase letters, if there is one. -/
def language : Locale → Option String
  | root => none
  | tagged language _ _ => some language

/-- The script with a capital letter, if one is named. -/
def script : Locale → Option String
  | root => none
  | tagged _ script _ => script

/-- The region in capitals or digits, if one is named. -/
def region : Locale → Option String
  | root => none
  | tagged _ _ region => region

/-- Whether no language is named. -/
def isRoot : Locale → Bool
  | root => true
  | tagged .. => false

/-- Only the root locale has no language. -/
theorem isRoot_iff {locale : Locale} : locale.isRoot = true ↔ locale = root := by
  cases locale <;> simp [isRoot]

/-- The languages in which a small `i` keeps its dot when it becomes a capital. -/
def isTurkic (locale : Locale) : Bool :=
  locale.language == some "tr" || locale.language == some "az"

/-! ### Tags -/

/-- A further part of a tag, with the hyphen before it. -/
def partText : Option String → String
  | none => ""
  | some part => "-" ++ part

/-- The normal form of the tag; the root locale is called `und`. -/
def tag : Locale → String
  | root => "und"
  | tagged language script region => language ++ partText script ++ partText region

/-- Whether every character is an ASCII letter. -/
def isLetters (subtag : List Char) : Bool := subtag.all Char.isAlpha

/-- Whether every character is an ASCII digit. -/
def isDigits (subtag : List Char) : Bool := subtag.all Char.isDigit

/-- A subtag may be passed over when it is made of ASCII letters and digits. -/
def isPlain (subtag : List Char) : Bool := !subtag.isEmpty && subtag.all Char.isAlphanum

/-- The part of a tag that names the locale: what stands before the encoding
and the modifier, without surrounding blanks. -/
def base (tag : List Char) : List Char :=
  Text.trim (tag.takeWhile fun c => c != '.' && c != '@')

/-- Hyphens and underscores separate the subtags. -/
def isSeparator (c : Char) : Bool := c == '-' || c == '_'

/-- The first subtag and the ones after it. -/
def subtags : List Char → List Char × List (List Char)
  | [] => ([], [])
  | c :: rest =>
      let (first, more) := subtags rest
      if isSeparator c then ([], first :: more) else (c :: first, more)

/-- Lowercase letters, as a language is written. -/
def lowercased (subtag : List Char) : String :=
  String.ofList (subtag.map Char.toLower)

/-- Capital letters, as a region is written. -/
def capitals (subtag : List Char) : String :=
  String.ofList (subtag.map Char.toUpper)

/-- A capital letter before lowercase ones, as a script is written. -/
def titlecased : List Char → String
  | [] => ""
  | c :: rest => String.ofList (c.toUpper :: rest.map Char.toLower)

/-- Reads the subtags after the language.  Four letters before any region are
the script, two letters or three digits are the region, each for the first time
only; everything else is passed over, if it is made of letters and digits. -/
def readParts? (script region : Option String) :
    List (List Char) → Option (Option String × Option String)
  | [] => some (script, region)
  | subtag :: rest =>
      if subtag.length = 4 ∧ isLetters subtag ∧ script = none ∧ region = none then
        readParts? (some (titlecased subtag)) region rest
      else if subtag.length = 2 ∧ isLetters subtag ∧ region = none then
        readParts? script (some (capitals subtag)) rest
      else if subtag.length = 3 ∧ isDigits subtag ∧ region = none then
        readParts? script (some (String.ofList subtag)) rest
      else if isPlain subtag then readParts? script region rest
      else none

/-- The names of the root locale: `C` and `POSIX` as they stand, `und` in any
mixture of small letters and capitals. -/
def namesRoot (base : List Char) : Bool :=
  base == ['C'] || base == ['P', 'O', 'S', 'I', 'X'] || base.map Char.toLower == ['u', 'n', 'd']

/-- A language has two to eight letters. -/
def isLanguage (subtag : List Char) : Bool :=
  2 ≤ subtag.length && subtag.length ≤ 8 && isLetters subtag

/-- Reads a tag; `none` when it names no locale. -/
def read? (tag : String) : Option Locale :=
  let base := base tag.toList
  if namesRoot base then some root
  else
    let (first, more) := subtags base
    if isLanguage first then
      (readParts? none none more).map fun parts => tagged (lowercased first) parts.1 parts.2
    else none

end Locale

end TextTemplate
