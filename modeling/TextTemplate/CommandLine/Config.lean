import TextTemplate.CommandLine.Error
import TextTemplate.Document.Json.Basic
import TextTemplate.Document.Toml.Basic
import TextTemplate.Locale.Basic
import TextTemplate.Parameter.Definition

/-!
# Configuration files

A configuration names a locale and defines parameters.  The file is a JSON
document if its name ends in `.json`, and a TOML document otherwise.

Main definitions:

- `Config.ofValue?` reads a configuration from the data of a document.
- `Config.load` reads a configuration file.
-/

namespace TextTemplate

/-- Where the bytes of files come from. -/
abbrev Files := String → Except ReadFault ByteArray

/-- The text of a file. -/
def Files.readText (files : Files) (path : String) : Except ReadFault String :=
  match files path with
  | .error fault => .error fault
  | .ok bytes =>
      match String.fromUTF8? bytes with
      | none => .error .notText
      | some text => .ok text

/-- What a configuration file says. -/
structure Config where
  /-- The locale, if one is named. -/
  locale : Option Locale := none
  /-- The definitions of parameters, in the order of their names; no name occurs
  twice. -/
  definitions : List (String × Definition) := []
deriving DecidableEq, Repr

namespace Config

/-- The locale of a value: a tag, or the absence of data for no locale. -/
def locale? : Value → Option (Option Locale)
  | .null => some none
  | .text tag => (Locale.read? tag).map some
  | _ => none

/-- Of several entries under one key the last one counts. -/
def lastOfEach {α : Type} (entries : List (String × α)) : List (String × α) :=
  entries.foldl (fun kept entry => kept.filter (·.1 != entry.1) ++ [entry]) []

/-- The entries in the order of their keys. -/
def sorted {α : Type} (entries : List (String × α)) : List (String × α) :=
  entries.mergeSort fun a b => decide (a.1 ≤ b.1)

/-- The definitions of a table.  All of them must be readable, also those that do
not count. -/
def definitions? (value : Value) : Option (List (String × Definition)) := do
  let entries ← value.table?
  let definitions ← entries.mapM fun entry => do
    return (entry.1, ← Definition.ofValue? entry.2)
  return sorted (lastOfEach definitions)

/-- The configuration made of the values that are there. -/
def ofParts? (locale params : Option Value) : Option Config := do
  let locale ← (locale.map locale?).getD (some none)
  let definitions ← (params.map definitions?).getD (some [])
  return ⟨locale, definitions⟩

/-- Reads a configuration: a table with the keys `locale` and `params`, or a list
of these two, of which the second one may be missing. -/
def ofValue? : Value → Option Config
  | .table entries =>
      if entries.all fun entry => entry.1 == "locale" || entry.1 == "params" then do
        ofParts? (← Definition.single? "locale" entries) (← Definition.single? "params" entries)
      else none
  | .list [locale] => ofParts? (some locale) none
  | .list [locale, params] => ofParts? (some locale) (some params)
  | _ => none

/-- The name of the file at the end of a path. -/
def fileName (path : String) : List Char :=
  (path.toList.reverse.dropWhile (· == '/')).takeWhile (· != '/') |>.reverse

/-- The part of a file name behind its last point, unless that is its first
character. -/
def fileExtension (path : String) : List Char :=
  let reversed := (fileName path).reverse
  match reversed.dropWhile (· != '.') with
  | _ :: _ :: _ => (reversed.takeWhile (· != '.')).reverse
  | _ => []

/-- The format of a file, which is told by its name. -/
def formatOf (path : String) : ConfigFormat :=
  if (fileExtension path).map Char.toLower == ['j', 's', 'o', 'n'] then .json else .toml

/-- The data of a document. -/
def readDocument? (format : ConfigFormat) (text : String) : Option Value :=
  match format with
  | .json => Json.read? text
  | .toml => Toml.read? text

/-- Reads a configuration file. -/
def load (files : Files) (path : String) : Except CommandError Config :=
  match files.readText path with
  | .error fault => .error (.unreadableConfig path fault)
  | .ok text =>
      match (readDocument? (formatOf path) text).bind ofValue? with
      | none => .error (.invalidConfig (formatOf path) path)
      | some config => .ok config

end Config

end TextTemplate
