import TextTemplate.Template.Render

/-!
# Formatters

A formatter appends renderings to a destination until it is closed.  A call that
fails leaves the destination as it was.  When several things are wrong at once,
a closed formatter is reported before a bad template, a bad template before a
missing parameter, and that before a refused text.

Main definitions:

- `Destination` is a text that grows, and may refuse to.
- `Formatter.format` appends one rendering; `Formatter.formatAll` several.
- `Formatter.close` releases the destination.
-/

namespace TextTemplate

/-- A text that grows at its end. -/
structure Destination where
  /-- What has been written. -/
  text : String
  /-- The texts that have been added, in order. -/
  additions : List String := []
  /-- Whether one more text may be added to those. -/
  admits : List String → String → Bool

namespace Destination

/-- A destination that takes everything. -/
def unbounded (text : String) : Destination := { text, admits := fun _ _ => true }

/-- A destination of at most `limit` bytes. -/
def bounded (limit : Nat) (text : String) : Destination :=
  { text
    admits := fun additions addition =>
      (text ++ String.join additions ++ addition).utf8ByteSize ≤ limit }

/-- Adds a text as a whole, or refuses it. -/
def append? (destination : Destination) (addition : String) : Option Destination :=
  if destination.admits destination.additions addition then
    some { destination with
      text := destination.text ++ addition
      additions := destination.additions ++ [addition] }
  else none

end Destination

/-- A destination, until it is released, with the locale that is used for it. -/
structure Formatter where
  /-- Where renderings go; nothing once it has been released. -/
  destination : Option Destination
  /-- The locale used when a call names none. -/
  locale : Locale

namespace Formatter

variable {κ : Type} [CustomValue κ]

/-- A formatter that appends to a destination. -/
def onto (destination : Destination) (locale : Locale) : Formatter := ⟨some destination, locale⟩

/-- Whether the destination has been released. -/
def isClosed (formatter : Formatter) : Bool := formatter.destination.isNone

/-- The destination, as long as it has not been released. -/
def output (formatter : Formatter) : Except TemplateError Destination :=
  match formatter.destination with
  | some destination => .ok destination
  | none => .error .closed

/-- Appends the rendering of a template in a locale. -/
def append (formatter : Formatter) (locale : Locale) (template : Template)
    (parameters : ParameterSet κ) : Except TemplateError Unit × Formatter :=
  match formatter.destination with
  | none => (.error .closed, formatter)
  | some destination =>
      match template.render parameters locale with
      | .error error => (.error error, formatter)
      | .ok rendering =>
          match destination.append? rendering with
          | none => (.error .write, formatter)
          | some destination => (.ok (), { formatter with destination := some destination })

/-- Appends the rendering of a template that has been parsed. -/
def formatParsed (formatter : Formatter) (template : Template)
    (parameters : ParameterSet κ) : Except TemplateError Unit × Formatter :=
  formatter.append formatter.locale template parameters

/-- Parses template text and appends its rendering in a locale. -/
def formatIn (formatter : Formatter) (locale : Locale) (template : String)
    (parameters : ParameterSet κ) : Except TemplateError Unit × Formatter :=
  if formatter.isClosed then (.error .closed, formatter)
  else
    match Template.read template with
    | .error error => (.error error, formatter)
    | .ok template => formatter.append locale template parameters

/-- Parses template text and appends its rendering. -/
def format (formatter : Formatter) (template : String) (parameters : ParameterSet κ) :
    Except TemplateError Unit × Formatter :=
  formatter.formatIn formatter.locale template parameters

/-- Formats template texts one after the other, up to the first failure. -/
def formatAll (formatter : Formatter) (templates : List String)
    (parameters : ParameterSet κ) : Except TemplateError Unit × Formatter :=
  match templates with
  | [] => (.ok (), formatter)
  | template :: rest =>
      match formatter.format template parameters with
      | (.ok (), formatter) => formatter.formatAll rest parameters
      | failed => failed

/-- Releases the destination, if that has not been done before. -/
def close (formatter : Formatter) : Option Destination × Formatter :=
  (formatter.destination, { formatter with destination := none })

/-- Gives up the formatter for its destination. -/
def release (formatter : Formatter) : Except TemplateError Destination :=
  formatter.output

end Formatter

end TextTemplate
