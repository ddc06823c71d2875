import TextTemplate.Parameter.Set

/-!
# Rendering

A template is rendered by putting parameters in the place of its placeholders.
There is either a whole rendering or none: the first placeholder without a
parameter is reported.

Main definitions:

- `Template.render` renders a template that has been parsed.
- `format` parses and renders; a call without parameters needs no parsing.
-/

namespace TextTemplate

variable {κ : Type} [CustomValue κ]

/-- Renders segments one after the other. -/
def Segment.renderAll (parameters : ParameterSet κ) (locale : Locale) :
    List Segment → Except TemplateError String
  | [] => .ok ""
  | .literal text _ :: rest => do
      let behind ← renderAll parameters locale rest
      return text ++ behind
  | .placeholder name _ :: rest =>
      match parameters.get? name with
      | none => .error (.missingParameter name)
      | some parameter => do
          let behind ← renderAll parameters locale rest
          return parameter.render locale ++ behind

/-- Renders a template, or reports the first parameter that is missing. -/
def Template.render (template : Template) (parameters : ParameterSet κ) (locale : Locale) :
    Except TemplateError String :=
  Segment.renderAll parameters locale template.segments

/-- Parses a template for formatting. -/
def Template.read (source : String) : Except TemplateError Template :=
  match Template.parse source with
  | .ok template => .ok template
  | .error error => .error (.parse error)

/-- Puts parameters into template text.  Without parameters the text is given back
as it is, whatever braces it holds. -/
def format (template : String) (locale : Locale) (parameters : ParameterSet κ) :
    Except TemplateError String := do
  if parameters.isEmpty then return template
  let parsed ← Template.read template
  parsed.render parameters locale

/-- Formats in the root locale. -/
def formatInRoot (template : String) (parameters : ParameterSet κ) :
    Except TemplateError String :=
  format template .root parameters

/-- Formats with the parameters that are added to the empty set. -/
def formatAdding (template : String) (locale : Locale)
    (build : ParameterSet κ → ParameterSet κ) : Except TemplateError String :=
  format template locale (build .empty)

end TextTemplate
