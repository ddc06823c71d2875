import TextTemplate.Template.Basic

/-!
# A cache of templates

Templates that have been parsed are kept under their source, so that the same
source is parsed once.  Every template put into the cache gets a serial number
of its own; two requests were answered with the same shared template exactly
when the numbers agree.

Main definitions:

- `TemplateCache.get` finds a template or parses it and keeps it.
- `TemplateCache.clear` forgets all templates, but gives no number out again.
-/

namespace TextTemplate

/-- A template of the cache with its serial number. -/
structure SharedTemplate where
  /-- The number given when the template was parsed. -/
  serial : Nat
  /-- The template. -/
  template : Template
deriving DecidableEq, Repr

/-- Templates kept under their sources. -/
structure TemplateCache where
  /-- The sources and what they were parsed to. -/
  entries : List (String × SharedTemplate) := []
  /-- The serial number of the next template. -/
  next : Nat := 0
deriving Repr

namespace TemplateCache

/-- The number of templates in the cache. -/
def size (cache : TemplateCache) : Nat := cache.entries.length

/-- Whether no template is in the cache. -/
def isEmpty (cache : TemplateCache) : Bool := cache.entries.isEmpty

/-- The template of a source.  One that is not there yet is parsed and kept; a
source that cannot be parsed leaves no trace. -/
def get (cache : TemplateCache) (source : String) :
    Except ParseError SharedTemplate × TemplateCache :=
  match cache.entries.lookup source with
  | some shared => (.ok shared, cache)
  | none =>
      match Template.parse source with
      | .error error => (.error error, cache)
      | .ok template =>
          let shared : SharedTemplate := ⟨cache.next, template⟩
          (.ok shared, ⟨(source, shared) :: cache.entries, cache.next + 1⟩)

/-- Forgets all templates. -/
def clear (cache : TemplateCache) : TemplateCache := { cache with entries := [] }

end TemplateCache

end TextTemplate
