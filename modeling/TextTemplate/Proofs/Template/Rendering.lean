import TextTemplate.Template.Render

/-!
# Rendering segment by segment

Rendering goes through the segments from the left.  What it gives depends on what
the segments say and not on where they stand, and the only thing that can go wrong
is a parameter that is missing.

Main results:

- Definition `Segment.content`: what a segment says without its range.
- Theorem `Segment.renderAll_cons`: the first segment is rendered before the others.
- Theorem `Segment.renderAll_congr`: rendering depends on the contents alone.
- Theorem `Segment.exists_missing_of_renderAll`: rendering fails for a missing
  parameter only.
-/

namespace TextTemplate

namespace Segment

/-! ## Contents -/

/-- What a segment says, wherever it stands. -/
inductive Content
  /-- Text that is copied to the output. -/
  | literal (text : String)
  /-- The place of a parameter. -/
  | placeholder (name : String)
deriving DecidableEq, Repr

/-- The content of a segment. -/
def content : Segment → Content
  | literal text _ => .literal text
  | placeholder name _ => .placeholder name

/-- What is displayed of a content. -/
def Content.display : Content → String
  | .literal text => text
  | .placeholder name => "\x7b\x7b " ++ name ++ " \x7d\x7d"

theorem display_content (segment : Segment) : segment.content.display = segment.display := by
  cases segment with
  | literal text range => rfl
  | placeholder name range => rfl

/-- Segments of the same contents are displayed in the same way. -/
theorem map_display_congr {segments others : List Segment}
    (h : segments.map content = others.map content) :
    segments.map display = others.map display := by
  have hdisplay : Content.display ∘ content = display := funext display_content
  rw [← hdisplay, ← List.map_map, h, List.map_map]

/-! ## One segment after the other -/

variable {κ : Type} [CustomValue κ]

/-- What a content is rendered to. -/
def Content.render (parameters : ParameterSet κ) (locale : Locale) :
    Content → Except TemplateError String
  | .literal text => .ok text
  | .placeholder name =>
      match parameters.get? name with
      | none => .error (.missingParameter name)
      | some parameter => .ok (parameter.render locale)

theorem Content.exists_missing_of_render {parameters : ParameterSet κ} {locale : Locale}
    {content : Content} {error : TemplateError}
    (h : content.render parameters locale = .error error) :
    ∃ name, error = .missingParameter name := by
  cases content with
  | literal text => contradiction
  | placeholder name =>
      rw [render] at h
      split at h
      · cases h
        exact ⟨name, rfl⟩
      · contradiction

/-- The first segment is rendered before the others, and its error wins. -/
theorem renderAll_cons (parameters : ParameterSet κ) (locale : Locale) (segment : Segment)
    (segments : List Segment) :
    renderAll parameters locale (segment :: segments) =
      match segment.content.render parameters locale with
      | .error error => .error error
      | .ok front => (renderAll parameters locale segments).map (front ++ ·) := by
  cases segment with
  | literal text range =>
      rw [renderAll, content, Content.render]
      cases renderAll parameters locale segments <;> rfl
  | placeholder name range =>
      rw [renderAll, content, Content.render]
      cases parameters.get? name with
      | none => rfl
      | some parameter => cases renderAll parameters locale segments <;> rfl

/-- Rendering depends on the contents of the segments alone. -/
theorem renderAll_congr {parameters : ParameterSet κ} {locale : Locale}
    {segments others : List Segment} (h : segments.map content = others.map content) :
    renderAll parameters locale segments = renderAll parameters locale others := by
  induction segments generalizing others with
  | nil =>
      have hnil : others = [] := List.map_eq_nil_iff.mp h.symm
      rw [hnil]
  | cons segment segments ih =>
      rcases List.map_eq_cons_iff.mp h.symm with ⟨other, rest, rfl, hcontent, hrest⟩
      rw [renderAll_cons, renderAll_cons, hcontent, ih hrest.symm]

/-- Rendering fails for a missing parameter only. -/
theorem exists_missing_of_renderAll {parameters : ParameterSet κ} {locale : Locale}
    {segments : List Segment} {error : TemplateError}
    (h : renderAll parameters locale segments = .error error) :
    ∃ name, error = .missingParameter name := by
  induction segments with
  | nil => contradiction
  | cons segment segments ih =>
      rw [renderAll_cons] at h
      cases hfront : segment.content.render parameters locale with
      | error other =>
          rw [hfront] at h
          cases h
          exact Content.exists_missing_of_render hfront
      | ok front =>
          rw [hfront] at h
          cases hrest : renderAll parameters locale segments with
          | error other =>
              rw [hrest] at h
              cases h
              exact ih hrest
          | ok behind =>
              rw [hrest] at h
              contradiction

end Segment

end TextTemplate
