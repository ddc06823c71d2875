import Mathlib.Data.List.Forall2
import Mathlib.Data.List.Induction
import TextTemplate.Proofs.Template.Rendering

/-!
# Placeholders and rendering

The names that a template asks for decide whether it can be rendered.  They are
listed in the order in which they first appear, so the first of them without a
parameter is also the one at which rendering stops.

Main results:

- Definition `Segment.Shows`: the text that takes the place of a segment.
- Theorem `Segment.names_concat_placeholder`: one more placeholder adds its name at
  the end, if that is new.
- Theorem `Segment.pairwise_names`: the names stand in the order of their first
  places.
- Theorem `Segment.renderAll_of_shows`: where every segment has a text, rendering
  puts these texts together.
- Theorem `Segment.renderAll_of_missing`: the first name without a parameter is
  reported.
- Theorem `Template.render_placeholders`: the placeholders, the renderings and the errors of
  a template.
-/

namespace TextTemplate

namespace Segment

/-! ## Names in the order of their first places -/

/-- The names of the placeholders, each where it appears first. -/
def names (segments : List Segment) : List String :=
  (segments.filterMap name?).eraseDups

/-- The number of segments before the first placeholder of a name. -/
def firstPlace (segments : List Segment) (name : String) : Nat :=
  segments.findIdx (·.name? == some name)

theorem mem_names {segments : List Segment} {name : String} :
    name ∈ names segments ↔ ∃ range, placeholder name range ∈ segments := by
  rw [names, List.mem_eraseDups, List.mem_filterMap]
  constructor
  · rintro ⟨segment, hsegment, hname⟩
    cases segment with
    | literal text range => contradiction
    | placeholder other range =>
        cases hname
        exact ⟨range, hsegment⟩
  · rintro ⟨range, hsegment⟩
    exact ⟨_, hsegment, rfl⟩

theorem names_concat_literal (segments : List Segment) (text : String) (range : ByteRange) :
    names (segments ++ [literal text range]) = names segments := by
  have hnone : [literal text range].filterMap name? = [] := rfl
  rw [names, List.filterMap_append, hnone, List.append_nil, names]

/-- One more placeholder adds its name at the end, if that is new. -/
theorem names_concat_placeholder (segments : List Segment) (name : String) (range : ByteRange) :
    names (segments ++ [placeholder name range]) =
      if name ∈ names segments then names segments else names segments ++ [name] := by
  have hsome : [placeholder name range].filterMap name? = [name] := rfl
  simp only [names, List.filterMap_append, hsome, List.eraseDups_append, List.mem_eraseDups,
    List.removeAll, List.filter_cons, List.filter_nil, List.elem_eq_mem]
  by_cases hmem : name ∈ segments.filterMap name?
  · simp only [hmem, decide_true, Bool.not_true, Bool.false_eq_true, if_false, if_true,
      List.eraseDups_nil, List.append_nil]
  · simp only [hmem, decide_false, Bool.not_false, if_true, if_false]
    rfl

/-- A name that appears has its first place among the segments. -/
theorem firstPlace_lt {segments : List Segment} {name : String} (h : name ∈ names segments) :
    firstPlace segments name < segments.length := by
  rcases mem_names.mp h with ⟨range, hsegment⟩
  rw [firstPlace, List.findIdx_lt_length]
  exact ⟨_, hsegment, by simp [name?]⟩

/-- Further segments do not move the first place of a name that appears. -/
theorem firstPlace_append {segments : List Segment} {name : String} (h : name ∈ names segments)
    (more : List Segment) : firstPlace (segments ++ more) name = firstPlace segments name := by
  rw [firstPlace, List.findIdx_append]
  exact if_pos (firstPlace_lt h)

/-- A new name has its first place behind all segments before it. -/
theorem firstPlace_concat {segments : List Segment} {name : String} (h : name ∉ names segments)
    (range : ByteRange) :
    firstPlace (segments ++ [placeholder name range]) name = segments.length := by
  have habsent : segments.findIdx (·.name? == some name) = segments.length := by
    rw [List.findIdx_eq_length]
    intro segment hsegment
    cases segment with
    | literal text range => rfl
    | placeholder other otherRange =>
        have hne : other ≠ name := by
          rintro rfl
          exact h (mem_names.mpr ⟨otherRange, hsegment⟩)
        simpa [name?] using hne
  rw [firstPlace, List.findIdx_append, habsent, if_neg (Nat.lt_irrefl _)]
  simp [name?]

/-- The names stand in the order of their first places. -/
theorem pairwise_names (segments : List Segment) :
    (names segments).Pairwise fun a b => firstPlace segments a < firstPlace segments b := by
  -- Segments are added at the end, as the names are.
  induction segments using List.reverseRecOn with
  | nil => exact .nil
  | append_singleton segments segment ih =>
      have hkept : (names segments).Pairwise fun a b =>
          firstPlace (segments ++ [segment]) a < firstPlace (segments ++ [segment]) b := by
        refine ih.imp_of_mem ?_
        intro a b ha hb hlt
        rwa [firstPlace_append ha, firstPlace_append hb]
      cases segment with
      | literal text range => rwa [names_concat_literal]
      | placeholder name range =>
          rw [names_concat_placeholder]
          split
          next => exact hkept
          next hnew =>
            refine List.pairwise_append.mpr ⟨hkept, List.pairwise_singleton _ _, ?_⟩
            intro a ha b hb
            obtain rfl := List.mem_singleton.mp hb
            rw [firstPlace_append ha, firstPlace_concat hnew]
            exact firstPlace_lt ha

theorem nodup_names (segments : List Segment) : (names segments).Nodup := by
  refine (pairwise_names segments).imp ?_
  rintro a b hlt rfl
  exact Nat.lt_irrefl _ hlt

/-- The first name with a property is that of the first placeholder with it. -/
theorem find?_names (segments : List Segment) (p : String → Bool) :
    (names segments).find? p = (segments.filterMap name?).find? p := by
  induction segments using List.reverseRecOn with
  | nil => rfl
  | append_singleton segments segment ih =>
      cases segment with
      | literal text range => simpa [names_concat_literal, name?] using ih
      | placeholder name range =>
          rw [names_concat_placeholder, List.filterMap_append, List.find?_append, ← ih]
          split
          next hmem =>
            cases hfind : (names segments).find? p with
            | some found => rfl
            | none =>
                have hname : p name = false := by
                  simpa using List.find?_eq_none.mp hfind name hmem
                simp [name?, hname]
          next => rw [List.find?_append]; rfl

/-! ## Rendering and its errors -/

variable {κ : Type} [CustomValue κ] {parameters : ParameterSet κ} {locale : Locale}

/-- The text that takes the place of a segment: that of a literal, or the rendered
parameter of a placeholder. -/
inductive Shows (parameters : ParameterSet κ) (locale : Locale) : Segment → String → Prop
  | literal (text : String) (range : ByteRange) : Shows parameters locale (.literal text range) text
  | placeholder {name : String} {range : ByteRange} {parameter : Parameter κ} :
      parameters.get? name = some parameter →
      Shows parameters locale (.placeholder name range) (parameter.render locale)

theorem Shows.render_content {segment : Segment} {text : String}
    (h : Shows parameters locale segment text) :
    segment.content.render parameters locale = .ok text := by
  cases h with
  | literal => rfl
  | placeholder hfound => rw [content, Content.render, hfound]

/-- Where every segment has a text, rendering puts these texts together. -/
theorem renderAll_of_shows {segments : List Segment} {texts : List String}
    (h : List.Forall₂ (Shows parameters locale) segments texts) :
    renderAll parameters locale segments = .ok (String.join texts) := by
  induction h with
  | nil => rfl
  | cons hshows _ ih =>
      rw [renderAll_cons, hshows.render_content, ih, String.join_cons]
      rfl

/-- If no name is missing, every segment has a text. -/
theorem exists_shows {segments : List Segment}
    (h : ∀ name ∈ names segments, parameters.contains name = true) :
    ∃ texts, List.Forall₂ (Shows parameters locale) segments texts := by
  have hshown : ∀ segment ∈ segments, ∃ text, Shows parameters locale segment text := by
    intro segment hsegment
    cases segment with
    | literal text range => exact ⟨text, .literal text range⟩
    | placeholder name range =>
        have hcontains := h name (mem_names.mpr ⟨range, hsegment⟩)
        rcases Option.isSome_iff_exists.mp hcontains with ⟨parameter, hfound⟩
        exact ⟨_, .placeholder hfound⟩
  clear h
  induction segments with
  | nil => exact ⟨[], .nil⟩
  | cons segment segments ih =>
      rcases List.forall_mem_cons.mp hshown with ⟨⟨text, hfirst⟩, hrest⟩
      rcases ih hrest with ⟨texts, htexts⟩
      exact ⟨text :: texts, .cons hfirst htexts⟩

/-- Rendering stops at the first name without a parameter. -/
theorem renderAll_of_missing {segments : List Segment} {name : String}
    (h : (names segments).find? (fun name => !parameters.contains name) = some name) :
    renderAll parameters locale segments = .error (.missingParameter name) := by
  rw [find?_names] at h
  induction segments with
  | nil => contradiction
  | cons segment segments ih =>
      rw [renderAll_cons]
      cases segment with
      | literal text range =>
          rw [List.filterMap_cons_none rfl] at h
          rw [ih h]
          rfl
      | placeholder other range =>
          have hnames : (placeholder other range :: segments).filterMap name? =
              other :: segments.filterMap name? := rfl
          rw [hnames, List.find?_cons] at h
          rw [content, Content.render]
          split at h
          next hmissing =>
            cases h
            have hnone : parameters.get? name = none := by
              simpa [ParameterSet.contains] using hmissing
            rw [hnone]
          next hfound =>
            have hsome : (parameters.get? other).isSome = true := by
              simpa [ParameterSet.contains] using hfound
            rcases Option.isSome_iff_exists.mp hsome with ⟨parameter, hparameter⟩
            rw [hparameter, ih h]
            rfl

/-- Rendering succeeds exactly when no name is missing. -/
theorem exists_renderAll_iff {segments : List Segment} :
    (∃ output, renderAll parameters locale segments = .ok output) ↔
      ∀ name ∈ names segments, parameters.contains name = true := by
  constructor
  · rintro ⟨output, hrender⟩
    cases hfind : (names segments).find? (fun name => !parameters.contains name) with
    | none => simpa using List.find?_eq_none.mp hfind
    | some name =>
        rw [renderAll_of_missing hfind] at hrender
        contradiction
  · intro hcontained
    have hshown : ∃ texts, List.Forall₂ (Shows parameters locale) segments texts :=
      exists_shows hcontained
    rcases hshown with ⟨texts, htexts⟩
    exact ⟨_, renderAll_of_shows htexts⟩

/-- The renderings of segments are their texts put together. -/
theorem renderAll_eq_ok_iff {segments : List Segment} {output : String} :
    renderAll parameters locale segments = .ok output ↔
      ∃ texts, List.Forall₂ (Shows parameters locale) segments texts ∧
        output = String.join texts := by
  constructor
  · intro h
    have hcontained := exists_renderAll_iff.mp ⟨output, h⟩
    rcases exists_shows hcontained with ⟨texts, htexts⟩
    rw [renderAll_of_shows htexts] at h
    exact ⟨texts, htexts, (Except.ok.inj h).symm⟩
  · rintro ⟨texts, htexts, rfl⟩
    exact renderAll_of_shows htexts

/-- The one error of segments is their first name without a parameter. -/
theorem renderAll_eq_error_iff {segments : List Segment} {error : TemplateError} :
    renderAll parameters locale segments = .error error ↔
      ∃ name, (names segments).find? (fun name => !parameters.contains name) = some name ∧
        error = .missingParameter name := by
  constructor
  · intro h
    cases hfind : (names segments).find? (fun name => !parameters.contains name) with
    | none =>
        have hcontained : ∀ name ∈ names segments, parameters.contains name = true := by
          simpa using List.find?_eq_none.mp hfind
        rcases exists_renderAll_iff.mpr hcontained with ⟨output, hrender⟩
        rw [hrender] at h
        contradiction
    | some name =>
        rw [renderAll_of_missing hfind] at h
        exact ⟨name, rfl, (Except.error.inj h).symm⟩
  · rintro ⟨name, hfind, rfl⟩
    exact renderAll_of_missing hfind

end Segment

namespace Template

variable {κ : Type} [CustomValue κ]

/-- The placeholders of a template are the names of its segments without repetition,
in the order of their first places.  Rendering succeeds exactly when each of them
has a parameter, and gives the texts of the segments put together, whatever braces
are in the parameters.  Otherwise it reports the first placeholder without a
parameter.  The segments alone are rendered in the same way. -/
theorem render_placeholders (template : Template) (parameters : ParameterSet κ) (locale : Locale) :
    template.placeholders.Nodup ∧
      (∀ name, name ∈ template.placeholders ↔
        ∃ range, Segment.placeholder name range ∈ template.segments) ∧
      (template.placeholders.Pairwise fun a b =>
        Segment.firstPlace template.segments a < Segment.firstPlace template.segments b) ∧
      ((∃ output, template.render parameters locale = .ok output) ↔
        ∀ name ∈ template.placeholders, parameters.contains name = true) ∧
      (∀ output, template.render parameters locale = .ok output ↔
        ∃ texts, List.Forall₂ (Segment.Shows parameters locale) template.segments texts ∧
          output = String.join texts) ∧
      (∀ error, template.render parameters locale = .error error ↔
        ∃ name, template.placeholders.find? (fun name => !parameters.contains name) = some name ∧
          error = .missingParameter name) ∧
      Segment.renderAll parameters locale template.segments =
        template.render parameters locale := by
  exact ⟨Segment.nodup_names _, fun name => Segment.mem_names, Segment.pairwise_names _,
    Segment.exists_renderAll_iff, fun output => Segment.renderAll_eq_ok_iff,
    fun error => Segment.renderAll_eq_error_iff, rfl⟩

/-- Braces in a parameter are text like any other. -/
example :
    let parameters : ParameterSet Empty := ParameterSet.empty.addText "a" "\x7b\x7b b \x7d\x7d"
    format "<\x7b\x7ba\x7d\x7d>" .root parameters = .ok "<\x7b\x7b b \x7d\x7d>" := by
  decide +kernel

end Template

end TextTemplate
