import TextTemplate.Proofs.Parameter.Set
import TextTemplate.Proofs.Template.Meaning
import TextTemplate.Proofs.Template.Placeholders

/-!
# Substituting some of the parameters

Some of the parameters may be put in first and the others later: every other
placeholder is written out again, and the text that arises is a template itself.
Nothing of it is read in another way than it was meant, as long as the parameters
that are put in hold no opening brace.

Main results:

- Definition `Segment.fill`: a placeholder of a chosen name becomes a literal.
- Theorem `Segment.IsLoose.map_fill`: segments stay loose when texts without an opening
  brace are put in.
- Definition `ParameterSet.Defers`: a set that puts names off by writing their
  placeholders out.
- Theorem `Template.render_deferring`: rendering in two steps gives what rendering in
  one step gives.
-/

namespace TextTemplate

namespace Segment

/-! ## Putting parameters in -/

variable {κ : Type} [CustomValue κ]

/-- A placeholder of a chosen name becomes the text of its parameter; every other
segment stays as it is. -/
def fill (parameters : ParameterSet κ) (locale : Locale) (chosen : List String) :
    Segment → Segment
  | literal text range => literal text range
  | placeholder name range =>
      if name ∈ chosen then
        match parameters.get? name with
        | some parameter => literal (parameter.render locale) range
        | none => placeholder name range
      else placeholder name range

variable {parameters : ParameterSet κ} {locale : Locale} {chosen : List String}

theorem fill_placeholder_of_mem {name : String} {parameter : Parameter κ} (hname : name ∈ chosen)
    (hfound : parameters.get? name = some parameter) (range : ByteRange) :
    fill parameters locale chosen (placeholder name range) =
      literal (parameter.render locale) range := by
  rw [fill, if_pos hname, hfound]

theorem fill_placeholder_of_not_mem {name : String} (hname : name ∉ chosen) (range : ByteRange) :
    fill parameters locale chosen (placeholder name range) = placeholder name range := by
  rw [fill, if_neg hname]

theorem fill_nil (segment : Segment) : fill parameters locale [] segment = segment := by
  cases segment with
  | literal text range => rfl
  | placeholder name range => exact fill_placeholder_of_not_mem List.not_mem_nil range

/-- What has been put in already is rendered to the same text. -/
theorem render_content_fill (segment : Segment) :
    (fill parameters locale chosen segment).content.render parameters locale =
      segment.content.render parameters locale := by
  cases segment with
  | literal text range => rfl
  | placeholder name range =>
      by_cases hname : name ∈ chosen
      · cases hfound : parameters.get? name with
        | none => rw [fill, if_pos hname, hfound]
        | some parameter =>
            rw [fill_placeholder_of_mem hname hfound, content, content, Content.render,
              Content.render, hfound]
      · rw [fill_placeholder_of_not_mem hname]

/-- Putting some parameters in first does not change the rendering. -/
theorem renderAll_map_fill (segments : List Segment) :
    renderAll parameters locale (segments.map (fill parameters locale chosen)) =
      renderAll parameters locale segments := by
  induction segments with
  | nil => rfl
  | cons segment segments ih =>
      rw [List.map_cons, renderAll_cons, renderAll_cons, render_content_fill, ih]

/-- The names that have been put in are no longer asked for. -/
theorem filterMap_name?_map_fill (segments : List Segment)
    (hchosen : ∀ name ∈ chosen, ∃ parameter, parameters.get? name = some parameter) :
    (segments.map (fill parameters locale chosen)).filterMap name? =
      (segments.filterMap name?).filter (· ∉ chosen) := by
  rw [List.filterMap_map, List.filter_filterMap]
  apply List.filterMap_congr
  intro segment _
  cases segment with
  | literal text range => rfl
  | placeholder name range =>
      by_cases hname : name ∈ chosen
      · rcases hchosen name hname with ⟨parameter, hfound⟩
        simp [fill_placeholder_of_mem hname hfound, name?, hname, Option.filter]
      · simp [fill_placeholder_of_not_mem hname, name?, hname, Option.filter]

/-- Segments stay loose when texts without an opening brace are put in. -/
theorem IsLoose.map_fill {segments : List Segment} (h : IsLoose segments)
    (hchosen : ∀ name ∈ chosen, ∃ parameter, parameters.get? name = some parameter ∧
      '{' ∉ (parameter.render locale).toList) :
    IsLoose (segments.map (fill parameters locale chosen)) where
  writable := by
    rw [List.forall_mem_map]
    intro segment hsegment
    have hwritable := h.writable segment hsegment
    cases segment with
    | literal text range => exact hwritable
    | placeholder name range =>
        by_cases hname : name ∈ chosen
        · rcases hchosen name hname with ⟨parameter, hfound, hbrace⟩
          rw [fill_placeholder_of_mem hname hfound]
          intro hbraces
          exact hbrace (hbraces.mem List.mem_cons_self)
        · rwa [fill_placeholder_of_not_mem hname]
  separated := by
    rw [List.isChain_map]
    refine h.separated.imp ?_
    intro segment next hlast
    cases segment with
    | literal text range => exact hlast
    | placeholder name range =>
        by_cases hname : name ∈ chosen
        · rcases hchosen name hname with ⟨parameter, hfound, hbrace⟩
          rw [fill_placeholder_of_mem hname hfound]
          intro hends
          exact hbrace (List.mem_of_getLast? hends)
        · rwa [fill_placeholder_of_not_mem hname]

/-- Leaving names out and leaving repetitions out may be done in either order. -/
theorem eraseDups_filter (names : List String) (p : String → Bool) :
    (names.filter p).eraseDups = names.eraseDups.filter p := by
  induction names using List.reverseRecOn with
  | nil => rfl
  | append_singleton names name ih =>
      rw [List.filter_append, List.eraseDups_append, List.eraseDups_append, List.filter_append, ih]
      congr 1
      have hsingle : [name].eraseDups = [name] := rfl
      by_cases hname : p name = true
      · by_cases hmem : name ∈ names <;> simp [List.removeAll, hname, hmem, hsingle]
      · by_cases hmem : name ∈ names <;> simp [List.removeAll, hname, hmem, hsingle]

/-- The names that are still asked for keep their order. -/
theorem names_map_fill (segments : List Segment)
    (hchosen : ∀ name ∈ chosen, ∃ parameter, parameters.get? name = some parameter) :
    names (segments.map (fill parameters locale chosen)) =
      (names segments).filter (· ∉ chosen) := by
  rw [names, filterMap_name?_map_fill segments hchosen, eraseDups_filter, names]

end Segment

/-! ## Putting parameters off -/

/-- A parameter that puts a name off: the text of its own placeholder. -/
def Parameter.writtenOut (κ : Type) (name : String) : Parameter κ :=
  ⟨name, .text ⟨"\x7b\x7b " ++ name ++ " \x7d\x7d", false⟩⟩

namespace ParameterSet

variable {κ : Type}

/-- A set that agrees with another one on the chosen names, and puts the others of
some names off. -/
structure Defers (partly parameters : ParameterSet κ) (chosen names : List String) : Prop where
  given : ∀ name ∈ chosen, partly.get? name = parameters.get? name
  deferred : ∀ name ∈ names, name ∉ chosen → partly.get? name = some (.writtenOut κ name)

/-- The parameters of the chosen names, and all of some names put off. -/
def deferring (parameters : ParameterSet κ) (chosen names : List String) : ParameterSet κ :=
  ofList (names.map (.writtenOut κ) ++ chosen.filterMap parameters.get?)

/-- The only parameter of a name in a list is found, from whichever end. -/
theorem find?_reverse_eq_some {list : List (Parameter κ)} {parameter : Parameter κ}
    (hmem : parameter ∈ list)
    (honly : ∀ other ∈ list, other.name = parameter.name → other = parameter) :
    list.reverse.find? (·.name == parameter.name) = some parameter := by
  cases hfind : list.reverse.find? (·.name == parameter.name) with
  | none => simpa using List.find?_eq_none.mp hfind parameter (List.mem_reverse.mpr hmem)
  | some other =>
      have hname : other.name = parameter.name := by simpa using List.find?_some hfind
      rw [honly other (List.mem_reverse.mp (List.mem_of_find?_eq_some hfind)) hname]

/-- There is a set that puts the names that are not chosen off. -/
theorem deferring_defers {parameters : ParameterSet κ} {chosen : List String}
    (hchosen : ∀ name ∈ chosen, ∃ parameter, parameters.get? name = some parameter)
    (names : List String) :
    (parameters.deferring chosen names).Defers parameters chosen names where
  given := by
    intro name hname
    rcases hchosen name hname with ⟨parameter, hfound⟩
    obtain rfl := name_of_get? hfound
    have hmem : parameter ∈ chosen.filterMap parameters.get? :=
      List.mem_filterMap.mpr ⟨parameter.name, hname, hfound⟩
    rw [deferring, get?_ofList, List.reverse_append, List.find?_append,
      find?_reverse_eq_some hmem, hfound, Option.some_or]
    intro other hother hsame
    rcases List.mem_filterMap.mp hother with ⟨otherName, -, hotherFound⟩
    rw [← name_of_get? hotherFound, hsame, hfound] at hotherFound
    exact (Option.some.inj hotherFound).symm
  deferred := by
    intro name hmem hname
    have hwritten : Parameter.writtenOut κ name ∈ names.map (.writtenOut κ) :=
      List.mem_map_of_mem hmem
    have hnone : (chosen.filterMap parameters.get?).reverse.find? (·.name == name) = none := by
      rw [List.find?_eq_none]
      intro other hother
      rcases List.mem_filterMap.mp (List.mem_reverse.mp hother) with ⟨otherName, hin, hfound⟩
      rw [beq_iff_eq, name_of_get? hfound]
      rintro rfl
      exact hname hin
    rw [deferring, get?_ofList, List.reverse_append, List.find?_append, hnone, Option.none_or]
    refine find?_reverse_eq_some hwritten ?_
    intro other hother hsame
    rcases List.mem_map.mp hother with ⟨otherName, -, rfl⟩
    exact congrArg (Parameter.writtenOut κ) hsame

end ParameterSet

namespace Segment

variable {κ : Type} [CustomValue κ] {parameters partly : ParameterSet κ} {locale : Locale}
  {chosen : List String}

/-- Rendering with names put off writes the chosen parameters and the placeholders of
the others. -/
theorem renderAll_of_defers {segments : List Segment}
    (hdefers : partly.Defers parameters chosen (names segments))
    (hchosen : ∀ name ∈ chosen, ∃ parameter, parameters.get? name = some parameter) :
    renderAll partly locale segments =
      .ok (String.join ((segments.map (fill parameters locale chosen)).map display)) := by
  rw [List.map_map]
  apply renderAll_of_shows
  rw [List.forall₂_map_right_iff, List.forall₂_same]
  intro segment hsegment
  cases segment with
  | literal text range => exact .literal text range
  | placeholder name range =>
      rw [Function.comp_apply]
      by_cases hname : name ∈ chosen
      · rcases hchosen name hname with ⟨parameter, hfound⟩
        rw [fill_placeholder_of_mem hname hfound]
        exact .placeholder ((hdefers.given name hname).trans hfound)
      · rw [fill_placeholder_of_not_mem hname]
        exact .placeholder (hdefers.deferred name (mem_names.mpr ⟨range, hsegment⟩) hname)

end Segment

namespace Template

/-- Rendering in two steps.  Chosen parameters, whose texts hold no opening brace, are
put in first, and all other placeholders of a template are put off.  What is rendered
then is a template that asks for the names that were put off, in their order, and
rendering it gives what rendering at once gives, a missing parameter included.  With
nothing chosen it is the normal form of the template. -/
theorem render_deferring {source : String} {template : Template}
    (h : parse source = .ok template) {κ : Type} [CustomValue κ] {parameters : ParameterSet κ}
    {locale : Locale} {chosen : List String}
    (hchosen : ∀ name ∈ chosen, ∃ parameter, parameters.get? name = some parameter ∧
      '{' ∉ (parameter.render locale).toList) :
    (∃ partly : ParameterSet κ, partly.Defers parameters chosen template.placeholders) ∧
      ∀ partly : ParameterSet κ, partly.Defers parameters chosen template.placeholders →
        ∃ text again, template.render partly locale = .ok text ∧ parse text = .ok again ∧
          again.placeholders = template.placeholders.filter (· ∉ chosen) ∧
          again.render parameters locale = template.render parameters locale ∧
          (chosen = [] → text = template.display) := by
  have hfound : ∀ name ∈ chosen, ∃ parameter, parameters.get? name = some parameter := by
    intro name hname
    rcases hchosen name hname with ⟨parameter, hparameter, -⟩
    exact ⟨parameter, hparameter⟩
  refine ⟨⟨_, ParameterSet.deferring_defers hfound _⟩, ?_⟩
  intro partly hdefers
  rcases parse_eq_ok_iff.mp h with ⟨pieces, hcut, rfl⟩
  have hloose := Segment.isLoose_ofPieces hcut.wellFormed hcut.separated 0
  rcases (hloose.map_fill hchosen).exists_parse with ⟨again, hagain, hmeaning⟩
  refine ⟨_, again, Segment.renderAll_of_defers hdefers hfound, hagain, ?_, ?_, ?_⟩
  · exact (congrArg List.eraseDups hmeaning.names).trans (Segment.names_map_fill _ hfound)
  · exact (hmeaning.rendering κ parameters locale).trans (Segment.renderAll_map_fill _)
  · rintro rfl
    have hfill : Segment.fill parameters locale [] = id := funext Segment.fill_nil
    rw [hfill, List.map_id]
    rfl

/-- The chosen parameter is a closing brace, which meets a placeholder and a lone opening
brace; the other one holds a placeholder, which stays a text. -/
theorem render_deferring_closing_brace :
    let source := "\x7b\x7ba\x7d\x7d\x7b\x7bb\x7d\x7d\x7b\x7ba\x7d\x7d\x7b"
    let parameters : ParameterSet Empty :=
      (ParameterSet.empty.addText "a" "\x7d").addText "b" "\x7b\x7b a \x7d\x7d"
    ∃ template partly text again, parse source = .ok template ∧
      (∀ name ∈ ["a"], ∃ parameter, parameters.get? name = some parameter ∧
        '{' ∉ (parameter.render .root).toList) ∧
      partly.Defers parameters ["a"] template.placeholders ∧
      template.render partly .root = .ok text ∧ parse text = .ok again ∧
      again.placeholders = ["b"] ∧
      again.render parameters .root = .ok "\x7d\x7b\x7b a \x7d\x7d\x7d\x7b" := by
  intro source parameters
  have h : parse source = .ok ⟨source, [.placeholder "a" ⟨0, 5⟩, .placeholder "b" ⟨5, 10⟩,
      .placeholder "a" ⟨10, 15⟩, .literal "\x7b" ⟨15, 16⟩]⟩ := by decide +kernel
  have hchosen : ∀ name ∈ ["a"], ∃ parameter, parameters.get? name = some parameter ∧
      '{' ∉ (parameter.render .root).toList := by
    intro name hname
    obtain rfl := List.mem_singleton.mp hname
    exact ⟨⟨"a", .text ⟨"\x7d", false⟩⟩, rfl, by decide⟩
  rcases render_deferring h hchosen with ⟨⟨partly, hdefers⟩, hrender⟩
  rcases hrender partly hdefers with ⟨text, again, htext, hagain, hnames, hsame, -⟩
  exact ⟨_, partly, text, again, h, hchosen, hdefers, htext, hagain,
    hnames.trans (by decide +kernel), hsame.trans (by decide +kernel)⟩

end Template

end TextTemplate
