import TextTemplate.Proofs.Template.Shortcut

/-!
# What rendering does not depend on

Two renderings of one template are compared here.  The locale changes how parameters
look, but not whether there is a rendering, since only a missing parameter can go wrong.
Of the parameters only those count that are found under the names of the template.

Main results:

- Definition `SameFailure`: two results that fail alike, or both succeed.
- Definition `AgreeOn`: sets with the same parameters under the placeholders of a text.
- Theorem `SameFailure.bind`: steps that fail alike, one after the other, fail alike.
- Theorems `Segment.sameFailure_renderAll` and `sameFailure_format`: the locale does not
  decide whether there is a rendering.
- Theorem `Segment.renderAll_congr_get?`: parameters under other names do not matter.
- Theorem `format_congr_get?`: sets in which the same is found are formatted alike.
- Theorem `format_unused_parameters`: parameters that a text does not ask for matter only
  to the shortcut for the empty set.
-/

namespace TextTemplate

/-! ## Failing alike -/

/-- Two results are both values, whichever these are, or they are the same error. -/
inductive SameFailure {ε α : Type} : Except ε α → Except ε α → Prop
  | ok (a b : α) : SameFailure (.ok a) (.ok b)
  | error (error : ε) : SameFailure (.error error) (.error error)

namespace SameFailure

variable {ε α β : Type}

theorem refl (result : Except ε α) : SameFailure result result := by
  cases result with
  | error error => exact .error error
  | ok a => exact .ok a a

theorem of_error_iff {result other : Except ε α}
    (h : ∀ error, result = .error error ↔ other = .error error) : SameFailure result other := by
  cases result with
  | error error =>
      rw [(h error).mp rfl]
      exact .error error
  | ok a =>
      cases other with
      | error error => exact absurd ((h error).mpr rfl) nofun
      | ok b => exact .ok a b

/-- Steps that fail alike are followed by steps that fail alike, whatever values they
hand on. -/
theorem bind {step other : Except ε α} {next otherNext : α → Except ε β}
    (h : SameFailure step other) (hnext : ∀ a b, SameFailure (next a) (otherNext b)) :
    SameFailure (step >>= next) (other >>= otherNext) := by
  cases h with
  | ok a b => exact hnext a b
  | error error => exact .error error

/-- After one and the same step the values handed on are the same. -/
theorem bind_left (step : Except ε α) {next otherNext : α → Except ε β}
    (hnext : ∀ a, SameFailure (next a) (otherNext a)) :
    SameFailure (step >>= next) (step >>= otherNext) := by
  cases step with
  | ok a => exact hnext a
  | error error => exact .error error

end SameFailure

/-! ## Agreeing sets -/

variable {κ : Type}

/-- Two sets hold the same parameter, or both none, under each placeholder of a text.  A
text that is not a template has no placeholders. -/
def AgreeOn (source : String) (parameters others : ParameterSet κ) : Prop :=
  ∀ template, Template.parse source = .ok template →
    ∀ name ∈ template.placeholders, parameters.get? name = others.get? name

theorem AgreeOn.symm {source : String} {parameters others : ParameterSet κ}
    (h : AgreeOn source parameters others) : AgreeOn source others parameters :=
  fun template hparse name hname => (h template hparse name hname).symm

variable [CustomValue κ]

namespace Segment

/-! ## Different locales -/

/-- Which parameter is missing, if one is, has nothing to do with the locale. -/
theorem sameFailure_renderAll (parameters : ParameterSet κ) (locale other : Locale)
    (segments : List Segment) :
    SameFailure (renderAll parameters locale segments) (renderAll parameters other segments) := by
  apply SameFailure.of_error_iff
  intro error
  rw [renderAll_eq_error_iff, renderAll_eq_error_iff]

/-! ## Different parameters -/

/-- Parameters that are not found under the names of the segments do not matter. -/
theorem renderAll_congr_get? {parameters others : ParameterSet κ} {segments : List Segment}
    (h : ∀ name ∈ names segments, parameters.get? name = others.get? name) (locale : Locale) :
    renderAll parameters locale segments = renderAll others locale segments := by
  have hcontent : ∀ segment ∈ segments,
      segment.content.render parameters locale = segment.content.render others locale := by
    intro segment hsegment
    cases segment with
    | literal text range => rfl
    | placeholder name range =>
        rw [content, Content.render, Content.render, h name (mem_names.mpr ⟨range, hsegment⟩)]
  clear h
  induction segments with
  | nil => rfl
  | cons segment segments ih =>
      rcases List.forall_mem_cons.mp hcontent with ⟨hfirst, hrest⟩
      rw [renderAll_cons, renderAll_cons, hfirst, ih hrest]

end Segment

/-! ## Formatting in one call -/

/-- The locale does not decide whether a text can be formatted. -/
theorem sameFailure_format (template : String) (locale other : Locale)
    (parameters : ParameterSet κ) :
    SameFailure (format template locale parameters) (format template other parameters) := by
  by_cases hempty : parameters.isEmpty = true
  · rw [format_of_isEmpty hempty, format_of_isEmpty hempty]
    exact .refl _
  · rw [format_of_not_isEmpty hempty, format_of_not_isEmpty hempty]
    apply SameFailure.bind_left
    intro parsed
    exact Segment.sameFailure_renderAll parameters locale other parsed.segments

/-- Parameters that are not found under the placeholders of a text do not matter where the
text is parsed first. -/
theorem readAndRender_congr_get? {source : String} {parameters others : ParameterSet κ}
    (h : AgreeOn source parameters others) (locale : Locale) :
    Template.readAndRender source parameters locale =
      Template.readAndRender source others locale := by
  cases hparse : Template.parse source with
  | error error =>
      rw [Template.readAndRender_of_error hparse, Template.readAndRender_of_error hparse]
  | ok template =>
      rw [Template.readAndRender_of_parse hparse, Template.readAndRender_of_parse hparse]
      exact Segment.renderAll_congr_get? (h template hparse) locale

/-- Sets in which the same parameters are found are formatted alike. -/
theorem format_congr_get? {parameters others : ParameterSet κ}
    (h : ∀ name, parameters.get? name = others.get? name) (template : String) (locale : Locale) :
    format template locale parameters = format template locale others := by
  have hempty : parameters.isEmpty = true ↔ others.isEmpty = true := by
    simp only [ParameterSet.isEmpty_iff, ParameterSet.contains, h]
  by_cases hnone : parameters.isEmpty = true
  · rw [format_of_isEmpty hnone, format_of_isEmpty (hempty.mp hnone)]
  · rw [format_of_not_isEmpty hnone, format_of_not_isEmpty (mt hempty.mpr hnone)]
    exact readAndRender_congr_get? (fun _ _ name _ => h name) locale

/-! ## Parameters that are not used -/

section Unused

variable {source : String} {parameters others : ParameterSet κ}

/-- If just one of two agreeing sets is empty, a text with two opening braces is given back
with the empty one, and refused with the other. -/
theorem format_ne_of_isEmpty (h : AgreeOn source parameters others)
    (hempty : parameters.isEmpty = true) (hothers : ¬ others.isEmpty = true)
    (hbraces : ['{', '{'] <:+: source.toList) (locale : Locale) :
    format source locale parameters ≠ format source locale others := by
  rcases Template.exists_error_of_isEmpty hempty hbraces locale with ⟨error, herror⟩
  rw [format_of_isEmpty hempty, format_of_not_isEmpty hothers, ← readAndRender_congr_get? h,
    herror]
  exact nofun

/-- Agreeing sets are formatted alike, unless just one of them is empty and the text has two
opening braces. -/
theorem format_eq_iff_of_agreeOn (h : AgreeOn source parameters others) (locale : Locale) :
    format source locale parameters = format source locale others ↔
      parameters.isEmpty = others.isEmpty ∨ ¬ ['{', '{'] <:+: source.toList := by
  by_cases hbraces : ['{', '{'] <:+: source.toList
  · simp only [hbraces, not_true_eq_false, or_false]
    cases hempty : parameters.isEmpty with
    | true =>
        cases hothers : others.isEmpty with
        | true =>
            rw [format_of_isEmpty hempty, format_of_isEmpty hothers]
            exact iff_of_true rfl rfl
        | false =>
            have hne := format_ne_of_isEmpty h hempty (ne_true_of_eq_false hothers) hbraces locale
            exact iff_of_false hne nofun
    | false =>
        cases hothers : others.isEmpty with
        | true =>
            have hne :=
              format_ne_of_isEmpty h.symm hothers (ne_true_of_eq_false hempty) hbraces locale
            exact iff_of_false hne.symm nofun
        | false =>
            rw [format_of_not_isEmpty (ne_true_of_eq_false hempty),
              format_of_not_isEmpty (ne_true_of_eq_false hothers)]
            exact iff_of_true (readAndRender_congr_get? h locale) rfl
  · have hparsed : ∀ set : ParameterSet κ,
        format source locale set = Template.readAndRender source set locale :=
      fun set => format_eq_readAndRender_iff.mpr fun hskipped => hbraces hskipped.2
    rw [hparsed, hparsed]
    exact iff_of_true (readAndRender_congr_get? h locale) (.inr hbraces)

/-- Parameters that a text does not ask for change nothing: two sets with the same
parameters under its placeholders are rendered alike by the template, and formatted alike
by the one call if neither is empty, whether the text is a template or not.  What the one
call gives differs only when just one of the sets is empty and the text has two opening
braces. -/
theorem format_unused_parameters (h : AgreeOn source parameters others) (locale : Locale) :
    (∀ template, Template.parse source = .ok template →
        template.render parameters locale = template.render others locale) ∧
      (parameters.isEmpty = false → others.isEmpty = false →
        format source locale parameters = format source locale others) ∧
      (format source locale parameters = format source locale others ↔
        parameters.isEmpty = others.isEmpty ∨ ¬ ['{', '{'] <:+: source.toList) := by
  refine ⟨?_, ?_, format_eq_iff_of_agreeOn h locale⟩
  · intro template hparse
    exact Segment.renderAll_congr_get? (h template hparse) locale
  · intro hparameters hothers
    exact (format_eq_iff_of_agreeOn h locale).mpr (.inl (hparameters.trans hothers.symm))

end Unused

/-- Of two sets that share only the parameter in use, in different places, both give the
same text. -/
theorem format_unused_parameters_other_names :
    let source := "\x7b\x7b a \x7d\x7d"
    let parameters : ParameterSet Empty := (ParameterSet.empty.addText "a" "1").addText "b" "2"
    let others : ParameterSet Empty :=
      ((ParameterSet.empty.addText "c" "3").addText "a" "1").addText "d" "4"
    AgreeOn source parameters others ∧ parameters.isEmpty = false ∧ others.isEmpty = false ∧
      format source .root parameters = .ok "1" ∧
      format source .root parameters = format source .root others := by
  intro source parameters others
  have hparse : Template.parse source = .ok ⟨source, [.placeholder "a" ⟨0, 7⟩]⟩ := by
    decide +kernel
  have hsame : AgreeOn source parameters others := by
    intro template htemplate name hname
    rw [hparse, Except.ok.injEq] at htemplate
    subst htemplate
    obtain rfl : name = "a" := List.mem_singleton.mp hname
    rfl
  have hformat : format source .root parameters = .ok "1" := by decide +kernel
  exact ⟨hsame, rfl, rfl, hformat, (format_unused_parameters hsame .root).2.1 rfl rfl⟩

end TextTemplate
