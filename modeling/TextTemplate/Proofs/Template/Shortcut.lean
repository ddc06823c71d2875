import TextTemplate.Proofs.Formatter
import TextTemplate.Proofs.Parameter.Set
import TextTemplate.Proofs.Template.Meaning
import TextTemplate.Proofs.Template.Placeholders

/-!
# Formatting without parameters

Template text can be formatted in one call, by parsing and rendering it, or by a
formatter.  The call gives a text back as it is when there are no parameters; the
other ways always parse.  They part exactly where there is something to parse, which
are two opening braces, and no parameter to put in.

Main results:

- Theorem `Piece.IsCut.braces_iff`: a template holds two opening braces exactly when
  it has a placeholder.
- Theorem `Template.readAndRender_of_braceless`: a text without two opening braces is
  rendered to itself.
- Theorem `Template.exists_error_of_isEmpty`: without parameters, nothing else is
  rendered.
- Theorem `Formatter.appended_format`: what a formatter appends.
- Theorem `format_shortcut`: the one call, compared with the others.
-/

namespace TextTemplate

/-! ## Texts without braces -/

/-- A cut without placeholders is at most one literal. -/
theorem Piece.IsCut.eq_of_forall_isLiteral {text : List Char} {pieces : List Piece}
    (h : IsCut text pieces) (hliteral : ∀ piece ∈ pieces, piece.IsLiteral) :
    pieces = [] ∨ pieces = [literal text] := by
  have hsource := h.source_eq
  cases pieces with
  | nil => exact Or.inl rfl
  | cons first rest =>
      rcases List.forall_mem_cons.mp hliteral with ⟨hfirst, hrest⟩
      cases first with
      | placeholder before name after => exact hfirst.elim
      | literal front =>
          cases rest with
          | nil =>
              obtain rfl : front = text := by simpa [source] using hsource
              exact Or.inr rfl
          | cons next rest =>
              -- Two literals do not stand next to each other.
              have hprecede := (List.isChain_cons_cons.mp h.separated).1
              cases next with
              | literal back => exact hprecede.elim
              | placeholder before name after => exact (hrest _ List.mem_cons_self).elim

/-- Two opening braces stand in a template exactly when it has a placeholder. -/
theorem Piece.IsCut.braces_iff {text : List Char} {pieces : List Piece} (h : IsCut text pieces) :
    ['{', '{'] <:+: text ↔ ∃ piece ∈ pieces, piece.IsPlaceholder := by
  constructor
  · intro hbraces
    by_contra hnone
    have hliteral : ∀ piece ∈ pieces, piece.IsLiteral := by
      intro piece hpiece
      refine (h.wellFormed piece hpiece).resolve_right ?_
      intro hplaceholder
      exact hnone ⟨piece, hpiece, hplaceholder⟩
    rcases h.eq_of_forall_isLiteral hliteral with rfl | rfl
    · rw [← h.source_eq, List.flatMap_nil, List.infix_nil] at hbraces
      contradiction
    · exact (hliteral (literal text) List.mem_cons_self).2 hbraces
  · rintro ⟨piece, hpiece, hplaceholder⟩
    cases piece with
    | literal text => exact hplaceholder.elim
    | placeholder before name after =>
        have hprefix : ['{', '{'] <+: (placeholder before name after).source :=
          ⟨before ++ name ++ after ++ ['}', '}'], by simp [source]⟩
        rcases List.append_of_mem hpiece with ⟨front, behind, rfl⟩
        rw [← h.source_eq, List.flatMap_append, List.flatMap_cons]
        exact hprefix.isInfix.trans (List.infix_append' ..)

variable {κ : Type} [CustomValue κ]

namespace Template

/-- Parses template text and renders it. -/
def readAndRender (source : String) (parameters : ParameterSet κ) (locale : Locale) :
    Except TemplateError String := do
  let template ← read source
  template.render parameters locale

theorem readAndRender_of_parse {source : String} {template : Template}
    (h : parse source = .ok template) (parameters : ParameterSet κ) (locale : Locale) :
    readAndRender source parameters locale = template.render parameters locale := by
  rw [readAndRender, read, h]
  rfl

theorem readAndRender_of_error {source : String} {error : ParseError}
    (h : parse source = .error error) (parameters : ParameterSet κ) (locale : Locale) :
    readAndRender source parameters locale = .error (.parse error) := by
  rw [readAndRender, read, h]
  rfl

/-- A text without two opening braces is rendered to itself. -/
theorem readAndRender_of_braceless {source : String} (h : ¬ ['{', '{'] <:+: source.toList)
    (parameters : ParameterSet κ) (locale : Locale) :
    readAndRender source parameters locale = .ok source := by
  have hsource : String.join [source] = source := by
    rw [String.join_cons, String.join_nil, String.append_empty]
  have hloose : Segment.IsLoose [.literal source ⟨0, source.utf8ByteSize⟩] :=
    ⟨by simpa [Segment.IsWritable] using h, .singleton _⟩
  rcases hloose.exists_parse with ⟨template, hparse, hmeaning⟩
  rw [List.map_singleton, Segment.display, hsource] at hparse
  rw [readAndRender_of_parse hparse, render, hmeaning.rendering,
    Segment.renderAll_of_shows (.cons (.literal source _) .nil), hsource]

/-- A template with two opening braces asks for a parameter. -/
theorem exists_mem_placeholders {source : String} {template : Template}
    (h : parse source = .ok template) (hbraces : ['{', '{'] <:+: source.toList) :
    ∃ name, name ∈ template.placeholders := by
  rcases parse_eq_ok_iff.mp h with ⟨pieces, hcut, rfl⟩
  rcases hcut.braces_iff.mp hbraces with ⟨piece, hpiece, hplaceholder⟩
  cases piece with
  | literal text => exact hplaceholder.elim
  | placeholder before name after =>
      rcases List.append_of_mem hpiece with ⟨front, behind, rfl⟩
      refine ⟨String.ofList name, Segment.mem_names.mpr ?_⟩
      rw [Segment.ofPieces_append, Segment.ofPieces]
      exact ⟨_, List.mem_append_right _ List.mem_cons_self⟩

/-- Without parameters, a text with two opening braces is not rendered. -/
theorem exists_error_of_isEmpty {source : String} {parameters : ParameterSet κ}
    (hempty : parameters.isEmpty = true) (hbraces : ['{', '{'] <:+: source.toList)
    (locale : Locale) : ∃ error, readAndRender source parameters locale = .error error := by
  cases hparse : parse source with
  | error error => exact ⟨.parse error, readAndRender_of_error hparse parameters locale⟩
  | ok template =>
      rw [readAndRender_of_parse hparse]
      cases hrender : template.render parameters locale with
      | error error => exact ⟨error, rfl⟩
      | ok output =>
          rcases exists_mem_placeholders hparse hbraces with ⟨name, hname⟩
          have hcontained := Segment.exists_renderAll_iff.mp ⟨output, hrender⟩ name hname
          rw [ParameterSet.isEmpty_iff.mp hempty name] at hcontained
          contradiction

end Template

/-! ## Formatters -/

namespace Formatter

/-- What a formatter with an empty text has appended to it by an answered call, or the
error of the call. -/
def appended (answer : Except TemplateError Unit × Formatter) : Except TemplateError String := do
  answer.1
  let destination ← answer.2.output
  return destination.text

/-- A formatter appends what parsing and rendering gives, and fails as they do. -/
theorem appended_format (source : String) (parameters : ParameterSet κ) (locale : Locale) :
    appended ((onto (.unbounded "") locale).format source parameters) =
      Template.readAndRender source parameters locale := by
  have hopen : (onto (.unbounded "") locale).isClosed = false := rfl
  rw [format, formatIn, hopen, if_neg Bool.false_ne_true, Template.readAndRender]
  cases Template.read source with
  | error error => rfl
  | ok template =>
      change appended ((onto (.unbounded "") locale).append locale template parameters) =
        template.render parameters locale
      cases hrender : template.render parameters locale with
      | error error =>
          rw [append]
          dsimp only [onto]
          rw [hrender]
          rfl
      | ok output =>
          rw [append]
          dsimp only [onto]
          rw [hrender]
          change Except.ok ("" ++ output) = Except.ok output
          rw [String.empty_append]

/-- A call that appends nothing leaves the formatter as it was. -/
theorem format_eq_of_appended {formatter : Formatter} {source : String}
    {parameters : ParameterSet κ} {error : TemplateError}
    (h : appended (formatter.format source parameters) = .error error) :
    formatter.format source parameters = (.error error, formatter) := by
  have hanswers := formatIn_answers formatter formatter.locale source parameters
  change Answers _ _ (formatter.format source parameters).1
    (formatter.format source parameters).2 at hanswers
  generalize formatter.format source parameters = answer at h hanswers
  rcases answer with ⟨result, next⟩
  cases result with
  | error other =>
      cases h
      have hnext : next = formatter := hanswers.eq_of_error
      rw [hnext]
  | ok done =>
      cases hanswers
      contradiction

end Formatter

/-! ## The shortcut -/

theorem format_of_isEmpty {parameters : ParameterSet κ} (h : parameters.isEmpty = true)
    (source : String) (locale : Locale) : format source locale parameters = .ok source := by
  rw [format, if_pos h]
  rfl

theorem format_of_not_isEmpty {parameters : ParameterSet κ} (h : ¬ parameters.isEmpty = true)
    (source : String) (locale : Locale) :
    format source locale parameters = Template.readAndRender source parameters locale := by
  rw [format, if_neg h]
  rfl

/-- The one call gives what parsing and rendering gives, unless it does not parse. -/
theorem format_eq_readAndRender_iff {source : String} {parameters : ParameterSet κ}
    {locale : Locale} :
    format source locale parameters = Template.readAndRender source parameters locale ↔
      ¬ (parameters.isEmpty = true ∧ ['{', '{'] <:+: source.toList) := by
  constructor
  · rintro hsame ⟨hempty, hbraces⟩
    rcases Template.exists_error_of_isEmpty hempty hbraces locale with ⟨error, herror⟩
    rw [format_of_isEmpty hempty, herror] at hsame
    contradiction
  · intro hparsed
    by_cases hempty : parameters.isEmpty = true
    · have hbraceless : ¬ ['{', '{'] <:+: source.toList := fun hbraces => hparsed ⟨hempty, hbraces⟩
      rw [format_of_isEmpty hempty, Template.readAndRender_of_braceless hbraceless]
    · exact format_of_not_isEmpty hempty source locale

/-- The one call gives what parsing and rendering gives, and what a new formatter
appends, unless there are no parameters and two opening braces: it gives the text back
then, where the others fail and the formatter stays as it is.  A text without two
opening braces is given back by all of them.  Formatting in the root locale, and with
parameters that are added to the empty set, are cases of the one call. -/
theorem format_shortcut (source : String) (locale : Locale) (parameters : ParameterSet κ) :
    let fresh := Formatter.onto (.unbounded "") locale
    let braces := ['{', '{'] <:+: source.toList
    (format source locale parameters = Template.readAndRender source parameters locale ↔
        ¬ (parameters.isEmpty = true ∧ braces)) ∧
      (format source locale parameters = Formatter.appended (fresh.format source parameters) ↔
        ¬ (parameters.isEmpty = true ∧ braces)) ∧
      (parameters.isEmpty = true → braces →
        format source locale parameters = .ok source ∧
          ∃ error, Template.readAndRender source parameters locale = .error error ∧
            fresh.format source parameters = (.error error, fresh)) ∧
      (¬ braces →
        format source locale parameters = .ok source ∧
          Template.readAndRender source parameters locale = .ok source ∧
          Formatter.appended (fresh.format source parameters) = .ok source) ∧
      formatInRoot source parameters = format source .root parameters ∧
      ∀ build : ParameterSet κ → ParameterSet κ,
        formatAdding source locale build = format source locale (build .empty) := by
  intro fresh braces
  have happended : Formatter.appended (fresh.format source parameters) =
      Template.readAndRender source parameters locale :=
    Formatter.appended_format source parameters locale
  refine ⟨format_eq_readAndRender_iff, ?_, ?_, ?_, rfl, fun build => rfl⟩
  · rw [happended]
    exact format_eq_readAndRender_iff
  · intro hempty hbraces
    rcases Template.exists_error_of_isEmpty hempty hbraces locale with ⟨error, herror⟩
    refine ⟨format_of_isEmpty hempty source locale, error, herror, ?_⟩
    exact Formatter.format_eq_of_appended (happended.trans herror)
  · intro hbraceless
    have hself := Template.readAndRender_of_braceless hbraceless parameters locale
    refine ⟨?_, hself, happended.trans hself⟩
    exact (format_eq_readAndRender_iff.mpr fun hskipped => hbraceless hskipped.2).trans hself

/-- Without parameters a placeholder is given back as it is, and misses its parameter
everywhere else. -/
theorem format_shortcut_no_parameters :
    let source := "\x7b\x7b a \x7d\x7d"
    let parameters : ParameterSet Empty := .empty
    let fresh := Formatter.onto (.unbounded "") .root
    parameters.isEmpty = true ∧ ['{', '{'] <:+: source.toList ∧
      format source .root parameters = .ok source ∧
      fresh.format source parameters = (.error (.missingParameter "a"), fresh) := by
  intro source parameters fresh
  have hbraces : ['{', '{'] <:+: source.toList := ⟨[], " a \x7d\x7d".toList, by decide +kernel⟩
  rcases (format_shortcut source .root parameters).2.2.1 rfl hbraces with
    ⟨hformat, error, herror, hanswer⟩
  have hmissing : Template.readAndRender source parameters .root =
      .error (.missingParameter "a") := by decide +kernel
  rw [hmissing] at herror
  cases herror
  exact ⟨rfl, hbraces, hformat, hanswer⟩

end TextTemplate
