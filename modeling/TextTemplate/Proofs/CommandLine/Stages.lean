import TextTemplate.Proofs.CommandLine.Merging
import TextTemplate.Proofs.CommandLine.Sequencing
import TextTemplate.Proofs.Template.Shortcut

/-!
# The stages of a run

A run loads a configuration, chooses a locale, merges parameters, reads a template and
formats it.  The rules below say for each stage how it can end, and for a run that it
ends in the first stage that fails, whatever the later ones would have done.

Main results:

- Definitions `Configures`, `Localizes`, `Supplies` and `Formats`: how each stage can
  end.
- Definition `Ends`: how a run can end.
- Theorem `ends_iff`: every run ends as the rules say, and in no other way.
- Theorem `isEmpty_mergeParameters_iff`: there are no parameters exactly when none is
  defined.
- Theorem `run_stages`: when a run succeeds, what it gives, and what it reports.
-/

namespace TextTemplate

/-! ## How each stage can end -/

/-- The configuration: the one that is loaded, or one that says nothing. -/
inductive Configures (arguments : Arguments) (files : Files) : Except CommandError Config → Prop
  | absent : arguments.config = none → Configures arguments files (.ok {})
  | loaded {path : String} {config : Config} :
      arguments.config = some path → Config.load files path = .ok config →
      Configures arguments files (.ok config)
  | failed {path : String} {error : CommandError} :
      arguments.config = some path → Config.load files path = .error error →
      Configures arguments files (.error error)

/-- The locale: that of the command line, which may be refused, or else that of the
configuration, or else that of the environment, if it names one. -/
inductive Localizes (arguments : Arguments) (config : Config) (environment : Environment) :
    Except CommandError Locale → Prop
  | given {tag : String} {locale : Locale} :
      arguments.locale = some tag → Locale.read? tag = some locale →
      Localizes arguments config environment (.ok locale)
  | refused {tag : String} :
      arguments.locale = some tag → Locale.read? tag = none →
      Localizes arguments config environment (.error (.invalidLocale tag))
  | configured {locale : Locale} :
      arguments.locale = none → config.locale = some locale →
      Localizes arguments config environment (.ok locale)
  | surrounding :
      arguments.locale = none → config.locale = none →
      Localizes arguments config environment
        (.ok (((environmentTag environment).bind Locale.read?).getD .root))

/-- The template text: an argument, or else a file, or else the standard input. -/
inductive Supplies (arguments : Arguments) (surroundings : Surroundings) :
    Except CommandError String → Prop
  | argument {text : String} :
      arguments.template = some text → Supplies arguments surroundings (.ok text)
  | file {path : String} {bytes : ByteArray} {text : String} :
      arguments.template = none → arguments.file = some path →
      surroundings.files path = .ok bytes → String.fromUTF8? bytes = some text →
      Supplies arguments surroundings (.ok text)
  | unreadFile {path : String} {fault : ReadFault} :
      arguments.template = none → arguments.file = some path →
      surroundings.files path = .error fault →
      Supplies arguments surroundings (.error (.unreadableTemplate path fault))
  | undecodedFile {path : String} {bytes : ByteArray} :
      arguments.template = none → arguments.file = some path →
      surroundings.files path = .ok bytes → String.fromUTF8? bytes = none →
      Supplies arguments surroundings (.error (.unreadableTemplate path .notText))
  | input {text : String} :
      arguments.template = none → arguments.file = none →
      String.fromUTF8? surroundings.input = some text →
      Supplies arguments surroundings (.ok text)
  | undecodedInput :
      arguments.template = none → arguments.file = none →
      String.fromUTF8? surroundings.input = none →
      Supplies arguments surroundings (.error .unreadableInput)

/-- Formatting: without parameters the text stays as it is; otherwise it has to be a
template, and all of its placeholders need parameters. -/
inductive Formats (text : String) (locale : Locale) (parameters : ParameterSet Empty) :
    Except CommandError String → Prop
  | unchanged : parameters.isEmpty = true → Formats text locale parameters (.ok text)
  | unparsed {error : ParseError} :
      ¬ parameters.isEmpty = true → Template.parse text = .error error →
      Formats text locale parameters (.error (.template (.parse error)))
  | missing {template : Template} {name : String} :
      ¬ parameters.isEmpty = true → Template.parse text = .ok template →
      template.placeholders.find? (fun name => !parameters.contains name) = some name →
      Formats text locale parameters (.error (.template (.missingParameter name)))
  | rendered {template : Template} {output : String} :
      ¬ parameters.isEmpty = true → Template.parse text = .ok template →
      template.render parameters locale = .ok output →
      Formats text locale parameters (.ok output)

/-- A configuration is loaded as these rules say. -/
theorem configures_iff {arguments : Arguments} {files : Files}
    {result : Except CommandError Config} :
    Configures arguments files result ↔ loadConfig arguments files = result := by
  constructor
  · intro h
    cases h with
    | absent hnone => rw [loadConfig, hnone]
    | loaded hpath hload => rw [loadConfig, hpath]; exact hload
    | failed hpath hload => rw [loadConfig, hpath]; exact hload
  · rintro rfl
    rw [loadConfig]
    cases hpath : arguments.config with
    | none => exact .absent hpath
    | some path =>
        cases hload : Config.load files path with
        | error error => simpa only [hload] using .failed hpath hload
        | ok config => simpa only [hload] using .loaded hpath hload

/-- The environment names a locale, or leaves the root locale. -/
theorem locale_ofEnvironment (environment : Environment) :
    (LocaleChoice.ofEnvironment environment).locale =
      ((environmentTag environment).bind Locale.read?).getD .root := by
  rw [LocaleChoice.ofEnvironment]
  cases environmentTag environment with
  | none => rfl
  | some tag =>
      rw [Option.bind_some]
      cases hread : Locale.read? tag with
      | none => simp only [hread, Option.getD_none]
      | some locale => simp only [hread, Option.getD_some]

/-- A locale is chosen as these rules say. -/
theorem localizes_iff {arguments : Arguments} {config : Config} {environment : Environment}
    {result : Except CommandError Locale} :
    Localizes arguments config environment result ↔
      (chooseLocale arguments.locale config.locale environment).map LocaleChoice.locale =
        result := by
  constructor
  · intro h
    cases h with
    | given htag hread => simp only [chooseLocale, htag, hread, Except.map]
    | refused htag hread => simp only [chooseLocale, htag, hread, Except.map]
    | configured hnone hlocale => simp only [chooseLocale, hnone, hlocale, Except.map]
    | surrounding hnone hlocale =>
        simp only [chooseLocale, hnone, hlocale, Except.map, locale_ofEnvironment]
  · rintro rfl
    cases htag : arguments.locale with
    | some tag =>
        cases hread : Locale.read? tag with
        | none => simpa only [chooseLocale, hread] using .refused htag hread
        | some locale => simpa only [chooseLocale, hread] using .given htag hread
    | none =>
        cases hlocale : config.locale with
        | some locale => exact .configured htag hlocale
        | none =>
            rw [chooseLocale, Except.map, locale_ofEnvironment]
            exact .surrounding htag hlocale

/-- The template text is found as these rules say. -/
theorem supplies_iff {arguments : Arguments} {surroundings : Surroundings}
    {result : Except CommandError String} :
    Supplies arguments surroundings result ↔ templateText arguments surroundings = result := by
  constructor
  · intro h
    cases h with
    | argument htemplate => rw [templateText, htemplate]
    | file htemplate hfile hbytes htext =>
        rw [templateText, htemplate, hfile]
        simp only [Files.readText, hbytes, htext]
    | unreadFile htemplate hfile hbytes =>
        rw [templateText, htemplate, hfile]
        simp only [Files.readText, hbytes]
    | undecodedFile htemplate hfile hbytes htext =>
        rw [templateText, htemplate, hfile]
        simp only [Files.readText, hbytes, htext]
    | input htemplate hfile htext =>
        rw [templateText, htemplate, hfile]
        simp only [htext]
    | undecodedInput htemplate hfile htext =>
        rw [templateText, htemplate, hfile]
        simp only [htext]
  · rintro rfl
    rw [templateText]
    cases htemplate : arguments.template with
    | some text => exact .argument htemplate
    | none =>
        cases hfile : arguments.file with
        | some path =>
            cases hbytes : surroundings.files path with
            | error fault =>
                simpa only [Files.readText, hbytes] using .unreadFile htemplate hfile hbytes
            | ok bytes =>
                cases htext : String.fromUTF8? bytes with
                | none =>
                    simpa only [Files.readText, hbytes, htext] using
                      .undecodedFile htemplate hfile hbytes htext
                | some text =>
                    simpa only [Files.readText, hbytes, htext] using
                      .file htemplate hfile hbytes htext
        | none =>
            cases htext : String.fromUTF8? surroundings.input with
            | none => exact .undecodedInput htemplate hfile htext
            | some text => exact .input htemplate hfile htext

/-- A template text is formatted as these rules say. -/
theorem formats_iff {text : String} {locale : Locale} {parameters : ParameterSet Empty}
    {result : Except CommandError String} :
    Formats text locale parameters result ↔ formatTemplate text locale parameters = result := by
  constructor
  · intro h
    cases h with
    | unchanged hempty => rw [formatTemplate, format_of_isEmpty hempty]
    | unparsed hempty hparse =>
        rw [formatTemplate, format_of_not_isEmpty hempty, Template.readAndRender_of_error hparse]
    | missing hempty hparse hfind =>
        have hrender : Template.render _ parameters locale = _ :=
          Segment.renderAll_eq_error_iff.mpr ⟨_, hfind, rfl⟩
        rw [formatTemplate, format_of_not_isEmpty hempty, Template.readAndRender_of_parse hparse,
          hrender]
    | rendered hempty hparse hrender =>
        rw [formatTemplate, format_of_not_isEmpty hempty, Template.readAndRender_of_parse hparse,
          hrender]
  · rintro rfl
    rw [formatTemplate]
    by_cases hempty : parameters.isEmpty = true
    · rw [format_of_isEmpty hempty]
      exact .unchanged hempty
    · rw [format_of_not_isEmpty hempty]
      cases hparse : Template.parse text with
      | error error =>
          rw [Template.readAndRender_of_error hparse]
          exact .unparsed hempty hparse
      | ok template =>
          rw [Template.readAndRender_of_parse hparse]
          cases hrender : template.render parameters locale with
          | ok output => exact .rendered hempty hparse hrender
          | error error =>
              rcases Segment.renderAll_eq_error_iff.mp hrender with ⟨name, hfind, rfl⟩
              exact .missing hempty hparse hfind

/-! ## How a run can end -/

/-- How a run ends: in the first stage that fails, with its error, or with what
formatting comes to.  No rule asks for anything of the stages behind. -/
inductive Ends (arguments : Arguments) (surroundings : Surroundings) :
    Except CommandError String → Prop
  | unconfigured {error : CommandError} :
      Configures arguments surroundings.files (.error error) →
      Ends arguments surroundings (.error error)
  | unlocalized {config : Config} {error : CommandError} :
      Configures arguments surroundings.files (.ok config) →
      Localizes arguments config surroundings.environment (.error error) →
      Ends arguments surroundings (.error error)
  | unmerged {config : Config} {locale : Locale} {error : CommandError} :
      Configures arguments surroundings.files (.ok config) →
      Localizes arguments config surroundings.environment (.ok locale) →
      mergeParameters config.definitions arguments = .error error →
      Ends arguments surroundings (.error error)
  | unsupplied {config : Config} {locale : Locale} {parameters : ParameterSet Empty}
      {error : CommandError} :
      Configures arguments surroundings.files (.ok config) →
      Localizes arguments config surroundings.environment (.ok locale) →
      mergeParameters config.definitions arguments = .ok parameters →
      Supplies arguments surroundings (.error error) →
      Ends arguments surroundings (.error error)
  | formatted {config : Config} {locale : Locale} {parameters : ParameterSet Empty}
      {text : String} {outcome : Except CommandError String} :
      Configures arguments surroundings.files (.ok config) →
      Localizes arguments config surroundings.environment (.ok locale) →
      mergeParameters config.definitions arguments = .ok parameters →
      Supplies arguments surroundings (.ok text) →
      Formats text locale parameters outcome →
      Ends arguments surroundings outcome

/-- A run does one stage after the other. -/
theorem result_run (arguments : Arguments) (surroundings : Surroundings) :
    (run arguments surroundings).result =
      (loadConfig arguments surroundings.files >>= fun config =>
        (chooseLocale arguments.locale config.locale surroundings.environment).map
            LocaleChoice.locale >>= fun locale =>
          mergeParameters config.definitions arguments >>= fun parameters =>
            templateText arguments surroundings >>= fun text =>
              formatTemplate text locale parameters) := by
  rw [run]
  cases loadConfig arguments surroundings.files with
  | error error => rfl
  | ok config =>
      dsimp only
      rw [ok_bind]
      cases chooseLocale arguments.locale config.locale surroundings.environment with
      | error error => rfl
      | ok choice => rfl

/-- Every run ends as the rules say, and in no other way. -/
theorem ends_iff {arguments : Arguments} {surroundings : Surroundings}
    {outcome : Except CommandError String} :
    Ends arguments surroundings outcome ↔ (run arguments surroundings).result = outcome := by
  rw [result_run]
  constructor
  · intro h
    cases h with
    | unconfigured hconfig =>
        rw [configures_iff.mp hconfig]
        rfl
    | unlocalized hconfig hlocale =>
        rw [configures_iff.mp hconfig, ok_bind, localizes_iff.mp hlocale]
        rfl
    | unmerged hconfig hlocale hmerge =>
        rw [configures_iff.mp hconfig, ok_bind, localizes_iff.mp hlocale, ok_bind,
          hmerge]
        rfl
    | unsupplied hconfig hlocale hmerge htext =>
        rw [configures_iff.mp hconfig, ok_bind, localizes_iff.mp hlocale, ok_bind,
          hmerge, ok_bind, supplies_iff.mp htext]
        rfl
    | formatted hconfig hlocale hmerge htext hformat =>
        rw [configures_iff.mp hconfig, ok_bind, localizes_iff.mp hlocale, ok_bind,
          hmerge, ok_bind, supplies_iff.mp htext, ok_bind, formats_iff.mp hformat]
  · rintro rfl
    cases hconfig : loadConfig arguments surroundings.files with
    | error error => exact .unconfigured (configures_iff.mpr hconfig)
    | ok config =>
        rw [ok_bind]
        have hconfigured := configures_iff.mpr hconfig
        cases hlocale : (chooseLocale arguments.locale config.locale
            surroundings.environment).map LocaleChoice.locale with
        | error error => exact .unlocalized hconfigured (localizes_iff.mpr hlocale)
        | ok locale =>
            rw [ok_bind]
            have hlocalized := localizes_iff.mpr hlocale
            cases hmerge : mergeParameters config.definitions arguments with
            | error error => exact .unmerged hconfigured hlocalized hmerge
            | ok parameters =>
                rw [ok_bind]
                cases htext : templateText arguments surroundings with
                | error error =>
                    exact .unsupplied hconfigured hlocalized hmerge (supplies_iff.mpr htext)
                | ok text =>
                    exact .formatted hconfigured hlocalized hmerge (supplies_iff.mpr htext)
                      (formats_iff.mpr rfl)

/-! ## Parameters that are defined -/

/-- A command line gives one definition for each of its assignments. -/
theorem Arguments.length_definitions {arguments : Arguments}
    {given : List (String × Definition)} (h : arguments.definitions = .ok given) :
    given.length = arguments.strings.length + arguments.numbers.length +
      arguments.chars.length + arguments.hexes.length := by
  rw [Arguments.definitions] at h
  rcases exists_of_bind_eq_ok h with ⟨strings, hstrings, h⟩
  rcases exists_of_bind_eq_ok h with ⟨numbers, hnumbers, h⟩
  rcases exists_of_bind_eq_ok h with ⟨chars, hchars, h⟩
  rcases exists_of_bind_eq_ok h with ⟨hexes, hhexes, h⟩
  cases h
  simp only [List.length_append, length_mapM hstrings, length_mapM hnumbers, length_mapM hchars,
    length_mapM hhexes]

/-- Neither the configuration nor the command line defines a parameter. -/
structure DefinesNothing (config : Config) (arguments : Arguments) : Prop where
  definitions : config.definitions = []
  strings : arguments.strings = []
  numbers : arguments.numbers = []
  chars : arguments.chars = []
  hexes : arguments.hexes = []

theorem definesNothing_iff {config : Config} {arguments : Arguments}
    {given : List (String × Definition)} (h : arguments.definitions = .ok given) :
    DefinesNothing config arguments ↔ config.definitions ++ given = [] := by
  have hlength := Arguments.length_definitions h
  constructor
  · rintro ⟨hconfig, hstrings, hnumbers, hchars, hhexes⟩
    rw [hstrings, hnumbers, hchars, hhexes] at hlength
    rw [hconfig, List.nil_append]
    exact List.length_eq_zero_iff.mp hlength
  · intro hnone
    rcases List.append_eq_nil_iff.mp hnone with ⟨hconfig, rfl⟩
    rw [List.length_nil] at hlength
    exact ⟨hconfig, List.length_eq_zero_iff.mp (by omega), List.length_eq_zero_iff.mp (by omega),
      List.length_eq_zero_iff.mp (by omega), List.length_eq_zero_iff.mp (by omega)⟩

/-- Where merging succeeds, the assignments of the command line can be read. -/
theorem exists_definitions_of_mergeParameters {config : List (String × Definition)}
    {arguments : Arguments} {parameters : ParameterSet Empty}
    (h : mergeParameters config arguments = .ok parameters) :
    ∃ given, arguments.definitions = .ok given := by
  rw [mergeParameters] at h
  rcases exists_of_bind_eq_ok h with ⟨given, hgiven, -⟩
  exact ⟨given, hgiven⟩

/-- There are no parameters exactly when none is defined. -/
theorem isEmpty_mergeParameters_iff {config : Config} {arguments : Arguments}
    {parameters : ParameterSet Empty}
    (h : mergeParameters config.definitions arguments = .ok parameters) :
    parameters.isEmpty = true ↔ DefinesNothing config arguments := by
  rcases exists_definitions_of_mergeParameters h with ⟨given, hgiven⟩
  rw [definesNothing_iff hgiven, ParameterSet.isEmpty_iff]
  rcases mergeParameters_cases config.definitions hgiven with
    ⟨-, merged, hmerged, hget⟩ | ⟨-, error, herror⟩
  · obtain rfl : merged = parameters := by
      rw [hmerged] at h
      exact Except.ok.inj h
    have hcontains : ∀ name, merged.contains name = true ↔
        name ∈ (config.definitions ++ given).map Prod.fst := by
      intro name
      rw [ParameterSet.contains, hget, Option.isSome_map, Definition.optioned, Option.isSome_map]
      exact Definition.isSome_effective?_iff
    rw [← List.map_eq_nil_iff (f := Prod.fst), List.eq_nil_iff_forall_not_mem]
    simp only [← hcontains, Bool.not_eq_true]
  · rw [herror] at h
    contradiction

/-! ## Whole runs -/

/-- A locale is chosen unless the command line gives a tag that cannot be read. -/
theorem exists_localizes_iff {arguments : Arguments} {config : Config}
    {environment : Environment} :
    (∃ locale, Localizes arguments config environment (.ok locale)) ↔
      ∀ tag, arguments.locale = some tag → ∃ locale, Locale.read? tag = some locale := by
  constructor
  · rintro ⟨locale, hlocale⟩ tag htag
    cases hlocale with
    | given hsome hread =>
        rw [htag, Option.some.injEq] at hsome
        subst hsome
        exact ⟨locale, hread⟩
    | configured hnone => rw [htag] at hnone; contradiction
    | surrounding hnone => rw [htag] at hnone; contradiction
  · intro haccepted
    cases htag : arguments.locale with
    | some tag =>
        rcases haccepted tag htag with ⟨locale, hread⟩
        exact ⟨locale, .given htag hread⟩
    | none =>
        cases hlocale : config.locale with
        | some locale => exact ⟨locale, .configured htag hlocale⟩
        | none => exact ⟨_, .surrounding htag hlocale⟩

theorem exists_formats_iff {text : String} {locale : Locale} {parameters : ParameterSet Empty} :
    (∃ output, Formats text locale parameters (.ok output)) ↔
      parameters.isEmpty = true ∨ ∃ template, Template.parse text = .ok template ∧
        ∀ name ∈ template.placeholders, parameters.contains name = true := by
  constructor
  · rintro ⟨output, hformat⟩
    cases hformat with
    | unchanged hempty => exact Or.inl hempty
    | rendered hempty hparse hrender =>
        exact Or.inr ⟨_, hparse, Segment.exists_renderAll_iff.mp ⟨output, hrender⟩⟩
  · intro hformattable
    by_cases hempty : parameters.isEmpty = true
    · exact ⟨text, .unchanged hempty⟩
    · rcases hformattable.resolve_left hempty with ⟨template, hparse, hcontained⟩
      rcases Segment.exists_renderAll_iff.mpr hcontained with ⟨output, hrender⟩
      exact ⟨output, .rendered hempty hparse hrender⟩

/-- A run succeeds exactly when the configuration is loaded, the locale of the command
line is accepted, the parameters can be merged, the template can be read, and there are
no parameters or the template can be parsed and has all of its parameters.  It ends as
the rules say, so that the first stage that fails is reported.  Where no parameter is
defined it gives the template as it is, and otherwise the rendering of the template. -/
theorem run_stages (arguments : Arguments) (surroundings : Surroundings) :
    let result := (run arguments surroundings).result
    ((∃ output, result = .ok output) ↔
        ∃ config parameters text, Configures arguments surroundings.files (.ok config) ∧
          (∀ tag, arguments.locale = some tag → ∃ locale, Locale.read? tag = some locale) ∧
          mergeParameters config.definitions arguments = .ok parameters ∧
          Supplies arguments surroundings (.ok text) ∧
          (parameters.isEmpty = true ∨ ∃ template, Template.parse text = .ok template ∧
            ∀ name ∈ template.placeholders, parameters.contains name = true)) ∧
      (∀ outcome, result = outcome ↔ Ends arguments surroundings outcome) ∧
      ∀ config locale parameters text output,
        Configures arguments surroundings.files (.ok config) →
        Localizes arguments config surroundings.environment (.ok locale) →
        mergeParameters config.definitions arguments = .ok parameters →
        Supplies arguments surroundings (.ok text) → result = .ok output →
          (DefinesNothing config arguments → output = text) ∧
          (¬ DefinesNothing config arguments → ∃ template, Template.parse text = .ok template ∧
            template.render parameters locale = .ok output) := by
  intro result
  refine ⟨?_, fun outcome => ends_iff.symm, ?_⟩
  · constructor
    · rintro ⟨output, hresult⟩
      cases ends_iff.mpr hresult with
      | @formatted config locale parameters text _ hconfig hlocale hmerge htext hformat =>
          exact ⟨config, parameters, text, hconfig, exists_localizes_iff.mp ⟨locale, hlocale⟩,
            hmerge, htext, exists_formats_iff.mp ⟨output, hformat⟩⟩
    · rintro ⟨config, parameters, text, hconfig, haccepted, hmerge, htext, hformattable⟩
      rcases exists_localizes_iff.mpr haccepted with ⟨locale, hlocale⟩
      rcases exists_formats_iff.mpr hformattable with ⟨output, hformat⟩
      exact ⟨output, ends_iff.mp (.formatted hconfig hlocale hmerge htext hformat)⟩
  · intro config locale parameters text output hconfig hlocale hmerge htext hresult
    have hformat : Formats text locale parameters (.ok output) := by
      rw [formats_iff, ← hresult]
      exact (ends_iff.mp (.formatted hconfig hlocale hmerge htext (formats_iff.mpr rfl))).symm
    rw [← isEmpty_mergeParameters_iff hmerge]
    constructor
    · intro hempty
      cases hformat with
      | unchanged => rfl
      | rendered hnot => exact absurd hempty hnot
    · intro hnot
      cases hformat with
      | unchanged hempty => exact absurd hempty hnot
      | rendered _ hparse hrender => exact ⟨_, hparse, hrender⟩

/-- Where nothing is defined, opening braces that open nothing are given back.  A tag that
names no locale is reported all the same, and before an option for an unknown name. -/
theorem run_stages_nothing_defined :
    let surroundings : Surroundings := ⟨fun _ => .error .notFound, .empty, fun _ => none⟩
    let arguments : Arguments := { template := some "\x7b\x7b a", locale := some "tr" }
    let faulty : Arguments := { arguments with locale := some "%%", upper := ["b"] }
    DefinesNothing {} arguments ∧ (run arguments surroundings).result = .ok "\x7b\x7b a" ∧
      (mergeParameters [] faulty).isOk = false ∧
      (run faulty surroundings).result = .error (.invalidLocale "%%") := by
  intro surroundings arguments faulty
  have hnothing : DefinesNothing {} arguments := ⟨rfl, rfl, rfl, rfl, rfl⟩
  have hconfig : Configures arguments surroundings.files (.ok {}) := .absent rfl
  have hread : Locale.read? "tr" = some (.tagged "tr" none none) := by decide +kernel
  have hmerge : mergeParameters [] arguments = .ok .empty := rfl
  have htext : Supplies arguments surroundings (.ok "\x7b\x7b a") := .argument rfl
  rcases run_stages arguments surroundings with ⟨hsucceeds, -, hgives⟩
  have haccepted : ∀ tag, arguments.locale = some tag →
      ∃ locale, Locale.read? tag = some locale := by
    rintro tag ⟨rfl⟩
    exact ⟨_, hread⟩
  rcases hsucceeds.mpr ⟨_, _, _, hconfig, haccepted, hmerge, htext, Or.inl rfl⟩ with
    ⟨output, houtput⟩
  have hgiven := hgives _ _ _ _ output hconfig (.given rfl hread) hmerge htext houtput
  refine ⟨hnothing, ?_, by decide +kernel, ?_⟩
  · rw [houtput, hgiven.1 hnothing]
  · refine ((run_stages faulty surroundings).2.1 _).mpr (.unlocalized (.absent rfl) ?_)
    exact .refused rfl (by decide +kernel)

end TextTemplate
