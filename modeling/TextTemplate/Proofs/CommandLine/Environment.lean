import TextTemplate.Proofs.CommandLine.Stages
import TextTemplate.Proofs.Template.Independence

/-!
# What a run takes from its environment

Two runs with the same command line, the same files and the same input are compared
here in different environments.  All that an environment can do is to name the locale
where neither the command line nor the configuration names one.

Main results:

- Definition `Environment.Names`: the tag that an environment names.
- Theorem `environmentTag_eq_some_iff`: that tag is the one that is looked up.
- Theorem `result_run_surrounding`: a run in an environment is a run with a tag on the
  command line.
- Theorem `run_environment`: what the environment can change, and what it cannot.
-/

namespace TextTemplate

/-! ## The tag of an environment -/

namespace Environment

/-- A variable is set to a value that is not empty. -/
def Sets (environment : Environment) (name value : String) : Prop :=
  environment name = some value ∧ value ≠ ""

/-- The tag that an environment names: the value of the first of its three variables
that is set and not empty, whether or not this value names a locale. -/
inductive Names (environment : Environment) (tag : String) : Prop
  | all : environment.Sets "LC_ALL" tag → Names environment tag
  | ctype :
      (∀ value, ¬ environment.Sets "LC_ALL" value) → environment.Sets "LC_CTYPE" tag →
      Names environment tag
  | lang :
      (∀ value, ¬ environment.Sets "LC_ALL" value) →
      (∀ value, ¬ environment.Sets "LC_CTYPE" value) → environment.Sets "LANG" tag →
      Names environment tag

/-- The value of a variable, unless it is empty. -/
def value? (environment : Environment) (name : String) : Option String :=
  (environment name).filter fun value => !value.isEmpty

/-- A variable has the value that it is set to. -/
theorem value?_eq_some_iff {environment : Environment} {name value : String} :
    environment.value? name = some value ↔ environment.Sets name value := by
  simp [value?, Sets, Option.filter_eq_some_iff]

theorem value?_eq_none_iff {environment : Environment} {name : String} :
    environment.value? name = none ↔ ∀ value, ¬ environment.Sets name value := by
  rw [Option.eq_none_iff_forall_ne_some]
  simp only [ne_eq, value?_eq_some_iff]

end Environment

/-- The variables are looked up one after the other. -/
theorem environmentTag_eq (environment : Environment) :
    environmentTag environment =
      (environment.value? "LC_ALL").or
        ((environment.value? "LC_CTYPE").or (environment.value? "LANG")) := by
  have hlookup : environmentTag environment = localeVariables.findSome? environment.value? := rfl
  rw [hlookup, localeVariables, List.findSome?_cons, List.findSome?_cons, List.findSome?_cons,
    List.findSome?_nil]
  cases environment.value? "LC_ALL" with
  | some value => rfl
  | none =>
      cases environment.value? "LC_CTYPE" with
      | some value => rfl
      | none => cases environment.value? "LANG" <;> rfl

/-- The tag that is looked up is the one that the environment names. -/
theorem environmentTag_eq_some_iff {environment : Environment} {tag : String} :
    environmentTag environment = some tag ↔ environment.Names tag := by
  rw [environmentTag_eq]
  constructor
  · intro h
    cases hall : environment.value? "LC_ALL" with
    | some value =>
        rw [hall, Option.some_or] at h
        cases h
        exact .all (Environment.value?_eq_some_iff.mp hall)
    | none =>
        rw [hall, Option.none_or] at h
        have hunset := Environment.value?_eq_none_iff.mp hall
        cases hctype : environment.value? "LC_CTYPE" with
        | some value =>
            rw [hctype, Option.some_or] at h
            cases h
            exact .ctype hunset (Environment.value?_eq_some_iff.mp hctype)
        | none =>
            rw [hctype, Option.none_or] at h
            exact .lang hunset (Environment.value?_eq_none_iff.mp hctype)
              (Environment.value?_eq_some_iff.mp h)
  · intro h
    cases h with
    | all hsets => rw [Environment.value?_eq_some_iff.mpr hsets, Option.some_or]
    | ctype hall hsets =>
        rw [Environment.value?_eq_none_iff.mpr hall, Environment.value?_eq_some_iff.mpr hsets]
        rfl
    | lang hall hctype hsets =>
        rw [Environment.value?_eq_none_iff.mpr hall, Environment.value?_eq_none_iff.mpr hctype,
          Environment.value?_eq_some_iff.mpr hsets]
        rfl

/-! ## Runs in different environments -/

/-- The command line or the configuration names a locale. -/
inductive NamesLocale (arguments : Arguments) (files : Files) : Prop
  | given {tag : String} : arguments.locale = some tag → NamesLocale arguments files
  | configured {config : Config} {locale : Locale} :
      Configures arguments files (.ok config) → config.locale = some locale →
      NamesLocale arguments files

/-- After the locale has been chosen, the environment has no part in a run. -/
theorem result_run_eq_runIn (arguments : Arguments) (files : Files) (input : ByteArray)
    (environment other : Environment) :
    (run arguments ⟨files, input, environment⟩).result =
      (loadConfig arguments files >>= fun config =>
        (chooseLocale arguments.locale config.locale environment).map LocaleChoice.locale >>=
          fun locale => runIn locale config arguments ⟨files, input, other⟩) := by
  rw [result_run]
  rfl

/-- An environment has no part in how the choice of a locale fails. -/
theorem sameFailure_chooseLocale (flag : Option String) (config : Option Locale)
    (environment other : Environment) :
    SameFailure ((chooseLocale flag config environment).map LocaleChoice.locale)
      ((chooseLocale flag config other).map LocaleChoice.locale) := by
  cases flag with
  | some tag => exact .refl _
  | none =>
      cases config with
      | some locale => exact .refl _
      | none => exact .ok _ _

theorem sameFailure_formatTemplate (text : String) (locale other : Locale)
    (parameters : ParameterSet Empty) :
    SameFailure (formatTemplate text locale parameters) (formatTemplate text other parameters) := by
  have hformat := sameFailure_format text locale other parameters
  rw [formatTemplate, formatTemplate]
  generalize format text locale parameters = result at hformat ⊢
  generalize format text other parameters = otherResult at hformat ⊢
  cases hformat with
  | ok output otherOutput => exact .ok output otherOutput
  | error error => exact .error (CommandError.template error)

/-- The locale does not decide whether the rest of a run succeeds. -/
theorem sameFailure_runIn (locale other : Locale) (config : Config) (arguments : Arguments)
    (surroundings : Surroundings) :
    SameFailure (runIn locale config arguments surroundings)
      (runIn other config arguments surroundings) := by
  apply SameFailure.bind_left
  intro parameters
  apply SameFailure.bind_left
  intro text
  exact sameFailure_formatTemplate text locale other parameters

/-- Where no locale is named, a run in an environment is a run with a tag on the command
line, if the tag names the locale that the environment leads to. -/
theorem result_run_surrounding {arguments : Arguments} {files : Files} (input : ByteArray)
    {environment : Environment} (other : Environment) {tag : String}
    (hnone : ¬ NamesLocale arguments files)
    (htag : Locale.read? tag = some (((environmentTag environment).bind Locale.read?).getD .root)) :
    (run arguments ⟨files, input, environment⟩).result =
      (run { arguments with locale := some tag } ⟨files, input, other⟩).result := by
  rw [result_run_eq_runIn _ _ _ _ other, result_run_eq_runIn _ _ _ _ other]
  have hload : loadConfig { arguments with locale := some tag } files =
      loadConfig arguments files := rfl
  rw [hload]
  cases hconfig : loadConfig arguments files with
  | error error => rfl
  | ok config =>
      have hflag : arguments.locale = none := by
        rw [Option.eq_none_iff_forall_ne_some]
        intro given hgiven
        exact hnone (.given hgiven)
      have hlocale : config.locale = none := by
        rw [Option.eq_none_iff_forall_ne_some]
        intro locale hlocale
        exact hnone (.configured (configures_iff.mpr hconfig) hlocale)
      rw [ok_bind, ok_bind, hflag, hlocale]
      simp only [chooseLocale, htag, Except.map, locale_ofEnvironment]
      rfl

/-- Runs with the same command line, files and input, in two environments, both succeed
or fail with the same error.  They come to the same if the command line or the
configuration names a locale.  If not, the tag that the environment names counts as if
it stood on the command line, and the root locale is used if there is none or if it
names no locale. -/
theorem run_environment (arguments : Arguments) (files : Files) (input : ByteArray)
    (environment other : Environment) :
    let result (arguments : Arguments) (environment : Environment) :=
      (run arguments ⟨files, input, environment⟩).result
    SameFailure (result arguments environment) (result arguments other) ∧
      (NamesLocale arguments files → result arguments environment = result arguments other) ∧
      (¬ NamesLocale arguments files →
        (∀ tag locale, environment.Names tag → Locale.read? tag = some locale →
          result arguments environment = result { arguments with locale := some tag } other) ∧
        ((∀ tag, environment.Names tag → Locale.read? tag = none) →
          ∀ root, Locale.read? root = some .root →
            result arguments environment =
              result { arguments with locale := some root } other)) := by
  intro result
  refine ⟨?_, ?_, ?_⟩
  · simp only [result, result_run_eq_runIn _ _ _ _ other]
    apply SameFailure.bind_left
    intro config
    refine (sameFailure_chooseLocale _ _ environment other).bind ?_
    intro locale otherLocale
    exact sameFailure_runIn locale otherLocale config arguments _
  · intro hnamed
    simp only [result, result_run_eq_runIn _ _ _ _ other]
    cases hnamed with
    | given htag => rw [htag]; rfl
    | configured hconfig hlocale =>
        rw [configures_iff.mp hconfig, ok_bind, ok_bind, hlocale]
        cases arguments.locale <;> rfl
  · intro hnone
    constructor
    · intro tag locale hnames hread
      apply result_run_surrounding input other hnone
      rw [environmentTag_eq_some_iff.mpr hnames, Option.bind_some, hread, Option.getD_some]
    · intro hrejected root hroot
      apply result_run_surrounding input other hnone
      have hnowhere : (environmentTag environment).bind Locale.read? = none := by
        rw [Option.bind_eq_none_iff]
        intro tag htag
        exact hrejected tag (environmentTag_eq_some_iff.mp htag)
      rw [hnowhere, Option.getD_none, hroot]

/-- An empty variable is passed over for the next one, but a tag that names no locale is
not: the root locale is used, although a later variable is set. -/
theorem run_environment_masked :
    let files : Files := fun _ => .error .notFound
    let arguments : Arguments :=
      { template := some "\x7b\x7ba\x7d\x7d", strings := ["a=i"], upper := ["a"] }
    let turkic : Environment := fun name =>
      if name = "LC_ALL" then some "" else if name = "LC_CTYPE" then some "tr_TR.UTF-8"
      else some "en"
    let rejecting : Environment := fun name =>
      if name = "LC_ALL" then some "%%" else some "tr"
    let result (arguments : Arguments) (environment : Environment) :=
      (run arguments ⟨files, .empty, environment⟩).result
    ¬ NamesLocale arguments files ∧
      turkic.Names "tr_TR.UTF-8" ∧ result arguments turkic = .ok "\u0130" ∧
      rejecting.Names "%%" ∧ result arguments rejecting = .ok "I" ∧
      result { arguments with locale := some "tr" } turkic =
        result { arguments with locale := some "tr" } rejecting := by
  intro files arguments turkic rejecting result
  have hnone : ¬ NamesLocale arguments files := by
    intro h
    cases h with
    | given htag => contradiction
    | configured hconfig hlocale =>
        cases hconfig with
        | absent => contradiction
        | loaded hpath => contradiction
  have hturkic : turkic.Names "tr_TR.UTF-8" := by
    rw [← environmentTag_eq_some_iff]
    decide +kernel
  have hrejecting : rejecting.Names "%%" := by
    rw [← environmentTag_eq_some_iff]
    decide +kernel
  have hrejected : ∀ tag, rejecting.Names tag → Locale.read? tag = none := by
    intro tag htag
    have hsame : tag = "%%" := by
      rw [← environmentTag_eq_some_iff] at htag hrejecting
      exact Option.some.inj (htag.symm.trans hrejecting)
    rw [hsame]
    decide +kernel
  have haccepted : Locale.read? "tr_TR.UTF-8" = some (.tagged "tr" none (some "TR")) := by
    decide +kernel
  refine ⟨hnone, hturkic, ?_, hrejecting, ?_, ?_⟩
  · have hflag := ((run_environment arguments files .empty turkic rejecting).2.2 hnone).1 _ _
      hturkic haccepted
    exact hflag.trans (by decide +kernel)
  · have hroot := ((run_environment arguments files .empty rejecting turkic).2.2 hnone).2
      hrejected "C" (by decide +kernel)
    exact hroot.trans (by decide +kernel)
  · exact (run_environment _ files .empty turkic rejecting).2.1 (.given rfl)

end TextTemplate
