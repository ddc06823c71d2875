import Mathlib.Data.Finset.Card
import TextTemplate.Proofs.Parameter.Set
import TextTemplate.Proofs.Template.Independence

/-!
# Histories of a set of parameters

Parameters can be added in many ways, one by one or several at a time.  Whatever the
history of a set, it holds the parameter added last under each name, and nothing else.

Main results:

- Definition `ParameterSet.Call`: the ways to add parameters, and `Call.added`: what they
  add.
- Definition `ParameterSet.LastAdded`: the parameter added last under a name.
- Theorem `ParameterSet.after_eq_insertMany`: what one call does.
- Theorem `ParameterSet.run_eq_insertMany`: what calls do one after the other.
- Theorem `ParameterSet.get?_run_eq_some_iff`: what is found after calls.
- Theorem `ParameterSet.run_last_added`: a set and its whole history.
-/

namespace TextTemplate.ParameterSet

variable {κ : Type}

/-! ## Calls -/

/-- A call that adds parameters to a set. -/
inductive Call (κ : Type) : Type 1
  | param (parameter : Parameter κ)
  | insert (name : String) (value : ParameterValue κ)
  | text (name value : String)
  /-- Adds the plain text of a value. -/
  | display {α : Type} [Shown α] (name : String) (value : α)
  | number (name : String) (value : Number)
  | character (name : String) (value : Char)
  | hex (name : String) (value : Hex)
  | custom (name : String) (value : κ)
  | extend (parameters : List (Parameter κ))

/-- The set after a call. -/
def after (set : ParameterSet κ) : Call κ → ParameterSet κ
  | .param parameter => set.insert parameter
  | .insert name value => set.insert ⟨name, value⟩
  | .text name value => set.addText name value
  | @Call.display _ _ _ name value => set.addShown name value
  | .number name value => set.addNumber name value
  | .character name value => set.addCharacter name value
  | .hex name value => set.addHex name value
  | .custom name value => set.addCustom name value
  | .extend parameters => set.insertMany parameters

/-- The set after calls, one after the other. -/
def run (set : ParameterSet κ) (calls : List (Call κ)) : ParameterSet κ := calls.foldl after set

/-- The parameters that a call adds, in order. -/
def Call.added : Call κ → List (Parameter κ)
  | .param parameter => [parameter]
  | .insert name value => [⟨name, value⟩]
  | .text name value => [⟨name, .text { text := value }⟩]
  | @Call.display _ _ _ name value => [⟨name, .text { text := Shown.text value }⟩]
  | .number name value => [⟨name, .number value⟩]
  | .character name value => [⟨name, .character { char := value }⟩]
  | .hex name value => [⟨name, .hex value⟩]
  | .custom name value => [⟨name, .custom value⟩]
  | .extend parameters => parameters

/-- The parameters that calls add, in order. -/
def additions (calls : List (Call κ)) : List (Parameter κ) := calls.flatMap Call.added

/-- Of the parameters that are added, this one is the last under a name. -/
def LastAdded (parameters : List (Parameter κ)) (name : String) (parameter : Parameter κ) : Prop :=
  ∃ before later, parameters = before ++ parameter :: later ∧ parameter.name = name ∧
    ∀ other ∈ later, other.name ≠ name

/-- A call adds its parameters one by one. -/
theorem after_eq_insertMany (set : ParameterSet κ) (call : Call κ) :
    set.after call = set.insertMany call.added := by
  cases call <;> rfl

/-- Calls add their parameters one by one. -/
theorem run_eq_insertMany (set : ParameterSet κ) (calls : List (Call κ)) :
    set.run calls = set.insertMany (additions calls) := by
  induction calls generalizing set with
  | nil => rfl
  | cons call calls ih =>
      have hstep : set.run (call :: calls) = (set.after call).run calls := rfl
      have hadditions : additions (call :: calls) = call.added ++ additions calls := rfl
      rw [hstep, ih, after_eq_insertMany, hadditions, insertMany, insertMany, insertMany,
        List.foldl_append]

/-! ## The parameter added last -/

/-- The last parameter of a name is the first one from the end. -/
theorem lastAdded_iff {parameters : List (Parameter κ)} {name : String}
    {parameter : Parameter κ} :
    LastAdded parameters name parameter ↔
      parameters.reverse.find? (·.name == name) = some parameter := by
  rw [List.find?_eq_some_iff_append]
  constructor
  · rintro ⟨before, later, rfl, hname, hlater⟩
    refine ⟨by simpa using hname, later.reverse, before.reverse, by simp, ?_⟩
    intro other hother
    simpa using hlater other (List.mem_reverse.mp hother)
  · rintro ⟨hname, later, before, hparameters, hlater⟩
    refine ⟨before.reverse, later.reverse, ?_, by simpa using hname, ?_⟩
    · rw [← List.reverse_reverse parameters, hparameters]
      simp
    · intro other hother
      simpa using hlater other (List.mem_reverse.mp hother)

/-- Under a name there is a last parameter as soon as there is one. -/
theorem exists_lastAdded_iff {parameters : List (Parameter κ)} {name : String} :
    (∃ parameter, LastAdded parameters name parameter) ↔ name ∈ parameters.map Parameter.name := by
  simp only [lastAdded_iff]
  rw [← Option.isSome_iff_exists, List.find?_isSome]
  simp

/-- Only the parameters of a name decide which of them is the last. -/
theorem lastAdded_congr {parameters others : List (Parameter κ)} {name : String}
    (h : parameters.filter (·.name == name) = others.filter (·.name == name))
    (parameter : Parameter κ) :
    LastAdded parameters name parameter ↔ LastAdded others name parameter := by
  rw [lastAdded_iff, lastAdded_iff, ← List.head?_filter, ← List.head?_filter,
    List.filter_reverse, List.filter_reverse, h]

/-! ## What a set holds after its history -/

/-- After calls on the empty set, the parameter added last under a name is found. -/
theorem get?_run_eq_some_iff {calls : List (Call κ)} {name : String} {parameter : Parameter κ} :
    ((empty : ParameterSet κ).run calls).get? name = some parameter ↔
      LastAdded (additions calls) name parameter := by
  rw [run_eq_insertMany, get?_insertMany, get?_empty, Option.or_none, lastAdded_iff]

theorem contains_eq_true_iff {set : ParameterSet κ} {name : String} :
    set.contains name = true ↔ ∃ parameter, set.get? name = some parameter := by
  rw [contains, Option.isSome_iff_exists]

/-- The parameters of a set are those that are found under their names. -/
theorem mem_parameters_iff {set : ParameterSet κ} {parameter : Parameter κ} :
    parameter ∈ set.parameters ↔ set.get? parameter.name = some parameter := by
  constructor
  · intro hmem
    cases hfound : set.get? parameter.name with
    | none =>
        have hdiffers := List.find?_eq_none.mp hfound parameter hmem
        simp at hdiffers
    | some other =>
        have hother : other ∈ set.parameters := List.mem_of_find?_eq_some hfound
        rw [List.inj_on_of_nodup_map set.nodup_names hother hmem (name_of_get? hfound)]
  · exact List.mem_of_find?_eq_some

/-- The names of a set are those under which a parameter is found. -/
theorem mem_names_iff {set : ParameterSet κ} {name : String} :
    name ∈ set.names ↔ set.contains name = true := by
  rw [contains_eq_true_iff, names, List.mem_map]
  constructor
  · rintro ⟨parameter, hmem, rfl⟩
    exact ⟨parameter, mem_parameters_iff.mp hmem⟩
  · rintro ⟨parameter, hfound⟩
    exact ⟨parameter, List.mem_of_find?_eq_some hfound, name_of_get? hfound⟩

/-- A set has as many parameters as names under which one is found. -/
theorem size_eq_card {set : ParameterSet κ} {added : List String}
    (h : ∀ name, set.contains name = true ↔ name ∈ added) : set.size = added.toFinset.card := by
  have hnames : set.names.toFinset = added.toFinset := by
    ext name
    rw [List.mem_toFinset, List.mem_toFinset, mem_names_iff, h]
  rw [← hnames, names, List.toFinset_card_of_nodup set.nodup_names, List.length_map, size]

/-- The calls that add parameters one by one. -/
theorem insertMany_eq_run (set : ParameterSet κ) (parameters : List (Parameter κ)) :
    set.insertMany parameters = set.run (parameters.map .param) := by
  rw [run, List.foldl_map]
  rfl

/-! ## Rendering with two sets -/

variable [CustomValue κ]

/-- Every template comes to the same with two sets, whether it is rendered or not, and so
does every text that is formatted. -/
structure RenderAlike (set other : ParameterSet κ) : Prop where
  render : ∀ (template : Template) (locale : Locale),
    template.render set locale = template.render other locale
  format : ∀ (template : String) (locale : Locale),
    TextTemplate.format template locale set = TextTemplate.format template locale other

/-- Histories that agree on the last parameter of every name give sets that render
alike. -/
theorem renderAlike_run {calls others : List (Call κ)}
    (h : ∀ name parameter, LastAdded (additions calls) name parameter ↔
      LastAdded (additions others) name parameter) :
    RenderAlike ((empty : ParameterSet κ).run calls) ((empty : ParameterSet κ).run others) := by
  have hfound : ∀ name, ((empty : ParameterSet κ).run calls).get? name =
      ((empty : ParameterSet κ).run others).get? name := by
    intro name
    apply Option.ext
    intro parameter
    rw [get?_run_eq_some_iff, get?_run_eq_some_iff, h]
  constructor
  · intro template locale
    exact Segment.renderAll_congr_get? (fun name _ => hfound name) locale
  · intro template locale
    exact format_congr_get? hfound template locale

/-- After any calls on the empty set, the parameter added last under each name is found,
under its own name, and under other names nothing is.  The set has one parameter for each
name that has been added, and is empty when none has.  Adding several parameters at a time
is adding them one by one.  Histories that leave the same last parameter for every name
give sets with which every template is rendered alike; so do histories that differ in the
order of parameters of different names only. -/
theorem run_last_added (calls : List (Call κ)) :
    let set := (empty : ParameterSet κ).run calls
    let added := additions calls
    (∀ name parameter, set.get? name = some parameter ↔ LastAdded added name parameter) ∧
      (∀ name, set.get? name = none ↔ ∀ parameter ∈ added, parameter.name ≠ name) ∧
      (∀ name, set.contains name = true ↔ ∃ parameter, set.get? name = some parameter) ∧
      set.size = (added.map Parameter.name).toFinset.card ∧
      (set.isEmpty = true ↔ added = []) ∧
      (set.parameters.Nodup ∧ ∀ parameter, parameter ∈ set.parameters ↔
        LastAdded added parameter.name parameter) ∧
      (∀ name parameter, set.get? name = some parameter → parameter.name = name) ∧
      (∀ parameters, ofList parameters = (empty : ParameterSet κ).run (parameters.map .param) ∧
        set.after (.extend parameters) = set.run (parameters.map .param)) ∧
      (∀ others, (∀ name parameter, LastAdded added name parameter ↔
          LastAdded (additions others) name parameter) →
        RenderAlike set ((empty : ParameterSet κ).run others)) ∧
      ∀ others, (∀ name, added.filter (·.name == name) =
          (additions others).filter (·.name == name)) →
        RenderAlike set ((empty : ParameterSet κ).run others) := by
  intro set added
  have hfound : ∀ name parameter, set.get? name = some parameter ↔
      LastAdded added name parameter := fun name parameter => get?_run_eq_some_iff
  have hcontains : ∀ name, set.contains name = true ↔ name ∈ added.map Parameter.name := by
    intro name
    rw [contains_eq_true_iff, ← exists_lastAdded_iff]
    simp only [hfound]
  refine ⟨hfound, ?_, fun name => contains_eq_true_iff, size_eq_card hcontains, ?_, ⟨?_, ?_⟩,
    fun name parameter => name_of_get?, ?_, fun others => renderAlike_run, ?_⟩
  · intro name
    rw [← Option.not_isSome_iff_eq_none]
    change ¬ set.contains name = true ↔ _
    rw [hcontains, List.mem_map]
    simp
  · rw [isEmpty_iff]
    simp only [← Bool.not_eq_true, hcontains]
    rw [← List.eq_nil_iff_forall_not_mem, List.map_eq_nil_iff]
  · exact set.nodup_names.of_map Parameter.name
  · intro parameter
    rw [mem_parameters_iff, hfound]
  · intro parameters
    exact ⟨insertMany_eq_run empty parameters, insertMany_eq_run set parameters⟩
  · intro others hsame
    exact renderAlike_run fun name parameter => lastAdded_congr (hsame name) parameter

/-- A number takes the place of a text of the same name, and a name in capitals is another
one.  The number may be added first if nothing else is added under its name. -/
theorem run_last_added_replaced :
    let calls : List (Call Empty) :=
      [.display "done" true, .text "x" "text",
        .extend [⟨"X", .hex { bytes := [10] }⟩, ⟨"x", .character { char := 'c' }⟩],
        .number "x" (.signed 12)]
    let others : List (Call Empty) :=
      [.number "x" (.signed 12), .hex "X" { bytes := [10] }, .text "done" "true"]
    let set := (empty : ParameterSet Empty).run calls
    set.get? "x" = some ⟨"x", .number (.signed 12)⟩ ∧ set.get? "Done" = none ∧ set.size = 3 ∧
      RenderAlike set ((empty : ParameterSet Empty).run others) := by
  intro calls others set
  rcases run_last_added calls with ⟨hfound, hnone, -, hsize, -, -, -, -, halike, -⟩
  have hlast : ∀ name, (additions calls).reverse.find? (·.name == name) =
      (additions others).reverse.find? (·.name == name) := by
    intro name
    by_cases hname : name ∈ ["x", "X", "done"]
    · have hcases : name = "x" ∨ name = "X" ∨ name = "done" := by simpa using hname
      rcases hcases with rfl | rfl | rfl <;> rfl
    · have habsent : ∀ parameters : List (Parameter Empty),
          (∀ parameter ∈ parameters, parameter.name ∈ ["x", "X", "done"]) →
          parameters.find? (·.name == name) = none := by
        intro parameters hmem
        rw [List.find?_eq_none]
        rintro parameter hparameter hsame
        rw [beq_iff_eq] at hsame
        exact hname (hsame ▸ hmem parameter hparameter)
      rw [habsent _ (by decide +kernel), habsent _ (by decide +kernel)]
  refine ⟨?_, ?_, ?_, halike others ?_⟩
  · rw [hfound]
    exact ⟨(additions calls).dropLast, [], rfl, rfl, nofun⟩
  · rw [hnone]
    decide +kernel
  · rw [hsize]
    decide +kernel
  · intro name parameter
    rw [lastAdded_iff, lastAdded_iff, hlast]

end TextTemplate.ParameterSet
