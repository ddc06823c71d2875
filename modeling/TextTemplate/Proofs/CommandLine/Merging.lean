import TextTemplate.CommandLine.Run
import TextTemplate.Proofs.Parameter.Definition
import TextTemplate.Proofs.Parameter.Set

/-!
# Merging definitions

A configuration and a command line define parameters, and options of the command
line change them.  Of all definitions of a name only the last one counts: options
change it, and it becomes the parameter of that name.  What is merged therefore
depends on nothing but the definitions that count and on which names the options
mention.

Main results:

- Theorem `changeLast_cases`: one option changes one definition that counts.
- Theorem `changeAll_cases`: options change the definitions that they mention,
  however often and in which order they do.
- Theorem `mergeParameters_effective`: when merging succeeds, what it gives, and what
  has no influence on it.
-/

namespace TextTemplate

open Definition (effective? Suits Suited optioned)

/-! ## One option -/

/-- Where a later definition counts, the first one is left as it is. -/
theorem changeLast_cons_of_isSome {option : TargetOption} {change : Definition → Option Definition}
    {name : String} {rest : List (String × Definition)}
    (h : (effective? rest name).isSome = true) (other : String) (first : Definition) :
    changeLast option change name ((other, first) :: rest) =
      (changeLast option change name rest).map ((other, first) :: ·) := by
  rw [Definition.isSome_effective?] at h
  rw [changeLast, if_pos h]
  cases changeLast option change name rest <;> rfl

/-- Where no later definition counts, the first one of the name is changed. -/
theorem changeLast_cons_of_none {option : TargetOption} {change : Definition → Option Definition}
    {name : String} {rest : List (String × Definition)} (h : effective? rest name = none)
    (other : String) (first : Definition) :
    changeLast option change name ((other, first) :: rest) =
      if other = name then
        match change first with
        | some changed => .ok ((other, changed) :: rest)
        | none => .error (.unsuitedTarget option name)
      else .error (.unknownTarget option name) := by
  have hany : ¬ rest.any (·.1 == name) = true := by
    rw [← Definition.isSome_effective?, h]
    simp
  rw [changeLast, if_neg hany]
  by_cases hname : other = name
  · cases change first <;> simp [hname]
  · simp [hname]

/-- An option changes the definition that counts for its name, and no other one that
counts.  It fails where there is none, or one that does not have the option. -/
theorem changeLast_cases (option : TargetOption) (change : Definition → Option Definition)
    (name : String) (definitions : List (String × Definition)) :
    (∃ definition changed after, effective? definitions name = some definition ∧
        change definition = some changed ∧
        changeLast option change name definitions = .ok after ∧
        effective? after = Function.update (effective? definitions) name (some changed)) ∨
      ((∀ definition, effective? definitions name = some definition → change definition = none) ∧
        ∃ error, changeLast option change name definitions = .error error) := by
  induction definitions with
  | nil => exact Or.inr ⟨nofun, _, rfl⟩
  | cons entry rest ih =>
      rcases entry with ⟨other, first⟩
      cases hrest : effective? rest name with
      | some counting =>
          have hsome : (effective? rest name).isSome = true := by rw [hrest]; rfl
          have hwhole : effective? ((other, first) :: rest) name = effective? rest name := by
            rw [Definition.effective?_cons, hrest]
            rfl
          rw [changeLast_cons_of_isSome hsome, hwhole]
          rcases ih with ⟨definition, changed, after, hdefinition, hchange, hafter, heffective⟩ |
            ⟨hunsuited, error, herror⟩
          · refine Or.inl ⟨definition, changed, _, hdefinition, hchange, by rw [hafter]; rfl, ?_⟩
            exact Definition.effective?_cons_eq_update other first heffective
          · exact Or.inr ⟨hunsuited, error, by rw [herror]; rfl⟩
      | none =>
          rw [changeLast_cons_of_none hrest, Definition.effective?_cons, hrest, Option.none_or]
          by_cases hname : other = name
          · subst hname
            rw [if_pos rfl, if_pos rfl]
            cases hchange : change first with
            | none =>
                refine Or.inr ⟨?_, _, rfl⟩
                rintro definition ⟨rfl⟩
                exact hchange
            | some changed =>
                refine Or.inl ⟨first, changed, _, rfl, hchange, rfl, ?_⟩
                exact Definition.effective?_cons_self_eq_update first changed hrest
          · rw [if_neg hname, if_neg hname]
            exact Or.inr ⟨nofun, _, rfl⟩

/-! ## Many options -/

theorem changeAll_cons_of_ok {option : TargetOption} {change : Definition → Option Definition}
    {name : String} {definitions middle : List (String × Definition)}
    (h : changeLast option change name definitions = .ok middle) (names : List String) :
    changeAll option change (name :: names) definitions =
      changeAll option change names middle := by
  rw [changeAll, List.foldlM_cons, h]
  rfl

theorem changeAll_cons_of_error {option : TargetOption} {change : Definition → Option Definition}
    {name : String} {definitions : List (String × Definition)} {error : CommandError}
    (h : changeLast option change name definitions = .error error) (names : List String) :
    changeAll option change (name :: names) definitions = .error error := by
  rw [changeAll, List.foldlM_cons, h]
  rfl

/-- Options are applied exactly when each of them can be.  They change the definitions
that count for their names; the order of the names, and whether one is repeated, does
not matter. -/
theorem changeAll_cases {change : Definition → Option Definition}
    (hstable : ∀ definition changed, change definition = some changed →
      change changed = some changed)
    (option : TargetOption) (names : List String) (definitions : List (String × Definition)) :
    ((∀ name ∈ names, Suits change definitions name) ∧
        ∃ after, changeAll option change names definitions = .ok after ∧
          ∀ target, effective? after target =
            if target ∈ names then (effective? definitions target).bind change
            else effective? definitions target) ∨
      ((∃ name ∈ names, ¬ Suits change definitions name) ∧
        ∃ error, changeAll option change names definitions = .error error) := by
  induction names generalizing definitions with
  | nil => exact Or.inl ⟨by simp, definitions, rfl, by simp⟩
  | cons name names ih =>
      rcases changeLast_cases option change name definitions with
        ⟨definition, changed, middle, hdefinition, hchange, hmiddle, heffective⟩ |
        ⟨hunsuited, error, herror⟩
      · rw [changeAll_cons_of_ok hmiddle]
        have hname : Suits change definitions name := ⟨definition, changed, hdefinition, hchange⟩
        -- The change can be made to a changed definition as well.
        have hsuits : ∀ target, Suits change middle target ↔ Suits change definitions target := by
          intro target
          by_cases htarget : target = name
          · subst htarget
            refine iff_of_true ⟨changed, changed, ?_, hstable _ _ hchange⟩ hname
            rw [heffective, Function.update_self]
          · rw [Suits, heffective, Function.update_of_ne htarget, Suits]
        rcases ih middle with ⟨hall, after, hafter, hresult⟩ | ⟨⟨bad, hbad, hnot⟩, herror⟩
        · refine Or.inl ⟨?_, after, hafter, ?_⟩
          · intro target htarget
            rcases List.mem_cons.mp htarget with rfl | htarget
            · exact hname
            · exact (hsuits target).mp (hall target htarget)
          · intro target
            rw [hresult, heffective]
            by_cases htarget : target = name
            · subst htarget
              simp [hdefinition, hchange, hstable _ _ hchange]
            · simp [htarget]
        · refine Or.inr ⟨⟨bad, List.mem_cons_of_mem _ hbad, ?_⟩, herror⟩
          rwa [hsuits] at hnot
      · refine Or.inr ⟨⟨name, List.mem_cons_self, ?_⟩, error, changeAll_cons_of_error herror names⟩
        rintro ⟨definition, changed, hdefinition, hchange⟩
        rw [hunsuited definition hdefinition] at hchange
        contradiction

/-- Where the change that can be made comes to a function of the definition, the
options apply this function to the definitions that count for their names. -/
theorem changeAll_map_cases {change : Definition → Option Definition}
    {apply : Definition → Definition}
    (hstable : ∀ definition changed, change definition = some changed →
      change changed = some changed)
    (happly : ∀ definition changed, change definition = some changed → changed = apply definition)
    (option : TargetOption) (names : List String) (definitions : List (String × Definition)) :
    ((∀ name ∈ names, Suits change definitions name) ∧
        ∃ after, changeAll option change names definitions = .ok after ∧
          effective? after = fun target => (effective? definitions target).map fun definition =>
            if target ∈ names then apply definition else definition) ∨
      ((¬ ∀ name ∈ names, Suits change definitions name) ∧
        ∃ error, changeAll option change names definitions = .error error) := by
  rcases changeAll_cases hstable option names definitions with
    ⟨hsuits, after, hafter, hresult⟩ | ⟨⟨name, hname, hnot⟩, herror⟩
  · refine Or.inl ⟨hsuits, after, hafter, ?_⟩
    funext target
    rw [hresult]
    split
    next hmem =>
      rcases hsuits target hmem with ⟨definition, changed, hdefinition, hchange⟩
      rw [hdefinition, Option.bind_some, Option.map_some, hchange, happly _ _ hchange]
    next => simp
  · exact Or.inr ⟨fun hsuits => hnot (hsuits name hname), herror⟩

/-! ## Merging -/

/-- The parameters made of definitions are found by the definitions that count. -/
theorem get?_ofList_named (definitions : List (String × Definition)) (name : String) :
    (ParameterSet.ofList (definitions.map fun entry => entry.2.named entry.1)
        : ParameterSet Empty).get? name =
      (effective? definitions name).map (·.named name) := by
  rw [ParameterSet.get?_ofList, ← List.map_reverse, effective?]
  induction definitions.reverse with
  | nil => rfl
  | cons entry rest ih =>
      rcases entry with ⟨other, definition⟩
      rw [List.map_cons, List.find?_cons, List.lookup_cons]
      by_cases hname : name = other
      · subst hname
        simp [Definition.named]
      · have hother : (other == name) = false := by simpa using Ne.symm hname
        have hne : (name == other) = false := by simpa using hname
        rw [hne, Definition.named]
        simp only [hother]
        exact ih

/-! ### One kind of option after the other -/

theorem changeAll_upper_cases (upper : List String) (definitions : List (String × Definition)) :
    (Suited definitions upper [] ∧
        ∃ after, changeAll .upper Definition.withUppercase? upper definitions = .ok after ∧
          effective? after = optioned definitions upper []) ∨
      (¬ Suited definitions upper [] ∧
        ∃ error, changeAll .upper Definition.withUppercase? upper definitions = .error error) := by
  rw [Definition.suited_upper_iff, Definition.optioned_upper]
  exact changeAll_map_cases (fun _ _ => Definition.withUppercase?_stable)
    (fun _ _ h => (Definition.withUppercase?_eq_some_iff.mp h).2) .upper upper definitions

theorem changeAll_prefixed_cases (prefixed : List String)
    (definitions : List (String × Definition)) :
    (Suited definitions [] prefixed ∧
        ∃ after, changeAll .prefixed Definition.withPrefix? prefixed definitions = .ok after ∧
          effective? after = optioned definitions [] prefixed) ∨
      (¬ Suited definitions [] prefixed ∧ ∃ error,
        changeAll .prefixed Definition.withPrefix? prefixed definitions = .error error) := by
  rw [Definition.suited_prefixed_iff, Definition.optioned_prefixed]
  exact changeAll_map_cases (fun _ _ => Definition.withPrefix?_stable)
    (fun _ _ h => (Definition.withPrefix?_eq_some_iff.mp h).2) .prefixed prefixed definitions

/-! ### The parameters -/

/-- Merging fails where an option cannot be applied.  Otherwise it gives the
definitions that count as parameters, with the options that mention them. -/
theorem mergeParameters_cases (config : List (String × Definition))
    {given : List (String × Definition)} {arguments : Arguments}
    (h : arguments.definitions = .ok given) :
    (Suited (config ++ given) arguments.upper arguments.prefixed ∧
        ∃ set, mergeParameters config arguments = .ok set ∧ ∀ name, set.get? name =
          (optioned (config ++ given) arguments.upper arguments.prefixed name).map
            (·.named name)) ∨
      (¬ Suited (config ++ given) arguments.upper arguments.prefixed ∧
        ∃ error, mergeParameters config arguments = .error error) := by
  have hmerge : mergeParameters config arguments =
      (changeAll .upper Definition.withUppercase? arguments.upper (config ++ given) >>=
        fun middle => changeAll .prefixed Definition.withPrefix? arguments.prefixed middle >>=
        fun last =>
          .ok (ParameterSet.ofList (last.map fun entry => entry.2.named entry.1))) := by
    rw [mergeParameters, h]
    rfl
  rw [Definition.suited_iff]
  rcases changeAll_upper_cases arguments.upper (config ++ given) with
    ⟨hupper, middle, hmiddle, heffective⟩ | ⟨hnot, error, herror⟩
  · have hrest : mergeParameters config arguments =
        (changeAll .prefixed Definition.withPrefix? arguments.prefixed middle >>= fun last =>
          .ok (ParameterSet.ofList (last.map fun entry => entry.2.named entry.1))) := by
      rw [hmerge, hmiddle]
      rfl
    rw [← Definition.suited_optioned_iff heffective]
    rcases changeAll_prefixed_cases arguments.prefixed middle with
      ⟨hprefixed, last, hlast, hoptioned⟩ | ⟨hnot, error, herror⟩
    · refine Or.inl ⟨⟨hupper, hprefixed⟩, _, by rw [hrest, hlast]; rfl, ?_⟩
      intro name
      rw [get?_ofList_named, hoptioned, Definition.optioned_optioned heffective]
    · exact Or.inr ⟨fun hboth => hnot hboth.2, error, by rw [hrest, herror]; rfl⟩
  · exact Or.inr ⟨fun hboth => hnot hboth.1, error, by rw [hmerge, herror]; rfl⟩

/-- Two results of merging are the same but for the error: both are failures, or both
are sets with the same parameter for every name. -/
def SameOutcome (result other : Except CommandError (ParameterSet Empty)) : Prop :=
  match result, other with
  | .ok set, .ok otherSet => ∀ name, set.get? name = otherSet.get? name
  | .error _, .error _ => True
  | _, _ => False

/-- Merging depends on the definitions that count and on the names that the options
mention, and on nothing else. -/
theorem sameOutcome_mergeParameters {config other given otherGiven : List (String × Definition)}
    {arguments otherArguments : Arguments} (h : arguments.definitions = .ok given)
    (hother : otherArguments.definitions = .ok otherGiven)
    (heffective : effective? (other ++ otherGiven) = effective? (config ++ given))
    (hupper : ∀ name, name ∈ otherArguments.upper ↔ name ∈ arguments.upper)
    (hprefixed : ∀ name, name ∈ otherArguments.prefixed ↔ name ∈ arguments.prefixed) :
    SameOutcome (mergeParameters other otherArguments) (mergeParameters config arguments) := by
  have hsuited : Suited (other ++ otherGiven) otherArguments.upper otherArguments.prefixed ↔
      Suited (config ++ given) arguments.upper arguments.prefixed := by
    constructor
    · rintro ⟨hu, hp⟩
      rw [heffective] at hu hp
      exact ⟨fun name hname => hu name ((hupper name).mpr hname),
        fun name hname => hp name ((hprefixed name).mpr hname)⟩
    · rintro ⟨hu, hp⟩
      rw [← heffective] at hu hp
      exact ⟨fun name hname => hu name ((hupper name).mp hname),
        fun name hname => hp name ((hprefixed name).mp hname)⟩
  rcases mergeParameters_cases config h with
    ⟨hsuits, set, hset, hget⟩ | ⟨hnot, error, herror⟩
  · rcases mergeParameters_cases other hother with
      ⟨-, otherSet, hotherSet, hotherGet⟩ | ⟨hnot, -⟩
    · rw [hset, hotherSet]
      intro name
      rw [hget, hotherGet, optioned, optioned, heffective]
      simp only [hupper, hprefixed]
    · exact absurd (hsuited.mpr hsuits) hnot
  · rcases mergeParameters_cases other hother with ⟨hsuits, -⟩ | ⟨-, otherError, hotherError⟩
    · exact absurd (hsuited.mp hsuits) hnot
    · rw [herror, hotherError]
      trivial

/-- Options meet the definitions that count.  Merging succeeds exactly when every name
to put in uppercase has a definition that counts and is no number, and every name to
begin with `0x` has one that is bytes.  It then gives the names that are defined, and
for each of them the definition that counts with the options that mention it.  Other
definitions of a name have no influence, and neither has the order of the options and
of the configuration, nor an option that is repeated. -/
theorem mergeParameters_effective {config given : List (String × Definition)}
    {arguments : Arguments} (hconfig : (config.map Prod.fst).Nodup)
    (h : arguments.definitions = .ok given) :
    ((∃ set, mergeParameters config arguments = .ok set) ↔
        (∀ name ∈ arguments.upper, ∃ definition,
          effective? (config ++ given) name = some definition ∧
            ∀ source, definition ≠ .number source) ∧
          ∀ name ∈ arguments.prefixed, ∃ source uppercase prefixed,
            effective? (config ++ given) name = some (.hex source uppercase prefixed)) ∧
      (∀ set, mergeParameters config arguments = .ok set →
        (∀ name, set.contains name = true ↔ name ∈ (config ++ given).map Prod.fst) ∧
          ∀ name definition, effective? (config ++ given) name = some definition →
            set.get? name = some ((definition.withOptions (name ∈ arguments.upper)
              (name ∈ arguments.prefixed)).named name)) ∧
      (∀ other otherGiven otherArguments, otherArguments.definitions = .ok otherGiven →
        (∀ name, effective? (other ++ otherGiven) name = effective? (config ++ given) name) →
        (∀ name, name ∈ otherArguments.upper ↔ name ∈ arguments.upper) →
        (∀ name, name ∈ otherArguments.prefixed ↔ name ∈ arguments.prefixed) →
        SameOutcome (mergeParameters other otherArguments) (mergeParameters config arguments)) ∧
      ∀ other upper prefixed, other.Perm config →
        (∀ name, name ∈ upper ↔ name ∈ arguments.upper) →
        (∀ name, name ∈ prefixed ↔ name ∈ arguments.prefixed) →
        SameOutcome
          (mergeParameters other { arguments with upper := upper, prefixed := prefixed })
          (mergeParameters config arguments) := by
  refine ⟨?_, ?_, ?_, ?_⟩
  · rcases mergeParameters_cases config h with
      ⟨hsuits, set, hset, -⟩ | ⟨hnot, error, herror⟩
    · exact iff_of_true ⟨set, hset⟩ ⟨hsuits.upper, hsuits.prefixed⟩
    · refine iff_of_false ?_ (fun hsuits => hnot ⟨hsuits.1, hsuits.2⟩)
      rintro ⟨set, hset⟩
      rw [herror] at hset
      contradiction
  · intro set hset
    rcases mergeParameters_cases config h with
      ⟨-, merged, hmerged, hget⟩ | ⟨-, error, herror⟩
    · obtain rfl : merged = set := by
        rw [hmerged] at hset
        exact Except.ok.inj hset
      constructor
      · intro name
        rw [ParameterSet.contains, hget, Option.isSome_map, optioned, Option.isSome_map]
        exact Definition.isSome_effective?_iff
      · intro name definition hdefinition
        rw [hget, optioned, hdefinition]
        rfl
    · rw [herror] at hset
      contradiction
  · intro other otherGiven otherArguments hother heffective hupper hprefixed
    exact sameOutcome_mergeParameters h hother (funext heffective) hupper hprefixed
  · intro other upper prefixed hperm hupper hprefixed
    have hgiven :
        ({ arguments with upper := upper, prefixed := prefixed } : Arguments).definitions =
          .ok given := h
    refine sameOutcome_mergeParameters h hgiven ?_ hupper hprefixed
    funext name
    rw [Definition.effective?_append, Definition.effective?_append,
      Definition.effective?_perm hconfig hperm]

/-- A text in uppercase is overridden on the command line: its option is lost with it,
while the options of the command line meet the bytes of the configuration. -/
theorem mergeParameters_effective_overridden :
    let config : List (String × Definition) :=
      [("name", .text "a" true), ("id", .hex (.integer 21) false false)]
    let arguments : Arguments :=
      { strings := ["name=b"], upper := ["id", "id"], prefixed := ["id"] }
    (config.map Prod.fst).Nodup ∧ arguments.definitions = .ok [("name", .text "b" false)] ∧
      ∃ set, mergeParameters config arguments = .ok set ∧
        set.get? "name" = some ((Definition.text "b" false).named "name") ∧
        set.get? "id" = some ((Definition.hex (.integer 21) true true).named "id") := by
  intro config arguments
  have hconfig : (config.map Prod.fst).Nodup := by decide
  have hgiven : arguments.definitions = .ok [("name", .text "b" false)] := by decide +kernel
  rcases mergeParameters_effective hconfig hgiven with ⟨hsucceeds, hset, -⟩
  have hid : effective? (config ++ [("name", .text "b" false)]) "id" =
      some (.hex (.integer 21) false false) := by decide +kernel
  have hname : effective? (config ++ [("name", .text "b" false)]) "name" =
      some (.text "b" false) := by decide +kernel
  have hmerged : ∃ set, mergeParameters config arguments = .ok set := by
    rw [hsucceeds]
    constructor
    · intro name hmem
      obtain rfl : name = "id" := by simpa [arguments] using hmem
      exact ⟨_, hid, nofun⟩
    · intro name hmem
      obtain rfl : name = "id" := by simpa [arguments] using hmem
      exact ⟨_, _, _, hid⟩
  rcases hmerged with ⟨set, hmerge⟩
  exact ⟨hconfig, hgiven, set, hmerge, (hset set hmerge).2 _ _ hname, (hset set hmerge).2 _ _ hid⟩

end TextTemplate
