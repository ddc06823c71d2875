import Mathlib.Data.List.Perm.Basic
import Mathlib.Logic.Function.Basic
import TextTemplate.Parameter.Definition

/-!
# Definitions that count

Definitions of parameters are collected in a list, and a name may be defined more
than once.  Of all definitions of a name the last one counts.  Options are turned on
in the definitions that count.

Main results:

- Definition `Definition.effective?`: the definition of a name that counts.
- Theorem `Definition.effective?_perm`: where no name occurs twice, the order of the
  definitions does not matter.
- Definition `Definition.withOptions`: a definition with further options.
- Theorems `Definition.withUppercase?_eq_some_iff` and
  `Definition.withPrefix?_eq_some_iff`: which definitions have an option, and what it
  does to them.
- Definition `Definition.optioned`: the definitions that count, with the options that
  mention them.
-/

namespace TextTemplate

namespace Definition

/-! ## Definitions that count -/

/-- The definition of a name that counts: the last one. -/
def effective? (definitions : List (String × Definition)) (name : String) : Option Definition :=
  definitions.reverse.lookup name

@[simp] theorem effective?_nil (name : String) : effective? [] name = none := rfl

/-- Definitions that are added count, and behind them those that were there. -/
theorem effective?_append (definitions others : List (String × Definition)) (name : String) :
    effective? (definitions ++ others) name =
      (effective? others name).or (effective? definitions name) := by
  rw [effective?, List.reverse_append, List.lookup_append]
  rfl

/-- The first definition counts if no other one has its name. -/
theorem effective?_cons (other : String) (definition : Definition)
    (definitions : List (String × Definition)) (name : String) :
    effective? ((other, definition) :: definitions) name =
      (effective? definitions name).or (if other = name then some definition else none) := by
  rw [effective?, List.reverse_cons, List.lookup_append]
  congr 1
  by_cases hname : other = name
  · simp [hname]
  · have hne : (name == other) = false := by simpa using Ne.symm hname
    simp [List.lookup_cons, hname, hne]

theorem isSome_effective? (definitions : List (String × Definition)) (name : String) :
    (effective? definitions name).isSome = definitions.any (·.1 == name) := by
  induction definitions with
  | nil => rfl
  | cons entry definitions ih =>
      rcases entry with ⟨other, definition⟩
      rw [effective?_cons, List.any_cons, Option.isSome_or, ih, Bool.or_comm]
      by_cases hname : other = name
      · simp [hname]
      · simp [hname]

/-- A definition counts for the names that are defined, and for no others. -/
theorem isSome_effective?_iff {definitions : List (String × Definition)} {name : String} :
    (effective? definitions name).isSome = true ↔ name ∈ definitions.map Prod.fst := by
  rw [isSome_effective?]
  simp

/-- A definition in front of others has no part in a change among them. -/
theorem effective?_cons_eq_update {definitions others : List (String × Definition)}
    {name : String} {changed : Definition} (other : String) (first : Definition)
    (h : effective? others = Function.update (effective? definitions) name (some changed)) :
    effective? ((other, first) :: others) =
      Function.update (effective? ((other, first) :: definitions)) name (some changed) := by
  funext target
  rw [effective?_cons, h]
  by_cases htarget : target = name
  · subst htarget
    rw [Function.update_self, Function.update_self, Option.some_or]
  · rw [Function.update_of_ne htarget, Function.update_of_ne htarget, effective?_cons]

/-- The only definition of a name is changed where it stands. -/
theorem effective?_cons_self_eq_update {definitions : List (String × Definition)} {name : String}
    (first changed : Definition) (h : effective? definitions name = none) :
    effective? ((name, changed) :: definitions) =
      Function.update (effective? ((name, first) :: definitions)) name (some changed) := by
  funext target
  rw [effective?_cons]
  by_cases htarget : target = name
  · subst htarget
    rw [Function.update_self, h, if_pos rfl, Option.none_or]
  · rw [Function.update_of_ne htarget, effective?_cons, if_neg (Ne.symm htarget),
      if_neg (Ne.symm htarget)]

/-- Where no name occurs twice, every definition counts. -/
theorem effective?_eq_some_iff {definitions : List (String × Definition)} {name : String}
    {definition : Definition} (h : (definitions.map Prod.fst).Nodup) :
    effective? definitions name = some definition ↔ (name, definition) ∈ definitions := by
  induction definitions with
  | nil => simp
  | cons entry definitions ih =>
      rcases entry with ⟨other, first⟩
      rw [List.map_cons, List.nodup_cons] at h
      rw [effective?_cons, List.mem_cons, ← ih h.2]
      by_cases hname : other = name
      · subst hname
        have hnone : effective? definitions other = none := by
          rw [← Option.not_isSome_iff_eq_none, isSome_effective?_iff]
          exact h.1
        simp [hnone, eq_comm]
      · simp [hname, Ne.symm hname]

/-- The order of definitions does not matter where no name occurs twice. -/
theorem effective?_perm {definitions others : List (String × Definition)}
    (h : (definitions.map Prod.fst).Nodup) (hperm : others.Perm definitions) (name : String) :
    effective? others name = effective? definitions name := by
  have hothers : (others.map Prod.fst).Nodup := (hperm.map Prod.fst).nodup_iff.mpr h
  ext definition
  rw [effective?_eq_some_iff hothers, effective?_eq_some_iff h]
  exact hperm.mem_iff

/-! ## Options -/

/-- The definition with options turned on in addition to those that it has itself. -/
def withOptions (uppercase prefixed : Bool) : Definition → Definition
  | text value own => text value (own || uppercase)
  | number value => number value
  | character value own => character value (own || uppercase)
  | hex source own ownPrefix => hex source (own || uppercase) (ownPrefix || prefixed)

@[simp] theorem withOptions_false (definition : Definition) :
    definition.withOptions false false = definition := by
  cases definition <;> simp [withOptions]

/-- The two options can be turned on one after the other. -/
theorem withOptions_withOptions (definition : Definition) (uppercase prefixed : Bool) :
    (definition.withOptions uppercase false).withOptions false prefixed =
      definition.withOptions uppercase prefixed := by
  cases definition <;> simp [withOptions]

/-- Uppercase can be turned on in everything but numbers. -/
theorem withUppercase?_eq_some_iff {definition changed : Definition} :
    definition.withUppercase? = some changed ↔
      (∀ source, definition ≠ number source) ∧ changed = definition.withOptions true false := by
  cases definition <;> simp [withUppercase?, withOptions, eq_comm]

/-- The `0x` can be turned on in bytes, and in nothing else. -/
theorem withPrefix?_eq_some_iff {definition changed : Definition} :
    definition.withPrefix? = some changed ↔
      (∃ source uppercase prefixed, definition = hex source uppercase prefixed) ∧
        changed = definition.withOptions false true := by
  cases definition <;> simp [withPrefix?, withOptions, eq_comm]

/-- Turning an option on once more changes nothing. -/
theorem withUppercase?_stable {definition changed : Definition}
    (h : definition.withUppercase? = some changed) : changed.withUppercase? = some changed := by
  cases definition <;> cases h <;> rfl

theorem withPrefix?_stable {definition changed : Definition}
    (h : definition.withPrefix? = some changed) : changed.withPrefix? = some changed := by
  cases definition <;> cases h
  rfl

/-! ## Options that can be applied -/

/-- A name has a definition that counts, and the change can be made to it. -/
def Suits (change : Definition → Option Definition) (definitions : List (String × Definition))
    (name : String) : Prop :=
  ∃ definition changed, effective? definitions name = some definition ∧
    change definition = some changed

/-- Every option can be applied to the definition that counts for its name: a number
cannot be put in uppercase, and only bytes can have a `0x`. -/
structure Suited (definitions : List (String × Definition)) (upper prefixed : List String) :
    Prop where
  upper : ∀ name ∈ upper, ∃ definition, effective? definitions name = some definition ∧
    ∀ source, definition ≠ .number source
  prefixed : ∀ name ∈ prefixed, ∃ source uppercase ownPrefix,
    effective? definitions name = some (.hex source uppercase ownPrefix)

/-- The definitions that count, with the options that mention them. -/
def optioned (definitions : List (String × Definition)) (upper prefixed : List String)
    (name : String) : Option Definition :=
  (effective? definitions name).map (·.withOptions (name ∈ upper) (name ∈ prefixed))

/-- Uppercase suits the names whose definition is no number. -/
theorem suits_withUppercase?_iff {definitions : List (String × Definition)} {name : String} :
    Suits Definition.withUppercase? definitions name ↔
      ∃ definition, effective? definitions name = some definition ∧
        ∀ source, definition ≠ .number source := by
  simp only [Suits, Definition.withUppercase?_eq_some_iff]
  constructor
  · rintro ⟨definition, changed, hdefinition, hsuited, -⟩
    exact ⟨definition, hdefinition, hsuited⟩
  · rintro ⟨definition, hdefinition, hsuited⟩
    exact ⟨definition, _, hdefinition, hsuited, rfl⟩

/-- The `0x` suits the names whose definition is made of bytes. -/
theorem suits_withPrefix?_iff {definitions : List (String × Definition)} {name : String} :
    Suits Definition.withPrefix? definitions name ↔
      ∃ source uppercase ownPrefix,
        effective? definitions name = some (.hex source uppercase ownPrefix) := by
  simp only [Suits, Definition.withPrefix?_eq_some_iff]
  constructor
  · rintro ⟨_, changed, hdefinition, ⟨source, uppercase, ownPrefix, rfl⟩, -⟩
    exact ⟨source, uppercase, ownPrefix, hdefinition⟩
  · rintro ⟨source, uppercase, ownPrefix, hdefinition⟩
    exact ⟨_, _, hdefinition, ⟨source, uppercase, ownPrefix, rfl⟩, rfl⟩

/-- Options leave bytes bytes, and make nothing else bytes. -/
theorem exists_map_withOptions_eq_hex_iff {definition? : Option Definition}
    {uppercase prefixed : Bool} :
    (∃ source own ownPrefix,
        definition?.map (·.withOptions uppercase prefixed) = some (.hex source own ownPrefix)) ↔
      ∃ source own ownPrefix, definition? = some (.hex source own ownPrefix) := by
  cases definition? with
  | none => simp
  | some definition => cases definition <;> simp [Definition.withOptions]

/-- Names to put in uppercase suit where each one of them does. -/
theorem suited_upper_iff {definitions : List (String × Definition)} {upper : List String} :
    Suited definitions upper [] ↔
      ∀ name ∈ upper, Suits Definition.withUppercase? definitions name := by
  simp only [suits_withUppercase?_iff]
  exact ⟨fun h => h.upper, fun h => ⟨h, by simp⟩⟩

/-- Names to get a `0x` suit where each one of them does. -/
theorem suited_prefixed_iff {definitions : List (String × Definition)} {prefixed : List String} :
    Suited definitions [] prefixed ↔
      ∀ name ∈ prefixed, Suits Definition.withPrefix? definitions name := by
  simp only [suits_withPrefix?_iff]
  exact ⟨fun h => h.prefixed, fun h => ⟨by simp, h⟩⟩

/-- Uppercase is turned on in the definitions that count for its names. -/
theorem optioned_upper (definitions : List (String × Definition)) (upper : List String) :
    optioned definitions upper [] = fun target =>
      (effective? definitions target).map fun definition =>
        if target ∈ upper then definition.withOptions true false else definition := by
  funext target
  by_cases htarget : target ∈ upper <;> simp [optioned, htarget]

theorem optioned_prefixed (definitions : List (String × Definition)) (prefixed : List String) :
    optioned definitions [] prefixed = fun target =>
      (effective? definitions target).map fun definition =>
        if target ∈ prefixed then definition.withOptions false true else definition := by
  funext target
  by_cases htarget : target ∈ prefixed <;> simp [optioned, htarget]

/-- The two options are suited independently of each other. -/
theorem suited_iff {definitions : List (String × Definition)} {upper prefixed : List String} :
    Suited definitions upper prefixed ↔
      Suited definitions upper [] ∧ Suited definitions [] prefixed :=
  ⟨fun h => ⟨⟨h.upper, by simp⟩, ⟨by simp, h.prefixed⟩⟩, fun h => ⟨h.1.upper, h.2.prefixed⟩⟩

/-- Uppercase does not decide whether a `0x` can be had. -/
theorem suited_optioned_iff {definitions after : List (String × Definition)}
    {upper prefixed : List String} (h : effective? after = optioned definitions upper []) :
    Suited after [] prefixed ↔ Suited definitions [] prefixed := by
  have hhex : ∀ name,
      (∃ source own ownPrefix, effective? after name = some (.hex source own ownPrefix)) ↔
        ∃ source own ownPrefix, effective? definitions name = some (.hex source own ownPrefix) := by
    intro name
    rw [h]
    exact exists_map_withOptions_eq_hex_iff
  constructor
  · intro hafter
    exact ⟨by simp, fun name hname => (hhex name).mp (hafter.prefixed name hname)⟩
  · intro hdefinitions
    exact ⟨by simp, fun name hname => (hhex name).mpr (hdefinitions.prefixed name hname)⟩

/-- The two options are applied one after the other. -/
theorem optioned_optioned {definitions after : List (String × Definition)}
    {upper : List String} (h : effective? after = optioned definitions upper [])
    (prefixed : List String) :
    optioned after [] prefixed = optioned definitions upper prefixed := by
  funext target
  rw [optioned, h, optioned, optioned, Option.map_map]
  congr 1
  funext definition
  simp [Definition.withOptions_withOptions]

end Definition

end TextTemplate
