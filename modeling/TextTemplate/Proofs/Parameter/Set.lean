import TextTemplate.Parameter.Set

/-!
# What a set of parameters holds

Adding parameters one after the other leaves the last one of each name.

Main results:

- Theorem `ParameterSet.get?_insertMany`: what is found after parameters have been
  added to a set.
- Theorem `ParameterSet.get?_ofList`: what is found in a set built from the empty one.
-/

namespace TextTemplate.ParameterSet

variable {κ : Type}

/-- The parameter that is found has the name that was looked for. -/
theorem name_of_get? {set : ParameterSet κ} {name : String} {parameter : Parameter κ}
    (h : set.get? name = some parameter) : parameter.name = name := by
  simpa using List.find?_some h

/-- A set is empty when it holds no parameter of any name. -/
theorem isEmpty_iff {set : ParameterSet κ} :
    set.isEmpty = true ↔ ∀ name, set.contains name = false := by
  rw [isEmpty, List.isEmpty_iff]
  constructor
  · intro h name
    rw [contains, get?, h]
    rfl
  · intro h
    rw [List.eq_nil_iff_forall_not_mem]
    intro parameter hmem
    have habsent := h parameter.name
    rw [contains, Option.isSome_eq_false_iff, Option.isNone_iff_eq_none, get?,
      List.find?_eq_none] at habsent
    exact habsent parameter hmem (beq_self_eq_true _)

/-- Of the parameters that have been added the last one of a name is found; where
none has that name, the set is as before. -/
theorem get?_insertMany (set : ParameterSet κ) (parameters : List (Parameter κ))
    (name : String) :
    (set.insertMany parameters).get? name =
      (parameters.reverse.find? (·.name == name)).or (set.get? name) := by
  induction parameters generalizing set with
  | nil => rfl
  | cons parameter parameters ih =>
      have hstep : set.insertMany (parameter :: parameters) =
          (set.insert parameter).insertMany parameters := rfl
      rw [hstep, ih, get?_insert, List.reverse_cons, List.find?_append, Option.or_assoc]
      congr 1
      by_cases hname : parameter.name = name
      · simp [hname]
      · simp [hname]

/-- In a set built from the empty one the last parameter of a name is found. -/
theorem get?_ofList (parameters : List (Parameter κ)) (name : String) :
    (ofList parameters).get? name = parameters.reverse.find? (·.name == name) := by
  rw [ofList, get?_insertMany, get?_empty, Option.or_none]

end TextTemplate.ParameterSet
