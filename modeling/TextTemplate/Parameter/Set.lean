import TextTemplate.Parameter.Basic

/-!
# Sets of parameters

The parameters given to one formatting call, found by their names.  A parameter
takes the place of an earlier one of the same name, so a set holds at most one
parameter for each name.

Main results:

- `ParameterSet.insert` adds a parameter; `ParameterSet.ofList` adds many.
- `ParameterSet.get?` finds the parameter of a name.
- `ParameterSet.get?_insert`: the last parameter added under a name is found.
-/

namespace TextTemplate

/-- Parameters with different names. -/
structure ParameterSet (κ : Type) where
  /-- The parameters, the one added last at the front. -/
  parameters : List (Parameter κ)
  /-- No name occurs twice. -/
  nodup_names : (parameters.map Parameter.name).Nodup

namespace ParameterSet

variable {κ : Type}

/-- The set without parameters. -/
def empty : ParameterSet κ := ⟨[], by simp⟩

instance : Inhabited (ParameterSet κ) := ⟨empty⟩

/-- The names of the parameters. -/
def names (set : ParameterSet κ) : List String := set.parameters.map Parameter.name

/-- The number of parameters. -/
def size (set : ParameterSet κ) : Nat := set.parameters.length

/-- Whether there are no parameters. -/
def isEmpty (set : ParameterSet κ) : Bool := set.parameters.isEmpty

/-- The parameter of a name. -/
def get? (set : ParameterSet κ) (name : String) : Option (Parameter κ) :=
  set.parameters.find? (·.name == name)

/-- Whether there is a parameter of a name. -/
def contains (set : ParameterSet κ) (name : String) : Bool :=
  (set.get? name).isSome

/-- Parameters of other names, with one more in front, still have different names. -/
theorem nodup_names_insert (set : ParameterSet κ) (parameter : Parameter κ) :
    ((parameter :: set.parameters.filter (·.name != parameter.name)).map
      Parameter.name).Nodup := by
  rw [List.map_cons, List.nodup_cons]
  constructor
  · simp
  · exact (List.filter_sublist.map Parameter.name).nodup set.nodup_names

/-- Adds a parameter in place of one of the same name. -/
def insert (set : ParameterSet κ) (parameter : Parameter κ) : ParameterSet κ :=
  ⟨parameter :: set.parameters.filter (·.name != parameter.name),
    nodup_names_insert set parameter⟩

/-- Adds parameters one after the other. -/
def insertMany (set : ParameterSet κ) (parameters : List (Parameter κ)) : ParameterSet κ :=
  parameters.foldl insert set

/-- The set built from the empty one. -/
def ofList (parameters : List (Parameter κ)) : ParameterSet κ :=
  empty.insertMany parameters

/-- Nothing is found in the empty set. -/
@[simp] theorem get?_empty (name : String) : (empty : ParameterSet κ).get? name = none := rfl

/-- The parameter added last under a name is found; other names are left alone. -/
theorem get?_insert (set : ParameterSet κ) (parameter : Parameter κ) (name : String) :
    (set.insert parameter).get? name =
      if parameter.name = name then some parameter else set.get? name := by
  unfold insert get?
  by_cases h : parameter.name = name
  · simp [h]
  · rw [List.find?_cons_of_neg (by simpa using h), if_neg h, List.find?_filter]
    congr 1
    funext candidate
    by_cases hname : candidate.name = name
    · simp [hname, Ne.symm h]
    · simp [hname]

/-! ### Adding values of one kind -/

/-- Adds a text. -/
def addText (set : ParameterSet κ) (name value : String) : ParameterSet κ :=
  set.insert ⟨name, .text ⟨value, false⟩⟩

/-- Adds the plain text of a value. -/
def addShown {α : Type} [Shown α] (set : ParameterSet κ) (name : String) (value : α) :
    ParameterSet κ :=
  set.insert ⟨name, .text (TextValue.shown value)⟩

/-- Adds a number. -/
def addNumber (set : ParameterSet κ) (name : String) (value : Number) : ParameterSet κ :=
  set.insert ⟨name, .number value⟩

/-- Adds a character. -/
def addCharacter (set : ParameterSet κ) (name : String) (value : Char) : ParameterSet κ :=
  set.insert ⟨name, .character ⟨value, false⟩⟩

/-- Adds bytes. -/
def addHex (set : ParameterSet κ) (name : String) (value : Hex) : ParameterSet κ :=
  set.insert ⟨name, .hex value⟩

/-- Adds a value of the caller's own kind. -/
def addCustom (set : ParameterSet κ) (name : String) (value : κ) : ParameterSet κ :=
  set.insert ⟨name, .custom value⟩

/-! ### Comparing sets -/

/-- Whether two sets hold the same parameter for each name. -/
def sameSet [DecidableEq κ] (a b : ParameterSet κ) : Bool :=
  a.size == b.size && a.parameters.all fun parameter =>
    match b.get? parameter.name with
    | some other => parameter.sameParameter other
    | none => false

end ParameterSet

end TextTemplate
