import Mathlib.Data.List.Forall2

/-!
# Steps one after the other

A command line is carried out in steps that may fail, and lists are read element by
element in the same way.  What is said here about such steps and lists does not depend
on what they are.

Main results:

- Theorem `exists_of_bind_eq_ok`: steps that succeed one after the other succeed each.
- Theorems `mapM_eq_some_iff` and `mapM_eq_ok_iff`: a list is read where each of its
  elements is.
- Theorem `mapM_eq_error_iff`: the first element that is not read decides the error.
-/

namespace TextTemplate

variable {ε α β : Type}

/-! ## Two steps -/

/-- A step that succeeds hands on what it gives. -/
theorem ok_bind (a : α) (next : α → Except ε β) :
    ((.ok a : Except ε α) >>= next) = next a := rfl

/-- Steps that succeed one after the other succeed each. -/
theorem exists_of_bind_eq_ok {step : Except ε α} {next : α → Except ε β} {b : β}
    (h : step >>= next = .ok b) : ∃ a, step = .ok a ∧ next a = .ok b := by
  cases step with
  | error error => contradiction
  | ok a => exact ⟨a, rfl, h⟩

/-! ## Lists -/

/-- Results for a whole list exist where they do for each of its elements. -/
theorem exists_forall₂_iff {R : α → β → Prop} {list : List α} :
    (∃ results, List.Forall₂ R list results) ↔ ∀ a ∈ list, ∃ b, R a b := by
  induction list with
  | nil => simp
  | cons first rest ih =>
      rw [List.forall_mem_cons, ← ih]
      simp only [List.forall₂_cons_left_iff]
      constructor
      · rintro ⟨results, b, others, hb, hothers, -⟩
        exact ⟨⟨b, hb⟩, others, hothers⟩
      · rintro ⟨⟨b, hb⟩, others, hothers⟩
        exact ⟨b :: others, b, others, hb, hothers, rfl⟩

/-- A list gives results where each of its elements gives one. -/
theorem mapM_eq_some_iff {f : α → Option β} {list : List α} {results : List β} :
    list.mapM f = some results ↔ List.Forall₂ (fun a b => f a = some b) list results := by
  induction list generalizing results with
  | nil => simp [eq_comm]
  | cons first rest ih =>
      simp only [List.mapM_cons, List.forall₂_cons_left_iff, Option.bind_eq_bind,
        Option.bind_eq_some_iff, ih]
      constructor
      · rintro ⟨result, hresult, others, hothers, h⟩
        exact ⟨result, others, hresult, hothers, (Option.some.inj h).symm⟩
      · rintro ⟨result, others, hresult, hothers, rfl⟩
        exact ⟨result, hresult, others, hothers, rfl⟩

variable {f : α → Except ε β}

/-- A list is read where each of its elements is. -/
theorem mapM_eq_ok_iff {list : List α} {results : List β} :
    list.mapM f = .ok results ↔ List.Forall₂ (fun a b => f a = .ok b) list results := by
  induction list generalizing results with
  | nil =>
      rw [List.mapM_nil, List.forall₂_nil_left_iff]
      exact ⟨fun h => (Except.ok.inj h).symm, fun h => h ▸ rfl⟩
  | cons first rest ih =>
      rw [List.mapM_cons, List.forall₂_cons_left_iff]
      constructor
      · intro h
        obtain ⟨result, hresult, h⟩ := exists_of_bind_eq_ok h
        obtain ⟨others, hothers, h⟩ := exists_of_bind_eq_ok h
        exact ⟨result, others, hresult, ih.mp hothers, (Except.ok.inj h).symm⟩
      · rintro ⟨result, others, hresult, hothers, rfl⟩
        rw [hresult, ok_bind, ih.mpr hothers]
        rfl

/-- A list that is read has one result for each element. -/
theorem length_mapM {list : List α} {results : List β} (h : list.mapM f = .ok results) :
    results.length = list.length :=
  (mapM_eq_ok_iff.mp h).length_eq.symm

/-- The first element that is not read decides the error, whatever follows it. -/
theorem mapM_eq_error_of_first {before later : List α} {a : α} {error : ε}
    (hbefore : ∀ b ∈ before, ∃ result, f b = .ok result) (ha : f a = .error error) :
    (before ++ a :: later).mapM f = .error error := by
  induction before with
  | nil =>
      rw [List.nil_append, List.mapM_cons, ha]
      rfl
  | cons b before ih =>
      obtain ⟨⟨result, hresult⟩, hbefore⟩ := List.forall_mem_cons.mp hbefore
      rw [List.cons_append, List.mapM_cons, hresult, ok_bind, ih hbefore]
      rfl

/-- A list is not read where one of its elements is not, and the first such element decides
the error. -/
theorem mapM_eq_error_iff {list : List α} {error : ε} :
    list.mapM f = .error error ↔ ∃ before a later, list = before ++ a :: later ∧
      (∀ b ∈ before, ∃ result, f b = .ok result) ∧ f a = .error error := by
  constructor
  · intro h
    induction list with
    | nil => contradiction
    | cons first rest ih =>
        rw [List.mapM_cons] at h
        cases hfirst : f first with
        | error other =>
            rw [hfirst] at h
            cases h
            exact ⟨[], first, rest, rfl, by simp, hfirst⟩
        | ok result =>
            rw [hfirst, ok_bind] at h
            cases hrest : rest.mapM f with
            | error other =>
                rw [hrest] at h
                cases h
                obtain ⟨before, a, later, rfl, hbefore, ha⟩ := ih hrest
                have hbefore := List.forall_mem_cons.mpr ⟨⟨result, hfirst⟩, hbefore⟩
                exact ⟨first :: before, a, later, rfl, hbefore, ha⟩
            | ok others =>
                rw [hrest] at h
                contradiction
  · rintro ⟨before, a, later, rfl, hbefore, ha⟩
    exact mapM_eq_error_of_first hbefore ha

end TextTemplate
