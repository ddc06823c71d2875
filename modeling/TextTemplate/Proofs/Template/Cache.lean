import Mathlib.Data.Set.Card
import TextTemplate.Proofs.Template.Parse
import TextTemplate.Template.Cache

/-!
# Runs of a cache

A cache answers every request as parsing does.  What it adds is identity: the same
shared template is given out for a source until the cache is cleared, and never again
after that.

Main results:

- Theorem `TemplateCache.get_cases`: a request is a hit, a failure or a new entry.
- Definition `TemplateCache.Sound`: what holds of a cache after every run.
- Theorem `TemplateCache.eq_iff_of_get`: which requests are answered with the very
  same template.
- Theorem `TemplateCache.mem_sources_run_iff`: the sources in a cache are those
  requested with success since it was cleared.
- Theorem `TemplateCache.run_transparent`: the properties of whole runs.
-/

namespace TextTemplate.TemplateCache

/-! ## Calls -/

/-- A call on a cache. -/
inductive Call
  /-- Asks for the template of a source. -/
  | get (source : String)
  /-- Forgets all templates. -/
  | clear
deriving DecidableEq, Repr

/-- The cache after a call. -/
def after (cache : TemplateCache) : Call → TemplateCache
  | .get source => (cache.get source).2
  | .clear => cache.clear

/-- The cache after calls, one after the other. -/
def run (cache : TemplateCache) (calls : List Call) : TemplateCache := calls.foldl after cache

@[simp] theorem run_nil (cache : TemplateCache) : cache.run [] = cache := rfl

@[simp] theorem run_cons (cache : TemplateCache) (call : Call) (calls : List Call) :
    cache.run (call :: calls) = (cache.after call).run calls := rfl

/-- The last call comes behind all others. -/
theorem run_concat (cache : TemplateCache) (calls : List Call) (call : Call) :
    cache.run (calls ++ [call]) = (cache.run calls).after call := by
  rw [run, List.foldl_append]
  rfl

/-- The template of a source in the cache. -/
def find? (cache : TemplateCache) (source : String) : Option SharedTemplate :=
  cache.entries.lookup source

/-- The cache with a template that has just been parsed. -/
def keep (cache : TemplateCache) (source : String) (template : Template) : TemplateCache :=
  ⟨(source, ⟨cache.next, template⟩) :: cache.entries, cache.next + 1⟩

/-- A request finds a template and changes nothing, or fails as parsing does and changes
nothing, or keeps the template under the next number. -/
theorem get_cases (cache : TemplateCache) (source : String) :
    (∃ shared, cache.find? source = some shared ∧ cache.get source = (.ok shared, cache)) ∨
      (∃ error, cache.find? source = none ∧ Template.parse source = .error error ∧
        cache.get source = (.error error, cache)) ∨
      ∃ template, cache.find? source = none ∧ Template.parse source = .ok template ∧
        cache.get source = (.ok ⟨cache.next, template⟩, cache.keep source template) := by
  unfold get find?
  cases cache.entries.lookup source with
  | some shared => exact Or.inl ⟨shared, rfl, rfl⟩
  | none =>
      cases Template.parse source with
      | error error => exact Or.inr (Or.inl ⟨error, rfl, rfl, rfl⟩)
      | ok template => exact Or.inr (Or.inr ⟨template, rfl, rfl, rfl⟩)

/-- A request leaves the cache as it is, or keeps a template that was not there. -/
theorem after_get_cases (cache : TemplateCache) (source : String) :
    cache.after (.get source) = cache ∨
      ∃ template, cache.find? source = none ∧ Template.parse source = .ok template ∧
        cache.after (.get source) = cache.keep source template := by
  rw [after]
  rcases cache.get_cases source with ⟨shared, -, hget⟩ | ⟨error, -, -, hget⟩ |
    ⟨template, hnew, hparse, hget⟩
  · exact Or.inl (congrArg Prod.snd hget)
  · exact Or.inl (congrArg Prod.snd hget)
  · exact Or.inr ⟨template, hnew, hparse, congrArg Prod.snd hget⟩

/-- A template that is kept is found under its source, and takes nothing else away. -/
theorem find?_keep (cache : TemplateCache) (source other : String) (template : Template) :
    (cache.keep source template).find? other =
      if other = source then some ⟨cache.next, template⟩ else cache.find? other := by
  by_cases h : other = source
  · simp [find?, keep, h]
  · have hne : (other == source) = false := by simpa using h
    simp [find?, keep, h, List.lookup_cons, hne]

/-- The template of a request that succeeds is in the cache then. -/
theorem find?_of_get {cache : TemplateCache} {source : String} {shared : SharedTemplate}
    (h : (cache.get source).1 = .ok shared) :
    (cache.get source).2.find? source = some shared := by
  rcases cache.get_cases source with ⟨found, hfound, hget⟩ | ⟨error, -, -, hget⟩ |
    ⟨template, -, -, hget⟩
  · rw [hget] at h ⊢
    cases h
    exact hfound
  · rw [hget] at h
    contradiction
  · rw [hget] at h ⊢
    cases h
    rw [find?_keep, if_pos rfl]

/-! ## What holds of every cache -/

/-- The entries of a cache are parsed from their sources, no source occurs twice, and
every number has been given out once. -/
structure Sound (cache : TemplateCache) : Prop where
  parsed : ∀ source shared, (source, shared) ∈ cache.entries →
    Template.parse source = .ok shared.template
  nodup : (cache.entries.map Prod.fst).Nodup
  serial_lt : ∀ source shared, (source, shared) ∈ cache.entries → shared.serial < cache.next
  serials : cache.entries.Pairwise fun entry other => entry.2.serial ≠ other.2.serial

theorem sound_new : Sound {} := ⟨by simp, .nil, by simp, .nil⟩

theorem mem_entries_of_find? {cache : TemplateCache} {source : String} {shared : SharedTemplate}
    (h : cache.find? source = some shared) : (source, shared) ∈ cache.entries := by
  rcases List.lookup_eq_some_iff.mp h with ⟨front, behind, hentries, -⟩
  rw [hentries]
  exact List.mem_append_right _ List.mem_cons_self

/-- Nothing is found under a source that has no entry. -/
theorem find?_eq_none_iff {cache : TemplateCache} {source : String} :
    cache.find? source = none ↔ source ∉ cache.entries.map Prod.fst := by
  rw [find?, List.lookup_eq_none_iff, List.mem_map]
  constructor
  · rintro habsent ⟨entry, hentry, rfl⟩
    simpa using habsent entry hentry
  · intro habsent entry hentry
    have hne : source ≠ entry.1 := fun hsame => habsent ⟨entry, hentry, hsame.symm⟩
    simpa using hne

/-- A template that is kept under its own source leaves a cache sound. -/
theorem Sound.keep {cache : TemplateCache} (h : Sound cache) {source : String}
    {template : Template} (hnew : cache.find? source = none)
    (hparse : Template.parse source = .ok template) : Sound (cache.keep source template) where
  parsed := by
    intro other shared hmem
    rcases List.mem_cons.mp hmem with hnow | hmem
    · cases hnow
      exact hparse
    · exact h.parsed other shared hmem
  nodup := List.nodup_cons.mpr ⟨find?_eq_none_iff.mp hnew, h.nodup⟩
  serial_lt := by
    intro other shared hmem
    rcases List.mem_cons.mp hmem with hnow | hmem
    · cases hnow
      exact Nat.lt_succ_self _
    · exact Nat.lt_succ_of_lt (h.serial_lt other shared hmem)
  serials := by
    refine List.pairwise_cons.mpr ⟨?_, h.serials⟩
    rintro ⟨other, shared⟩ hmem
    exact (h.serial_lt other shared hmem).ne'

/-- No call spoils a cache. -/
theorem Sound.after {cache : TemplateCache} (h : Sound cache) (call : Call) :
    Sound (cache.after call) := by
  cases call with
  | clear => exact ⟨nofun, .nil, nofun, .nil⟩
  | get source =>
      rcases cache.after_get_cases source with hsame | ⟨template, hnew, hparse, hkeep⟩
      · rwa [hsame]
      · rw [hkeep]
        exact h.keep hnew hparse

/-- Calls leave a cache sound. -/
theorem Sound.run {cache : TemplateCache} (h : Sound cache) (calls : List Call) :
    Sound (cache.run calls) := by
  induction calls generalizing cache with
  | nil => exact h
  | cons call calls ih => exact ih (h.after call)

/-- Every request is answered as parsing answers it. -/
theorem Sound.map_template_get {cache : TemplateCache} (h : Sound cache) (source : String) :
    (cache.get source).1.map SharedTemplate.template = Template.parse source := by
  rcases cache.get_cases source with ⟨shared, hfound, hget⟩ | ⟨error, -, hparse, hget⟩ |
    ⟨template, -, hparse, hget⟩
  · rw [hget, h.parsed source shared (mem_entries_of_find? hfound)]
    rfl
  · rw [hget, hparse]
    rfl
  · rw [hget, hparse]
    rfl

/-- A number belongs to one source. -/
theorem Sound.eq_of_serial_eq {cache : TemplateCache} (h : Sound cache) {source other : String}
    {shared again : SharedTemplate} (hfound : cache.find? source = some shared)
    (hagain : cache.find? other = some again) (hserial : shared.serial = again.serial) :
    source = other := by
  by_contra hne
  have hentries : (source, shared) ≠ (other, again) := fun hsame => hne (congrArg Prod.fst hsame)
  have hsymm : Std.Symm fun entry other : String × SharedTemplate =>
      entry.2.serial ≠ other.2.serial := ⟨fun _ _ hdiffer => hdiffer.symm⟩
  exact h.serials.forall (mem_entries_of_find? hfound) (mem_entries_of_find? hagain) hentries
    hserial

/-! ## The same template again -/

/-- As long as the cache is not cleared, a template that is there stays. -/
theorem find?_run {cache : TemplateCache} {source : String} {shared : SharedTemplate}
    (h : cache.find? source = some shared) {calls : List Call} (hcalls : Call.clear ∉ calls) :
    (cache.run calls).find? source = some shared := by
  induction calls generalizing cache with
  | nil => exact h
  | cons call calls ih =>
      rw [List.mem_cons, not_or] at hcalls
      refine ih ?_ hcalls.2
      cases call with
      | clear => exact absurd rfl hcalls.1
      | get other =>
          rcases cache.after_get_cases other with hsame | ⟨template, hnew, -, hkeep⟩
          · rwa [hsame]
          · have hne : source ≠ other := by
              rintro rfl
              rw [h] at hnew
              contradiction
            rwa [hkeep, find?_keep, if_neg hne]

/-- A number that has been given out to a template that is no longer there. -/
structure Retired (cache : TemplateCache) (serial : Nat) : Prop where
  lt_next : serial < cache.next
  ne_serial : ∀ source shared, (source, shared) ∈ cache.entries → shared.serial ≠ serial

/-- A retired number is not given out again. -/
theorem Retired.after {cache : TemplateCache} {serial : Nat} (h : Retired cache serial)
    (call : Call) : Retired (cache.after call) serial := by
  cases call with
  | clear => exact ⟨h.lt_next, nofun⟩
  | get source =>
      rcases cache.after_get_cases source with hsame | ⟨template, -, -, hkeep⟩
      · rwa [hsame]
      · rw [hkeep]
        refine ⟨Nat.lt_succ_of_lt h.lt_next, ?_⟩
        intro other shared hmem
        rcases List.mem_cons.mp hmem with hnow | hmem
        · cases hnow
          exact h.lt_next.ne'
        · exact h.ne_serial other shared hmem

/-- A retired number stays retired, whatever is called. -/
theorem Retired.run {cache : TemplateCache} {serial : Nat} (h : Retired cache serial)
    (calls : List Call) : Retired (cache.run calls) serial := by
  induction calls generalizing cache with
  | nil => exact h
  | cons call calls ih => exact ih (h.after call)

/-- No request is answered with a retired number. -/
theorem Retired.ne_of_get {cache : TemplateCache} {serial : Nat} (h : Retired cache serial)
    {source : String} {shared : SharedTemplate} (hget : (cache.get source).1 = .ok shared) :
    shared.serial ≠ serial :=
  (h.after (.get source)).ne_serial source shared (mem_entries_of_find? (find?_of_get hget))

/-- Numbers only go up. -/
theorem next_le_after (cache : TemplateCache) (call : Call) :
    cache.next ≤ (cache.after call).next := by
  cases call with
  | clear => exact Nat.le_refl _
  | get source =>
      rcases cache.after_get_cases source with hsame | ⟨template, -, -, hkeep⟩
      · rw [hsame]
      · rw [hkeep]
        exact Nat.le_succ _

/-- Clearing the cache retires the numbers that have been given out. -/
theorem retired_run_of_clear_mem {cache : TemplateCache} {serial : Nat}
    (h : serial < cache.next) {calls : List Call} (hcalls : Call.clear ∈ calls) :
    Retired (cache.run calls) serial := by
  induction calls generalizing cache with
  | nil => contradiction
  | cons call calls ih =>
      by_cases hcall : call = .clear
      · subst hcall
        have hcleared : Retired (cache.after .clear) serial := ⟨h, nofun⟩
        exact hcleared.run calls
      · have hlater : Call.clear ∈ calls :=
          (List.mem_cons.mp hcalls).resolve_left fun hfirst => hcall hfirst.symm
        exact ih (Nat.lt_of_lt_of_le h (cache.next_le_after call)) hlater

/-- Two requests are answered with the same number exactly when they ask for the same
source and the cache is not cleared between them, and with the same template then. -/
theorem Sound.eq_iff_of_get {cache : TemplateCache} (h : Sound cache) {source other : String}
    {shared again : SharedTemplate} {later : List Call}
    (hshared : (cache.get source).1 = .ok shared)
    (hagain : (((cache.get source).2.run later).get other).1 = .ok again) :
    (shared.serial = again.serial ↔ source = other ∧ Call.clear ∉ later) ∧
      (shared.serial = again.serial → shared = again) := by
  have hsound := h.after (.get source)
  have hfound := find?_of_get hshared
  have hfoundAgain := find?_of_get hagain
  by_cases hclear : Call.clear ∈ later
  · have hlt := hsound.serial_lt source shared (mem_entries_of_find? hfound)
    have hne := (retired_run_of_clear_mem hlt hclear).ne_of_get hagain
    exact ⟨iff_of_false hne.symm fun hboth => hboth.2 hclear, fun hsame => absurd hsame.symm hne⟩
  · -- The first template is still there when the second request has been answered.
    have hcalls : Call.clear ∉ later ++ [.get other] := by simpa using hclear
    have hkept := find?_run hfound hcalls
    rw [run_concat] at hkept
    have hlast := (hsound.run later).after (.get other)
    have hsource : source = other → shared = again := by
      rintro rfl
      exact Option.some.inj (hkept.symm.trans hfoundAgain)
    refine ⟨⟨fun hsame => ⟨hlast.eq_of_serial_eq hkept hfoundAgain hsame, hclear⟩, ?_⟩, ?_⟩
    · rintro ⟨hsame, -⟩
      rw [hsource hsame]
    · intro hsame
      exact hsource (hlast.eq_of_serial_eq hkept hfoundAgain hsame)

/-! ## Which sources are there -/

/-- A source that has been requested with success, in calls on a new cache, and not
been forgotten since. -/
def Requested (calls : List Call) (source : String) : Prop :=
  ∃ before later shared, calls = before ++ .get source :: later ∧ Call.clear ∉ later ∧
    ((({} : TemplateCache).run before).get source).1 = .ok shared

theorem not_requested_concat_clear (calls : List Call) (source : String) :
    ¬ Requested (calls ++ [.clear]) source := by
  rintro ⟨before, later, shared, hcalls, hclear, -⟩
  rcases List.eq_nil_or_concat' later with rfl | ⟨front, last, rfl⟩
  · have hlast := congrArg List.getLast? hcalls
    simp at hlast
  · have hlast := congrArg List.getLast? hcalls
    rw [← List.cons_append, ← List.append_assoc, List.getLast?_concat,
      List.getLast?_concat] at hlast
    cases hlast
    simp at hclear

/-- One more request adds its source, if it succeeds. -/
theorem requested_concat_get_iff {calls : List Call} {source other : String} :
    Requested (calls ++ [.get other]) source ↔
      Requested calls source ∨
        (source = other ∧
          ∃ shared, ((({} : TemplateCache).run calls).get other).1 = .ok shared) := by
  constructor
  · rintro ⟨before, later, shared, hcalls, hclear, hget⟩
    rcases List.eq_nil_or_concat' later with rfl | ⟨front, last, rfl⟩
    · rcases List.append_inj' hcalls rfl with ⟨rfl, hlast⟩
      cases hlast
      exact Or.inr ⟨rfl, shared, hget⟩
    · rw [← List.cons_append, ← List.append_assoc] at hcalls
      rcases List.append_inj' hcalls rfl with ⟨rfl, hlast⟩
      cases hlast
      refine Or.inl ⟨before, front, shared, rfl, ?_, hget⟩
      intro hmem
      exact hclear (List.mem_append_left _ hmem)
  · rintro (⟨before, later, shared, rfl, hclear, hget⟩ | ⟨rfl, shared, hget⟩)
    · refine ⟨before, later ++ [.get other], shared, by simp, by simpa using hclear, hget⟩
    · exact ⟨calls, [], shared, rfl, by simp, hget⟩

/-- The sources in the cache are those that have been requested with success since it
was cleared. -/
theorem mem_sources_run_iff {calls : List Call} {source : String} :
    source ∈ (({} : TemplateCache).run calls).entries.map Prod.fst ↔ Requested calls source := by
  induction calls using List.reverseRecOn with
  | nil => simp [Requested]
  | append_singleton calls call ih =>
      rw [run_concat]
      cases call with
      | clear =>
          refine iff_of_false ?_ (not_requested_concat_clear calls source)
          exact List.not_mem_nil
      | get other =>
          rw [requested_concat_get_iff, ← ih, after]
          rcases get_cases (({} : TemplateCache).run calls) other with
            ⟨shared, hfound, hget⟩ | ⟨error, -, -, hget⟩ | ⟨template, -, -, hget⟩
          · rw [hget]
            have hmem : other ∈ (({} : TemplateCache).run calls).entries.map Prod.fst :=
              List.mem_map_of_mem (mem_entries_of_find? hfound)
            constructor
            · exact Or.inl
            · rintro (hsource | ⟨rfl, -⟩)
              · exact hsource
              · exact hmem
          · rw [hget]
            simp
          · rw [hget]
            simp [keep, or_comm]

/-- The size of a cache is the number of sources in it. -/
theorem size_eq_ncard {cache : TemplateCache} (h : Sound cache) :
    cache.size = {source | source ∈ cache.entries.map Prod.fst}.ncard := by
  have hset : {source | source ∈ cache.entries.map Prod.fst} =
      ((cache.entries.map Prod.fst).toFinset : Set String) := by
    ext source
    simp
  rw [hset, Set.ncard_coe_finset, List.toFinset_card_of_nodup h.nodup, List.length_map, size]

/-! ## Whole runs -/

/-- A cache is a memory that shows only in what is shared.  After any run of calls on a
new cache every request is answered as parsing answers it, and one that fails leaves
the cache as it is.  Of two successful requests the second is answered with the very
same template as the first exactly when they ask for the same source and no call
between them clears the cache.  The cache counts the sources that have been requested
with success since it was last cleared, and keeps under each of them the template that
it is parsed to. -/
theorem run_transparent (calls : List Call) :
    let cache := ({} : TemplateCache).run calls
    (∀ source, (cache.get source).1.map SharedTemplate.template = Template.parse source) ∧
      (∀ source error, (cache.get source).1 = .error error → (cache.get source).2 = cache) ∧
      (∀ source shared later other again, (cache.get source).1 = .ok shared →
        (((cache.get source).2.run later).get other).1 = .ok again →
        (shared.serial = again.serial ↔ source = other ∧ Call.clear ∉ later) ∧
          (shared.serial = again.serial → shared = again)) ∧
      cache.size = {source | Requested calls source}.ncard ∧
      (cache.entries.map Prod.fst).Nodup ∧
      ∀ source shared, (source, shared) ∈ cache.entries →
        shared.template.source = source ∧ Template.parse source = .ok shared.template := by
  intro cache
  have hsound : Sound cache := sound_new.run calls
  refine ⟨hsound.map_template_get, ?_, ?_, ?_, hsound.nodup, ?_⟩
  · intro source error herror
    rcases cache.get_cases source with ⟨shared, -, hget⟩ | ⟨other, -, -, hget⟩ |
      ⟨template, -, -, hget⟩
    · rw [hget]
    · rw [hget]
    · rw [hget] at herror
      contradiction
  · intro source shared later other again hshared hagain
    exact hsound.eq_iff_of_get hshared hagain
  · rw [size_eq_ncard hsound]
    congr 1
    ext source
    exact mem_sources_run_iff
  · intro source shared hmem
    have hparse := hsound.parsed source shared hmem
    rcases Template.parse_eq_ok_iff.mp hparse with ⟨pieces, -, htemplate⟩
    exact ⟨congrArg Template.source htemplate, hparse⟩

/-- A source is parsed anew once the cache has been cleared, and found before; a source
that is no template is not counted. -/
theorem run_transparent_cleared :
    let cache := ({} : TemplateCache).run [.get "a", .get "\x7b\x7b"]
    let shared : SharedTemplate := ⟨0, ⟨"a", [.literal "a" ⟨0, 1⟩]⟩⟩
    (cache.get "a").1 = .ok shared ∧ cache.size = 1 ∧
      (((cache.get "a").2.run [.get "b"]).get "a").1 = .ok shared ∧
      ∃ again, (((cache.get "a").2.run [.get "b", .clear]).get "a").1 = .ok again ∧
        again.serial ≠ shared.serial ∧ again.template = shared.template := by
  intro cache shared
  have hshared : (cache.get "a").1 = .ok shared := by decide +kernel
  have hlater : (((cache.get "a").2.run [.get "b"]).get "a").1 = .ok shared := by decide +kernel
  have hagain : (((cache.get "a").2.run [.get "b", .clear]).get "a").1 =
      .ok ⟨2, shared.template⟩ := by decide +kernel
  have hserial := (run_transparent [.get "a", .get "\x7b\x7b"]).2.2.1 "a" shared
    [.get "b", .clear] "a" _ hshared hagain
  refine ⟨hshared, by decide +kernel, hlater, _, hagain, ?_, rfl⟩
  intro hsame
  exact (hserial.1.mp hsame.symm).2 (by decide)

end TextTemplate.TemplateCache
