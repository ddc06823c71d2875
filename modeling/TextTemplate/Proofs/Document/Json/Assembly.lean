import Mathlib.Data.List.Basic
import Mathlib.Data.Nat.Init
import TextTemplate.Document.Json.Basic

/-!
# Putting a JSON object together

Tokens are taken in one after the other, and the lists and tables that are open wait on a stack.
What is done above some of them does not depend on what they hold.  A table therefore gets each
of its entries in the same way, whichever it has already, and the commas that belong to the table
itself stand between the tokens of one entry and those of the next.

Main results:

- Definition `Json.Assembly.Steps` and theorem `Json.Assembly.steps_iff`: what one token does.
- Theorem `Json.Assembly.Steps.above`: a step above open lists and tables does not depend on them.
- Theorem `Json.Assembly.Place.cases_of_run`: a run inside of a table, up to its first comma.
- Theorem `Json.Assembly.exists_entries_of_run`: the tokens of a table in its braces.
- Definition `Json.Assembly.IsEntries` and theorems `Json.Assembly.IsEntries.append` and
  `Json.Assembly.IsEntries.exists_append`: entries are put together behind others, and fall apart
  again at a comma.
-/

namespace TextTemplate.Json.Assembly

/-! ## Steps -/

/-- A value may begin. -/
inductive Begins : Phase → Prop
  | value : Begins .value
  | item : Begins .item

/-- What one token does to a document that is being put together. -/
inductive Steps : Assembly → Token → Assembly → Prop
  | scalar {frames : List Frame} {phase : Phase} (hphase : Begins phase) (value : Value) :
      Steps ⟨frames, phase⟩ (.scalar value) ⟨frames, .behind value⟩
  | openList {frames : List Frame} {phase : Phase} (hphase : Begins phase)
      (hdepth : frames.length < depthLimit) :
      Steps ⟨frames, phase⟩ .openList ⟨.list [] :: frames, .item⟩
  | openTable {frames : List Frame} {phase : Phase} (hphase : Begins phase)
      (hdepth : frames.length < depthLimit) : Steps ⟨frames, phase⟩ .openTable ⟨frames, .key []⟩
  | closeEmptyList (items : List Value) (frames : List Frame) :
      Steps ⟨.list items :: frames, .item⟩ .closeList ⟨frames, .behind (.list [])⟩
  | key (frames : List Frame) (entries : List (String × Value)) (key : String) :
      Steps ⟨frames, .key entries⟩ (.scalar (.text key)) ⟨frames, .colon entries key⟩
  | closeEmptyTable (frames : List Frame) :
      Steps ⟨frames, .key []⟩ .closeTable ⟨frames, .behind (.table [])⟩
  | colon (frames : List Frame) (entries : List (String × Value)) (key : String) :
      Steps ⟨frames, .colon entries key⟩ .colon ⟨.table entries key :: frames, .value⟩
  | nextItem (items : List Value) (frames : List Frame) (value : Value) :
      Steps ⟨.list items :: frames, .behind value⟩ .comma ⟨.list (value :: items) :: frames, .value⟩
  | closeList (items : List Value) (frames : List Frame) (value : Value) :
      Steps ⟨.list items :: frames, .behind value⟩ .closeList
        ⟨frames, .behind (.list (value :: items).reverse)⟩
  | nextEntry (entries : List (String × Value)) (key : String) (frames : List Frame)
      (value : Value) :
      Steps ⟨.table entries key :: frames, .behind value⟩ .comma
        ⟨frames, .key ((key, value) :: entries)⟩
  | closeTable (entries : List (String × Value)) (key : String) (frames : List Frame)
      (value : Value) :
      Steps ⟨.table entries key :: frames, .behind value⟩ .closeTable
        ⟨frames, .behind (.table ((key, value) :: entries).reverse)⟩

/-- A value begins with a scalar or with the opening of a list or a table. -/
theorem steps_of_beginValue {frames : List Frame} {phase : Phase} {token : Token}
    {after : Assembly} (hphase : Begins phase)
    (h : beginValue frames token = some after) : Steps ⟨frames, phase⟩ token after := by
  unfold beginValue at h
  split at h
  next value =>
    cases h
    exact .scalar hphase value
  next =>
    obtain ⟨hdepth, h⟩ := Option.ite_none_right_eq_some.mp h
    cases h
    exact .openList hphase hdepth
  next =>
    obtain ⟨hdepth, h⟩ := Option.ite_none_right_eq_some.mp h
    cases h
    exact .openTable hphase hdepth
  next => contradiction

/-- These are the steps that are made. -/
theorem steps_iff {assembly after : Assembly} {token : Token} :
    Steps assembly token after ↔ assembly.step token = some after := by
  constructor
  · intro h
    cases h with
    | scalar hphase value => cases hphase <;> rfl
    | openList hphase hdepth => cases hphase <;> exact if_pos hdepth
    | openTable hphase hdepth => cases hphase <;> exact if_pos hdepth
    | _ => rfl
  · intro h
    rcases assembly with ⟨frames, phase⟩
    unfold step at h
    split at h
    case h_1 hphase =>
      cases hphase
      exact steps_of_beginValue .value h
    case h_2 hphase hframes =>
      cases hphase
      cases hframes
      cases h
      exact .closeEmptyList _ _
    case h_3 hphase _ =>
      cases hphase
      exact steps_of_beginValue .item h
    case h_4 hphase =>
      cases hphase
      cases h
      exact .key _ _ _
    case h_5 hphase =>
      cases hphase
      cases h
      exact .closeEmptyTable _
    case h_6 hphase =>
      cases hphase
      cases h
      exact .colon _ _ _
    case h_7 hphase hframes =>
      cases hphase
      cases hframes
      cases h
      exact .nextItem _ _ _
    case h_8 hphase hframes =>
      cases hphase
      cases hframes
      cases h
      exact .closeList _ _ _
    case h_9 hphase hframes =>
      cases hphase
      cases hframes
      cases h
      exact .nextEntry _ _ _ _
    case h_10 hphase hframes =>
      cases hphase
      cases hframes
      cases h
      exact .closeTable _ _ _ _
    case h_11 => contradiction

/-! ## Runs -/

/-- A run makes one step for its first token, and goes on from there. -/
theorem run_cons_iff {token : Token} {tokens : List Token} {assembly last : Assembly} :
    (token :: tokens).foldlM step assembly = some last ↔
      ∃ next, Steps assembly token next ∧ tokens.foldlM step next = some last := by
  rw [List.foldlM_cons, Option.bind_eq_bind, Option.bind_eq_some_iff]
  simp only [steps_iff]

/-- A run takes in the first tokens, and goes on with the others. -/
theorem run_append_iff {first second : List Token} {assembly last : Assembly} :
    (first ++ second).foldlM step assembly = some last ↔
      ∃ middle, first.foldlM step assembly = some middle ∧
        second.foldlM step middle = some last := by
  rw [List.foldlM_append, Option.bind_eq_bind, Option.bind_eq_some_iff]

/-- Nothing may follow a whole document. -/
theorem eq_nil_of_run_behind {value : Value} {tokens : List Token} {last : Assembly}
    (h : tokens.foldlM step ⟨[], .behind value⟩ = some last) :
    tokens = [] ∧ last = ⟨[], .behind value⟩ := by
  cases tokens with
  | nil => exact ⟨rfl, (Option.some.inj h).symm⟩
  | cons token tokens =>
      obtain ⟨next, hstep, -⟩ := run_cons_iff.mp h
      cases hstep with
      | scalar hphase | openList hphase | openTable hphase => cases hphase

/-! ## What waits below -/

/-- A token that belongs to a list or a table that is open: it ends an item or an entry of it. -/
inductive Continues : Phase → Token → Prop
  | closeEmptyList : Continues .item .closeList
  | comma (value : Value) : Continues (.behind value) .comma
  | closeList (value : Value) : Continues (.behind value) .closeList
  | closeTable (value : Value) : Continues (.behind value) .closeTable

/-- A step above open lists and tables leaves them as they are, and it would be the same above
others, unless its token belongs to the first one of them. -/
theorem Steps.above {inner bottom : List Frame} {phase : Phase} {token : Token}
    {after : Assembly} (h : Steps ⟨inner ++ bottom, phase⟩ token after) :
    (inner = [] ∧ Continues phase token) ∨
      ∃ inner' phase', after = ⟨inner' ++ bottom, phase'⟩ ∧
        ∀ others : List Frame, others.length = bottom.length →
          Steps ⟨inner ++ others, phase⟩ token ⟨inner' ++ others, phase'⟩ := by
  generalize hframes : inner ++ bottom = frames at h
  cases h with
  | scalar hphase value =>
      subst hframes
      exact .inr ⟨inner, _, rfl, fun others _ => .scalar hphase value⟩
  | openList hphase hdepth =>
      subst hframes
      refine .inr ⟨.list [] :: inner, _, rfl, fun others hlength => .openList hphase ?_⟩
      rwa [List.length_append, hlength, ← List.length_append]
  | openTable hphase hdepth =>
      subst hframes
      refine .inr ⟨inner, _, rfl, fun others hlength => .openTable hphase ?_⟩
      rwa [List.length_append, hlength, ← List.length_append]
  | key frames entries key =>
      subst hframes
      exact .inr ⟨inner, _, rfl, fun others _ => .key _ entries key⟩
  | closeEmptyTable =>
      subst hframes
      exact .inr ⟨inner, _, rfl, fun others _ => .closeEmptyTable _⟩
  | colon frames entries key =>
      subst hframes
      exact .inr ⟨.table entries key :: inner, _, rfl, fun others _ => .colon _ entries key⟩
  | closeEmptyList items frames =>
      cases inner with
      | nil => exact .inl ⟨rfl, .closeEmptyList⟩
      | cons frame inner =>
          cases hframes
          exact .inr ⟨inner, _, rfl, fun others _ => .closeEmptyList items _⟩
  | nextItem items frames value =>
      cases inner with
      | nil => exact .inl ⟨rfl, .comma value⟩
      | cons frame inner =>
          cases hframes
          exact .inr ⟨.list (value :: items) :: inner, _, rfl,
            fun others _ => .nextItem items _ value⟩
  | closeList items frames value =>
      cases inner with
      | nil => exact .inl ⟨rfl, .closeList value⟩
      | cons frame inner =>
          cases hframes
          exact .inr ⟨inner, _, rfl, fun others _ => .closeList items _ value⟩
  | nextEntry entries key frames value =>
      cases inner with
      | nil => exact .inl ⟨rfl, .comma value⟩
      | cons frame inner =>
          cases hframes
          exact .inr ⟨inner, _, rfl, fun others _ => .nextEntry entries key _ value⟩
  | closeTable entries key frames value =>
      cases inner with
      | nil => exact .inl ⟨rfl, .closeTable value⟩
      | cons frame inner =>
          cases hframes
          exact .inr ⟨inner, _, rfl, fun others _ => .closeTable entries key _ value⟩

/-- A document that begins with a list is a list. -/
theorem exists_list_of_run {tokens : List Token} {inner : List Frame} {items : List Value}
    {phase : Phase} {value : Value}
    (h : tokens.foldlM step ⟨inner ++ [.list items], phase⟩ = some ⟨[], .behind value⟩) :
    ∃ items, value = .list items := by
  induction tokens generalizing inner items phase with
  | nil => simp at h
  | cons token tokens ih =>
      obtain ⟨next, hstep, hrun⟩ := run_cons_iff.mp h
      rcases hstep.above with ⟨rfl, hcontinues⟩ | ⟨inner', phase', rfl, -⟩
      · rw [List.nil_append] at hstep
        cases hcontinues with
        | closeEmptyList =>
            cases hstep
            obtain ⟨-, hlast⟩ := eq_nil_of_run_behind hrun
            cases hlast
            exact ⟨_, rfl⟩
        | comma value =>
            cases hstep
            rw [← List.nil_append [Frame.list _]] at hrun
            exact ih hrun
        | closeList value =>
            cases hstep
            obtain ⟨-, hlast⟩ := eq_nil_of_run_behind hrun
            cases hlast
            exact ⟨_, rfl⟩
        | closeTable value => cases hstep
      · exact ih hrun

/-! ## Places in a table -/

/-- A place in a table that is being put together. -/
inductive Place
  /-- In front of a key. -/
  | key
  /-- Behind a key. -/
  | colon (key : String)
  /-- In the value of a key, with the lists and tables that are open in it. -/
  | inside (inner : List Frame) (key : String) (phase : Phase)

namespace Place

/-- The place in a table that has some entries already. -/
def behind (place : Place) (entries : List (String × Value)) : Assembly :=
  match place with
  | key => ⟨[], .key entries⟩
  | colon name => ⟨[], .colon entries name⟩
  | inside inner name phase => ⟨inner ++ [.table entries name], phase⟩

/-- A document is at one place only, with the entries that it has. -/
theorem behind_inj {place other : Place} {entries others : List (String × Value)}
    (h : place.behind entries = other.behind others) : place = other ∧ entries = others := by
  cases place with
  | key =>
      cases other with
      | key =>
          cases h
          exact ⟨rfl, rfl⟩
      | colon => cases h
      | inside => simp [behind] at h
  | colon =>
      cases other with
      | key => cases h
      | colon =>
          cases h
          exact ⟨rfl, rfl⟩
      | inside => simp [behind] at h
  | inside inner name phase =>
      cases other with
      | key | colon => simp [behind] at h
      | inside inner' name' phase' =>
          obtain ⟨hframes, rfl⟩ := Assembly.mk.inj h
          obtain ⟨rfl, hframe⟩ := List.append_inj' hframes rfl
          cases hframe
          exact ⟨rfl, rfl⟩

/-- A step at a place goes on to another one, whatever entries the table has already; or it ends
an entry; or it closes the table. -/
theorem cases_of_steps {place : Place} {entries : List (String × Value)} {token : Token}
    {after : Assembly} (h : Steps (place.behind entries) token after) :
    (∃ next : Place, next ≠ .key ∧ after = next.behind entries ∧
        ∀ others, Steps (place.behind others) token (next.behind others)) ∨
      (∃ name value, place = .inside [] name (.behind value) ∧ token = .comma ∧
        after = key.behind ((name, value) :: entries)) ∨
      ∃ value, after = ⟨[], .behind value⟩ := by
  cases place with
  | key =>
      unfold behind at h
      cases h with
      | scalar hphase | openList hphase | openTable hphase => cases hphase
      | key frames entries name =>
          exact .inl ⟨.colon name, by simp, rfl, fun others => .key [] others name⟩
      | closeEmptyTable => exact .inr (.inr ⟨_, rfl⟩)
  | colon name =>
      unfold behind at h
      cases h with
      | scalar hphase | openList hphase | openTable hphase => cases hphase
      | colon =>
          exact .inl ⟨.inside [] name .value, by simp, rfl,
            fun others => .colon [] others name⟩
  | inside inner name phase =>
      rcases h.above with ⟨rfl, hcontinues⟩ | ⟨inner', phase', hafter, hsteps⟩
      · rw [behind, List.nil_append] at h
        cases hcontinues with
        | closeEmptyList | closeList => cases h
        | comma value =>
            cases h
            exact .inr (.inl ⟨name, value, rfl, rfl, rfl⟩)
        | closeTable value =>
            cases h
            exact .inr (.inr ⟨_, rfl⟩)
      · exact .inl ⟨.inside inner' name phase', by simp, hafter,
          fun others => hsteps [.table others name] rfl⟩

/-- A run from one place of a table to another stays in one entry, and then it does not depend on
the entries in front; or it comes to a comma that ends the first entry. -/
theorem cases_of_run {tokens : List Token} {place last : Place}
    {own all : List (String × Value)}
    (h : tokens.foldlM step (place.behind own) = some (last.behind all)) :
    (all = own ∧ (tokens = [] ∨ last ≠ .key) ∧
        ∀ others, tokens.foldlM step (place.behind others) = some (last.behind others)) ∨
      ∃ first name value second, tokens = first ++ .comma :: second ∧
        (∀ others, first.foldlM step (place.behind others) =
          some ((inside [] name (.behind value)).behind others)) ∧
        second.foldlM step (key.behind ((name, value) :: own)) =
          some (last.behind all) := by
  induction tokens generalizing place with
  | nil =>
      obtain ⟨rfl, rfl⟩ := behind_inj (Option.some.inj h)
      exact .inl ⟨rfl, .inl rfl, fun others => rfl⟩
  | cons token tokens ih =>
      obtain ⟨next, hstep, hrun⟩ := run_cons_iff.mp h
      rcases cases_of_steps hstep with
        ⟨next, hkey, rfl, hsteps⟩ | ⟨name, value, rfl, rfl, rfl⟩ | ⟨value, rfl⟩
      · rcases ih hrun with ⟨rfl, hlast, hruns⟩ | ⟨first, name, value, second, rfl, hfirst, hsecond⟩
        · have hall := fun others => run_cons_iff.mpr ⟨_, hsteps others, hruns others⟩
          refine .inl ⟨rfl, .inr ?_, hall⟩
          rcases hlast with rfl | hlast
          · obtain ⟨rfl, -⟩ := behind_inj (Option.some.inj hrun)
            exact hkey
          · exact hlast
        · exact .inr ⟨token :: first, name, value, second, rfl,
            fun others => run_cons_iff.mpr ⟨_, hsteps others, hfirst others⟩, hsecond⟩
      · exact .inr ⟨[], name, value, tokens, rfl, fun others => rfl, hrun⟩
      · obtain ⟨-, hlast⟩ := eq_nil_of_run_behind hrun
        cases last with
        | key | colon => cases hlast
        | inside => simp [behind] at hlast

/-- A run inside of a table keeps the entries that are there, and does not depend on them. -/
theorem run_behind {tokens : List Token} {place last : Place} {own all : List (String × Value)}
    (h : tokens.foldlM step (place.behind own) = some (last.behind all)) :
    ∃ added, all = added ++ own ∧ ∀ others,
      tokens.foldlM step (place.behind others) = some (last.behind (added ++ others)) := by
  -- The tokens behind a comma are fewer.
  induction hlength : tokens.length using Nat.strong_induction_on
    generalizing tokens place own with
  | _ length ih =>
    rcases cases_of_run h with ⟨rfl, -, hruns⟩ | ⟨first, name, value, second, rfl, hfirst, hsecond⟩
    · exact ⟨[], rfl, hruns⟩
    · have hshorter : second.length < length := by
        rw [← hlength, List.length_append, List.length_cons]
        omega
      obtain ⟨added, rfl, hruns⟩ := ih _ hshorter hsecond rfl
      refine ⟨added ++ [(name, value)], by simp, fun others => ?_⟩
      rw [List.append_assoc]
      refine run_append_iff.mpr ⟨_, hfirst others, run_cons_iff.mpr ⟨_, ?_, hruns _⟩⟩
      exact .nextEntry others name [] value

/-- A run that comes back to the front of a key without a further entry takes in nothing. -/
theorem eq_nil_of_run_key {tokens : List Token} {own : List (String × Value)}
    (h : tokens.foldlM step (key.behind own) = some (key.behind own)) : tokens = [] := by
  rcases cases_of_run h with ⟨-, htokens, -⟩ | ⟨first, name, value, second, -, -, hsecond⟩
  · exact htokens.resolve_right fun hkey => hkey rfl
  · obtain ⟨added, hown, -⟩ := run_behind hsecond
    have hlength := congrArg List.length hown
    rw [List.length_append, List.length_cons] at hlength
    omega

end Place

/-! ## Entries -/

/-- The tokens of one or more entries lead from the opening of a table to behind the last one. -/
def IsEntries (tokens : List Token) (entries : List (String × Value)) : Prop :=
  ∃ before key value, entries = ((key, value) :: before).reverse ∧
    tokens.foldlM step (Place.key.behind []) =
      some ((Place.inside [] key (.behind value)).behind before)

/-- There is at least one entry. -/
theorem IsEntries.ne_nil {tokens : List Token} {entries : List (String × Value)}
    (h : IsEntries tokens entries) : entries ≠ [] := by
  obtain ⟨before, key, value, rfl, -⟩ := h
  simp

/-- Entries behind others are entries too: neither of them has a part in how the others are put
together. -/
theorem IsEntries.append {first second : List Token} {entries others : List (String × Value)}
    (hfirst : IsEntries first entries) (hsecond : IsEntries second others) :
    IsEntries (first ++ .comma :: second) (entries ++ others) := by
  obtain ⟨before, key, value, rfl, hfirst⟩ := hfirst
  obtain ⟨before', key', value', rfl, hsecond⟩ := hsecond
  obtain ⟨added, hadded, hruns⟩ := Place.run_behind hsecond
  rw [List.append_nil] at hadded
  subst hadded
  refine ⟨before' ++ (key, value) :: before, key', value', by simp, ?_⟩
  refine run_append_iff.mpr ⟨_, hfirst, run_cons_iff.mpr ⟨_, ?_, hruns _⟩⟩
  exact .nextEntry before key [] value

/-- The first of several entries ends at a comma, and the others are behind it. -/
theorem IsEntries.exists_append {tokens : List Token} {entry second : String × Value}
    {rest : List (String × Value)} (h : IsEntries tokens (entry :: second :: rest)) :
    ∃ first others, tokens = first ++ .comma :: others ∧ IsEntries first [entry] ∧
      IsEntries others (second :: rest) := by
  obtain ⟨before, key, value, hentries, hrun⟩ := h
  rcases Place.cases_of_run hrun with
    ⟨rfl, -, -⟩ | ⟨first, name, value', others, rfl, hfirst, hothers⟩
  · simp at hentries
  · obtain ⟨added, rfl, hruns⟩ := Place.run_behind hothers
    rw [List.reverse_cons, List.reverse_append, List.reverse_singleton, List.singleton_append,
      List.cons_append, ← List.reverse_cons] at hentries
    obtain ⟨rfl, hrest⟩ := List.cons.inj hentries
    have hothers := hruns []
    rw [List.append_nil] at hothers
    exact ⟨first, others, rfl, ⟨[], name, value', rfl, hfirst []⟩,
      ⟨added, key, value, hrest, hothers⟩⟩

/-! ## Tables -/

/-- A document is a table where its tokens are entries in braces, or nothing in braces. -/
theorem run_braced {tokens : List Token} {entries : List (String × Value)}
    (h : IsEntries tokens entries ∨ tokens = [] ∧ entries = []) :
    (.openTable :: (tokens ++ [.closeTable])).foldlM step {} =
      some ⟨[], .behind (.table entries)⟩ := by
  refine run_cons_iff.mpr ⟨⟨[], .key []⟩, .openTable .value (by decide), ?_⟩
  rcases h with ⟨before, key, value, rfl, hrun⟩ | ⟨rfl, rfl⟩
  · exact run_append_iff.mpr ⟨_, hrun, run_cons_iff.mpr ⟨_, .closeTable before key [] value, rfl⟩⟩
  · exact run_cons_iff.mpr ⟨_, .closeEmptyTable [], rfl⟩

/-- In no other way, as long as no token is a table by itself. -/
theorem exists_entries_of_run {tokens : List Token} {entries : List (String × Value)}
    (hscalars : ∀ value, .scalar value ∈ tokens → value.table? = none)
    (hrun : tokens.foldlM step {} = some ⟨[], .behind (.table entries)⟩) :
    ∃ inner, tokens = .openTable :: (inner ++ [.closeTable]) ∧
      (IsEntries inner entries ∨ inner = [] ∧ entries = []) := by
  cases tokens with
  | nil => cases hrun
  | cons token tokens =>
      obtain ⟨next, hstep, hrun⟩ := run_cons_iff.mp hrun
      cases hstep with
      | scalar hphase value =>
          obtain ⟨-, hlast⟩ := eq_nil_of_run_behind hrun
          cases hlast
          exact absurd (hscalars _ List.mem_cons_self) (Option.some_ne_none _)
      | openList =>
          rw [← List.nil_append [Frame.list []]] at hrun
          obtain ⟨items, hitems⟩ := exists_list_of_run hrun
          cases hitems
      | openTable =>
          rcases List.eq_nil_or_concat' tokens with rfl | ⟨inner, last, rfl⟩
          · cases hrun
          · obtain ⟨middle, hinner, hlast⟩ := run_append_iff.mp hrun
            obtain ⟨after, hstep, hafter⟩ := run_cons_iff.mp hlast
            cases hafter
            cases hstep with
            | scalar => exact absurd (hscalars (.table entries) (by simp)) (Option.some_ne_none _)
            | closeEmptyTable =>
                exact ⟨inner, rfl, .inr ⟨Place.eq_nil_of_run_key hinner, rfl⟩⟩
            | closeTable before key frames value =>
                exact ⟨inner, rfl, .inl ⟨before, key, value, rfl, hinner⟩⟩

end TextTemplate.Json.Assembly
