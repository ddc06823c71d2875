import Mathlib.Data.List.Basic
import TextTemplate.Parameter.Definition
import TextTemplate.Proofs.Document.Json.Object

/-!
# The layout of a definition

A definition is a table, and its type says which keys are looked up in it.  Where they stand and
what else the table holds has no part in what is defined.  In a JSON document this holds as far
as the members can be read at all: one that cannot be read on its own spoils the object.

Main results:

- Definition `Definition.IsUnknown`: the keys that the type of a table does not know.
- Theorem `Definition.ofValue?_of_perm`: a table defines what its other keys define.
- Theorem `Definition.layout_irrelevant`: objects with the same known members define the same.
-/

namespace TextTemplate.Definition

/-! ## Single keys -/

/-- The order of a table is of no importance to a key, whether it occurs in it or not. -/
theorem single?_perm {key : String} {entries others : List (String × Value)}
    (h : entries.Perm others) : single? key entries = single? key others := by
  have hfilter := h.filter (·.1 == key)
  unfold single?
  generalize entries.filter (·.1 == key) = found at *
  generalize others.filter (·.1 == key) = found' at *
  rcases found with _ | ⟨entry, _ | ⟨second, rest⟩⟩
  · rw [← hfilter.nil_eq]
  · rw [List.perm_singleton.mp hfilter.symm]
  · match found', hfilter.length_eq with
    | _ :: _ :: _, _ => rfl

/-- Entries with other keys are of no importance to a key. -/
theorem single?_append {key : String} {kept dropped : List (String × Value)}
    (h : ∀ entry ∈ dropped, entry.1 ≠ key) :
    single? key (kept ++ dropped) = single? key kept := by
  have hnone : dropped.filter (·.1 == key) = [] := by
    rw [List.filter_eq_nil_iff]
    intro entry hentry
    simpa using h entry hentry
  unfold single?
  rw [List.filter_append, hnone, List.append_nil]

/-- The value of a key is that of an entry. -/
theorem mem_of_required? {key : String} {entries : List (String × Value)} {value : Value}
    (h : required? key entries = some value) : (key, value) ∈ entries := by
  unfold required? single? at h
  split at h
  next => contradiction
  next entry hfound =>
    cases h
    have hentry : entry ∈ entries.filter (·.1 == key) := by
      rw [hfound]
      exact List.mem_cons_self
    obtain ⟨hmem, hkey⟩ := List.mem_filter.mp hentry
    rwa [← beq_iff_eq.mp hkey]
  next => contradiction

/-! ## Known keys -/

/-- A key that has no part in what a table defines: it is not that of the type, and the type does
not know it. -/
def IsUnknown (entries : List (String × Value)) (key : String) : Prop :=
  key ≠ "type" ∧ ∀ name kind, ("type", Value.text name) ∈ entries →
    Kind.ofName? name = some kind → key ∉ kind.keys

/-- The type that a value names is the one of a text. -/
theorem exists_name_of_kind? {value : Value} {kind : Kind} (h : kind? value = some kind) :
    ∃ name, value = .text name ∧ Kind.ofName? name = some kind := by
  unfold kind? at h
  obtain ⟨name, hname, hkind⟩ := Option.bind_eq_some_iff.mp h
  cases value with
  | text content =>
      cases hname
      exact ⟨_, rfl, hkind⟩
  | _ => contradiction

/-- What a type reads from a table depends on the keys that it knows. -/
theorem ofEntries?_congr {kind : Kind} {entries others : List (String × Value)}
    (h : ∀ key ∈ kind.keys, single? key entries = single? key others) :
    ofEntries? kind entries = ofEntries? kind others := by
  cases kind <;> simp_all [Kind.keys, ofEntries?, required?, flag?]

/-- A table defines what it would define without its unknown keys, in any order. -/
theorem ofValue?_of_perm {entries kept dropped : List (String × Value)}
    (hperm : entries.Perm (kept ++ dropped))
    (hunknown : ∀ entry ∈ dropped, IsUnknown kept entry.1) :
    ofValue? (.table entries) = ofValue? (.table kept) := by
  have hsingle : ∀ key, (∀ entry ∈ dropped, entry.1 ≠ key) →
      single? key entries = single? key kept := by
    intro key hkey
    rw [single?_perm hperm, single?_append hkey]
  have htype : required? "type" entries = required? "type" kept := by
    rw [required?, required?, hsingle "type" fun entry hentry => (hunknown entry hentry).1]
  have hentries : ∀ value, required? "type" kept = some value → ∀ kind, kind? value = some kind →
      ofEntries? kind entries = ofEntries? kind kept := by
    intro value hvalue kind hkind
    obtain ⟨name, rfl, hname⟩ := exists_name_of_kind? hkind
    refine ofEntries?_congr fun key hkey => hsingle key ?_
    rintro entry hentry rfl
    exact (hunknown entry hentry).2 name kind (mem_of_required? hvalue) hname hkey
  unfold ofValue?
  simp only [htype, Option.bind_eq_bind]
  exact Option.bind_congr fun value hvalue => Option.bind_congr (hentries value hvalue)

/-! ## Objects -/

/-- Reads a definition from a JSON document. -/
def ofJson? (document : String) : Option Definition := (Json.read? document).bind ofValue?

/-- The layout of an object is of no importance.  A document that is read as a table falls into
members which can be read on their own, and an object that is made of such members, in any order,
can be read itself.  It defines the same as another one with the same known members, and so do
their tables inside of other documents: both or neither define a parameter, and this parameter is
rendered in the same way. -/
theorem layout_irrelevant {document : String} {entries kept dropped added : List (String × Value)}
    {members : List Json.Member} (hdocument : Json.read? document = some (.table entries))
    (hentries : entries.Perm (kept ++ dropped))
    (hmembers : (members.map Json.Member.entry).Perm (kept ++ added))
    (hunknown : ∀ entry ∈ dropped ++ added, IsUnknown kept entry.1) :
    (∃ own, Json.IsObject document own ∧ own.map Json.Member.entry = entries) ∧
      Json.read? (Json.objectText members) = some (.table (members.map Json.Member.entry)) ∧
      ofJson? (Json.objectText members) = ofJson? document ∧
      ofValue? (.table (members.map Json.Member.entry)) = ofValue? (.table entries) ∧
      ∀ (name : String) (locale : Locale),
        (ofJson? (Json.objectText members)).map (fun definition =>
            (definition.named name : Parameter Empty).render locale) =
          (ofJson? document).map fun definition =>
            (definition.named name : Parameter Empty).render locale := by
  have hvalue : ofValue? (.table (members.map Json.Member.entry)) = ofValue? (.table entries) := by
    rw [ofValue?_of_perm hmembers fun entry hentry =>
        hunknown entry (List.mem_append_right _ hentry),
      ofValue?_of_perm hentries fun entry hentry => hunknown entry (List.mem_append_left _ hentry)]
  have hown := Json.read?_eq_table_iff.mp hdocument
  have hread := Json.read?_objectText members
  have hsame : ofJson? (Json.objectText members) = ofJson? document := by
    rw [ofJson?, ofJson?, hread, hdocument, Option.bind_some, Option.bind_some, hvalue]
  exact ⟨hown, hread, hsame, hvalue, fun name locale => by rw [hsame]⟩

/-- The type may stand last, and what it does not know in front. -/
theorem layout_irrelevant_type_last :
    ofJson? "\x7b\"note\":[1],\"value\":\"a\",\"type\":\"string\"\x7d" =
        ofJson? "\x7b\"type\":\"string\", \"value\":\"a\", \"size\":4\x7d" ∧
      ofJson? "\x7b\"type\":\"string\", \"value\":\"a\", \"size\":4\x7d" =
        some (.text "a" false) := by
  have hdocument : Json.read? "\x7b\"type\":\"string\", \"value\":\"a\", \"size\":4\x7d" =
      some (.table [("type", .text "string"), ("value", .text "a"), ("size", .integer 4)]) :=
    Json.read?_eq_some_iff.mpr
      ⟨[.openTable, .scalar (.text "type"), .colon, .scalar (.text "string"), .comma,
        .scalar (.text "value"), .colon, .scalar (.text "a"), .comma,
        .scalar (.text "size"), .colon, .scalar (.integer 4), .closeTable], by cbv, rfl⟩
  have hnote : Json.read? "\x7b\"note\":[1]\x7d" = some (.table [("note", .list [.integer 1])]) :=
    Json.read?_eq_some_iff.mpr
      ⟨[.openTable, .scalar (.text "note"), .colon, .openList, .scalar (.integer 1), .closeList,
        .closeTable], by cbv, rfl⟩
  have hvalue : Json.read? "\x7b\"value\":\"a\"\x7d" = some (.table [("value", .text "a")]) :=
    Json.read?_eq_some_iff.mpr
      ⟨[.openTable, .scalar (.text "value"), .colon, .scalar (.text "a"), .closeTable], by cbv, rfl⟩
  have htype : Json.read? "\x7b\"type\":\"string\"\x7d" =
      some (.table [("type", .text "string")]) :=
    Json.read?_eq_some_iff.mpr
      ⟨[.openTable, .scalar (.text "type"), .colon, .scalar (.text "string"), .closeTable],
        by cbv, rfl⟩
  have hentries : [("type", .text "string"), ("value", .text "a"), ("size", .integer 4)].Perm
      ([("type", Value.text "string"), ("value", .text "a")] ++ [("size", .integer 4)]) :=
    List.Perm.refl _
  have hmembers : (List.map Json.Member.entry
      [⟨"\"note\":[1]", "note", .list [.integer 1], hnote⟩,
        ⟨"\"value\":\"a\"", "value", .text "a", hvalue⟩,
        ⟨"\"type\":\"string\"", "type", .text "string", htype⟩]).Perm
      ([("type", Value.text "string"), ("value", .text "a")] ++
        [("note", .list [.integer 1])]) :=
    List.reverse_perm [("type", Value.text "string"), ("value", .text "a"),
      ("note", .list [.integer 1])]
  have hdefinition : ofJson? "\x7b\"type\":\"string\", \"value\":\"a\", \"size\":4\x7d" =
      some (.text "a" false) := by
    rw [ofJson?, hdocument]
    rfl
  refine ⟨(layout_irrelevant hdocument hentries hmembers ?_).2.2.1, hdefinition⟩
  intro entry hentry
  have hkey : entry.1 ∉ ["type", "value", "uppercase"] := by
    rcases List.mem_pair.mp hentry with rfl | rfl <;> decide
  refine ⟨fun htype => hkey (by simp [htype]), fun name kind hname hkind => ?_⟩
  obtain rfl : name = "string" := by simpa using hname
  obtain rfl := Option.some.inj hkind
  exact fun hmem => hkey (List.mem_cons_of_mem _ hmem)

/-- A member that cannot be read spoils the object, although the type does not know its key: this
number is too large. -/
theorem layout_unreadable_member :
    ofJson? "\x7b\"type\":\"string\",\"value\":\"a\"\x7d" = some (.text "a" false) ∧
      (∀ kind, Kind.ofName? "string" = some kind → "x" ∉ "type" :: kind.keys) ∧
      ofJson? "\x7b\"type\":\"string\",\"value\":\"a\",\"x\":1e400\x7d" = none := by
  have hread : Json.read? "\x7b\"type\":\"string\",\"value\":\"a\"\x7d" =
      some (.table [("type", .text "string"), ("value", .text "a")]) :=
    Json.read?_eq_some_iff.mpr
      ⟨[.openTable, .scalar (.text "type"), .colon, .scalar (.text "string"), .comma,
        .scalar (.text "value"), .colon, .scalar (.text "a"), .closeTable], by cbv, rfl⟩
  have hunread : Json.Token.ofText?
      "\x7b\"type\":\"string\",\"value\":\"a\",\"x\":1e400\x7d".toList = none := by
    cbv
  refine ⟨?_, ?_, ?_⟩
  · rw [ofJson?, hread]
    rfl
  · intro kind hkind
    obtain rfl := Option.some.inj hkind
    decide
  · rw [ofJson?, Json.read?, hunread]
    rfl

end TextTemplate.Definition
