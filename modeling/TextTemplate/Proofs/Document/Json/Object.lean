import TextTemplate.Proofs.Document.Json.Assembly
import TextTemplate.Proofs.Document.Json.Token

/-!
# JSON objects

An object is a list of members with commas between them, in braces.  Each member can be read on
its own, and the object is read as the table of their entries, in their order: what comes before
a member or behind it has no part in how it is read.  No other document is read as a table.

Main results:

- Definition `Json.IsMembers` and theorems `Json.IsMembers.append` and
  `Json.IsMembers.exists_append`: members behind others, and where they fall apart.
- Definition `Json.Member` and theorem `Json.read?_objectText`: an object is read as the table of
  its members.
- Theorem `Json.read?_eq_table_iff`: the documents that are read as tables are objects of members
  that can be read on their own.
-/

namespace TextTemplate.Json

open Assembly (IsEntries)
open Token (Cuts IsSpaces ofText?)

/-! ## Members -/

/-- A text is one or more members with commas between them, and these are their entries. -/
def IsMembers (text : List Char) (entries : List (String × Value)) : Prop :=
  ∃ tokens, Cuts text tokens ∧ IsEntries tokens entries

/-- Members behind others are members too: neither of them has a part in how the others are
read. -/
theorem IsMembers.append {first second : List Char} {entries others : List (String × Value)}
    (hfirst : IsMembers first entries) (hsecond : IsMembers second others) :
    IsMembers (first ++ ',' :: second) (entries ++ others) := by
  obtain ⟨tokens, hcuts, hentries⟩ := hfirst
  obtain ⟨tokens', hcuts', hothers⟩ := hsecond
  exact ⟨_, hcuts.append hcuts', hentries.append hothers⟩

/-- The first of several members ends at a comma, and the others are behind it. -/
theorem IsMembers.exists_append {text : List Char} {entry second : String × Value}
    {rest : List (String × Value)} (h : IsMembers text (entry :: second :: rest)) :
    ∃ first others, text = first ++ ',' :: others ∧ IsMembers first [entry] ∧
      IsMembers others (second :: rest) := by
  obtain ⟨tokens, hcuts, hentries⟩ := h
  obtain ⟨tokens, tokens', rfl, hentry, hrest⟩ := hentries.exists_append
  obtain ⟨first, others, rfl, hfirst, hothers⟩ := hcuts.exists_append
  exact ⟨first, others, rfl, ⟨_, hfirst, hentry⟩, _, hothers, hrest⟩

/-! ## Tables -/

/-- A document has the value that its tokens build. -/
theorem read?_eq_some_iff {document : String} {value : Value} :
    read? document = some value ↔
      ∃ tokens, ofText? document.toList = some tokens ∧
        tokens.foldlM Assembly.step {} = some ⟨[], .behind value⟩ := by
  unfold read?
  simp only [Option.bind_eq_bind, Option.bind_eq_some_iff]
  constructor
  · rintro ⟨tokens, htokens, assembly, hrun, hresult⟩
    unfold Assembly.result? at hresult
    split at hresult
    next => exact ⟨tokens, htokens, by rw [hrun, Option.some.inj hresult]⟩
    next => contradiction
  · rintro ⟨tokens, htokens, hrun⟩
    exact ⟨tokens, htokens, _, hrun, rfl⟩

/-- Members in braces are read as the table of their entries, and nothing in braces as the empty
table, with spaces around them. -/
theorem read?_braced {document : String} {before inside behind : List Char}
    {entries : List (String × Value)}
    (hbefore : IsSpaces before) (hbehind : IsSpaces behind)
    (hdocument : document.toList = before ++ '{' :: (inside ++ '}' :: behind))
    (h : IsMembers inside entries ∨ IsSpaces inside ∧ entries = []) :
    read? document = some (.table entries) := by
  rw [read?_eq_some_iff, hdocument]
  rcases h with ⟨tokens, hcuts, hentries⟩ | ⟨hspaces, rfl⟩
  · exact ⟨_, hcuts.braced hbefore hbehind, Assembly.run_braced (.inl hentries)⟩
  · exact ⟨_, (Token.cuts_spaces hspaces).braced hbefore hbehind,
      Assembly.run_braced (.inr ⟨rfl, rfl⟩)⟩

/-- A document that is read as a table is made of members in braces, or of nothing in braces. -/
theorem exists_braced_of_read? {document : String} {entries : List (String × Value)}
    (h : read? document = some (.table entries)) :
    ∃ before inside behind, document.toList = before ++ '{' :: (inside ++ '}' :: behind) ∧
      IsSpaces before ∧ IsSpaces behind ∧
      (IsMembers inside entries ∨ IsSpaces inside ∧ entries = []) := by
  obtain ⟨tokens, htokens, hrun⟩ := read?_eq_some_iff.mp h
  obtain ⟨inner, rfl, hinner⟩ := Assembly.exists_entries_of_run
    (fun value hmem => Token.table?_of_mem htokens hmem) hrun
  obtain ⟨before, rest, hdocument, hbefore, hrest⟩ := Token.exists_spaces_of_mark htokens rfl
  rcases hinner with hentries | ⟨rfl, rfl⟩
  · obtain ⟨inside, behind, rfl, hcuts, hbehind⟩ := Token.exists_cuts_of_mark rfl hrest
    exact ⟨before, inside, behind, hdocument, hbefore, Token.isSpaces_of_ofText? hbehind,
      .inl ⟨inner, hcuts, hentries⟩⟩
  · obtain ⟨inside, behind, rfl, hinside, hbehind⟩ := Token.exists_spaces_of_mark hrest rfl
    exact ⟨before, inside, behind, hdocument, hbefore, Token.isSpaces_of_ofText? hbehind,
      .inr ⟨hinside, rfl⟩⟩

theorem toList_braced (text : String) :
    ("\x7b" ++ text ++ "\x7d").toList = '{' :: (text.toList ++ ['}']) := by
  rw [String.toList_append, String.toList_append]
  rfl

/-- What is inside of the braces of an object with entries are members. -/
theorem isMembers_of_read? {text : String} {entries : List (String × Value)}
    (h : read? ("\x7b" ++ text ++ "\x7d") = some (.table entries)) (hnonempty : entries ≠ []) :
    IsMembers text.toList entries := by
  obtain ⟨tokens, htokens, hrun⟩ := read?_eq_some_iff.mp h
  obtain ⟨inner, rfl, hinner⟩ := Assembly.exists_entries_of_run
    (fun value hmem => Token.table?_of_mem htokens hmem) hrun
  rw [toList_braced, Token.ofText?_token (by decide) rfl, Option.map_eq_some_iff] at htokens
  obtain ⟨tokens, htokens, hinside⟩ := htokens
  obtain ⟨inside, rfl, hcuts⟩ := Token.ofText?_inside htokens
  obtain ⟨rfl, -⟩ := List.append_inj' (List.cons.inj hinside).2 rfl
  exact ⟨inside, hcuts, hinner.resolve_right fun hnone => hnonempty hnone.2⟩

/-! ## Objects -/

/-- The text of a member of an object, with its key and its value, as it is read on its own. -/
structure Member where
  text : String
  key : String
  value : Value
  reads : read? ("\x7b" ++ text ++ "\x7d") = some (.table [(key, value)])

/-- The entry of a member. -/
def Member.entry (member : Member) : String × Value := (member.key, member.value)

/-- The object of some members. -/
def objectText (members : List Member) : String :=
  "\x7b" ++ ",".intercalate (members.map Member.text) ++ "\x7d"

theorem toList_intercalate_cons (member second : Member) (members : List Member) :
    (",".intercalate ((member :: second :: members).map Member.text)).toList =
      member.text.toList ++
        ',' :: (",".intercalate ((second :: members).map Member.text)).toList := by
  rw [List.map_cons, List.map_cons, String.intercalate_cons_cons, String.toList_append,
    String.toList_append, List.append_assoc]
  rfl

/-- Members with commas between them are the members of an object. -/
theorem isMembers_intercalate (member : Member) (members : List Member) :
    IsMembers (",".intercalate ((member :: members).map Member.text)).toList
      ((member :: members).map Member.entry) := by
  induction members generalizing member with
  | nil =>
      rw [List.map_singleton, String.intercalate_singleton]
      exact isMembers_of_read? member.reads (List.cons_ne_nil _ _)
  | cons second members ih =>
      have hfirst : IsMembers member.text.toList [member.entry] :=
        isMembers_of_read? member.reads (List.cons_ne_nil _ _)
      rw [toList_intercalate_cons]
      exact hfirst.append (ih second)

/-- Members fall apart at their commas, and each one can be read on its own. -/
theorem IsMembers.exists_members {text : List Char} {entries : List (String × Value)}
    (h : IsMembers text entries) :
    ∃ members : List Member, members.map Member.entry = entries ∧
      text = (",".intercalate (members.map Member.text)).toList := by
  induction entries generalizing text with
  | nil =>
      obtain ⟨tokens, -, hentries⟩ := h
      exact absurd rfl hentries.ne_nil
  | cons entry rest ih =>
      have hmember : ∀ {first : List Char}, IsMembers first [entry] →
          ∃ member : Member, member.entry = entry ∧ member.text.toList = first := by
        intro first hfirst
        rw [← String.toList_ofList (l := first)] at hfirst
        have hread := read?_braced Token.isSpaces_nil Token.isSpaces_nil
          (toList_braced (String.ofList first)) (.inl hfirst)
        exact ⟨⟨String.ofList first, entry.1, entry.2, hread⟩, rfl, String.toList_ofList⟩
      cases rest with
      | nil =>
          obtain ⟨member, hentry, rfl⟩ := hmember h
          exact ⟨[member], by rw [List.map_singleton, hentry], by simp⟩
      | cons second rest =>
          obtain ⟨first, others, rfl, hfirst, hothers⟩ := h.exists_append
          obtain ⟨member, rfl, rfl⟩ := hmember hfirst
          obtain ⟨members, hentries, rfl⟩ := ih hothers
          cases members with
          | nil => cases hentries
          | cons next members =>
              exact ⟨member :: next :: members, by rw [List.map_cons, hentries],
                (toList_intercalate_cons member next members).symm⟩

/-- A document is the object of some members, up to spaces around it. -/
def IsObject (document : String) (members : List Member) : Prop :=
  ∃ before inside behind, document.toList = before ++ '{' :: (inside ++ '}' :: behind) ∧
    IsSpaces before ∧ IsSpaces behind ∧
    (inside = (",".intercalate (members.map Member.text)).toList ∨
      IsSpaces inside ∧ members = [])

/-- The documents that are read as tables are the objects of members that can be read on their
own, and the table holds the entries of these, in their order. -/
theorem read?_eq_table_iff {document : String} {entries : List (String × Value)} :
    read? document = some (.table entries) ↔
      ∃ members, IsObject document members ∧ members.map Member.entry = entries := by
  constructor
  · intro h
    obtain ⟨before, inside, behind, hdocument, hbefore, hbehind, hinside⟩ :=
      exists_braced_of_read? h
    rcases hinside with hmembers | ⟨hspaces, rfl⟩
    · obtain ⟨members, hentries, htext⟩ := hmembers.exists_members
      exact ⟨members, ⟨before, inside, behind, hdocument, hbefore, hbehind, .inl htext⟩, hentries⟩
    · exact ⟨[], ⟨before, inside, behind, hdocument, hbefore, hbehind, .inr ⟨hspaces, rfl⟩⟩, rfl⟩
  · rintro ⟨members, ⟨before, inside, behind, hdocument, hbefore, hbehind, hinside⟩, rfl⟩
    refine read?_braced hbefore hbehind hdocument ?_
    cases members with
    | nil =>
        refine .inr ⟨?_, rfl⟩
        rcases hinside with rfl | ⟨hspaces, -⟩
        · exact Token.isSpaces_nil
        · exact hspaces
    | cons member members =>
        rcases hinside with rfl | ⟨-, hnone⟩
        · exact .inl (isMembers_intercalate member members)
        · cases hnone

/-- An object is read as the table of its members. -/
theorem read?_objectText (members : List Member) :
    read? (objectText members) = some (.table (members.map Member.entry)) :=
  read?_eq_table_iff.mpr
    ⟨members, ⟨[], _, [], toList_braced _, Token.isSpaces_nil, Token.isSpaces_nil, .inl rfl⟩, rfl⟩

end TextTemplate.Json
