import Mathlib.Data.List.Induction
import TextTemplate.CommandLine.Config
import TextTemplate.Proofs.CommandLine.Sequencing
import TextTemplate.Proofs.Parameter.Definition
import TextTemplate.Proofs.Parameter.Layout

/-!
# What a configuration file says

A configuration file is decoded, its text is read as a document of the format that the
path tells, and the data of the document is read as a configuration.  The rules below say
for the data and for the file what comes out, and that nothing else does.

Main results:

- Definition `Config.Tabulates` and theorem `Config.tabulates_iff`: of several
  definitions of a name the last one is kept, and the names are put in order.
- Definition `Config.Says` and theorem `Config.says_iff`: which data is a configuration,
  and which one.
- Theorem `Config.formatOf_eq_json_iff`: which paths are those of JSON documents.
- Definition `Config.Loads` and theorem `Config.loads_iff`: what a file is loaded as, or
  why it is not.
-/

namespace TextTemplate.Config

/-! ## The table of definitions -/

/-- A table of what was read: the definitions that count, in the order of their names. -/
structure Tabulates (read definitions : List (String × Definition)) : Prop where
  /-- The names are in order, and none occurs twice. -/
  ordered : definitions.Pairwise fun first second => first.1 < second.1
  /-- The definition under a name is the last one that was read for it. -/
  effective : ∀ name definition,
    (name, definition) ∈ definitions ↔ Definition.effective? read name = some definition

section Keys

variable {α : Type}

/-- An entry takes the place of those that are kept under its key. -/
theorem lastOfEach_append_singleton (entries : List (String × α)) (entry : String × α) :
    lastOfEach (entries ++ [entry]) =
      (lastOfEach entries).filter (·.1 != entry.1) ++ [entry] := by
  rw [lastOfEach, List.foldl_append]
  rfl

/-- No key is kept twice. -/
theorem nodup_lastOfEach (entries : List (String × α)) :
    ((lastOfEach entries).map Prod.fst).Nodup := by
  induction entries using List.reverseRecOn with
  | nil => exact List.nodup_nil
  | append_singleton entries entry ih =>
      have hkey : entry.1 ∉ ((lastOfEach entries).filter (·.1 != entry.1)).map Prod.fst := by
        simp
      have hrest : (((lastOfEach entries).filter (·.1 != entry.1)).map Prod.fst).Nodup :=
        (List.filter_sublist.map Prod.fst).nodup ih
      rw [lastOfEach_append_singleton, List.map_append, List.perm_append_comm.nodup_iff]
      exact List.nodup_cons.mpr ⟨hkey, hrest⟩

theorem sorted_perm (entries : List (String × α)) : (sorted entries).Perm entries :=
  List.mergeSort_perm entries _

/-- The keys come in their order. -/
theorem pairwise_sorted (entries : List (String × α)) :
    (sorted entries).Pairwise fun first second => first.1 ≤ second.1 := by
  have htrans : ∀ a b c : String × α,
      decide (a.1 ≤ b.1) → decide (b.1 ≤ c.1) → decide (a.1 ≤ c.1) := by
    intro a b c hab hbc
    simp only [decide_eq_true_eq] at hab hbc ⊢
    exact String.le_trans hab hbc
  have htotal : ∀ a b : String × α, decide (a.1 ≤ b.1) || decide (b.1 ≤ a.1) := by
    intro a b
    simp only [Bool.or_eq_true, decide_eq_true_eq]
    exact String.le_total a.1 b.1
  refine (List.pairwise_mergeSort htrans htotal entries).imp ?_
  intro first second h
  exact of_decide_eq_true h

end Keys

/-- What is kept under a name is the definition that counts. -/
theorem mem_lastOfEach_iff {read : List (String × Definition)} {name : String}
    {definition : Definition} :
    (name, definition) ∈ lastOfEach read ↔
      Definition.effective? read name = some definition := by
  induction read using List.reverseRecOn with
  | nil => simp [lastOfEach]
  | append_singleton read entry ih =>
      rcases entry with ⟨other, last⟩
      rw [lastOfEach_append_singleton, Definition.effective?_append, Definition.effective?_cons,
        Definition.effective?_nil, Option.none_or, List.mem_append, List.mem_filter,
        List.mem_singleton, ih]
      by_cases hname : other = name
      · subst hname
        simp [eq_comm]
      · simp [hname, Ne.symm hname]

/-- What is kept and sorted is a table. -/
theorem tabulates_sorted (read : List (String × Definition)) :
    Tabulates read (sorted (lastOfEach read)) where
  ordered := by
    have hnodup : ((sorted (lastOfEach read)).map Prod.fst).Nodup :=
      ((sorted_perm _).map Prod.fst).nodup_iff.mpr (nodup_lastOfEach read)
    have hle := pairwise_sorted (lastOfEach read)
    refine hle.imp₂ (fun first second hle hne => ?_) (List.pairwise_map.mp hnodup)
    rw [← String.not_le]
    intro hge
    exact hne (String.le_antisymm hle hge)
  effective name definition := by
    rw [(sorted_perm _).mem_iff, mem_lastOfEach_iff]

theorem nodup_of_ordered {definitions : List (String × Definition)}
    (h : definitions.Pairwise fun first second => first.1 < second.1) : definitions.Nodup := by
  refine h.imp fun {first second} hlt heq => ?_
  rw [heq] at hlt
  exact String.lt_irrefl _ hlt

/-- There is one table of what was read. -/
theorem Tabulates.unique {read definitions others : List (String × Definition)}
    (h : Tabulates read definitions) (hothers : Tabulates read others) :
    definitions = others := by
  have hperm : definitions.Perm others := by
    rw [List.perm_ext_iff_of_nodup (nodup_of_ordered h.ordered)
      (nodup_of_ordered hothers.ordered)]
    intro entry
    rw [h.effective, hothers.effective]
  refine hperm.eq_of_pairwise (fun first second _ _ hlt hgt => ?_) h.ordered hothers.ordered
  exact absurd hgt (String.lt_asymm hlt)

/-- Definitions are kept and sorted as the rules for tables say. -/
theorem tabulates_iff {read definitions : List (String × Definition)} :
    Tabulates read definitions ↔ sorted (lastOfEach read) = definitions := by
  constructor
  · exact (tabulates_sorted read).unique
  · rintro rfl
    exact tabulates_sorted read

/-! ## Data -/

/-- What the value of the locale says: a tag that names one, or nothing. -/
inductive Locates : Option Value → Option Locale → Prop
  | absent : Locates none none
  | null : Locates (some .null) none
  | tag {tag : String} {locale : Locale} (h : Locale.read? tag = some locale) :
      Locates (some (.text tag)) (some locale)

/-- A value under a name is a definition under this name. -/
def Describes (entry : String × Value) (definition : String × Definition) : Prop :=
  definition.1 = entry.1 ∧ Definition.ofValue? entry.2 = some definition.2

/-- What the value of the parameters says: a table in which every entry is a definition,
or nothing. -/
inductive Defines : Option Value → List (String × Definition) → Prop
  | absent : Defines none []
  | table {entries : List (String × Value)} {read definitions : List (String × Definition)}
      (hread : List.Forall₂ Describes entries read) (htable : Tabulates read definitions) :
      Defines (some (.table entries)) definitions

/-- The entry of a key, if there is a value for it. -/
def entryOf (key : String) (value : Option Value) : List (String × Value) :=
  (value.map (key, ·)).toList

/-- What data says as a configuration: a table of at most a locale and parameters in any
order, or a list of a locale and, behind it, parameters. -/
inductive Says : Value → Config → Prop
  | table {entries : List (String × Value)} {locale params : Option Value} {config : Config}
      (hentries : entries.Perm (entryOf "locale" locale ++ entryOf "params" params))
      (hlocale : Locates locale config.locale) (hparams : Defines params config.definitions) :
      Says (.table entries) config
  | list {locale : Value} {params : Option Value} {config : Config}
      (hlocale : Locates (some locale) config.locale)
      (hparams : Defines params config.definitions) :
      Says (.list (locale :: params.toList)) config

/-- A locale is read as these rules say. -/
theorem locates_iff {value : Option Value} {locale : Option Locale} :
    Locates value locale ↔ (value.map locale?).getD (some none) = some locale := by
  constructor
  · intro h
    cases h with
    | absent => rfl
    | null => rfl
    | tag h => simp [locale?, h]
  · intro h
    cases value with
    | none =>
        cases h
        exact .absent
    | some value =>
        cases value with
        | null =>
            cases h
            exact .null
        | text tag =>
            obtain ⟨found, hfound, rfl⟩ := Option.map_eq_some_iff.mp h
            exact .tag hfound
        | _ => contradiction

/-- An entry is read as a definition under its name. -/
theorem describes_iff {entry : String × Value} {definition : String × Definition} :
    Describes entry definition ↔
      (Definition.ofValue? entry.2).bind (fun found => some (entry.1, found)) =
        some definition := by
  simp only [Describes, Option.bind_eq_some_iff, Option.some.injEq, Prod.ext_iff]
  constructor
  · rintro ⟨hname, hvalue⟩
    exact ⟨definition.2, hvalue, hname.symm, rfl⟩
  · rintro ⟨found, hvalue, hname, rfl⟩
    exact ⟨hname.symm, hvalue⟩

/-- A table gives definitions where all of its entries do, also those that do not count. -/
theorem definitions?_table_iff {entries : List (String × Value)}
    {definitions : List (String × Definition)} :
    definitions? (.table entries) = some definitions ↔
      ∃ read, List.Forall₂ Describes entries read ∧ Tabulates read definitions := by
  simp only [definitions?, Value.table?, Option.bind_eq_bind, Option.bind_some, Option.pure_def]
  rw [Option.bind_eq_some_iff]
  simp only [mapM_eq_some_iff, ← describes_iff, tabulates_iff, Option.some.injEq]

/-- Parameters are read as these rules say. -/
theorem defines_iff {value : Option Value} {definitions : List (String × Definition)} :
    Defines value definitions ↔ (value.map definitions?).getD (some []) = some definitions := by
  constructor
  · intro h
    cases h with
    | absent => rfl
    | table hread htable => exact definitions?_table_iff.mpr ⟨_, hread, htable⟩
  · intro h
    cases value with
    | none =>
        cases h
        exact .absent
    | some value =>
        cases value with
        | table entries =>
            obtain ⟨read, hread, htable⟩ := definitions?_table_iff.mp h
            exact .table hread htable
        | _ => contradiction

/-- A configuration is made of its two parts. -/
theorem ofParts?_eq_some_iff {locale params : Option Value} {config : Config} :
    ofParts? locale params = some config ↔
      Locates locale config.locale ∧ Defines params config.definitions := by
  rcases config with ⟨named, definitions⟩
  simp only [ofParts?, locates_iff, defines_iff, Option.bind_eq_bind, Option.pure_def,
    Option.bind_eq_some_iff, Option.some.injEq, Config.mk.injEq]
  constructor
  · rintro ⟨found, hlocale, read, hparams, rfl, rfl⟩
    exact ⟨hlocale, hparams⟩
  · rintro ⟨hlocale, hparams⟩
    exact ⟨named, hlocale, definitions, hparams, rfl, rfl⟩

theorem eq_of_mem_entryOf {key : String} {value : Option Value} {entry : String × Value}
    (h : entry ∈ entryOf key value) : entry.1 = key := by
  cases value with
  | none => contradiction
  | some value => simp_all [entryOf]

/-- A key with at most one entry has the value of this entry. -/
theorem single?_eq_some_iff {key : String} {entries : List (String × Value)}
    {value : Option Value} :
    Definition.single? key entries = some value ↔
      entries.filter (·.1 == key) = entryOf key value := by
  constructor
  · intro h
    have hkeys : ∀ entry ∈ entries.filter (·.1 == key), entry.1 = key := by
      simp
    unfold Definition.single? at h
    split at h
    next hfound =>
      cases h
      exact hfound
    next entry hfound =>
      cases h
      rw [hfound] at hkeys ⊢
      rw [entryOf, ← hkeys entry List.mem_cons_self]
      rfl
    next => contradiction
  · intro h
    rw [Definition.single?, h]
    cases value <;> rfl

/-- The keys of two parts are found in them. -/
theorem single?_entryOf_append {key other : String} (value others : Option Value)
    (h : other ≠ key) :
    Definition.single? key (entryOf key value ++ entryOf other others) = some value := by
  rw [Definition.single?_append fun entry hentry => eq_of_mem_entryOf hentry ▸ h,
    single?_eq_some_iff, List.filter_eq_self]
  intro entry hentry
  rw [eq_of_mem_entryOf hentry, beq_self_eq_true]

/-- A table has no more than two parts where it has no other keys, and neither of these
twice. -/
theorem perm_entryOf_iff {entries : List (String × Value)} {locale params : Option Value} :
    entries.Perm (entryOf "locale" locale ++ entryOf "params" params) ↔
      (∀ entry ∈ entries, entry.1 = "locale" ∨ entry.1 = "params") ∧
        Definition.single? "locale" entries = some locale ∧
        Definition.single? "params" entries = some params := by
  constructor
  · intro h
    refine ⟨fun entry hentry => ?_, ?_, ?_⟩
    · rw [h.mem_iff, List.mem_append] at hentry
      exact hentry.imp eq_of_mem_entryOf eq_of_mem_entryOf
    · rw [Definition.single?_perm h]
      exact single?_entryOf_append locale params (by decide)
    · rw [Definition.single?_perm (h.trans List.perm_append_comm)]
      exact single?_entryOf_append params locale (by decide)
  · rintro ⟨hkeys, hlocale, hparams⟩
    -- There are only two keys, so what does not stand under the one stands under the other.
    have hothers : entries.filter (!·.1 == "locale") = entries.filter (·.1 == "params") := by
      refine List.filter_congr fun entry hentry => ?_
      rcases hkeys entry hentry with hkey | hkey <;> rw [hkey] <;> rfl
    have hperm := List.filter_append_perm (·.1 == "locale") entries
    rw [hothers, single?_eq_some_iff.mp hlocale, single?_eq_some_iff.mp hparams] at hperm
    exact hperm.symm

/-- A table is a configuration where it has no more than two parts and these can be read. -/
theorem ofValue?_table_iff {entries : List (String × Value)} {config : Config} :
    ofValue? (.table entries) = some config ↔
      ∃ locale params, entries.Perm (entryOf "locale" locale ++ entryOf "params" params) ∧
        Locates locale config.locale ∧ Defines params config.definitions := by
  have hall : (entries.all fun entry => entry.1 == "locale" || entry.1 == "params") = true ↔
      ∀ entry ∈ entries, entry.1 = "locale" ∨ entry.1 = "params" := by
    simp
  simp only [ofValue?, hall, perm_entryOf_iff, ← ofParts?_eq_some_iff,
    Option.ite_none_right_eq_some, Option.bind_eq_bind, Option.bind_eq_some_iff]
  constructor
  · rintro ⟨hkeys, locale, hlocale, params, hparams, h⟩
    exact ⟨locale, params, ⟨hkeys, hlocale, hparams⟩, h⟩
  · rintro ⟨locale, params, ⟨hkeys, hlocale, hparams⟩, h⟩
    exact ⟨hkeys, locale, hlocale, params, hparams, h⟩

/-- A list is a configuration where its one or two elements can be read as parts. -/
theorem ofValue?_list_iff {items : List Value} {config : Config} :
    ofValue? (.list items) = some config ↔
      ∃ locale params, items = locale :: Option.toList params ∧
        Locates (some locale) config.locale ∧ Defines params config.definitions := by
  simp only [← ofParts?_eq_some_iff]
  constructor
  · intro h
    match items with
    | [locale] => exact ⟨locale, none, rfl, h⟩
    | [locale, params] => exact ⟨locale, some params, rfl, h⟩
  · rintro ⟨locale, params, rfl, h⟩
    cases params <;> exact h

/-- Data is read as a configuration as these rules say, and in no other way. -/
theorem says_iff {value : Value} {config : Config} :
    Says value config ↔ ofValue? value = some config := by
  constructor
  · intro h
    cases h with
    | table hentries hlocale hparams =>
        exact ofValue?_table_iff.mpr ⟨_, _, hentries, hlocale, hparams⟩
    | list hlocale hparams =>
        exact ofValue?_list_iff.mpr ⟨_, _, rfl, hlocale, hparams⟩
  · intro h
    cases value with
    | table entries =>
        obtain ⟨locale, params, hentries, hlocale, hparams⟩ := ofValue?_table_iff.mp h
        exact .table hentries hlocale hparams
    | list items =>
        obtain ⟨locale, params, rfl, hlocale, hparams⟩ := ofValue?_list_iff.mp h
        exact .list hlocale hparams
    | _ => contradiction

/-! ## Formats -/

/-- A path falls into a directory, the name of a file in it, and slashes behind the name. -/
structure Splits (path directory name slashes : List Char) : Prop where
  spelled : path = directory ++ name ++ slashes
  above : directory = [] ∨ ∃ parent, directory = parent ++ ['/']
  plain : '/' ∉ name
  trailing : ∀ c ∈ slashes, c = '/'

/-- A search for a character ends at it, or finds nothing. -/
theorem dropWhile_ne_cases (separator : Char) (text : List Char) :
    text.dropWhile (· != separator) = [] ∨
      ∃ rest, text.dropWhile (· != separator) = separator :: rest := by
  have hnot := List.head?_dropWhile_not (· != separator) text
  cases htext : text.dropWhile (· != separator) with
  | nil => exact .inl rfl
  | cons first rest =>
      rw [htext] at hnot
      have hfirst : first = separator := by simpa using hnot
      exact .inr ⟨rest, by rw [hfirst]⟩

/-- A text without a character has it nowhere, also when it is read from its end. -/
theorem bne_of_mem_reverse {separator : Char} {text : List Char} (h : separator ∉ text) :
    ∀ c ∈ text.reverse, (c != separator) = true := by
  intro c hc
  have hne : c ≠ separator := fun heq => h (heq ▸ List.mem_reverse.mp hc)
  simpa using hne

/-- Every path falls into these parts. -/
theorem exists_splits_fileName (path : String) :
    ∃ directory slashes, Splits path.toList directory (fileName path) slashes := by
  refine ⟨((path.toList.reverse.dropWhile (· == '/')).dropWhile (· != '/')).reverse,
    (path.toList.reverse.takeWhile (· == '/')).reverse, ?_, ?_, ?_, ?_⟩
  · rw [fileName, ← List.reverse_append, List.takeWhile_append_dropWhile, ← List.reverse_append,
      List.takeWhile_append_dropWhile, List.reverse_reverse]
  · rcases dropWhile_ne_cases '/' (path.toList.reverse.dropWhile (· == '/')) with h | ⟨rest, h⟩
    · exact .inl (by rw [h, List.reverse_nil])
    · exact .inr ⟨rest.reverse, by rw [h, List.reverse_cons]⟩
  · intro h
    have hne := List.mem_takeWhile_imp (List.mem_reverse.mp h)
    contradiction
  · intro c hc
    simpa using List.mem_takeWhile_imp (List.mem_reverse.mp hc)

theorem fileName_eq_of_splits {path : String} {directory name slashes : List Char}
    (h : Splits path.toList directory name slashes) (hne : name ≠ []) : fileName path = name := by
  -- The path is read from its end: the slashes, the name, and the directory that stops it.
  have hname := bne_of_mem_reverse h.plain
  have hslashes : ∀ c ∈ slashes.reverse, (c == '/') = true := by
    intro c hc
    simpa using h.trailing c (List.mem_reverse.mp hc)
  have hbehind : (name.reverse ++ directory.reverse).dropWhile (· == '/') =
      name.reverse ++ directory.reverse := by
    cases hreversed : name.reverse with
    | nil => exact absurd (List.reverse_eq_nil_iff.mp hreversed) hne
    | cons first rest =>
        have hfirst := hname first (hreversed ▸ List.mem_cons_self)
        rw [List.cons_append, List.dropWhile_cons_of_neg (by simpa using hfirst)]
  have hdirectory : directory.reverse.takeWhile (· != '/') = [] := by
    rcases h.above with rfl | ⟨parent, rfl⟩
    · rfl
    · rw [List.reverse_append]
      rfl
  rw [fileName, h.spelled, List.reverse_append, List.reverse_append,
    List.dropWhile_append_of_pos hslashes, hbehind, List.takeWhile_append_of_pos hname,
    hdirectory, List.append_nil, List.reverse_reverse]

/-- An extension stands behind a point, and there is something in front of it. -/
theorem exists_stem_of_fileExtension {path : String} (h : fileExtension path ≠ []) :
    ∃ stem, fileName path = stem ++ '.' :: fileExtension path ∧ stem ≠ [] := by
  rcases dropWhile_ne_cases '.' (fileName path).reverse with hnone | ⟨rest, hrest⟩
  · simp only [fileExtension, hnone] at h
    contradiction
  · cases rest with
    | nil =>
        simp only [fileExtension, hrest] at h
        contradiction
    | cons last stem =>
        have hextension : fileExtension path =
            ((fileName path).reverse.takeWhile (· != '.')).reverse := by
          simp only [fileExtension, hrest]
        refine ⟨(last :: stem).reverse, ?_, by simp⟩
        rw [hextension, List.append_cons, ← List.reverse_cons, ← hrest, ← List.reverse_append,
          List.takeWhile_append_dropWhile, List.reverse_reverse]

/-- What stands behind the last point of a name is its extension. -/
theorem fileExtension_eq {path : String} {stem extension : List Char}
    (h : fileName path = stem ++ '.' :: extension) (hstem : stem ≠ [])
    (hpoint : '.' ∉ extension) : fileExtension path = extension := by
  have hextension := bne_of_mem_reverse hpoint
  have hreversed : (fileName path).reverse = extension.reverse ++ '.' :: stem.reverse := by
    simp [h]
  cases hlast : stem.reverse with
  | nil => exact absurd (List.reverse_eq_nil_iff.mp hlast) hstem
  | cons last rest =>
      have hdrop : (fileName path).reverse.dropWhile (· != '.') = '.' :: last :: rest := by
        rw [hreversed, List.dropWhile_append_of_pos hextension, hlast]
        rfl
      simp only [fileExtension, hdrop]
      rw [hreversed, List.takeWhile_append_of_pos hextension, List.takeWhile_cons_of_neg (by simp),
        List.append_nil, List.reverse_reverse]

/-- The path of a JSON document ends in the extension `json`, in any case of its letters,
behind a name that is not empty. -/
theorem formatOf_eq_json_iff {path : String} :
    formatOf path = .json ↔ ∃ directory stem extension slashes,
      Splits path.toList directory (stem ++ '.' :: extension) slashes ∧ stem ≠ [] ∧
        extension.map Char.toLower = ['j', 's', 'o', 'n'] := by
  have hformat : formatOf path = .json ↔
      (fileExtension path).map Char.toLower = ['j', 's', 'o', 'n'] := by
    unfold formatOf
    split <;> simp_all
  rw [hformat]
  constructor
  · intro h
    have hne : fileExtension path ≠ [] := by
      intro hnil
      rw [hnil] at h
      contradiction
    obtain ⟨stem, hname, hstem⟩ := exists_stem_of_fileExtension hne
    obtain ⟨directory, slashes, hsplits⟩ := exists_splits_fileName path
    rw [hname] at hsplits
    exact ⟨directory, stem, fileExtension path, slashes, hsplits, hstem, h⟩
  · rintro ⟨directory, stem, extension, slashes, hsplits, hstem, h⟩
    have hpoint : '.' ∉ extension := by
      intro hmem
      have hlower := List.mem_map_of_mem (f := Char.toLower) hmem
      rw [h] at hlower
      revert hlower
      decide
    rw [fileExtension_eq (fileName_eq_of_splits hsplits (by simp)) hstem hpoint]
    exact h

example : formatOf "settings/Default.JSON" = .json := by cbv

/-! ## Files -/

/-- What a configuration file is loaded as, or why it is not: the file cannot be had, its
bytes are no text, or its text is no document of the format, or one with other data. -/
inductive Loads (files : Files) (path : String) : Except CommandError Config → Prop
  | unreadable {fault : ReadFault} :
      files path = .error fault → Loads files path (.error (.unreadableConfig path fault))
  | undecoded {bytes : ByteArray} :
      files path = .ok bytes → String.fromUTF8? bytes = none →
      Loads files path (.error (.unreadableConfig path .notText))
  | invalid {bytes : ByteArray} {text : String} :
      files path = .ok bytes → String.fromUTF8? bytes = some text →
      (∀ value, readDocument? (formatOf path) text = some value → ∀ config, ¬ Says value config) →
      Loads files path (.error (.invalidConfig (formatOf path) path))
  | loaded {bytes : ByteArray} {text : String} {value : Value} {config : Config} :
      files path = .ok bytes → String.fromUTF8? bytes = some text →
      readDocument? (formatOf path) text = some value → Says value config →
      Loads files path (.ok config)

/-- A document is no configuration where its data is none. -/
theorem bind_ofValue?_eq_none_iff {document : Option Value} :
    document.bind ofValue? = none ↔
      ∀ value, document = some value → ∀ config, ¬ Says value config := by
  rw [Option.bind_eq_none_iff]
  simp only [Option.eq_none_iff_forall_ne_some, says_iff, ne_eq]

/-- A file is loaded as these rules say, and in no other way. -/
theorem loads_iff {files : Files} {path : String} {outcome : Except CommandError Config} :
    Loads files path outcome ↔ load files path = outcome := by
  constructor
  · intro h
    cases h with
    | unreadable hfile => simp only [load, Files.readText, hfile]
    | undecoded hfile htext => simp only [load, Files.readText, hfile, htext]
    | invalid hfile htext hnone =>
        simp only [load, Files.readText, hfile, htext, bind_ofValue?_eq_none_iff.mpr hnone]
    | loaded hfile htext hvalue hsays =>
        simp only [load, Files.readText, hfile, htext, hvalue, Option.bind_some,
          says_iff.mp hsays]
  · rintro rfl
    cases hfile : files path with
    | error fault => simpa only [load, Files.readText, hfile] using .unreadable hfile
    | ok bytes =>
        cases htext : String.fromUTF8? bytes with
        | none => simpa only [load, Files.readText, hfile, htext] using .undecoded hfile htext
        | some text =>
            cases hconfig : (readDocument? (formatOf path) text).bind ofValue? with
            | none =>
                simpa only [load, Files.readText, hfile, htext, hconfig] using
                  .invalid hfile htext (bind_ofValue?_eq_none_iff.mp hconfig)
            | some config =>
                obtain ⟨value, hvalue, hsays⟩ := Option.bind_eq_some_iff.mp hconfig
                simpa only [load, Files.readText, hfile, htext, hconfig] using
                  .loaded hfile htext hvalue (says_iff.mpr hsays)

end TextTemplate.Config
