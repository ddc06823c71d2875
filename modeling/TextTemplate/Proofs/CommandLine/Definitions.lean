import TextTemplate.Proofs.CommandLine.Assignment
import TextTemplate.Proofs.CommandLine.Stages
import TextTemplate.Proofs.Number.Grammar

/-!
# Definitions of a command line

The arguments that define parameters are read one after the other: those for texts first, then
those for numbers, characters and bytes.  Each one is a name, an equals sign and a value, and the
name ends at the first equals sign.  Every argument gives one definition, from which it can be put
together again, or the first one that gives none decides the error.

Main results:

- Definition `Assignment.Gives` and theorem `Assignment.gives_iff`: what a value of each type is
  taken for.
- Definition `Assignment.Reads` and theorem `Assignment.reads_iff`: what an argument defines, or
  why it defines nothing.
- Definition `Arguments.inOrder`: the arguments in the order in which they are read.
- Theorem `Arguments.definitions_lossless`: what a command line defines, and which error is told.
-/

namespace TextTemplate

open Definition (Kind)

namespace Assignment

/-! ## Values -/

/-- What a value of each type is taken for, with all options off, or why it is none of this
type. -/
inductive Gives : Kind → String → Except CommandError Definition → Prop
  | text (value : String) : Gives .string value (.ok (.text value false))
  | integer {value : String} {n : Int64} (h : Decimal.IsLiteral value.toList n.toInt) :
      Gives .number value (.ok (.number (.integer n)))
  | float {value : String} {x : Binary64}
      (hinteger : ∀ n : Int64, ¬ Decimal.IsLiteral value.toList n.toInt)
      (h : FloatLiteral.IsLiteral value.toList x) :
      Gives .number value (.ok (.number (.float x)))
  | notNumber {value : String} (hinteger : ∀ n : Int64, ¬ Decimal.IsLiteral value.toList n.toInt)
      (hfloat : ∀ x, ¬ FloatLiteral.IsLiteral value.toList x) :
      Gives .number value (.error (.notNumber value))
  | character (c : Char) : Gives .char (String.singleton c) (.ok (.character c false))
  | notCharacter {value : String} (h : value.length ≠ 1) :
      Gives .char value (.error (.notCharacter value))
  | hexInteger {value : String} {n : Int64} (h : Decimal.IsLiteral value.toList n.toInt) :
      Gives .hex value (.ok (.hex (.integer n) false false))
  | hexText {value : String} (h : ∀ n : Int64, ¬ Decimal.IsLiteral value.toList n.toInt) :
      Gives .hex value (.ok (.hex (.text value) false false))

/-- Reads a value of a type. -/
def valueOf : Kind → String → Except CommandError Definition
  | .string => textOf
  | .number => numberOf
  | .char => characterOf
  | .hex => hexOf

/-- A number is read by the rules for numbers. -/
theorem gives_numberOf (value : String) : Gives .number value (numberOf value) := by
  unfold numberOf
  split
  next n h => exact .integer (Decimal.int64?_eq_some_iff.mp h)
  next hinteger =>
    rw [Decimal.int64?_eq_none_iff] at hinteger
    split
    next x h => exact .float hinteger (FloatLiteral.read?_eq_some_iff.mp h)
    next hfloat => exact .notNumber hinteger (FloatLiteral.read?_eq_none_iff.mp hfloat)

/-- A character is read by the rules for characters. -/
theorem gives_characterOf (value : String) : Gives .char value (characterOf value) := by
  unfold characterOf
  split
  next c h =>
    have hvalue : value = String.singleton c := by
      rw [← String.toList_inj, h, String.toList_singleton]
    rw [hvalue]
    exact .character c
  next hnot =>
    refine .notCharacter fun hlength => ?_
    rw [← String.length_toList, List.length_eq_one_iff] at hlength
    obtain ⟨c, hc⟩ := hlength
    exact hnot c hc

/-- Bytes are read by the rules for bytes. -/
theorem gives_hexOf (value : String) : Gives .hex value (hexOf value) := by
  unfold hexOf
  split
  next n h => exact .hexInteger (Decimal.int64?_eq_some_iff.mp h)
  next h => exact .hexText (Decimal.int64?_eq_none_iff.mp h)

/-- A value is read as these rules say, and in no other way. -/
theorem gives_iff {kind : Kind} {value : String} {outcome : Except CommandError Definition} :
    Gives kind value outcome ↔ valueOf kind value = outcome := by
  constructor
  · intro h
    cases h with
    | text => rfl
    | integer h =>
        rw [valueOf, numberOf, Decimal.int64?_eq_some_iff.mpr h]
    | float hinteger h =>
        rw [valueOf, numberOf, Decimal.int64?_eq_none_iff.mpr hinteger,
          FloatLiteral.read?_eq_some_iff.mpr h]
    | notNumber hinteger hfloat =>
        rw [valueOf, numberOf, Decimal.int64?_eq_none_iff.mpr hinteger,
          FloatLiteral.read?_eq_none_iff.mpr hfloat]
    | character c =>
        rw [valueOf, characterOf, String.toList_singleton]
    | notCharacter h =>
        rw [valueOf, characterOf]
        split
        next c hc =>
          rw [← String.length_toList, hc] at h
          contradiction
        next => rfl
    | hexInteger h =>
        rw [valueOf, hexOf, Decimal.int64?_eq_some_iff.mpr h]
    | hexText h =>
        rw [valueOf, hexOf, Decimal.int64?_eq_none_iff.mpr h]
  · rintro rfl
    cases kind with
    | string => exact .text value
    | number => exact gives_numberOf value
    | char => exact gives_characterOf value
    | hex => exact gives_hexOf value

/-- A number is a whole number of 64 signed bits or a floating-point number. -/
theorem exists_gives_number_iff {value : String} :
    (∃ definition, Gives .number value (.ok definition)) ↔
      (∃ n : Int64, Decimal.IsLiteral value.toList n.toInt) ∨
        ∃ x, FloatLiteral.IsLiteral value.toList x := by
  constructor
  · rintro ⟨definition, h⟩
    cases h with
    | integer h => exact .inl ⟨_, h⟩
    | float hinteger h => exact .inr ⟨_, h⟩
  · intro h
    by_cases hinteger : ∃ n : Int64, Decimal.IsLiteral value.toList n.toInt
    · obtain ⟨n, hn⟩ := hinteger
      exact ⟨_, .integer hn⟩
    · obtain ⟨x, hx⟩ := h.resolve_left hinteger
      exact ⟨_, .float (not_exists.mp hinteger) hx⟩

/-- A character is a text of one character. -/
theorem exists_gives_char_iff {value : String} :
    (∃ definition, Gives .char value (.ok definition)) ↔ value.length = 1 := by
  constructor
  · rintro ⟨definition, h⟩
    cases h with
    | character c => rw [String.length_singleton]
  · intro h
    rw [← String.length_toList, List.length_eq_one_iff] at h
    obtain ⟨c, hc⟩ := h
    rw [← String.toList_singleton, String.toList_inj] at hc
    subst hc
    exact ⟨_, .character c⟩

/-- Every value can be taken for bytes. -/
theorem exists_gives_hex (value : String) :
    ∃ definition, Gives .hex value (.ok definition) := by
  by_cases hinteger : ∃ n : Int64, Decimal.IsLiteral value.toList n.toInt
  · obtain ⟨n, hn⟩ := hinteger
    exact ⟨_, .hexInteger hn⟩
  · exact ⟨_, .hexText (not_exists.mp hinteger)⟩

/-! ## Arguments -/

/-- What an argument of each type defines: the parameter of the name in front of its first equals
sign, by the value behind it.  Or why it defines nothing. -/
inductive Reads : Kind → String → Except CommandError (String × Definition) → Prop
  | defined {kind : Kind} {name value : String} {definition : Definition} (hname : IsName name)
      (hvalue : Gives kind value (.ok definition)) :
      Reads kind (name ++ "=" ++ value) (.ok (name, definition))
  | noAssignment {kind : Kind} {argument : String} (h : '=' ∉ argument.toList) :
      Reads kind argument (.error (.noAssignment argument))
  | noName {kind : Kind} (value : String) :
      Reads kind ("=" ++ value) (.error (.noName ("=" ++ value)))
  | refused {kind : Kind} {name value : String} {error : CommandError} (hname : IsName name)
      (hvalue : Gives kind value (.error error)) :
      Reads kind (name ++ "=" ++ value) (.error error)

/-- Reads an argument of a type. -/
def read (kind : Kind) (argument : String) : Except CommandError (String × Definition) := do
  let (name, value) ← split argument
  return (name, ← valueOf kind value)

/-- An argument has no equals sign, begins with one, or is a name with a value. -/
theorem exists_assignment (argument : String) :
    '=' ∉ argument.toList ∨ (∃ value, argument = "=" ++ value) ∨
      ∃ name value, IsName name ∧ argument = name ++ "=" ++ value := by
  by_cases hequals : '=' ∈ argument.toList
  · obtain ⟨name, value, htext, hname⟩ := List.eq_append_cons_of_mem hequals
    have hargument : argument = String.ofList name ++ "=" ++ String.ofList value := by
      rw [← String.toList_inj, htext]
      simp
    by_cases hempty : name = []
    · subst hempty
      exact .inr (.inl ⟨String.ofList value, hargument⟩)
    · refine .inr (.inr ⟨_, _, ⟨?_, ?_⟩, hargument⟩)
      · rwa [ne_eq, String.ofList_eq_empty_iff]
      · rwa [String.toList_ofList]
  · exact .inl hequals

/-- An argument without an equals sign has no name. -/
theorem split_of_not_mem {argument : String} (h : '=' ∉ argument.toList) :
    split argument = .error (.noAssignment argument) := by
  have hbefore : argument.toList.dropWhile (· != '=') = [] := by
    rw [List.dropWhile_eq_nil_iff]
    intro c hc
    rw [bne_iff_ne]
    rintro rfl
    exact h hc
  unfold split
  dsimp only
  rw [hbefore]

theorem split_of_equals (value : String) :
    split ("=" ++ value) = .error (.noName ("=" ++ value)) := by
  have htext : ("=" ++ value).toList = '=' :: value.toList := String.toList_append ..
  unfold split
  dsimp only
  rw [htext]
  rfl

/-- An argument with a name defines what its value gives. -/
theorem read_of_isName {kind : Kind} {name value : String} (h : IsName name) :
    read kind (name ++ "=" ++ value) =
      (valueOf kind value >>= fun definition => .ok (name, definition)) := by
  rw [read, split_of_isName h, ok_bind]
  rfl

/-- An argument is read as these rules say, and in no other way. -/
theorem reads_iff {kind : Kind} {argument : String}
    {outcome : Except CommandError (String × Definition)} :
    Reads kind argument outcome ↔ read kind argument = outcome := by
  constructor
  · intro h
    cases h with
    | defined hname hvalue => rw [read_of_isName hname, gives_iff.mp hvalue, ok_bind]
    | noAssignment h =>
        rw [read, split_of_not_mem h]
        rfl
    | noName value =>
        rw [read, split_of_equals]
        rfl
    | refused hname hvalue =>
        rw [read_of_isName hname, gives_iff.mp hvalue]
        rfl
  · rintro rfl
    rcases exists_assignment argument with h | ⟨value, rfl⟩ | ⟨name, value, hname, rfl⟩
    · rw [read, split_of_not_mem h]
      exact .noAssignment h
    · rw [read, split_of_equals]
      exact .noName value
    · rw [read_of_isName hname]
      cases hvalue : valueOf kind value with
      | error error => exact .refused hname (gives_iff.mpr hvalue)
      | ok definition => exact .defined hname (gives_iff.mpr hvalue)

/-- Which arguments define something: they have an equals sign, but none in front, and a value of
their type. -/
theorem exists_reads_ok_iff {kind : Kind} {argument : String} :
    (∃ entry, Reads kind argument (.ok entry)) ↔
      ('=' ∈ argument.toList ∧ argument.toList.head? ≠ some '=') ∧
        ∀ name value, IsName name → argument = name ++ "=" ++ value →
          ∃ definition, Gives kind value (.ok definition) := by
  constructor
  · rintro ⟨entry, h⟩
    cases h with
    | @defined name value definition hname hvalue =>
        refine ⟨⟨by simp, ?_⟩, ?_⟩
        · intro hhead
          rw [String.append_assoc, String.toList_append, List.head?_append_of_ne_nil] at hhead
          · exact hname.no_equals (List.mem_of_mem_head? hhead)
          · simpa using hname.nonempty
        · intro name' value' hname' hargument
          -- An argument has one name and one value.
          have hsplit := split_of_isName hname value
          rw [hargument, split_of_isName hname'] at hsplit
          cases hsplit
          exact ⟨definition, hvalue⟩
  · rintro ⟨⟨hequals, hhead⟩, hvalue⟩
    rcases exists_assignment argument with h | ⟨value, rfl⟩ | ⟨name, value, hname, rfl⟩
    · contradiction
    · exact absurd (by rw [String.toList_append]; rfl) hhead
    · obtain ⟨definition, hdefinition⟩ := hvalue name value hname rfl
      exact ⟨_, .defined hname hdefinition⟩

end Assignment

/-! ## Command lines -/

namespace Arguments

open Assignment (IsName Gives Reads reads_iff exists_reads_ok_iff exists_gives_number_iff
  exists_gives_char_iff exists_gives_hex)

/-- The arguments that define parameters, each with its type, in the order in which they are
read. -/
def inOrder (arguments : Arguments) : List (Kind × String) :=
  arguments.strings.map (.string, ·) ++ arguments.numbers.map (.number, ·) ++
    arguments.chars.map (.char, ·) ++ arguments.hexes.map (.hex, ·)

/-- The arguments of each type are read, and nothing else. -/
theorem mem_inOrder_iff {arguments : Arguments} {kind : Kind} {argument : String} :
    (kind, argument) ∈ arguments.inOrder ↔
      kind = .string ∧ argument ∈ arguments.strings ∨
        kind = .number ∧ argument ∈ arguments.numbers ∨
        kind = .char ∧ argument ∈ arguments.chars ∨ kind = .hex ∧ argument ∈ arguments.hexes := by
  simp [inOrder, eq_comm, and_comm]

theorem map_snd_inOrder (arguments : Arguments) :
    arguments.inOrder.map Prod.snd =
      arguments.strings ++ arguments.numbers ++ arguments.chars ++ arguments.hexes := by
  simp [inOrder, Function.comp_def]

/-- The arguments are read one after the other. -/
theorem definitions_eq (arguments : Arguments) :
    arguments.definitions =
      arguments.inOrder.mapM fun argument => Assignment.read argument.1 argument.2 := by
  simp only [inOrder, List.mapM_append, List.mapM_map, bind_assoc, pure_bind]
  rfl

/-- A command line gives a list of definitions where each argument gives one of them, in
order. -/
theorem definitions_eq_ok_iff {arguments : Arguments} {given : List (String × Definition)} :
    arguments.definitions = .ok given ↔
      List.Forall₂ (fun argument entry => Reads argument.1 argument.2 (.ok entry))
        arguments.inOrder given := by
  simp only [definitions_eq, mapM_eq_ok_iff, reads_iff]

/-- Otherwise the error is that of the first argument that gives none. -/
theorem definitions_eq_error_iff {arguments : Arguments} {error : CommandError} :
    arguments.definitions = .error error ↔
      ∃ before argument later, arguments.inOrder = before ++ argument :: later ∧
        (∀ earlier ∈ before, ∃ entry, Reads earlier.1 earlier.2 (.ok entry)) ∧
        Reads argument.1 argument.2 (.error error) := by
  simp only [definitions_eq, mapM_eq_error_iff, reads_iff]

/-- Every definition of a command line can be put together again to its argument, in order, or the
first argument that defines nothing is told. -/
theorem definitions_lossless (arguments : Arguments) :
    ((∃ given, arguments.definitions = .ok given) ↔
      (∀ argument ∈ arguments.strings ++ arguments.numbers ++ arguments.chars ++ arguments.hexes,
        '=' ∈ argument.toList ∧ argument.toList.head? ≠ some '=') ∧
      (∀ name value, IsName name → name ++ "=" ++ value ∈ arguments.numbers →
        (∃ n : Int64, Decimal.IsLiteral value.toList n.toInt) ∨
          ∃ x, FloatLiteral.IsLiteral value.toList x) ∧
      ∀ name value, IsName name → name ++ "=" ++ value ∈ arguments.chars → value.length = 1) ∧
    (∀ given, arguments.definitions = .ok given ↔
      List.Forall₂ (fun argument entry => Reads argument.1 argument.2 (.ok entry))
        arguments.inOrder given) ∧
    ∀ error, arguments.definitions = .error error ↔
      ∃ before argument later, arguments.inOrder = before ++ argument :: later ∧
        (∀ earlier ∈ before, ∃ entry, Reads earlier.1 earlier.2 (.ok entry)) ∧
        Reads argument.1 argument.2 (.error error) := by
  refine ⟨?_, fun given => definitions_eq_ok_iff, fun error => definitions_eq_error_iff⟩
  simp only [definitions_eq_ok_iff, exists_forall₂_iff, exists_reads_ok_iff]
  constructor
  · intro h
    refine ⟨?_, ?_, ?_⟩
    · intro argument hargument
      rw [← map_snd_inOrder] at hargument
      obtain ⟨entry, hentry, rfl⟩ := List.mem_map.mp hargument
      exact (h entry hentry).1
    · intro name value hname hargument
      have hentry := h (.number, _) (mem_inOrder_iff.mpr (.inr (.inl ⟨rfl, hargument⟩)))
      exact exists_gives_number_iff.mp (hentry.2 name value hname rfl)
    · intro name value hname hargument
      have hentry := h (.char, _) (mem_inOrder_iff.mpr (.inr (.inr (.inl ⟨rfl, hargument⟩))))
      exact exists_gives_char_iff.mp (hentry.2 name value hname rfl)
  · rintro ⟨hequals, hnumbers, hchars⟩ ⟨kind, argument⟩ hargument
    have hmem : argument ∈ arguments.inOrder.map Prod.snd := List.mem_map_of_mem hargument
    rw [map_snd_inOrder] at hmem
    refine ⟨hequals argument hmem, ?_⟩
    rintro name value hname rfl
    rw [mem_inOrder_iff] at hargument
    cases kind with
    | string => exact ⟨_, .text value⟩
    | number =>
        have hargument : name ++ "=" ++ value ∈ arguments.numbers := by simpa using hargument
        exact exists_gives_number_iff.mpr (hnumbers name value hname hargument)
    | char =>
        have hargument : name ++ "=" ++ value ∈ arguments.chars := by simpa using hargument
        exact exists_gives_char_iff.mpr (hchars name value hname hargument)
    | hex => exact exists_gives_hex value

/-- Values keep further equals signs, and the types have their order whatever that of the options
is.  A later argument that is faulty too is not told. -/
theorem definitions_lossless_two_lines :
    ({ strings := ["a=b=c"], numbers := ["n=-12"], chars := ["c=é"], hexes := ["a=21", "b=x"] } :
        Arguments).definitions =
      .ok [("a", .text "b=c" false), ("n", .number (.integer (-12))), ("c", .character 'é' false),
        ("a", .hex (.integer 21) false false), ("b", .hex (.text "x") false false)] ∧
    ({ strings := ["a=1"], numbers := ["n=z"], hexes := ["q"] } : Arguments).definitions =
      .error (.notNumber "z") := by
  have hname : ∀ name ∈ ["a", "b", "c", "n"], IsName name := by
    intro name hname
    constructor <;> revert name <;> decide
  have hnumber : Gives .number "-12" (.ok (.number (.integer (-12)))) :=
    .integer (Decimal.int64?_eq_some_iff.mp rfl)
  have hletter : Gives .number "z" (.error (.notNumber "z")) :=
    .notNumber (Decimal.int64?_eq_none_iff.mp rfl) (FloatLiteral.read?_eq_none_iff.mp rfl)
  have hword : Gives .hex "21" (.ok (.hex (.integer 21) false false)) :=
    .hexInteger (Decimal.int64?_eq_some_iff.mp rfl)
  have htext : Gives .hex "x" (.ok (.hex (.text "x") false false)) :=
    .hexText (Decimal.int64?_eq_none_iff.mp rfl)
  constructor
  · refine ((definitions_lossless _).2.1 _).mpr ?_
    exact .cons (.defined (hname "a" (by simp)) (.text "b=c"))
      (.cons (.defined (hname "n" (by simp)) hnumber)
        (.cons (.defined (hname "c" (by simp)) (.character 'é'))
          (.cons (.defined (hname "a" (by simp)) hword)
            (.cons (.defined (hname "b" (by simp)) htext) .nil))))
  · refine ((definitions_lossless _).2.2 _).mpr
      ⟨[(.string, "a=1")], (.number, "n=z"), [(.hex, "q")], rfl, ?_, ?_⟩
    · rintro earlier hearlier
      rw [List.mem_singleton] at hearlier
      subst hearlier
      exact ⟨_, .defined (hname "a" (by simp)) (.text "1")⟩
    · exact .refused (hname "n" (by simp)) hletter

/-- An equals sign further on is of no use to an argument that begins with one, and it is this
argument that is told. -/
theorem definitions_equals_further_on :
    (∀ argument ∈ ["=a=b"], ∃ i, 0 < i ∧ argument.toList[i]? = some '=') ∧
      (¬ ∃ given, ({ strings := ["=a=b"] } : Arguments).definitions = .ok given) ∧
      ({ strings := ["=a=b", "c"] } : Arguments).definitions = .error (.noName "=a=b") := by
  refine ⟨?_, ?_, rfl⟩
  · rintro argument hargument
    rw [List.mem_singleton] at hargument
    subst hargument
    exact ⟨2, by decide, rfl⟩
  · rintro ⟨given, hgiven⟩
    contradiction

end Arguments

end TextTemplate
