import TextTemplate.Proofs.CommandLine.Merging
import TextTemplate.Proofs.Number.Literal
import TextTemplate.Proofs.Parameter.Hex
import TextTemplate.Proofs.Parameter.Number

/-!
# Whole numbers on the command line

An argument is a name and a value with an equals sign between them.  A whole number may be given
as a value in any spelling.  As a number it is shown exactly, or by the nearest number of 64
signed bits if it has more than that, although it is read as a floating-point number then.  As
bytes it is shown in two's complement, and can be read again from its digits.

Main results:

- Definition `Assignment.IsName`: the names that can be given a value.
- Theorem `Assignment.split_of_isName`: an argument is taken apart as it was put together.
- Theorem `Assignment.readAll_among`: an argument among others adds one definition.
- Theorem `Assignment.integer_literal_clamped`: whole numbers as numbers.
- Theorem `Definition.hex_integer_recoverable`: whole numbers as bytes.
-/

namespace TextTemplate

open Definition (effective? Suited)

namespace Assignment

/-! ## Names and values -/

/-- A name that can be given a value: there is a character in it, and none is an equals sign. -/
structure IsName (name : String) : Prop where
  nonempty : name ≠ ""
  no_equals : '=' ∉ name.toList

/-- An argument is taken apart at the equals sign behind its name, however many equals signs
there are in its value. -/
theorem split_of_isName {name : String} (h : IsName name) (value : String) :
    split (name ++ "=" ++ value) = .ok (name, value) := by
  have htext : (name ++ "=" ++ value).toList = name.toList ++ '=' :: value.toList := by
    simp [String.toList_append]
  have hbefore : ∀ c ∈ name.toList, (c != '=') = true := by
    intro c hc
    rw [bne_iff_ne]
    rintro rfl
    exact h.no_equals hc
  have hname : name.toList.isEmpty = false := by simpa using h.nonempty
  unfold split
  dsimp only
  rw [htext, List.dropWhile_append_of_pos hbefore, List.takeWhile_append_of_pos hbefore]
  simp [hname]

variable {definitionOf : String → Except CommandError Definition}

/-- The definitions of arguments are those of the first ones and of the others. -/
theorem readAll_append {before later : List String} {first last : List (String × Definition)}
    (hfirst : readAll definitionOf before = .ok first)
    (hlast : readAll definitionOf later = .ok last) :
    readAll definitionOf (before ++ later) = .ok (first ++ last) := by
  unfold readAll at *
  rw [List.mapM_append, hfirst, hlast]
  rfl

/-- An argument with a value that can be read gives one definition. -/
theorem readAll_assignment {name value : String} {definition : Definition} (hname : IsName name)
    (hvalue : definitionOf value = .ok definition) :
    readAll definitionOf [name ++ "=" ++ value] = .ok [(name, definition)] := by
  unfold readAll
  rw [List.mapM_cons, split_of_isName hname]
  change ((definitionOf value >>= fun definition => .ok (name, definition)) >>=
    fun entry => .ok [entry]) = _
  rw [hvalue]
  rfl

/-- Among others it adds this definition to theirs. -/
theorem readAll_among {name value : String} {definition : Definition} (hname : IsName name)
    (hvalue : definitionOf value = .ok definition) {before later : List String}
    {first last : List (String × Definition)} (hfirst : readAll definitionOf before = .ok first)
    (hlast : readAll definitionOf later = .ok last) :
    readAll definitionOf (before ++ (name ++ "=" ++ value) :: later) =
      .ok (first ++ (name, definition) :: last) :=
  readAll_append hfirst (readAll_append (readAll_assignment hname hvalue) hlast)

/-! ## Whole numbers -/

/-- A whole number is taken as a number that is brought to a bound of 64 signed bits if it lies
beyond it. -/
theorem exists_numberOf {literal : List Char} {n : ℤ} (h : Decimal.IsLiteral literal n) :
    ∃ source, numberOf (String.ofList literal) = .ok (.number source) ∧
      source.toNumber.whole =
        max Decimal.int64Least (min Decimal.int64Greatest n) := by
  unfold numberOf
  rw [String.toList_ofList, Decimal.int64?_of_isLiteral h]
  by_cases hrange : Decimal.int64Least ≤ n ∧ n ≤ Decimal.int64Greatest
  · obtain ⟨word, hread, hword⟩ := Decimal.exists_toInt64? hrange
    refine ⟨.integer word, by rw [hread], ?_⟩
    rw [min_eq_right hrange.2, max_eq_right hrange.1]
    exact hword
  · obtain ⟨x, hread, htruncate⟩ := FloatLiteral.exists_read?_of_isLiteral h hrange
    have hnone : Decimal.toInt64? n = none := if_neg hrange
    exact ⟨.float x, by rw [hnone, hread], htruncate⟩

/-- A whole number of 64 signed bits is taken as bytes for itself. -/
theorem hexOf_of_isLiteral {literal : List Char} {n : Int64}
    (h : Decimal.IsLiteral literal n.toInt) :
    hexOf (String.ofList literal) = .ok (.hex (.integer n) false false) := by
  unfold hexOf
  rw [String.toList_ofList, Decimal.int64?_of_isLiteral h, Decimal.toInt64?_toInt]

end Assignment

/-! ## Single definitions -/

theorem effective?_concat (definitions : List (String × Definition)) (name : String)
    (definition : Definition) :
    effective? (definitions ++ [(name, definition)]) name = some definition := by
  rw [Definition.effective?_append, Definition.effective?_cons]
  simp

/-- The one definition of a command line counts, whatever a configuration defines. -/
theorem exists_get?_mergeParameters {config : List (String × Definition)} {arguments : Arguments}
    {name : String} {definition : Definition}
    (h : arguments.definitions = .ok [(name, definition)])
    (hsuited : Suited (config ++ [(name, definition)]) arguments.upper arguments.prefixed) :
    ∃ set, mergeParameters config arguments = .ok set ∧
      set.get? name = some ((definition.withOptions (name ∈ arguments.upper)
        (name ∈ arguments.prefixed)).named name) := by
  rcases mergeParameters_cases config h with ⟨-, set, hset, hget⟩ | ⟨hnot, -⟩
  · refine ⟨set, hset, ?_⟩
    rw [hget, Definition.optioned, effective?_concat]
    rfl
  · contradiction

namespace Assignment

/-- A whole number, however it is spelled and however large it is, is accepted as a number.  It
is shown exactly, or by the bound of 64 signed bits on its side if it lies beyond it. -/
theorem integer_literal_clamped {name : String} {literal : List Char} {n : ℤ} (hname : IsName name)
    (hliteral : Decimal.IsLiteral literal n) :
    ∃ definition,
      (∀ before later first last, readAll numberOf before = .ok first →
        readAll numberOf later = .ok last →
        readAll numberOf (before ++ (name ++ "=" ++ String.ofList literal) :: later) =
          .ok (first ++ (name, definition) :: last)) ∧
      (∀ config, ∃ set,
        mergeParameters config { numbers := [name ++ "=" ++ String.ofList literal] } = .ok set ∧
          set.get? name = some (definition.named name)) ∧
      ∀ locale, Decimal.IsCanonical ((definition.named name : Parameter Empty).render locale)
        (max (-2 ^ 63) (min (2 ^ 63 - 1) n)) := by
  obtain ⟨source, hvalue, hwhole⟩ := exists_numberOf hliteral
  refine ⟨.number source, ?_, ?_, ?_⟩
  · intro before later first last hfirst hlast
    exact readAll_among hname hvalue hfirst hlast
  · intro config
    have hdefinitions : ({ numbers := [name ++ "=" ++ String.ofList literal] } :
        Arguments).definitions = .ok [(name, .number source)] := by
      unfold Arguments.definitions
      rw [readAll_assignment hname hvalue]
      rfl
    exact exists_get?_mergeParameters hdefinitions ⟨by simp, by simp⟩
  · intro locale
    have hcanonical := Number.isCanonical_render source.toNumber
    rw [hwhole] at hcanonical
    exact hcanonical

/-- The first number beyond 64 signed bits is shown as the last one within them. -/
theorem integer_literal_clamped_padded :
    IsName "n" ∧ Decimal.IsLiteral "+009223372036854775808".toList 9223372036854775808 ∧
      ∃ definition, readAll numberOf ["n=+009223372036854775808"] = .ok [("n", definition)] ∧
        ∀ locale, (definition.named "n" : Parameter Empty).render locale =
          "9223372036854775807" := by
  have hname : IsName "n" := ⟨by decide, by decide⟩
  have hdigits : ∀ c ∈ "009223372036854775808".toList, c.isDigit = true :=
    List.all_eq_true.mp rfl
  have hliteral : Decimal.IsLiteral "+009223372036854775808".toList 9223372036854775808 :=
    Decimal.IsLiteral.plus (by decide) hdigits
  obtain ⟨definition, haccepted, -, hshown⟩ := integer_literal_clamped hname hliteral
  refine ⟨hname, hliteral, definition, haccepted [] [] [] [] rfl rfl, ?_⟩
  intro locale
  rw [Decimal.isCanonical_iff.mp (hshown locale)]
  decide

end Assignment

namespace Definition

/-- The table that configures bytes for a whole number; each option may be left out. -/
def hexTable (n : ℤ) (uppercase prefixed : Option Bool) : Value :=
  .table ([("type", .text "hex"), ("value", .integer n)] ++
    (uppercase.map fun on => ("uppercase", Value.bool on)).toList ++
    (prefixed.map fun on => ("prefixed", Value.bool on)).toList)

theorem ofValue?_hexTable (n : Int64) (uppercase prefixed : Option Bool) :
    ofValue? (hexTable n.toInt uppercase prefixed) =
      some (hex (.integer n) (uppercase.getD false) (prefixed.getD false)) := by
  have hsource : hexSource? (.integer n.toInt) = some (.integer n) := by
    rw [hexSource?, Decimal.toInt64?_toInt, Option.map_some]
  cases uppercase <;> cases prefixed <;>
    simp [hexTable, ofValue?, required?, single?, kind?, Value.text?, Kind.ofName?, ofEntries?,
      hsource, flag?, Value.bool?]

/-- Bytes for a whole number come from a configuration or from the command line, with any
options.  They are rendered by eight digits if 32 bits are enough for the number, and by sixteen
otherwise, and in two's complement these digits are the number.  Different numbers therefore
have different digits. -/
theorem hex_integer_recoverable (n : Int64) :
    (∀ uppercase prefixed, ofValue? (hexTable n.toInt uppercase prefixed) =
      some (hex (.integer n) (uppercase.getD false) (prefixed.getD false))) ∧
    (∀ name literal before later first last, Assignment.IsName name →
      Decimal.IsLiteral literal n.toInt →
      Assignment.readAll Assignment.hexOf before = .ok first →
      Assignment.readAll Assignment.hexOf later = .ok last →
      Assignment.readAll Assignment.hexOf
          (before ++ (name ++ "=" ++ String.ofList literal) :: later) =
        .ok (first ++ (name, hex (.integer n) false false) :: last)) ∧
    (∀ name literal config upper prefixed, Assignment.IsName name →
      Decimal.IsLiteral literal n.toInt → (∀ other ∈ upper ++ prefixed, other = name) →
      ∃ set, mergeParameters config
          { hexes := [name ++ "=" ++ String.ofList literal], upper := upper,
            prefixed := prefixed } = .ok set ∧
        set.get? name = some ((hex (.integer n) (name ∈ upper) (name ∈ prefixed)).named name)) ∧
    (∀ uppercase prefixed name locale, Hex.ShowsInteger
      (((hex (.integer n) uppercase prefixed).named name : Parameter Empty).render locale)
      n.toInt) ∧
    ∀ (m : Int64) (uppercase prefixed uppercase' prefixed' : Bool) (name name' : String)
      (locale locale' : Locale), m ≠ n →
      HexDigits.behindPrefix
          (((hex (.integer n) uppercase prefixed).named name : Parameter Empty).render
            locale).toList ≠
        HexDigits.behindPrefix
          (((hex (.integer m) uppercase' prefixed').named name' : Parameter Empty).render
            locale').toList := by
  have hshows : ∀ (m : Int64) uppercase prefixed name locale, Hex.ShowsInteger
      (((hex (.integer m) uppercase prefixed).named name : Parameter Empty).render locale)
      m.toInt := by
    intro m uppercase prefixed name locale
    have hbytes : ({ (HexSource.integer m).toHex with
        uppercase := uppercase, prefixed := prefixed } : Hex).bytes =
          (HexSource.integer m).toHex.bytes := rfl
    exact Hex.showsInteger_render hbytes
  refine ⟨ofValue?_hexTable n, ?_, ?_, hshows n, ?_⟩
  · intro name literal before later first last hname hliteral hfirst hlast
    exact Assignment.readAll_among hname (Assignment.hexOf_of_isLiteral hliteral) hfirst hlast
  · intro name literal config upper prefixed hname hliteral htargets
    have hdefinitions :
        ({ hexes := [name ++ "=" ++ String.ofList literal], upper := upper,
           prefixed := prefixed } : Arguments).definitions =
          .ok [(name, hex (.integer n) false false)] := by
      unfold Arguments.definitions
      rw [Assignment.readAll_assignment hname (Assignment.hexOf_of_isLiteral hliteral)]
      rfl
    have hsuited : Suited (config ++ [(name, hex (.integer n) false false)]) upper prefixed := by
      constructor
      · intro other hother
        rw [htargets other (List.mem_append_left _ hother), effective?_concat]
        exact ⟨_, rfl, nofun⟩
      · intro other hother
        rw [htargets other (List.mem_append_right _ hother), effective?_concat]
        exact ⟨_, _, _, rfl⟩
    obtain ⟨set, hset, hget⟩ := exists_get?_mergeParameters hdefinitions hsuited
    refine ⟨set, hset, ?_⟩
    rw [hget, withOptions, Bool.false_or, Bool.false_or]
  · intro m uppercase prefixed uppercase' prefixed' name name' locale locale' hne hdigits
    have hequal := (hshows n uppercase prefixed name locale).unique
      (hshows m uppercase' prefixed' name' locale') hdigits
    exact hne (Int64.toInt_inj.mp hequal.symm)

/-- The least number that needs more than 32 bits has sixteen digits. -/
example : (((hex (.integer (-2147483649)) false true).named "n" : Parameter Empty).render
    Locale.root) = "0xFFFFFFFF7FFFFFFF" := by
  decide

end Definition

end TextTemplate
