import TextTemplate.Proofs.Template.Independence

/-!
# What the locale changes

The locale is handed to every value that is rendered, but only one rule looks at it:
in the Turkic languages a small `i` becomes a capital with a dot.  Each character
becomes as many characters in one locale as in another, so two renderings can be
compared place by place.  They are the same unless just one of the locales is Turkic
and a small `i` is put in uppercase.

Values of a caller's own kind are rendered by the caller, who may do anything with the
locale; nothing is said about segments that use them.

Main results:

- Theorem `Locale.upperOf_eq_iff`: the locale matters to the uppercase form of one
  character only.
- Theorem `Locale.uppercase_eq_iff`: a text with a small `i` tells Turkic locales from
  all others.
- Definition `ParameterValue.RaisesI`: a value in which a small `i` is put in uppercase.
- Theorem `Segment.renderAll_eq_iff_of_locale`: when segments are rendered alike in two
  locales.
- Theorem `Segment.renderAll_turkic_rule`: the failures and the renderings of segments in
  two locales.
-/

namespace TextTemplate

/-- Lists whose first parts have equal lengths are the same part by part. -/
theorem append_eq_append_iff_of_length {α : Type} {front behind otherFront otherBehind : List α}
    (h : front.length = otherFront.length) :
    front ++ behind = otherFront ++ otherBehind ↔ front = otherFront ∧ behind = otherBehind :=
  ⟨fun hsame => List.append_inj hsame h, fun hparts => by rw [hparts.1, hparts.2]⟩

namespace Locale

/-! ## One character -/

/-- The Turkic languages, whatever the script and the region. -/
theorem isTurkic_iff {locale : Locale} :
    locale.isTurkic = true ↔ locale.language = some "tr" ∨ locale.language = some "az" := by
  rw [isTurkic, Bool.or_eq_true, beq_iff_eq, beq_iff_eq]

/-- A locale has no part in the uppercase of other characters than the small `i`. -/
theorem upperOf_of_ne (locale : Locale) {c : Char} (h : c ≠ 'i') :
    locale.upperOf c = Uppercase.ofChar c := by
  have hfalse : (c == 'i') = false := beq_false_of_ne h
  rw [upperOf, hfalse, Bool.false_and, if_neg Bool.false_ne_true]

/-- The uppercase of the small `i` keeps its point in Turkic languages. -/
theorem upperOf_small_i (locale : Locale) :
    locale.upperOf 'i' = [if locale.isTurkic then '\u0130' else 'I'] := by
  have hgeneral : Uppercase.ofChar 'i' = ['I'] := by decide
  rw [upperOf, beq_self_eq_true, Bool.true_and, hgeneral]
  split <;> rfl

variable (locale other : Locale)

/-- A character becomes equally many characters in all locales. -/
theorem length_upperOf (c : Char) : (locale.upperOf c).length = (other.upperOf c).length := by
  by_cases hi : c = 'i'
  · rw [hi, upperOf_small_i, upperOf_small_i, List.length_singleton, List.length_singleton]
  · rw [upperOf_of_ne locale hi, upperOf_of_ne other hi]

/-- The locale matters to the uppercase form of a small `i` only. -/
theorem upperOf_eq_iff (c : Char) :
    locale.upperOf c = other.upperOf c ↔ (c = 'i' → locale.isTurkic = other.isTurkic) := by
  by_cases hi : c = 'i'
  · rw [hi, upperOf_small_i, upperOf_small_i]
    cases locale.isTurkic <;> cases other.isTurkic <;> decide
  · rw [upperOf_of_ne locale hi, upperOf_of_ne other hi]
    exact iff_of_true rfl fun h => absurd h hi

/-! ## Texts -/

/-- A locale has no part in the length of a text in uppercase. -/
theorem length_uppercase (text : String) :
    (locale.uppercase text).toList.length = (other.uppercase text).toList.length := by
  simp only [uppercase_eq_flatMap, String.toList_ofList, List.length_flatMap,
    length_upperOf locale other]

/-- A text tells the locales apart in uppercase when it has a small `i` and just one of them
is Turkic. -/
theorem uppercase_eq_iff (text : String) :
    locale.uppercase text = other.uppercase text ↔
      ('i' ∈ text.toList → locale.isTurkic = other.isTurkic) := by
  rw [uppercase_eq_flatMap, uppercase_eq_flatMap, String.ofList_inj]
  induction text.toList with
  | nil => exact iff_of_true rfl nofun
  | cons c rest ih =>
      rw [List.flatMap_cons, List.flatMap_cons,
        append_eq_append_iff_of_length (length_upperOf locale other c), upperOf_eq_iff, ih,
        List.mem_cons, or_imp, eq_comm (a := c)]

/-- Two locales agree on a character unless it is the small `i` and only one of them is Turkic. -/
theorem uppercaseChar_eq_iff (c : Char) :
    locale.uppercaseChar c = other.uppercaseChar c ↔
      (c = 'i' → locale.isTurkic = other.isTurkic) := by
  rw [uppercaseChar, uppercaseChar, String.ofList_inj, upperOf_eq_iff]

end Locale

/-! ## Values -/

namespace ParameterValue

variable {κ : Type}

/-- A text or a character in which a small `i` is put in uppercase. -/
def RaisesI : ParameterValue κ → Prop
  | text value => value.uppercase = true ∧ 'i' ∈ value.text.toList
  | character value => value.uppercase = true ∧ value.char = 'i'
  | number _ => False
  | hex _ => False
  | custom _ => False

variable [CustomValue κ] {value : ParameterValue κ}

/-- A value is rendered to equally many characters in all locales. -/
theorem length_render (hcustom : ∀ own, value ≠ .custom own) (locale other : Locale) :
    (value.render locale).toList.length = (value.render other).toList.length := by
  cases value with
  | text value =>
      rw [render, render, TextValue.render, TextValue.render]
      split
      · exact Locale.length_uppercase locale other value.text
      · rfl
  | number value => rfl
  | character value =>
      rw [render, render, Character.render, Character.render]
      split
      · simpa [Locale.uppercaseChar] using Locale.length_upperOf locale other value.char
      · rfl
  | hex value => rfl
  | custom own => exact absurd rfl (hcustom own)

/-- A value is rendered alike in two locales, unless a small `i` is put in uppercase and just
one of them is Turkic. -/
theorem render_eq_iff (hcustom : ∀ own, value ≠ .custom own) (locale other : Locale) :
    value.render locale = value.render other ↔
      (value.RaisesI → locale.isTurkic = other.isTurkic) := by
  cases value with
  | text value =>
      rw [render, render, TextValue.render, TextValue.render, RaisesI]
      cases value.uppercase with
      | true => simpa using Locale.uppercase_eq_iff locale other value.text
      | false => simp
  | number value => exact iff_of_true rfl False.elim
  | character value =>
      rw [render, render, Character.render, Character.render, RaisesI]
      cases value.uppercase with
      | true => simpa using Locale.uppercaseChar_eq_iff locale other value.char
      | false => simp
  | hex value => exact iff_of_true rfl False.elim
  | custom own => exact absurd rfl (hcustom own)

end ParameterValue

/-! ## Segments -/

namespace Segment

variable {κ : Type}

/-- A value takes the place of a placeholder. -/
def Uses (parameters : ParameterSet κ) (segments : List Segment) (value : ParameterValue κ) :
    Prop :=
  ∃ name ∈ names segments, ∃ parameter, parameters.get? name = some parameter ∧
    parameter.value = value

theorem uses_nil (parameters : ParameterSet κ) (value : ParameterValue κ) :
    ¬ Uses parameters [] value := by
  rintro ⟨name, hname, -⟩
  exact absurd hname List.not_mem_nil

theorem uses_literal_cons {parameters : ParameterSet κ} {text : String} {range : ByteRange}
    {segments : List Segment} {value : ParameterValue κ} :
    Uses parameters (literal text range :: segments) value ↔ Uses parameters segments value := by
  simp [Uses, mem_names]

theorem uses_placeholder_cons {parameters : ParameterSet κ} {name : String} {range : ByteRange}
    {segments : List Segment} {parameter : Parameter κ} {value : ParameterValue κ}
    (hfound : parameters.get? name = some parameter) :
    Uses parameters (placeholder name range :: segments) value ↔
      parameter.value = value ∨ Uses parameters segments value := by
  simp only [Uses, mem_names, List.mem_cons, placeholder.injEq, exists_or, or_and_right]
  simp [hfound]

variable [CustomValue κ] {parameters : ParameterSet κ} {locale other : Locale}
  {segments : List Segment}

/-- The texts of segments in two locales are the same when every value in use is rendered
alike in both. -/
theorem join_eq_join_iff_of_shows (hcustom : ∀ own, ¬ Uses parameters segments (.custom own))
    {texts others : List String}
    (hshows : List.Forall₂ (Shows parameters locale) segments texts)
    (hothers : List.Forall₂ (Shows parameters other) segments others) :
    String.join texts = String.join others ↔
      ∀ value, Uses parameters segments value → value.RaisesI →
        locale.isTurkic = other.isTurkic := by
  induction hshows generalizing others with
  | nil =>
      cases hothers
      exact iff_of_true rfl fun value huses => absurd huses (uses_nil parameters value)
  | cons hshow _ ih =>
      cases hothers with
      | cons hother hrest =>
          rw [String.join_cons, String.join_cons]
          cases hshow with
          | literal text range =>
              cases hother
              simp only [uses_literal_cons] at hcustom ⊢
              rw [String.append_right_inj, ih hcustom hrest]
          | placeholder hfound =>
              cases hother with
              | placeholder hsame =>
                  obtain rfl := Option.some.inj (hfound.symm.trans hsame)
                  simp only [uses_placeholder_cons hfound, not_or, forall_and, or_imp,
                    forall_eq'] at hcustom ⊢
                  have hlength := ParameterValue.length_render hcustom.1 locale other
                  rw [← String.toList_inj, String.toList_append, String.toList_append,
                    Parameter.render, Parameter.render, append_eq_append_iff_of_length hlength,
                    String.toList_inj, String.toList_inj, ih hcustom.2 hrest,
                    ParameterValue.render_eq_iff hcustom.1]

/-- Segments that can be rendered are rendered alike in two locales, unless a small `i` is put
in uppercase and just one of the locales is Turkic. -/
theorem renderAll_eq_iff_of_locale (hcustom : ∀ own, ¬ Uses parameters segments (.custom own))
    {output : String} (hrender : renderAll parameters locale segments = .ok output) :
    renderAll parameters locale segments = renderAll parameters other segments ↔
      ∀ value, Uses parameters segments value → value.RaisesI →
        locale.isTurkic = other.isTurkic := by
  rcases renderAll_eq_ok_iff.mp hrender with ⟨texts, htexts, -⟩
  have hcontained := exists_renderAll_iff.mp ⟨output, hrender⟩
  have hshown : ∃ others, List.Forall₂ (Shows parameters other) segments others :=
    exists_shows hcontained
  rcases hshown with ⟨others, hothers⟩
  rw [renderAll_of_shows htexts, renderAll_of_shows hothers, Except.ok.injEq,
    join_eq_join_iff_of_shows hcustom htexts hothers]

/-- Segments that cannot be rendered fail alike in all locales, so the rule decides for them
too. -/
theorem renderAll_eq_of_turkic (hcustom : ∀ own, ¬ Uses parameters segments (.custom own))
    (hrule : ∀ value, Uses parameters segments value → value.RaisesI →
      locale.isTurkic = other.isTurkic) :
    renderAll parameters locale segments = renderAll parameters other segments := by
  cases hrender : renderAll parameters locale segments with
  | error error =>
      rw [renderAll_eq_error_iff] at hrender
      exact (renderAll_eq_error_iff.mpr hrender).symm
  | ok output =>
      rw [← hrender]
      exact (renderAll_eq_iff_of_locale hcustom hrender).mpr hrule

/-- Segments that use no value of a caller's own kind can be rendered in one locale when they
can be in another, and miss the same parameter otherwise.  The renderings are the same if
both locales are Turkic or neither is, and in any two locales if no small `i` is put in
uppercase.  There is no other case in which they are the same. -/
theorem renderAll_turkic_rule (hcustom : ∀ own, ¬ Uses parameters segments (.custom own))
    (locale other : Locale) :
    let sameRule := (locale.language = some "tr" ∨ locale.language = some "az") ↔
      (other.language = some "tr" ∨ other.language = some "az")
    let raisesNoI := ∀ value, Uses parameters segments value → ¬ value.RaisesI
    ((∃ output, renderAll parameters locale segments = .ok output) ↔
        ∃ output, renderAll parameters other segments = .ok output) ∧
      (∀ error, renderAll parameters locale segments = .error error ↔
        renderAll parameters other segments = .error error) ∧
      (∀ error, renderAll parameters locale segments = .error error →
        ∃ name, error = .missingParameter name) ∧
      (sameRule →
        renderAll parameters locale segments = renderAll parameters other segments) ∧
      (raisesNoI →
        renderAll parameters locale segments = renderAll parameters other segments) ∧
      ∀ output, renderAll parameters locale segments = .ok output →
        renderAll parameters other segments = .ok output → sameRule ∨ raisesNoI := by
  intro sameRule raisesNoI
  have hrule : locale.isTurkic = other.isTurkic ↔ sameRule := by
    rw [Bool.eq_iff_iff, Locale.isTurkic_iff, Locale.isTurkic_iff]
  refine ⟨?_, ?_, fun error => exists_missing_of_renderAll, ?_, ?_, ?_⟩
  · rw [exists_renderAll_iff, exists_renderAll_iff]
  · intro error
    rw [renderAll_eq_error_iff, renderAll_eq_error_iff]
  · intro hsame
    exact renderAll_eq_of_turkic hcustom fun value _ _ => hrule.mpr hsame
  · intro hnone
    exact renderAll_eq_of_turkic hcustom fun value huses hraises =>
      absurd hraises (hnone value huses)
  · intro output hrender hother
    have hdecided := (renderAll_eq_iff_of_locale hcustom hrender).mp (hrender.trans hother.symm)
    by_cases hsame : locale.isTurkic = other.isTurkic
    · exact .inl (hrule.mp hsame)
    · exact .inr fun value huses hraises => hsame (hdecided value huses hraises)

/-- A city in uppercase, in two Turkic locales and in the root locale.  The value of the
caller's own kind is not used. -/
theorem renderAll_turkic_rule_izmir :
    let _ : CustomValue Bool := ⟨fun _ locale => locale.tag⟩
    let parameters : ParameterSet Bool :=
      (ParameterSet.empty.insert ⟨"city", .text ⟨"izmir", true⟩⟩).addCustom "own" true
    let segments := [placeholder "city" ⟨0, 10⟩]
    (∀ own, ¬ Uses parameters segments (.custom own)) ∧
      renderAll parameters (.tagged "az" (some "Latn") none) segments = .ok "\u0130ZM\u0130R" ∧
      renderAll parameters (.tagged "az" (some "Latn") none) segments =
        renderAll parameters (.tagged "tr" none (some "TR")) segments ∧
      renderAll parameters .root segments = .ok "IZMIR" := by
  intro _ parameters segments
  have hcustom : ∀ own, ¬ Uses parameters segments (.custom own) := by
    rintro own ⟨name, hname, parameter, hfound, hvalue⟩
    obtain rfl : name = "city" := List.mem_singleton.mp hname
    have hcity : parameters.get? "city" = some ⟨"city", .text ⟨"izmir", true⟩⟩ := rfl
    obtain rfl := Option.some.inj (hfound.symm.trans hcity)
    contradiction
  have hsame := (renderAll_turkic_rule hcustom (.tagged "az" (some "Latn") none)
    (.tagged "tr" none (some "TR"))).2.2.2.1 (iff_of_true (.inr rfl) (.inl rfl))
  exact ⟨hcustom, by decide +kernel, hsame, by decide +kernel⟩

end Segment

end TextTemplate
