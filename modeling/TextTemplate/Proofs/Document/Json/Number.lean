import TextTemplate.Document.Json.Number
import TextTemplate.Proofs.Number.Grammar

/-!
# The grammar of JSON numbers

A number is an optional minus, digits without a zero in front of others, an optional fraction and
an optional exponent.  The reader takes such a number off the front of a text, as far as it goes:
the next character is none that would belong to it.  Nothing behind that character has a part in
it.

Main results:

- Definition `Json.Numeral.IsWritten`: the texts of a number.
- Definition `Json.Numeral.Ends`: what may stand behind the text of a number.
- Theorem `Json.Numeral.read?_eq_some_iff`: what is taken off a text.
-/

namespace TextTemplate.Json.Numeral

open Decimal (IsSign isRun isRun_eq_true_iff)

/-! ## Digits -/

/-- A text does not go on with a digit. -/
def EndsDigits (rest : List Char) : Prop := ∀ c ∈ rest.head?, c.isDigit = false

/-- Digits are taken off a text up to the first other character, and there is at least one. -/
theorem readDigits?_eq_some_iff {text digits rest : List Char} :
    readDigits? text = some (digits, rest) ↔
      text = digits ++ rest ∧ isRun digits = true ∧ EndsDigits rest := by
  unfold readDigits?
  dsimp only
  constructor
  · intro h
    split at h
    next => contradiction
    next hnonempty =>
      cases h
      refine ⟨List.takeWhile_append_dropWhile.symm, ?_, ?_⟩
      · rw [isRun_eq_true_iff]
        exact ⟨by simpa using hnonempty, Decimal.isDigit_of_mem_leading⟩
      · intro c hc
        have hnot := List.head?_dropWhile_not Char.isDigit text
        rw [Decimal.afterLeading, Option.mem_def] at hc
        rwa [hc] at hnot
  · rintro ⟨rfl, hrun, hrest⟩
    obtain ⟨hnonempty, hdigits⟩ := isRun_eq_true_iff.mp hrun
    obtain ⟨hleading, hafter⟩ := Decimal.leading_append hdigits hrest
    rw [hleading, hafter, if_neg (by simpa using hnonempty)]

/-! ## The parts of a number -/

/-- A minus in front of a number, or nothing. -/
inductive IsMinus : List Char → Bool → Prop
  | absent : IsMinus [] false
  | minus : IsMinus ['-'] true

/-- The digits of a whole number: no zero in front of others. -/
structure IsWhole (digits : List Char) : Prop where
  isRun : isRun digits = true
  leading : digits.head? = some '0' → digits = ['0']

/-- A point with the digits of a fraction, or nothing. -/
inductive IsFraction : List Char → Option (List Char) → Prop
  | absent : IsFraction [] none
  | written {digits : List Char} (hrun : isRun digits = true) :
      IsFraction ('.' :: digits) (some digits)

/-- A letter with the sign and the digits of an exponent, or nothing. -/
inductive IsExponent : List Char → Option (Bool × List Char) → Prop
  | absent : IsExponent [] none
  | written {e : Char} {sign digits : List Char} {negative : Bool} (he : e = 'e' ∨ e = 'E')
      (hsign : IsSign sign negative) (hrun : isRun digits = true) :
      IsExponent (e :: (sign ++ digits)) (some (negative, digits))

/-- The text of a number. -/
inductive IsWritten : List Char → Numeral → Prop
  | parts {minus whole fractionText exponentText : List Char} {negative : Bool}
      {fraction : Option (List Char)} {exponent : Option (Bool × List Char)}
      (hminus : IsMinus minus negative) (hwhole : IsWhole whole)
      (hfraction : IsFraction fractionText fraction)
      (hexponent : IsExponent exponentText exponent) :
      IsWritten (minus ++ (whole ++ (fractionText ++ exponentText)))
        ⟨negative, whole, fraction, exponent⟩

/-- A text does not go on with an exponent. -/
def EndsExponent (rest : List Char) : Prop := ∀ c ∈ rest.head?, c ≠ 'e' ∧ c ≠ 'E'

/-- A text does not go on with a fraction. -/
def EndsFraction (rest : List Char) : Prop := ∀ c ∈ rest.head?, c ≠ '.'

/-- A text does not go on with what could still belong to a number. -/
structure Ends (numeral : Numeral) (rest : List Char) : Prop where
  digits : EndsDigits rest
  exponent : numeral.exponent = none → EndsExponent rest
  fraction : numeral.exponent = none → numeral.fraction = none → EndsFraction rest

/-- A minus is taken off a text that goes on with something else. -/
theorem readMinus_append {minus rest : List Char} {negative : Bool} (h : IsMinus minus negative)
    (hrest : ∀ c ∈ rest.head?, c ≠ '-') : readMinus (minus ++ rest) = (negative, rest) := by
  cases h with
  | absent =>
      rw [List.nil_append]
      unfold readMinus
      split
      next => exact absurd rfl (hrest '-' rfl)
      next => rfl
  | minus => rfl

/-- Every text begins with the minus that is taken off it, or with none. -/
theorem exists_isMinus (text : List Char) :
    ∃ minus, IsMinus minus (readMinus text).1 ∧ text = minus ++ (readMinus text).2 := by
  unfold readMinus
  split
  next rest => exact ⟨['-'], .minus, rfl⟩
  next => exact ⟨[], .absent, rfl⟩

/-- Digits are refused if they are more than one and the first is a zero. -/
theorem no_leading_zero_iff {digits : List Char} :
    (digits.head? == some '0' && decide (1 < digits.length)) = true ↔
      ¬ (digits.head? = some '0' → digits = ['0']) := by
  match digits with
  | [] => simp
  | [c] => simp
  | c :: d :: digits => simp

/-- A whole number is taken off a text up to the first character that is no digit. -/
theorem readWhole?_eq_some_iff {text whole rest : List Char} :
    readWhole? text = some (whole, rest) ↔
      text = whole ++ rest ∧ IsWhole whole ∧ EndsDigits rest := by
  unfold readWhole?
  simp only [Option.bind_eq_bind, Option.bind_eq_some_iff, Prod.exists, readDigits?_eq_some_iff,
    no_leading_zero_iff, Option.ite_none_left_eq_some, not_not, Option.some.injEq, Prod.mk.injEq]
  constructor
  · rintro ⟨digits, behind, ⟨htext, hrun, hends⟩, hleading, rfl, rfl⟩
    exact ⟨htext, ⟨hrun, hleading⟩, hends⟩
  · rintro ⟨htext, ⟨hrun, hleading⟩, hends⟩
    exact ⟨whole, rest, ⟨htext, hrun, hends⟩, hleading, rfl, rfl⟩

/-- A fraction is taken off a text, or there is no point in front of it. -/
theorem readFraction?_eq_some_iff {text rest : List Char} {fraction : Option (List Char)} :
    readFraction? text = some (fraction, rest) ↔
      ∃ taken, text = taken ++ rest ∧ IsFraction taken fraction ∧
        (fraction = none → EndsFraction rest) ∧ (fraction ≠ none → EndsDigits rest) := by
  constructor
  · intro h
    unfold readFraction? at h
    split at h
    next behind =>
      simp only [Option.bind_eq_bind, Option.bind_eq_some_iff, Prod.exists] at h
      obtain ⟨digits, rest', hread, h⟩ := h
      cases h
      obtain ⟨rfl, hrun, hends⟩ := readDigits?_eq_some_iff.mp hread
      exact ⟨'.' :: digits, rfl, .written hrun, fun h => absurd h (Option.some_ne_none _),
        fun _ => hends⟩
    next hnot =>
      cases h
      refine ⟨[], rfl, .absent, fun _ c hc => ?_, fun h => absurd rfl h⟩
      rintro rfl
      obtain ⟨behind, hbehind⟩ := List.head?_eq_some_iff.mp hc
      exact hnot behind hbehind
  · rintro ⟨taken, rfl, h, hfraction, hdigits⟩
    cases h with
    | absent =>
        rw [List.nil_append]
        unfold readFraction?
        split
        next => exact absurd rfl (hfraction rfl '.' rfl)
        next => rfl
    | written hrun =>
        rw [List.cons_append, readFraction?,
          readDigits?_eq_some_iff.mpr ⟨rfl, hrun, hdigits (Option.some_ne_none _)⟩]
        rfl

/-- Digits have no sign in front. -/
theorem unsigned_of_isRun {digits : List Char} (h : isRun digits = true) (rest : List Char) :
    Decimal.unsigned (digits ++ rest) = (false, digits ++ rest) := by
  obtain ⟨hnonempty, hdigits⟩ := isRun_eq_true_iff.mp h
  cases digits with
  | nil => contradiction
  | cons c digits =>
      have hc := hdigits c List.mem_cons_self
      refine Decimal.unsigned_cons ?_ ?_ _
      all_goals
        rintro rfl
        exact absurd hc (by decide)

/-- An exponent is taken off a text, or there is no letter for it in front. -/
theorem readExponent?_eq_some_iff {text rest : List Char} {exponent : Option (Bool × List Char)} :
    readExponent? text = some (exponent, rest) ↔
      ∃ taken, text = taken ++ rest ∧ IsExponent taken exponent ∧
        (exponent = none → EndsExponent rest) ∧ (exponent ≠ none → EndsDigits rest) := by
  constructor
  · intro h
    unfold readExponent? at h
    split at h
    next =>
      cases h
      exact ⟨[], rfl, .absent, fun _ => by simp [EndsExponent], fun h => absurd rfl h⟩
    next c behind =>
      split at h
      next he =>
        simp only [Option.bind_eq_bind, Option.bind_eq_some_iff, Prod.exists] at h
        obtain ⟨digits, rest', hread, h⟩ := h
        cases h
        obtain ⟨hbehind, hrun, hends⟩ := readDigits?_eq_some_iff.mp hread
        obtain ⟨sign, hsign, htext⟩ := Decimal.exists_isSign behind
        rw [hbehind] at htext
        refine ⟨c :: (sign ++ digits), ?_, .written (by simpa using he) hsign hrun,
          fun h => absurd h (Option.some_ne_none _), fun _ => hends⟩
        rw [htext, List.cons_append, List.append_assoc]
      next he =>
        cases h
        refine ⟨[], rfl, .absent, fun _ d hd => ?_, fun h => absurd rfl h⟩
        obtain rfl := Option.some.inj hd
        simpa using he
  · rintro ⟨taken, rfl, h, hexponent, hdigits⟩
    cases h with
    | absent =>
        rw [List.nil_append]
        cases rest with
        | nil => rfl
        | cons c rest =>
            have hc := hexponent rfl c rfl
            rw [readExponent?, if_neg (by simpa using hc)]
    | @written e sign digits negative he hsign hrun =>
        have hunsigned := Decimal.unsigned_append hsign (unsigned_of_isRun hrun rest)
        rw [List.cons_append, List.append_assoc, readExponent?, if_pos (by simpa using he),
          hunsigned]
        dsimp only
        rw [readDigits?_eq_some_iff.mpr ⟨rfl, hrun, hdigits (Option.some_ne_none _)⟩]
        rfl

/-! ## Numbers -/

/-- An exponent ends the digits in front of it. -/
theorem IsExponent.endsDigits {text rest : List Char} {exponent : Option (Bool × List Char)}
    (h : IsExponent text exponent) (hrest : EndsDigits rest) : EndsDigits (text ++ rest) := by
  cases h with
  | absent => exact hrest
  | written he =>
      rintro c ⟨⟩
      rcases he with rfl | rfl <;> rfl

theorem IsExponent.endsFraction {text rest : List Char} {exponent : Option (Bool × List Char)}
    (h : IsExponent text exponent) (hrest : exponent = none → EndsFraction rest) :
    EndsFraction (text ++ rest) := by
  cases h with
  | absent => exact hrest rfl
  | written he =>
      rintro c ⟨⟩
      rcases he with rfl | rfl <;> decide

/-- A fraction ends the digits in front of it. -/
theorem IsFraction.endsDigits {text rest : List Char} {fraction : Option (List Char)}
    (h : IsFraction text fraction) (hrest : EndsDigits rest) : EndsDigits (text ++ rest) := by
  cases h with
  | absent => exact hrest
  | written =>
      rintro c ⟨⟩
      rfl

/-- A number is taken off the front of a text, as far as it goes. -/
theorem read?_eq_some_iff {text rest : List Char} {numeral : Numeral} :
    read? text = some (numeral, rest) ↔
      ∃ taken, text = taken ++ rest ∧ IsWritten taken numeral ∧ numeral.Ends rest := by
  constructor
  · intro h
    unfold read? at h
    simp only [Option.bind_eq_bind, Option.bind_eq_some_iff, Prod.exists,
      readWhole?_eq_some_iff, readFraction?_eq_some_iff, readExponent?_eq_some_iff] at h
    obtain ⟨whole, afterWhole, ⟨hunsigned, hwhole, hends⟩, fraction, afterFraction,
      ⟨fractionText, rfl, hfraction, hnone, hsome⟩, exponent, behind,
      ⟨exponentText, rfl, hexponent, hnone', hsome'⟩, h⟩ := h
    cases h
    obtain ⟨minus, hminus, htext⟩ := exists_isMinus text
    rw [hunsigned] at htext
    refine ⟨_, ?_, .parts hminus hwhole hfraction hexponent, ?_, hnone', ?_⟩
    · simp only [htext, List.append_assoc]
    · -- The last part that is there is followed by no digit.
      cases hexponent with
      | written => exact hsome' (Option.some_ne_none _)
      | absent =>
          cases hfraction with
          | written => exact hsome (Option.some_ne_none _)
          | absent => exact hends
    · rintro rfl rfl
      cases hexponent
      exact hnone rfl
  · rintro ⟨taken, rfl, hwritten, hdigits, hexponentEnds, hfractionEnds⟩
    cases hwritten with
    | @parts minus whole fractionText exponentText negative fraction exponent hminus hwhole
        hfraction hexponent =>
        have hafter : EndsDigits (exponentText ++ rest) := hexponent.endsDigits hdigits
        have hread : readExponent? (exponentText ++ rest) = some (exponent, rest) :=
          readExponent?_eq_some_iff.mpr ⟨_, rfl, hexponent, hexponentEnds, fun _ => hdigits⟩
        have hread' : readFraction? (fractionText ++ (exponentText ++ rest)) =
            some (fraction, exponentText ++ rest) :=
          readFraction?_eq_some_iff.mpr ⟨_, rfl, hfraction,
            fun h => hexponent.endsFraction fun h' => hfractionEnds h' h, fun _ => hafter⟩
        have hread'' : readWhole? (whole ++ (fractionText ++ (exponentText ++ rest))) =
            some (whole, fractionText ++ (exponentText ++ rest)) :=
          readWhole?_eq_some_iff.mpr ⟨rfl, hwhole, hfraction.endsDigits hafter⟩
        have hfirst : ∀ c ∈ (whole ++ (fractionText ++ (exponentText ++ rest))).head?, c ≠ '-' := by
          obtain ⟨hnonempty, hrun⟩ := isRun_eq_true_iff.mp hwhole.isRun
          intro c hc
          rw [List.head?_append_of_ne_nil _ hnonempty] at hc
          rintro rfl
          exact absurd (hrun '-' (List.mem_of_mem_head? hc)) (by decide)
        unfold read?
        simp only [List.append_assoc, readMinus_append hminus hfirst, Option.bind_eq_bind,
          hread'', Option.bind_some, hread', hread]

/-- The text of a number is not empty, and ends in a digit. -/
theorem IsWritten.exists_digit {text : List Char} {numeral : Numeral} (h : IsWritten text numeral) :
    ∃ c, text.getLast? = some c ∧ c.isDigit = true := by
  have hlast : ∀ {digits : List Char} (front : List Char), isRun digits = true →
      ∃ c, (front ++ digits).getLast? = some c ∧ c.isDigit = true := by
    intro digits front hrun
    obtain ⟨hnonempty, hdigits⟩ := isRun_eq_true_iff.mp hrun
    rw [List.getLast?_append_of_ne_nil _ hnonempty]
    exact ⟨_, List.getLast?_eq_some_getLast hnonempty, hdigits _ (List.getLast_mem hnonempty)⟩
  cases h with
  | @parts minus whole fractionText exponentText negative fraction exponent hminus hwhole
      hfraction hexponent =>
      cases hexponent with
      | @written e sign digits negative he hsign hrun =>
          simpa using hlast (minus ++ (whole ++ (fractionText ++ e :: sign))) hrun
      | absent =>
          cases hfraction with
          | @written digits hrun => simpa using hlast (minus ++ (whole ++ ['.'])) hrun
          | absent => simpa using hlast minus hwhole.isRun

end TextTemplate.Json.Numeral
