import Mathlib.Algebra.Order.Ring.Int
import Mathlib.Data.List.Basic
import Mathlib.Data.List.Induction
import TextTemplate.Number.Decimal

/-!
# Canonical decimals

A whole number has one canonical decimal: digits without a leading zero, unless zero itself
is meant, and a minus in front of them where the number is negative.  The canonical decimal
is what is written for the number, and no other text is one.

Main results:

- Definition `Decimal.IsNumeral` and definition `Decimal.IsCanonical`: the canonical texts of
  natural and of whole numbers.
- Theorem `Decimal.isNumeral_iff` and theorem `Decimal.isCanonical_iff`: these are the texts
  that are written.
- Theorem `Decimal.IsCanonical.isDigit_or_minus`: there is nothing but digits and a minus.
- Theorem `Decimal.IsCanonical.ne_minus_zero`: zero has no minus.
-/

namespace TextTemplate.Decimal

/-! ## Natural numbers -/

/-- A text of digits that stands for a natural number, without a leading zero unless zero is
meant. -/
structure IsNumeral (text : List Char) (n : Nat) : Prop where
  nonempty : text ≠ []
  digits : ∀ c ∈ text, c.isDigit = true
  leading : text.head? = some '0' → text = ['0']
  value : value text = n

theorem value_concat (text : List Char) (c : Char) :
    value (text ++ [c]) = 10 * value text + digitValue c := by
  rw [value, List.foldl_append, List.foldl_cons, List.foldl_nil, value]

/-- A digit stands for a number below ten and is written for it. -/
theorem digitChar_digitValue {c : Char} (h : c.isDigit = true) :
    digitValue c < 10 ∧ (digitValue c).digitChar = c := by
  have hzero : '0'.toNat = 48 := rfl
  have hnine : '9'.toNat = 57 := rfl
  rw [Char.isDigit_iff_toNat, hzero, hnine] at h
  have hvalue : digitValue c = c.toNat - 48 := rfl
  have hlt : digitValue c < 10 := by omega
  refine ⟨hlt, Char.toNat_inj.mp ?_⟩
  rw [Nat.toNat_digitChar_of_lt_ten hlt]
  omega

/-- No positive number is written with a zero in front. -/
theorem head?_digits_ne_zero {n : Nat} (h : 0 < n) : (digits n).head? ≠ some '0' := by
  induction n using Nat.strong_induction_on with
  | _ n ih =>
    rw [digits, Nat.toDigits_eq_if (by decide)]
    split
    next =>
      rw [List.head?_cons, ne_eq, Option.some.injEq, Nat.digitChar_eq_zero]
      omega
    next hlarge =>
      rw [List.head?_append_of_ne_nil _ Nat.toDigits_ne_nil]
      exact ih (n / 10) (by omega) (by omega)

/-- What is written for a number is a numeral of it. -/
theorem isNumeral_digits (n : Nat) : IsNumeral (digits n) n where
  nonempty := Nat.toDigits_ne_nil
  digits := fun c hc => Nat.isDigit_of_mem_toDigits (by decide) (by decide) hc
  leading := by
    intro hzero
    rcases Nat.eq_zero_or_pos n with rfl | hpos
    · rfl
    · exact absurd hzero (head?_digits_ne_zero hpos)
  value := Nat.ofDigitChars_ten_toDigits

/-- A numeral is what is written for its value. -/
theorem digits_value {text : List Char} (hnonempty : text ≠ [])
    (hdigits : ∀ c ∈ text, c.isDigit = true) (hleading : text.head? = some '0' → text = ['0']) :
    digits (value text) = text := by
  induction text using List.reverseRecOn with
  | nil => contradiction
  | append_singleton front c ih =>
      have hdigit := digitChar_digitValue (hdigits c (List.mem_append_right _ List.mem_cons_self))
      have hlast : Nat.toDigits 10 (digitValue c) = [c] := by
        rw [Nat.toDigits_of_lt_base hdigit.1, hdigit.2]
      rcases eq_or_ne front [] with rfl | hfront
      · rw [value_concat, value, List.foldl_nil, Nat.mul_zero, Nat.zero_add, digits, hlast,
          List.nil_append]
      · -- The first digit is not a zero, so the digits before the last one are a numeral too,
        -- and of a positive number.
        have hzero : front.head? ≠ some '0' := by
          intro hzero
          rw [List.head?_append_of_ne_nil _ hfront] at hleading
          have hlength := congrArg List.length (hleading hzero)
          rw [List.length_append, List.length_singleton, List.length_singleton] at hlength
          exact hfront (List.length_eq_zero_iff.mp (by omega))
        have hrest := ih hfront (fun d hd => hdigits d (List.mem_append_left _ hd))
          (fun h => absurd h hzero)
        have hpos : 0 < value front := by
          rw [Nat.pos_iff_ne_zero]
          intro hvalue
          rw [hvalue] at hrest
          exact hzero (hrest ▸ rfl)
        rw [value_concat, digits, ← Nat.toDigits_append_toDigits (by decide) hpos hdigit.1, hlast]
        exact congrArg (· ++ [c]) hrest

/-- The numeral of a number is what is written for it. -/
theorem isNumeral_iff {text : List Char} {n : Nat} : IsNumeral text n ↔ text = digits n := by
  constructor
  · rintro ⟨hnonempty, hdigits, hleading, rfl⟩
    exact (digits_value hnonempty hdigits hleading).symm
  · rintro rfl
    exact isNumeral_digits n

/-! ## Whole numbers -/

/-- The canonical decimal of a whole number: a numeral, behind a minus where the number is
negative. -/
inductive IsCanonical : String → Int → Prop
  | nonnegative {text : List Char} {n : Nat} (h : IsNumeral text n) :
      IsCanonical (String.ofList text) n
  | negative {text : List Char} {n : Nat} (h : IsNumeral text n) (hpos : 0 < n) :
      IsCanonical (String.ofList ('-' :: text)) (-n)

/-- The canonical decimal of a number is what is written for it. -/
theorem isCanonical_iff {text : String} {n : Int} : IsCanonical text n ↔ text = ofInt n := by
  constructor
  · intro h
    cases h with
    | nonnegative h =>
        rw [isNumeral_iff] at h
        rw [ofInt, if_neg (by omega), Int.natAbs_natCast, ofNat, h]
    | negative h hpos =>
        rw [isNumeral_iff] at h
        rw [ofInt, if_pos (by omega), Int.natAbs_neg, Int.natAbs_natCast, h]
  · rintro rfl
    rw [ofInt]
    split
    next hnegative =>
      have h := IsCanonical.negative (isNumeral_digits n.natAbs) (by omega)
      rwa [Int.ofNat_natAbs_of_nonpos hnegative.le, neg_neg] at h
    next hnonnegative =>
      have h := IsCanonical.nonnegative (isNumeral_digits n.natAbs)
      rwa [Int.natAbs_of_nonneg (by omega)] at h

/-- A canonical decimal holds digits and at most a minus: no point, no exponent. -/
theorem IsCanonical.isDigit_or_minus {text : String} {n : Int} (h : IsCanonical text n) :
    ∀ c ∈ text.toList, c.isDigit = true ∨ c = '-' := by
  intro c hc
  cases h with
  | nonnegative h =>
      rw [String.toList_ofList] at hc
      exact .inl (h.digits c hc)
  | negative h =>
      rw [String.toList_ofList] at hc
      rcases List.mem_cons.mp hc with rfl | hc
      · exact .inr rfl
      · exact .inl (h.digits c hc)

/-- Zero is written without a minus. -/
theorem IsCanonical.ne_minus_zero {text : String} {n : Int} (h : IsCanonical text n) :
    text ≠ "-0" := by
  intro hzero
  have hchars : text.toList = ['-', '0'] := by rw [hzero]; rfl
  cases h with
  | nonnegative h =>
      rw [String.toList_ofList] at hchars
      exact absurd (h.digits '-' (hchars ▸ List.mem_cons_self)) (by decide)
  | negative h hpos =>
      rw [String.toList_ofList] at hchars
      obtain rfl := (List.cons.inj hchars).2
      have hvalue := h.value
      rw [← hvalue] at hpos
      exact absurd hpos (by decide)

end TextTemplate.Decimal
