import Mathlib.Data.List.TakeWhile
import TextTemplate.Number.Literal
import TextTemplate.Proofs.Number.Rounding

/-!
# Whole numbers in literals

A literal for a whole number is a run of decimal digits, with a sign in front of it or without
one, of any length and with any number of leading zeros.  It is read exactly where the number
has 64 signed bits; any other one can still be read as a floating-point number, which may be
rounded but does not come back into the range of these bits.

Main results:

- Definition `Decimal.IsLiteral`: the literals of a whole number.
- Theorem `Decimal.int64?_of_isLiteral`: which of them are read exactly.
- Theorem `FloatLiteral.exists_read?_of_isLiteral`: all others are read too, and are brought to
  a bound when the fraction is dropped.
-/

namespace TextTemplate

namespace Decimal

/-! ## Literals -/

/-- A text of one or more digits, with a plus, a minus or no sign in front, and the whole number
that it stands for. -/
inductive IsLiteral : List Char → ℤ → Prop
  | plain {digits : List Char} (hnonempty : digits ≠ [])
      (hdigits : ∀ c ∈ digits, c.isDigit = true) : IsLiteral digits (value digits)
  | plus {digits : List Char} (hnonempty : digits ≠ [])
      (hdigits : ∀ c ∈ digits, c.isDigit = true) : IsLiteral ('+' :: digits) (value digits)
  | minus {digits : List Char} (hnonempty : digits ≠ [])
      (hdigits : ∀ c ∈ digits, c.isDigit = true) : IsLiteral ('-' :: digits) (-value digits)

theorem isRun_eq_true_iff {digits : List Char} :
    isRun digits = true ↔ digits ≠ [] ∧ ∀ c ∈ digits, c.isDigit = true := by
  rw [isRun, Bool.and_eq_true, List.all_eq_true, Bool.not_eq_true', List.isEmpty_eq_false_iff]

/-- A digit is no sign. -/
theorem unsigned_of_isDigit {digits : List Char} (hdigits : ∀ c ∈ digits, c.isDigit = true) :
    unsigned digits = (false, digits) := by
  unfold unsigned
  split
  next rest => exact absurd (hdigits '-' List.mem_cons_self) (by decide)
  next rest => exact absurd (hdigits '+' List.mem_cons_self) (by decide)
  next => rfl

/-- The sign and the digits of a literal. -/
theorem IsLiteral.exists_unsigned {literal : List Char} {n : ℤ} (h : IsLiteral literal n) :
    ∃ negative digits, unsigned literal = (negative, digits) ∧ digits ≠ [] ∧
      (∀ c ∈ digits, c.isDigit = true) ∧ n = signed negative (value digits) := by
  cases h with
  | plain hnonempty hdigits =>
      exact ⟨false, literal, unsigned_of_isDigit hdigits, hnonempty, hdigits, rfl⟩
  | @plus digits hnonempty hdigits => exact ⟨false, digits, rfl, hnonempty, hdigits, rfl⟩
  | @minus digits hnonempty hdigits => exact ⟨true, digits, rfl, hnonempty, hdigits, rfl⟩

/-! ## Words -/

/-- A literal is read exactly where its number has 64 signed bits. -/
theorem int64?_of_isLiteral {literal : List Char} {n : ℤ} (h : IsLiteral literal n) :
    int64? literal = toInt64? n := by
  obtain ⟨negative, digits, hunsigned, hnonempty, hdigits, rfl⟩ := h.exists_unsigned
  have hrun : isRun digits = true := isRun_eq_true_iff.mpr ⟨hnonempty, hdigits⟩
  unfold int64?
  rw [hunsigned]
  exact if_pos hrun

/-- A number of 64 signed bits is kept as it is. -/
theorem exists_toInt64? {n : ℤ} (h : int64Least ≤ n ∧ n ≤ int64Greatest) :
    ∃ word : Int64, toInt64? n = some word ∧ word.toInt = n := by
  refine ⟨Int64.ofInt n, if_pos h, Int64.toInt_ofInt_of_le ?_ ?_⟩
  · exact h.1
  · exact Int.lt_of_le_sub_one h.2

/-- Every word is the number that it is read from. -/
theorem toInt64?_toInt (word : Int64) : toInt64? word.toInt = some word := by
  have hleast : int64Least ≤ word.toInt := word.le_toInt
  have hgreatest : word.toInt ≤ int64Greatest := Int.le_sub_one_of_lt word.toInt_lt
  rw [toInt64?, if_pos ⟨hleast, hgreatest⟩, Int64.ofInt_toInt]

end Decimal

/-! ## Floating-point numbers -/

/-- A whole number of `2 ^ 63` or more is brought to the bound on its side, whether it is rounded
or known to be infinite from the number of its digits. -/
theorem Binary64.truncate_ofDecimal {n : Nat} (h : 2 ^ 63 ≤ n) (negative : Bool) :
    (ofDecimal negative n 0).value.truncate Decimal.int64Least Decimal.int64Greatest =
      if negative then Decimal.int64Least else Decimal.int64Greatest := by
  have hsmall : ¬ (n = 0 ∨ ((Decimal.digits n).length : ℤ) + 0 < -400) := by omega
  unfold ofDecimal
  dsimp only
  rw [if_neg hsmall]
  split
  · rw [value_infinity, FloatValue.truncate]
  · have hnumerator : n * Decimal.powerOfTen (0 : ℤ).toNat = n := Nat.mul_one n
    rw [hnumerator]
    exact truncate_ofRatio h negative

namespace FloatLiteral

open Decimal (IsLiteral)

/-- A run of digits has no point, no fraction and no exponent. -/
theorem readNumber?_of_isDigit {digits : List Char} (hnonempty : digits ≠ [])
    (hdigits : ∀ c ∈ digits, c.isDigit = true) (negative : Bool) :
    readNumber? negative digits =
      some (Binary64.ofDecimal negative (Decimal.value digits) 0) := by
  have hleading : Decimal.leading digits = digits := List.takeWhile_eq_self_iff.mpr hdigits
  have hafter : Decimal.afterLeading digits = [] := List.dropWhile_eq_nil_iff.mpr hdigits
  have hread : readDigits digits = (digits, [], []) := by
    unfold readDigits
    rw [hafter, hleading]
  unfold readNumber?
  rw [hread]
  simp [hnonempty, readExponent?]

/-- A literal for a whole number beyond 64 signed bits is read as a floating-point number, which
is truncated to the bound on the side of the number. -/
theorem exists_read?_of_isLiteral {literal : List Char} {n : ℤ} (h : IsLiteral literal n)
    (hrange : ¬ (Decimal.int64Least ≤ n ∧ n ≤ Decimal.int64Greatest)) :
    ∃ x : Binary64, read? literal = some x ∧
      x.value.truncate Decimal.int64Least Decimal.int64Greatest =
        max Decimal.int64Least (min Decimal.int64Greatest n) := by
  obtain ⟨negative, digits, hunsigned, hnonempty, hdigits, rfl⟩ := h.exists_unsigned
  refine ⟨Binary64.ofDecimal negative (Decimal.value digits) 0, ?_, ?_⟩
  · unfold read?
    rw [hunsigned]
    dsimp only
    rw [readNumber?_of_isDigit hnonempty hdigits]
    rfl
  · have hleast : Decimal.int64Least = -2 ^ 63 := rfl
    have hgreatest : Decimal.int64Greatest = 2 ^ 63 - 1 := rfl
    -- Beyond either bound the magnitude is large enough.
    cases negative with
    | false =>
        rw [Decimal.signed, if_neg Bool.false_ne_true] at hrange ⊢
        have hlarge : 2 ^ 63 ≤ Decimal.value digits := by omega
        rw [Binary64.truncate_ofDecimal hlarge, if_neg Bool.false_ne_true]
        omega
    | true =>
        rw [Decimal.signed, if_pos rfl] at hrange ⊢
        have hlarge : 2 ^ 63 ≤ Decimal.value digits := by omega
        rw [Binary64.truncate_ofDecimal hlarge, if_pos rfl]
        omega

end FloatLiteral

end TextTemplate
