import Mathlib.Algebra.Order.Field.Power
import Mathlib.Algebra.Order.Floor.Semifield
import Mathlib.Data.Int.Log
import Mathlib.Data.Rat.Floor
import Mathlib.Tactic.FieldSimp
import Mathlib.Tactic.Linarith
import TextTemplate.Number.Binary

/-!
# Values of binary patterns

A floating-point number is read from the fields of its pattern: the sign, the biased exponent
and the fraction.  Here the fields are bits of the pattern, the value is a rational number, and
dropping the fraction of a number is rounding it toward zero.  What is read and what is left
without the fraction agree with these exactly.

Main results:

- Definition `BinaryLayout.exactValue`: the rational value of a finite pattern.
- Theorem `BinaryLayout.decode_of_isFinite`: a finite pattern is decoded to its exact value;
  `BinaryLayout.decode_of_isNan` and `BinaryLayout.decode_of_isInfinite` are about the others.
- Theorem `FloatValue.truncate_finite`: the fraction is dropped exactly, and the bounds come
  afterwards.
-/

namespace TextTemplate

/-! ## Exact values -/

/-- The value as a rational number. -/
def Dyadic.toRat (x : Dyadic) : ℚ := x.significand * 2 ^ x.exponent

/-- A power of two with any exponent as a fraction of two whole numbers. -/
theorem two_zpow_eq_div (k : ℤ) : (2 : ℚ) ^ k = (2 ^ k.toNat : ℕ) / (2 ^ (-k).toNat : ℕ) := by
  conv_lhs => rw [← Int.toNat_sub_toNat_neg k]
  rw [zpow_sub₀ two_ne_zero, zpow_natCast, zpow_natCast, Nat.cast_pow, Nat.cast_pow, Nat.cast_ofNat]

/-- A fraction whose parts are shifted is divided by a power of two. -/
theorem shifted_div_shifted (numerator denominator : Nat) (k : ℤ) :
    ((numerator <<< (-k).toNat : ℕ) : ℚ) / (denominator <<< k.toNat : ℕ) =
      numerator / denominator / 2 ^ k := by
  rw [two_zpow_eq_div, Nat.shiftLeft_eq, Nat.shiftLeft_eq, Nat.cast_mul, Nat.cast_mul]
  have h1 : ((2 ^ k.toNat : ℕ) : ℚ) ≠ 0 := by positivity
  have h2 : ((2 ^ (-k).toNat : ℕ) : ℚ) ≠ 0 := by positivity
  by_cases hd : (denominator : ℚ) = 0
  · simp [hd]
  · field_simp

theorem Dyadic.denominator_pos (x : Dyadic) : 0 < x.denominator := by
  rw [denominator, Nat.one_shiftLeft]
  exact Nat.two_pow_pos _

/-- The value as the fraction that is divided out. -/
theorem Dyadic.toRat_eq (x : Dyadic) : x.toRat = x.numerator / x.denominator := by
  rw [toRat, two_zpow_eq_div, numerator, denominator, Nat.shiftLeft_eq, Nat.one_shiftLeft,
    Nat.cast_mul, mul_div_assoc]

/-- Values have no sign. -/
theorem Dyadic.toRat_nonneg (x : Dyadic) : 0 ≤ x.toRat := by
  rw [toRat]
  positivity

/-! ## Dropping the fraction -/

/-- A number without its fraction: the next whole number on the way to zero. -/
def towardZero (q : ℚ) : ℤ := if 0 ≤ q then ⌊q⌋ else ⌈q⌉

/-- A sign has no part in what is dropped. -/
theorem towardZero_neg (q : ℚ) : towardZero (-q) = -towardZero q := by
  rcases lt_trichotomy q 0 with h | rfl | h
  · rw [towardZero, towardZero, if_pos (by linarith), if_neg (by linarith), Int.floor_neg]
  · simp [towardZero]
  · rw [towardZero, towardZero, if_neg (by linarith), if_pos h.le, Int.ceil_neg]

/-- Without its fraction a value is a quotient of whole numbers. -/
theorem towardZero_toRat (x : Dyadic) :
    towardZero x.toRat = (x.numerator / x.denominator : ℕ) := by
  rw [towardZero, if_pos x.toRat_nonneg, ← Int.natCast_floor_eq_floor x.toRat_nonneg, x.toRat_eq,
    Nat.floor_div_eq_div]

/-- A nonnegative value with a sign. -/
def withSign (negative : Bool) (q : ℚ) : ℚ := if negative then -q else q

/-- A finite number is truncated exactly, and then kept between the bounds. -/
theorem FloatValue.truncate_finite (least greatest : Int) (negative : Bool) (x : Dyadic) :
    (FloatValue.finite negative x.significand x.exponent).truncate least greatest =
      max least (min greatest (towardZero (withSign negative x.toRat))) := by
  have hwhole : towardZero (withSign negative x.toRat) =
      if negative then -((x.numerator / x.denominator : ℕ) : ℤ)
      else (x.numerator / x.denominator : ℕ) := by
    cases negative with
    | true => rw [withSign, if_pos rfl, if_pos rfl, towardZero_neg, towardZero_toRat]
    | false =>
        rw [withSign, if_neg Bool.false_ne_true, if_neg Bool.false_ne_true, towardZero_toRat]
  rw [hwhole]
  rfl

/-! ## Fields -/

namespace BinaryLayout

variable (layout : BinaryLayout)

theorem topBit_eq : layout.topBit = 2 ^ layout.fractionBits := Nat.one_shiftLeft _

theorem two_mul_topBit_eq : 2 * layout.topBit = 2 ^ (layout.fractionBits + 1) := by
  rw [topBit_eq, pow_succ']

theorem exponentCount_eq : layout.exponentCount = 2 ^ layout.exponentBits := Nat.one_shiftLeft _

/-- The number with a sign, a biased exponent and a fraction. -/
def ofFields (negative : Bool) (biased fraction : Nat) : FloatValue :=
  if biased = layout.exponentCount - 1 then
    if fraction = 0 then .infinite negative else .nan
  else if biased = 0 then .finite negative fraction layout.leastExponent
  else .finite negative (layout.topBit + fraction) (layout.leastExponent + (biased - 1 : Nat))

/-- Whole numbers are decoded by the fields that they are divided into. -/
theorem decode_eq_ofFields (bits : Nat) :
    layout.decode bits =
      layout.ofFields (bits / (layout.topBit * layout.exponentCount) % 2 == 1)
        (bits / layout.topBit % layout.exponentCount) (bits % layout.topBit) :=
  rfl

section Pattern

variable {width : Nat} (bits : BitVec width)

/-- The fraction: the lowest bits of a pattern. -/
def fractionField : Nat := (bits.extractLsb' 0 layout.fractionBits).toNat

/-- The biased exponent: the bits above the fraction. -/
def exponentField : Nat := (bits.extractLsb' layout.fractionBits layout.exponentBits).toNat

/-- The pattern of something that is not a number. -/
def IsNan : Prop :=
  layout.exponentField bits = 2 ^ layout.exponentBits - 1 ∧ layout.fractionField bits ≠ 0

/-- The pattern of an infinity. -/
def IsInfinite : Prop :=
  layout.exponentField bits = 2 ^ layout.exponentBits - 1 ∧ layout.fractionField bits = 0

/-- The pattern of a finite number. -/
def IsFinite : Prop := layout.exponentField bits ≠ 2 ^ layout.exponentBits - 1

/-- What is subtracted from a biased exponent. -/
def bias : ℤ := 2 ^ (layout.exponentBits - 1) - 1

/-- The value of a finite pattern.  The significand has a one before its point, unless the
biased exponent is zero. -/
def exactValue : ℚ :=
  withSign bits.msb
    (if layout.exponentField bits = 0 then
      layout.fractionField bits / 2 ^ layout.fractionBits * 2 ^ (1 - layout.bias)
    else
      (1 + layout.fractionField bits / 2 ^ layout.fractionBits) *
        2 ^ (layout.exponentField bits - layout.bias))

variable {layout bits}

/-- A pattern that has the width of its layout is decoded by its fields. -/
theorem decode_toNat (hwidth : width = layout.fractionBits + layout.exponentBits + 1) :
    layout.decode bits.toNat =
      layout.ofFields bits.msb (layout.exponentField bits) (layout.fractionField bits) := by
  have hsign : (bits.toNat / (layout.topBit * layout.exponentCount) % 2 == 1) = bits.msb := by
    subst hwidth
    rw [BitVec.msb_eq_getLsbD_last, Nat.add_sub_cancel, ← BitVec.testBit_toNat,
      Nat.testBit_eq_decide_div_mod_eq, pow_add, ← topBit_eq, ← exponentCount_eq]
    rfl
  rw [decode_eq_ofFields, hsign, exponentField, fractionField, BitVec.extractLsb'_toNat,
    BitVec.extractLsb'_toNat, topBit_eq, exponentCount_eq, Nat.shiftRight_eq_div_pow,
    Nat.shiftRight_zero]

/-- The exponent of numbers with biased exponent one. -/
theorem leastExponent_eq (hexponent : 0 < layout.exponentBits) :
    layout.leastExponent = 1 - layout.bias - layout.fractionBits := by
  obtain ⟨k, hk⟩ := Nat.exists_eq_add_of_le' hexponent
  rw [leastExponent, bias, exponentCount_eq, hk, pow_succ, Nat.mul_div_cancel _ two_pos,
    Nat.add_sub_cancel]
  push_cast
  ring

/-- A pattern with the greatest exponent and a fraction is not a number. -/
theorem decode_of_isNan (hwidth : width = layout.fractionBits + layout.exponentBits + 1)
    (h : layout.IsNan bits) : layout.decode bits.toNat = .nan := by
  rw [decode_toNat hwidth, ofFields, exponentCount_eq, if_pos h.1, if_neg h.2]

/-- A pattern with the greatest exponent and no fraction is an infinity. -/
theorem decode_of_isInfinite (hwidth : width = layout.fractionBits + layout.exponentBits + 1)
    (h : layout.IsInfinite bits) : layout.decode bits.toNat = .infinite bits.msb := by
  rw [decode_toNat hwidth, ofFields, exponentCount_eq, if_pos h.1, if_pos h.2]

/-- A finite pattern is decoded to its exact value. -/
theorem decode_of_isFinite (hwidth : width = layout.fractionBits + layout.exponentBits + 1)
    (hexponent : 0 < layout.exponentBits) (h : layout.IsFinite bits) :
    ∃ x : Dyadic, layout.decode bits.toNat = .finite bits.msb x.significand x.exponent ∧
      withSign bits.msb x.toRat = layout.exactValue bits := by
  rw [decode_toNat hwidth, ofFields, exponentCount_eq, if_neg h, exactValue]
  by_cases hzero : layout.exponentField bits = 0
  · refine ⟨⟨layout.fractionField bits, layout.leastExponent⟩, ?_, ?_⟩
    · rw [if_pos hzero]
    · rw [if_pos hzero, Dyadic.toRat, leastExponent_eq hexponent, zpow_sub₀ two_ne_zero,
        zpow_natCast]
      congr 1
      ring
  · refine ⟨⟨layout.topBit + layout.fractionField bits,
      layout.leastExponent + (layout.exponentField bits - 1 : Nat)⟩, ?_, ?_⟩
    · rw [if_neg hzero]
    · have hexp : layout.leastExponent + (layout.exponentField bits - 1 : Nat) =
          layout.exponentField bits - layout.bias - layout.fractionBits := by
        rw [leastExponent_eq hexponent]
        omega
      rw [if_neg hzero, Dyadic.toRat, hexp, zpow_sub₀ two_ne_zero, zpow_natCast, topBit_eq]
      congr 1
      push_cast
      field_simp

end Pattern

end BinaryLayout

end TextTemplate
