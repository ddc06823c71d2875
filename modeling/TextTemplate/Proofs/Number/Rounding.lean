import TextTemplate.Number.Decimal
import TextTemplate.Proofs.Number.Widening

/-!
# Rounding to the nearest number

A fraction is rounded to a whole significand, at the exponent at which its value has as many
digits as a significand can hold.  The result is representable, and it keeps to the side of
every representable number on which the fraction is: no such number below the fraction is
passed.  A whole number of more than 64 signed bits therefore stays outside of them when it is
rounded, or becomes infinite, and is brought back exactly to the bound.

Main results:

- Theorem `BinaryLayout.exists_significand`: what a fraction is rounded to.
- Theorem `BinaryLayout.represents_of_nearest?`: the result is representable.
- Theorem `BinaryLayout.toRat_le_of_nearest?`: representable numbers are not passed.
- Theorem `Binary64.truncate_ofRatio`: whole numbers from `2 ^ 63` on are truncated to a bound.
-/

namespace TextTemplate

/-- A quotient is rounded down, or up by one. -/
theorem roundHalfEven_bounds (numerator denominator : Nat) :
    numerator / denominator ≤ roundHalfEven numerator denominator ∧
      roundHalfEven numerator denominator ≤ numerator / denominator + 1 := by
  have hparity : numerator / denominator % 2 < 2 := Nat.mod_lt _ two_pos
  unfold roundHalfEven
  dsimp only
  split
  · omega
  · split <;> omega

namespace BinaryLayout

variable {layout : BinaryLayout}

/-! ## The quotient to be rounded -/

section Quotient

variable {q : ℚ} (hq : 0 < q)

include hq

/-- The digits before the point fit into a significand. -/
theorem floor_div_lt : ⌊q / 2 ^ layout.exponentOf q⌋₊ < 2 * layout.topBit := by
  have hlog : Int.log 2 q < layout.exponentOf q + (layout.fractionBits + 1 : ℕ) := by
    unfold exponentOf
    omega
  rw [← lt_two_zpow_iff hq, zpow_add₀ two_ne_zero, zpow_natCast] at hlog
  rw [Nat.floor_lt (by positivity), div_lt_iff₀ (by positivity), two_mul_topBit_eq, mul_comm]
  exact_mod_cast hlog

/-- Above the least exponent they fill it. -/
theorem topBit_le_floor_div (h : layout.leastExponent < layout.exponentOf q) :
    layout.topBit ≤ ⌊q / 2 ^ layout.exponentOf q⌋₊ := by
  have hlog : layout.exponentOf q + layout.fractionBits ≤ Int.log 2 q := by
    unfold exponentOf at h ⊢
    omega
  rw [← two_zpow_le_iff hq, zpow_add₀ two_ne_zero, zpow_natCast] at hlog
  rw [Nat.le_floor_iff (by positivity), le_div_iff₀ (by positivity), topBit_eq, mul_comm]
  exact_mod_cast hlog

end Quotient

/-! ## The result -/

section Nearest

variable {numerator denominator : Nat} (hd : 0 < denominator) {x : Dyadic}

include hd

/-- A positive fraction is rounded to a whole significand next to the quotient.  One that has
become a digit too long is halved. -/
theorem exists_significand (hn : 0 < numerator)
    (h : layout.nearest? numerator denominator = some x) :
    ∃ significand exponent, exponent = layout.exponentOf ((numerator : ℚ) / denominator) ∧
      ⌊(numerator : ℚ) / denominator / 2 ^ exponent⌋₊ ≤ significand ∧
      significand ≤ ⌊(numerator : ℚ) / denominator / 2 ^ exponent⌋₊ + 1 ∧
      (significand ≠ 2 * layout.topBit ∧ x = ⟨significand, exponent⟩ ∨
        significand = 2 * layout.topBit ∧ x = ⟨layout.topBit, exponent + 1⟩) ∧
      x.exponent ≤ layout.greatestExponent := by
  have hexponent : layout.exponentFor numerator denominator =
      layout.exponentOf ((numerator : ℚ) / denominator) := exponentFor_eq hn hd
  set e := layout.exponentOf ((numerator : ℚ) / denominator)
  have hfloor : numerator <<< (-e).toNat / denominator <<< e.toNat =
      ⌊(numerator : ℚ) / denominator / 2 ^ e⌋₊ := by
    rw [← shifted_div_shifted, Nat.floor_div_eq_div]
  have hbounds := roundHalfEven_bounds (numerator <<< (-e).toNat) (denominator <<< e.toNat)
  rw [hfloor] at hbounds
  rw [nearest?, if_neg hn.ne', hexponent] at h
  dsimp only at h
  refine ⟨_, e, rfl, hbounds.1, hbounds.2, ?_⟩
  split at h
  next htop =>
    split at h
    · contradiction
    next hgreatest =>
      obtain rfl := Option.some.inj h
      exact ⟨Or.inr ⟨htop, rfl⟩, not_lt.mp hgreatest⟩
  next htop =>
    split at h
    · contradiction
    next hgreatest =>
      obtain rfl := Option.some.inj h
      exact ⟨Or.inl ⟨htop, rfl⟩, not_lt.mp hgreatest⟩

/-- What a fraction is rounded to is representable. -/
theorem represents_of_nearest? (hcount : 3 ≤ layout.exponentCount)
    (h : layout.nearest? numerator denominator = some x) : layout.Represents x := by
  have htopBit : 0 < layout.topBit := by
    rw [topBit_eq]
    positivity
  rcases Nat.eq_zero_or_pos numerator with rfl | hn
  · rw [nearest?, if_pos rfl] at h
    obtain rfl := Option.some.inj h
    refine ⟨by simpa using htopBit, le_refl _, ?_, Or.inr rfl⟩
    dsimp only [greatestExponent]
    omega
  · have hq : (0 : ℚ) < (numerator : ℚ) / denominator := by positivity
    obtain ⟨significand, e, he, hlow, hhigh, hcases, hgreatest⟩ := exists_significand hd hn h
    have hleast : layout.leastExponent ≤ e := he ▸ le_max_left _ _
    have hfits : ⌊(numerator : ℚ) / denominator / 2 ^ e⌋₊ < 2 * layout.topBit :=
      he ▸ floor_div_lt hq
    have hfills : layout.leastExponent < e →
        layout.topBit ≤ ⌊(numerator : ℚ) / denominator / 2 ^ e⌋₊ :=
      he ▸ topBit_le_floor_div hq
    rcases hcases with ⟨hne, rfl⟩ | ⟨-, rfl⟩
    · refine ⟨?_, hleast, hgreatest, ?_⟩
      · dsimp only
        omega
      · rcases hleast.lt_or_eq with hlt | heq
        · exact Or.inl ((hfills hlt).trans hlow)
        · exact Or.inr heq.symm
    · exact ⟨by dsimp only; omega, by dsimp only; omega, hgreatest, Or.inl (le_refl _)⟩

/-- A number whose digits fit and that is not above a fraction is not above what the fraction
is rounded to. -/
theorem toRat_le_of_nearest? {y : Dyadic} (hsignificand : y.significand < 2 * layout.topBit)
    (hleast : layout.leastExponent ≤ y.exponent)
    (hle : y.toRat ≤ (numerator : ℚ) / denominator)
    (h : layout.nearest? numerator denominator = some x) : y.toRat ≤ x.toRat := by
  rcases Nat.eq_zero_or_pos numerator with rfl | hn
  · rw [Nat.cast_zero, zero_div] at hle
    exact hle.trans x.toRat_nonneg
  · have hq : (0 : ℚ) < (numerator : ℚ) / denominator := by positivity
    obtain ⟨significand, e, he, hlow, -, hcases, -⟩ := exists_significand hd hn h
    have hfills : layout.leastExponent < e →
        layout.topBit ≤ ⌊(numerator : ℚ) / denominator / 2 ^ e⌋₊ :=
      he ▸ topBit_le_floor_div hq
    have hvalue : x.toRat = significand * 2 ^ e := by
      rcases hcases with ⟨-, rfl⟩ | ⟨hsignificand, rfl⟩
      · rfl
      · rw [Dyadic.toRat, hsignificand, zpow_add_one₀ two_ne_zero]
        push_cast
        ring
    rw [hvalue]
    rcases le_or_gt e y.exponent with hexponent | hexponent
    · -- The number is a whole multiple of the unit of the significand.
      rw [← Dyadic.toRat_lowered hexponent] at hle ⊢
      have hwhole : (y.lowered e).significand ≤ significand := by
        refine le_trans (Nat.le_floor ?_) hlow
        rwa [le_div_iff₀ (by positivity)]
      have hcast : ((y.lowered e).significand : ℚ) ≤ significand := by exact_mod_cast hwhole
      exact mul_le_mul_of_nonneg_right hcast (by positivity)
    · -- The number has an exponent for itself, so it is smaller than all that need the next one.
      have htop : (layout.topBit : ℚ) ≤ significand := by
        exact_mod_cast (hfills (hleast.trans_lt hexponent)).trans hlow
      have hdigits : (y.significand : ℚ) ≤ layout.topBit * 2 := by
        exact_mod_cast (hsignificand.trans_eq (mul_comm _ _)).le
      calc y.toRat = y.significand * 2 ^ y.exponent := rfl
        _ ≤ layout.topBit * 2 * 2 ^ y.exponent := by gcongr
        _ = layout.topBit * 2 ^ (y.exponent + 1) := by
          rw [zpow_add_one₀ two_ne_zero]
          ring
        _ ≤ significand * 2 ^ e := by
          gcongr
          · exact one_le_two
          · omega

end Nearest

end BinaryLayout

/-! ## Whole numbers out of range -/

namespace Binary64

open BinaryLayout

/-- Truncation brings a number of `2 ^ 63` or more to the bound on its side. -/
theorem truncate_of_le_toRat {x : Dyadic} (h : 2 ^ 63 ≤ x.toRat) (negative : Bool) :
    (FloatValue.finite negative x.significand x.exponent).truncate Decimal.int64Least
      Decimal.int64Greatest =
        if negative then Decimal.int64Least else Decimal.int64Greatest := by
  have hwhole : (2 ^ 63 : ℤ) ≤ towardZero x.toRat := by
    rw [towardZero, if_pos x.toRat_nonneg, Int.le_floor]
    exact_mod_cast h
  rw [FloatValue.truncate_finite]
  cases negative with
  | false =>
      rw [withSign, if_neg Bool.false_ne_true, if_neg Bool.false_ne_true, Decimal.int64Least,
        Decimal.int64Greatest]
      omega
  | true =>
      rw [withSign, if_pos rfl, if_pos rfl, towardZero_neg, Decimal.int64Least,
        Decimal.int64Greatest]
      omega

/-- A whole number of `2 ^ 63` or more is brought to the bound on its side, although it is
rounded first. -/
theorem truncate_ofRatio {n : Nat} (h : 2 ^ 63 ≤ n) (negative : Bool) :
    (ofRatio negative n 1).value.truncate Decimal.int64Least Decimal.int64Greatest =
      if negative then Decimal.int64Least else Decimal.int64Greatest := by
  rw [ofRatio]
  cases hnearest : double.nearest? n 1 with
  | none => rw [value_infinity, FloatValue.truncate]
  | some x =>
      rw [value_ofDyadic (represents_of_nearest? one_pos (by decide) hnearest)]
      apply truncate_of_le_toRat
      have hbound : (⟨1, 63⟩ : Dyadic).toRat = 2 ^ 63 := by
        rw [Dyadic.toRat, Nat.cast_one, one_mul]
        rfl
      have hle : (⟨1, 63⟩ : Dyadic).toRat ≤ (n : ℚ) / (1 : ℕ) := by
        rw [hbound, Nat.cast_one, div_one]
        exact_mod_cast h
      rw [← hbound]
      exact toRat_le_of_nearest? one_pos (by decide) (by decide) hle hnearest

end Binary64

end TextTemplate
