import TextTemplate.Proofs.Number.Binary

/-!
# Widening to double precision

A number is representable in a layout when its digits fit and its exponent is in range.  Such
a number is not rounded when the nearest representable number is asked for, and it is read
again from the pattern that is made for it.  Single precision has fewer digits and a smaller
range than double precision, so that widening leaves every number exactly as it is.

Main results:

- Theorem `BinaryLayout.exponentFor_eq`: the exponent is found by its logarithm.
- Theorem `BinaryLayout.nearest?_of_pos`: a number whose digits fit is not rounded.
- Theorem `BinaryLayout.decode_magnitudeBits`: a representable number is read again from its
  pattern.
- Theorem `Binary32.exists_value_widen`: widening is exact.
- Theorem `Binary32.truncate_widen`: the whole number without the fraction is the same.
-/

namespace TextTemplate

/-! ## Representable numbers -/

section Log

variable {q : ℚ} (hq : 0 < q) {k : ℤ}

include hq

theorem two_zpow_le_iff : (2 : ℚ) ^ k ≤ q ↔ k ≤ Int.log 2 q := by
  simpa using Int.zpow_le_iff_le_log (b := 2) one_lt_two hq

theorem lt_two_zpow_iff : q < (2 : ℚ) ^ k ↔ Int.log 2 q < k := by
  simpa using Int.lt_zpow_iff_log_lt (b := 2) one_lt_two hq

end Log

/-- The leading bits of a fraction determine its logarithm up to one. -/
theorem log_div_bounds {numerator denominator : Nat} (hn : 0 < numerator) (hd : 0 < denominator) :
    (Nat.log2 numerator : ℤ) - Nat.log2 denominator - 1 ≤
        Int.log 2 ((numerator : ℚ) / denominator) ∧
      Int.log 2 ((numerator : ℚ) / denominator) ≤
        (Nat.log2 numerator : ℤ) - Nat.log2 denominator := by
  have hnq : (0 : ℚ) < numerator := by exact_mod_cast hn
  have hdq : (0 : ℚ) < denominator := by exact_mod_cast hd
  have hnlow : (2 : ℚ) ^ (Nat.log2 numerator : ℤ) ≤ numerator := by
    exact_mod_cast Nat.log2_self_le hn.ne'
  have hnhigh : (numerator : ℚ) < 2 ^ ((Nat.log2 numerator : ℤ) + 1) := by
    exact_mod_cast Nat.lt_log2_self (n := numerator)
  have hdlow : (2 : ℚ) ^ (Nat.log2 denominator : ℤ) ≤ denominator := by
    exact_mod_cast Nat.log2_self_le hd.ne'
  have hdhigh : (denominator : ℚ) < 2 ^ ((Nat.log2 denominator : ℤ) + 1) := by
    exact_mod_cast Nat.lt_log2_self (n := denominator)
  constructor
  · rw [← two_zpow_le_iff (div_pos hnq hdq), sub_sub, zpow_sub₀ two_ne_zero]
    exact div_le_div₀ hnq.le hnlow hdq hdhigh.le
  · rw [← Int.lt_add_one_iff, ← lt_two_zpow_iff (div_pos hnq hdq), sub_add_eq_add_sub,
      zpow_sub₀ two_ne_zero]
    exact div_lt_div₀ hnhigh hdlow (by positivity) (by positivity)

/-- The number with another exponent and as many more bits in its significand. -/
def Dyadic.lowered (x : Dyadic) (k : ℤ) : Dyadic :=
  ⟨x.significand * 2 ^ (x.exponent - k).toNat, k⟩

/-- A lower exponent leaves the value as it is. -/
theorem Dyadic.toRat_lowered {x : Dyadic} {k : ℤ} (h : k ≤ x.exponent) :
    (x.lowered k).toRat = x.toRat := by
  have hexponent : x.exponent = (x.exponent - k).toNat + k := by omega
  rw [toRat, toRat, lowered]
  conv_rhs => rw [hexponent, zpow_add₀ two_ne_zero, zpow_natCast]
  push_cast
  ring

/-- The bits of the significand are counted by the logarithm of the value. -/
theorem Dyadic.log_lt_iff {x : Dyadic} (hpos : 0 < x.toRat) (n : ℕ) :
    Int.log 2 x.toRat < x.exponent + n ↔ x.significand < 2 ^ n := by
  rw [← lt_two_zpow_iff hpos, toRat, zpow_add₀ two_ne_zero, mul_comm,
    mul_lt_mul_iff_right₀ (by positivity), zpow_natCast]
  norm_cast

/-- A quotient without a remainder is not rounded. -/
theorem roundHalfEven_mul {denominator : Nat} (h : 0 < denominator) (n : Nat) :
    roundHalfEven (n * denominator) denominator = n := by
  rw [roundHalfEven]
  simp only [Nat.mul_mod_left, Nat.mul_zero, if_pos h]
  exact Nat.mul_div_cancel n h

namespace BinaryLayout

variable (layout : BinaryLayout)

/-- The exponent at which a value has a significand with the fixed top bit, or the least exponent
where that is too low. -/
def exponentOf (q : ℚ) : ℤ := max layout.leastExponent (Int.log 2 q - layout.fractionBits)

/-- The number can be written in the layout, with the fixed top bit or with the least exponent. -/
structure Represents (x : Dyadic) : Prop where
  significand_lt : x.significand < 2 * layout.topBit
  least_le : layout.leastExponent ≤ x.exponent
  le_greatest : x.exponent ≤ layout.greatestExponent
  top : layout.topBit ≤ x.significand ∨ x.exponent = layout.leastExponent

variable {layout}

/-- The exponent that is chosen for a fraction. -/
theorem exponentFor_eq {numerator denominator : Nat} (hn : 0 < numerator) (hd : 0 < denominator) :
    layout.exponentFor numerator denominator =
      layout.exponentOf ((numerator : ℚ) / denominator) := by
  have hq : (0 : ℚ) < (numerator : ℚ) / denominator := by positivity
  obtain ⟨hlow, hhigh⟩ := log_div_bounds hn hd
  rw [exponentFor, exponentOf]
  set estimate : ℤ := Nat.log2 numerator - Nat.log2 denominator - layout.fractionBits - 1
    with hestimate
  have hsignificand : numerator <<< (-estimate).toNat / denominator <<< estimate.toNat =
      ⌊(numerator : ℚ) / denominator / 2 ^ estimate⌋₊ := by
    rw [← shifted_div_shifted, Nat.floor_div_eq_div]
  -- The estimate is too low by one when the significand has one bit too many.
  have htop : ⌊(numerator : ℚ) / denominator / 2 ^ estimate⌋₊ < 2 * layout.topBit ↔
      Int.log 2 ((numerator : ℚ) / denominator) < estimate + layout.fractionBits + 1 := by
    rw [Nat.floor_lt (by positivity), div_lt_iff₀ (by positivity), ← lt_two_zpow_iff hq,
      topBit_eq, add_assoc, zpow_add₀ two_ne_zero, mul_comm]
    norm_cast
    rw [pow_succ, mul_comm 2]
  rw [hsignificand]
  congr 1
  split
  next hsmall =>
    rw [htop] at hsmall
    omega
  next hlarge =>
    rw [htop] at hlarge
    omega

section Exact

variable {x : Dyadic} (hpos : 0 < x.toRat)

include hpos

/-- The exponent that a value needs is no higher than that of a number whose digits fit. -/
theorem exponentOf_le (hsignificand : x.significand < 2 * layout.topBit)
    (hleast : layout.leastExponent ≤ x.exponent) : layout.exponentOf x.toRat ≤ x.exponent := by
  rw [two_mul_topBit_eq, ← Dyadic.log_lt_iff hpos, Nat.cast_succ] at hsignificand
  rw [exponentOf]
  omega

/-- A number at the exponent that its value needs is in the form of the layout. -/
theorem represents_lowered (hle : layout.exponentOf x.toRat ≤ x.exponent)
    (hgreatest : x.exponent ≤ layout.greatestExponent) :
    layout.Represents (x.lowered (layout.exponentOf x.toRat)) := by
  set y := x.lowered (layout.exponentOf x.toRat)
  have hvalue : y.toRat = x.toRat := Dyadic.toRat_lowered hle
  have hexponent : y.exponent = layout.exponentOf y.toRat := by rw [hvalue]; rfl
  rw [← hvalue] at hpos
  rw [exponentOf] at hexponent
  -- Both bounds on the significand are bounds on the logarithm of the value.
  have hfits : y.significand < 2 * layout.topBit := by
    rw [two_mul_topBit_eq, ← Dyadic.log_lt_iff hpos, Nat.cast_succ]
    omega
  have htop : layout.topBit ≤ y.significand ∨ y.exponent = layout.leastExponent := by
    rw [topBit_eq, ← not_lt, ← Dyadic.log_lt_iff hpos]
    omega
  exact ⟨hfits, (le_max_left _ _).trans_eq hexponent.symm, hle.trans hgreatest, htop⟩

/-- A positive number whose digits fit is represented without rounding. -/
theorem nearest?_of_pos (hsignificand : x.significand < 2 * layout.topBit)
    (hleast : layout.leastExponent ≤ x.exponent)
    (hgreatest : x.exponent ≤ layout.greatestExponent) :
    layout.nearest? x.numerator x.denominator =
      some (x.lowered (layout.exponentOf x.toRat)) := by
  have hle := exponentOf_le hpos hsignificand hleast
  have hrepresents := represents_lowered hpos hle hgreatest
  have hnumerator : 0 < x.numerator := by
    rw [x.toRat_eq] at hpos
    by_contra hzero
    rw [Nat.eq_zero_of_not_pos hzero, Nat.cast_zero, zero_div] at hpos
    exact lt_irrefl _ hpos
  have hexponent : layout.exponentFor x.numerator x.denominator = layout.exponentOf x.toRat := by
    rw [exponentFor_eq hnumerator x.denominator_pos, ← x.toRat_eq]
  set k := layout.exponentOf x.toRat
  have hdenominator : 0 < x.denominator <<< k.toNat := by
    have hd := x.denominator_pos
    rw [Nat.shiftLeft_eq]
    positivity
  -- The quotient to be rounded is whole already.
  have hexact : x.numerator <<< (-k).toNat =
      (x.lowered k).significand * (x.denominator <<< k.toNat) := by
    have hshifted := shifted_div_shifted x.numerator x.denominator k
    have hvalue : x.toRat = ((x.lowered k).significand : ℚ) * 2 ^ k :=
      (Dyadic.toRat_lowered hle).symm
    rw [← x.toRat_eq, hvalue, mul_div_cancel_right₀ _ (by positivity),
      div_eq_iff (Nat.cast_ne_zero.mpr hdenominator.ne')] at hshifted
    exact_mod_cast hshifted
  rw [nearest?, if_neg hnumerator.ne', hexponent]
  simp only [hexact, roundHalfEven_mul hdenominator, if_neg hrepresents.significand_lt.ne]
  exact if_neg hrepresents.le_greatest.not_gt

end Exact

end BinaryLayout

/-! ## Patterns of representable numbers -/

namespace BinaryLayout

variable {layout : BinaryLayout}

/-- Fields that fit are read again from the pattern that they make. -/
theorem decode_assembled (negative : Bool) {biased fraction : Nat}
    (hbiased : biased < layout.exponentCount) (hfraction : fraction < layout.topBit) :
    layout.decode (layout.signBits negative + (biased * layout.topBit + fraction)) =
      layout.ofFields negative biased fraction := by
  have hcount : 0 < layout.exponentCount := Nat.zero_lt_of_lt hbiased
  have htop : 0 < layout.topBit := Nat.zero_lt_of_lt hfraction
  have hbits : layout.signBits negative + (biased * layout.topBit + fraction) =
      fraction + layout.topBit * (biased + layout.exponentCount * negative.toNat) := by
    rw [signBits]
    cases negative <;> simp <;> ring
  have hquotient : (fraction + layout.topBit * (biased + layout.exponentCount * negative.toNat)) /
      layout.topBit = biased + layout.exponentCount * negative.toNat := by
    rw [Nat.add_mul_div_left _ _ htop, Nat.div_eq_of_lt hfraction, Nat.zero_add]
  have hsign : (negative.toNat % 2 == 1) = negative := by cases negative <;> rfl
  rw [hbits, decode_eq_ofFields, ← Nat.div_div_eq_div_mul, hquotient, Nat.add_mul_mod_self_left,
    Nat.add_mul_mod_self_left, Nat.add_mul_div_left _ _ hcount, Nat.div_eq_of_lt hbiased,
    Nat.zero_add, Nat.mod_eq_of_lt hbiased, Nat.mod_eq_of_lt hfraction, hsign]

section Represents

variable {x : Dyadic} (hx : layout.Represents x)

include hx

/-- The fields of a representable number, and what they are. -/
theorem exists_fields : ∃ biased fraction, biased < layout.exponentCount - 1 ∧
    fraction < layout.topBit ∧ layout.magnitudeBits x = biased * layout.topBit + fraction ∧
    ∀ negative, layout.ofFields negative biased fraction =
      .finite negative x.significand x.exponent := by
  obtain ⟨hlt, hleast, hgreatest, htop⟩ := hx
  rw [greatestExponent] at hgreatest
  rw [magnitudeBits]
  by_cases hsmall : x.significand < layout.topBit
  · have hexponent := htop.resolve_left (Nat.not_le.mpr hsmall)
    refine ⟨0, x.significand, by omega, hsmall, ?_, ?_⟩
    · rw [if_pos hsmall, Nat.zero_mul, Nat.zero_add]
    · intro negative
      rw [ofFields, if_neg (by omega), if_pos rfl, hexponent]
  · have hbiased : layout.leastExponent +
        (((x.exponent - layout.leastExponent + 1).toNat - 1 : ℕ) : ℤ) = x.exponent := by omega
    refine ⟨(x.exponent - layout.leastExponent + 1).toNat, x.significand - layout.topBit,
      by omega, by omega, if_neg hsmall, ?_⟩
    intro negative
    rw [ofFields, if_neg (by omega), if_neg (by omega), hbiased,
      Nat.add_sub_cancel' (Nat.not_lt.mp hsmall)]

theorem magnitudeBits_lt : layout.magnitudeBits x < layout.topBit * layout.exponentCount := by
  obtain ⟨biased, fraction, hbiased, hfraction, hbits, -⟩ := exists_fields hx
  calc layout.magnitudeBits x = biased * layout.topBit + fraction := hbits
    _ < biased * layout.topBit + layout.topBit := Nat.add_lt_add_left hfraction _
    _ = layout.topBit * (biased + 1) := by ring
    _ ≤ layout.topBit * layout.exponentCount := Nat.mul_le_mul_left _ (by omega)

/-- The pattern of a representable number is decoded to it. -/
theorem decode_magnitudeBits (negative : Bool) :
    layout.decode (layout.signBits negative + layout.magnitudeBits x) =
      .finite negative x.significand x.exponent := by
  obtain ⟨biased, fraction, hbiased, hfraction, hbits, hfields⟩ := exists_fields hx
  rw [hbits, decode_assembled negative (by omega) hfraction, hfields]

end Represents

/-- What a pattern is decoded to is representable. -/
theorem represents_of_decode (hcount : 3 ≤ layout.exponentCount) {bits : Nat} {negative : Bool}
    {x : Dyadic} (h : layout.decode bits = .finite negative x.significand x.exponent) :
    layout.Represents x := by
  have htop : 0 < layout.topBit := by
    rw [topBit_eq]
    positivity
  have hfraction : bits % layout.topBit < layout.topBit := Nat.mod_lt _ htop
  have hbiased : bits / layout.topBit % layout.exponentCount < layout.exponentCount :=
    Nat.mod_lt _ (by omega)
  rw [decode_eq_ofFields, ofFields] at h
  split at h
  · split at h <;> cases h
  next hfinite =>
    split at h
    · obtain ⟨-, hsignificand, hexponent⟩ := FloatValue.finite.inj h
      refine ⟨by omega, hexponent.le, ?_, .inr hexponent.symm⟩
      rw [greatestExponent]
      omega
    next hnormal =>
      obtain ⟨-, hsignificand, hexponent⟩ := FloatValue.finite.inj h
      refine ⟨by omega, by omega, ?_, .inl (by omega)⟩
      rw [greatestExponent]
      omega

end BinaryLayout

/-! ## Double precision -/

namespace Binary64

open BinaryLayout

theorem topBit_mul_exponentCount : double.topBit * double.exponentCount = 2 ^ 63 := by decide

/-- A representable number is kept exactly. -/
theorem value_ofDyadic {x : Dyadic} (hx : double.Represents x) (negative : Bool) :
    (ofDyadic negative x).value = .finite negative x.significand x.exponent := by
  have hmagnitude := magnitudeBits_lt hx
  have hlt : double.signBits negative + double.magnitudeBits x < 2 ^ 64 := by
    rw [topBit_mul_exponentCount] at hmagnitude
    rw [signBits, topBit_mul_exponentCount]
    split <;> omega
  rw [value, ofDyadic, UInt64.toNat_ofNat_of_lt' hlt, decode_magnitudeBits hx]

/-- A number whose digits fit is kept exactly, if perhaps with another exponent. -/
theorem exists_value_ofRatio {x : Dyadic} (hsignificand : x.significand < 2 * double.topBit)
    (hleast : double.leastExponent ≤ x.exponent) (hgreatest : x.exponent ≤ double.greatestExponent)
    (negative : Bool) :
    ∃ y : Dyadic, (ofRatio negative x.numerator x.denominator).value =
      .finite negative y.significand y.exponent ∧ y.toRat = x.toRat := by
  rw [ofRatio]
  rcases Nat.eq_zero_or_pos x.significand with hzero | hpos
  · have hnumerator : x.numerator = 0 := by rw [Dyadic.numerator, hzero, Nat.zero_shiftLeft]
    have hrepresents : double.Represents ⟨0, double.leastExponent⟩ :=
      ⟨by decide, le_refl _, by decide, .inr rfl⟩
    refine ⟨⟨0, double.leastExponent⟩, ?_, ?_⟩
    · rw [nearest?, if_pos hnumerator]
      exact value_ofDyadic hrepresents negative
    · rw [Dyadic.toRat, Dyadic.toRat, hzero, Nat.cast_zero, zero_mul, zero_mul]
  · have hvalue : 0 < x.toRat := by
      rw [Dyadic.toRat]
      positivity
    have hle := exponentOf_le hvalue hsignificand hleast
    refine ⟨x.lowered (double.exponentOf x.toRat), ?_, Dyadic.toRat_lowered hle⟩
    rw [nearest?_of_pos hvalue hsignificand hleast hgreatest]
    exact value_ofDyadic (represents_lowered hvalue hle hgreatest) negative

theorem value_nan : nan.value = .nan := by decide

theorem value_infinity (negative : Bool) : (infinity negative).value = .infinite negative := by
  cases negative <;> decide

end Binary64

/-! ## Single precision -/

namespace Binary32

open BinaryLayout

/-- Widening leaves the number exactly as it is. -/
theorem exists_value_widen {x : Binary32} {negative : Bool} {y : Dyadic}
    (h : x.value = .finite negative y.significand y.exponent) :
    ∃ z : Dyadic, x.widen.value = .finite negative z.significand z.exponent ∧
      z.toRat = y.toRat := by
  have hrepresents : single.Represents y := represents_of_decode (by decide) h
  obtain ⟨hsignificand, hleast, hgreatest, -⟩ := hrepresents
  have htops : 2 * single.topBit ≤ 2 * double.topBit := by decide
  have hleasts : double.leastExponent ≤ single.leastExponent := by decide
  have hgreatests : single.greatestExponent ≤ double.greatestExponent := by decide
  rw [widen, h]
  exact Binary64.exists_value_ofRatio (hsignificand.trans_le htops) (hleasts.trans hleast)
    (hgreatest.trans hgreatests) negative

/-- Widening changes nothing about the whole number that is left without the fraction. -/
theorem truncate_widen (least greatest : Int) (x : Binary32) :
    x.widen.value.truncate least greatest = x.value.truncate least greatest := by
  cases h : x.value with
  | nan => rw [widen, h, Binary64.value_nan]
  | infinite negative => rw [widen, h, Binary64.value_infinity]
  | finite negative significand exponent =>
      obtain ⟨z, hz, hvalue⟩ := exists_value_widen (y := ⟨significand, exponent⟩) h
      rw [hz, FloatValue.truncate_finite, hvalue]
      exact (FloatValue.truncate_finite least greatest negative ⟨significand, exponent⟩).symm

end Binary32

end TextTemplate
