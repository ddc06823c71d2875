import TextTemplate.Proofs.Number.Widening

/-!
# Comparing floating-point numbers

Floating-point numbers are compared by what they stand for.  A value other than zero has one
form in a layout, so that two finite patterns with the same value are the same pattern, unless
they are the two zeros.  What is not a number is the same as nothing.

Main results:

- Definition `Binary64.IsSame`: two patterns stand for the same number.
- Theorem `BinaryLayout.Represents.eq_of_toRat_eq`: a value has one form only.
- Theorem `BinaryLayout.eq_of_decode_eq`: a finite pattern is known from what it is decoded to.
- Theorem `Binary64.sameNumber_iff`: the comparison finds the numbers that are the same.
-/

namespace TextTemplate

attribute [ext] Dyadic

/-- Apart from zero, a value with a sign tells the value and the sign. -/
theorem withSign_inj {negative other : Bool} {p q : ℚ} (hp : 0 < p) (hq : 0 ≤ q)
    (h : withSign negative p = withSign other q) : negative = other ∧ p = q := by
  cases negative <;> cases other <;>
    simp only [withSign, Bool.false_eq_true, if_true, if_false] at h
  · exact ⟨rfl, h⟩
  · linarith
  · linarith
  · exact ⟨rfl, neg_inj.mp h⟩

theorem withSign_eq_zero_iff {negative : Bool} {q : ℚ} : withSign negative q = 0 ↔ q = 0 := by
  cases negative <;> simp [withSign]

theorem Dyadic.toRat_eq_zero_iff {x : Dyadic} : x.toRat = 0 ↔ x.significand = 0 := by
  simp [toRat, zpow_ne_zero]

namespace BinaryLayout

variable {layout : BinaryLayout}

/-! ## Forms of a value -/

/-- The exponent of a representable number is the one that its value needs. -/
theorem Represents.exponent_eq {x : Dyadic} (hx : layout.Represents x) (hpos : 0 < x.toRat) :
    x.exponent = layout.exponentOf x.toRat := by
  obtain ⟨hfits, hleast, -, htop⟩ := hx
  rw [two_mul_topBit_eq, ← Dyadic.log_lt_iff hpos, Nat.cast_succ] at hfits
  rw [topBit_eq, ← not_lt, ← Dyadic.log_lt_iff hpos] at htop
  unfold exponentOf
  omega

/-- A value other than zero has one form only. -/
theorem Represents.eq_of_toRat_eq {x y : Dyadic} (hx : layout.Represents x)
    (hy : layout.Represents y) (hpos : 0 < x.toRat) (h : x.toRat = y.toRat) : x = y := by
  have hexponent : x.exponent = y.exponent := by
    rw [hx.exponent_eq hpos, hy.exponent_eq (h ▸ hpos), h]
  have hsignificand : x.significand = y.significand := by
    rw [Dyadic.toRat, Dyadic.toRat, hexponent] at h
    exact Nat.cast_injective (mul_right_cancel₀ (by positivity) h)
  exact Dyadic.ext hsignificand hexponent

/-! ## Patterns -/

section Pattern

variable {width : Nat} {bits other : BitVec width}

/-- A pattern is of one of three sorts. -/
theorem isNan_or_isInfinite_or_isFinite (bits : BitVec width) :
    layout.IsNan bits ∨ layout.IsInfinite bits ∨ layout.IsFinite bits := by
  unfold IsNan IsInfinite IsFinite
  tauto

variable (hwidth : width = layout.fractionBits + layout.exponentBits + 1)

include hwidth

/-- Patterns with the same fields are the same. -/
theorem eq_of_fields (hsign : bits.msb = other.msb)
    (hexponent : layout.exponentField bits = layout.exponentField other)
    (hfraction : layout.fractionField bits = layout.fractionField other) : bits = other := by
  have hlow := BitVec.eq_of_toNat_eq hfraction
  have hhigh := BitVec.eq_of_toNat_eq hexponent
  subst hwidth
  apply BitVec.eq_of_getLsbD_eq
  intro i hi
  by_cases hbelow : i < layout.fractionBits
  · have hbit := congrArg (BitVec.getLsbD · i) hlow
    simpa [BitVec.getLsbD_extractLsb', hbelow] using hbit
  · by_cases hbetween : i < layout.fractionBits + layout.exponentBits
    · have hbit := congrArg (BitVec.getLsbD · (i - layout.fractionBits)) hhigh
      have hlt : i - layout.fractionBits < layout.exponentBits := by omega
      have hplace : layout.fractionBits + (i - layout.fractionBits) = i := by omega
      simpa [BitVec.getLsbD_extractLsb', hlt, hplace] using hbit
    · obtain rfl : i = layout.fractionBits + layout.exponentBits := by omega
      rw [BitVec.msb_eq_getLsbD_last, BitVec.msb_eq_getLsbD_last, Nat.add_sub_cancel] at hsign
      exact hsign

/-- Infinities with the same sign have the same pattern. -/
theorem IsInfinite.eq (hbits : layout.IsInfinite bits) (hother : layout.IsInfinite other)
    (hsign : bits.msb = other.msb) : bits = other :=
  eq_of_fields hwidth hsign (hbits.1.trans hother.1.symm) (hbits.2.trans hother.2.symm)

/-- A finite pattern is known from what it is decoded to. -/
theorem eq_of_decode_eq (hbits : layout.IsFinite bits) (hother : layout.IsFinite other)
    (h : layout.decode bits.toNat = layout.decode other.toNat) : bits = other := by
  have hfraction : ∀ bits : BitVec width, layout.fractionField bits < layout.topBit := by
    intro bits
    rw [topBit_eq]
    exact BitVec.isLt _
  have hlt := hfraction bits
  have hlt' := hfraction other
  rw [decode_toNat hwidth, decode_toNat hwidth, ofFields, ofFields, exponentCount_eq,
    if_neg hbits, if_neg hother] at h
  -- Without the fixed top bit a significand is smaller than with it.
  split at h <;> split at h <;> obtain ⟨hsign, hsignificand, hexponent⟩ := FloatValue.finite.inj h
  · exact eq_of_fields hwidth hsign (by omega) hsignificand
  · omega
  · omega
  · exact eq_of_fields hwidth hsign (by omega) (by omega)

/-- What is decoded to a finite number is a finite pattern, and has its value. -/
theorem isFinite_of_decode (hexponent : 0 < layout.exponentBits) {negative : Bool}
    {x : Dyadic} (h : layout.decode bits.toNat = .finite negative x.significand x.exponent) :
    layout.IsFinite bits ∧ layout.exactValue bits = withSign negative x.toRat := by
  rcases isNan_or_isInfinite_or_isFinite bits with hbits | hbits | hbits
  · rw [decode_of_isNan hwidth hbits] at h
    contradiction
  · rw [decode_of_isInfinite hwidth hbits] at h
    contradiction
  · obtain ⟨y, hdecode, hvalue⟩ := decode_of_isFinite hwidth hexponent hbits
    obtain ⟨hsign, hsignificand, hexponent⟩ := FloatValue.finite.inj (h.symm.trans hdecode)
    obtain rfl : x = y := Dyadic.ext hsignificand hexponent
    exact ⟨hbits, hsign ▸ hvalue.symm⟩

/-- What is decoded as not a number has such a pattern. -/
theorem decode_eq_nan_iff (hexponent : 0 < layout.exponentBits) :
    layout.decode bits.toNat = .nan ↔ layout.IsNan bits := by
  refine ⟨?_, decode_of_isNan hwidth⟩
  intro h
  rcases isNan_or_isInfinite_or_isFinite bits with hbits | hbits | hbits
  · exact hbits
  · rw [decode_of_isInfinite hwidth hbits] at h
    contradiction
  · obtain ⟨x, hdecode, -⟩ := decode_of_isFinite hwidth hexponent hbits
    rw [hdecode] at h
    contradiction

end Pattern

end BinaryLayout

/-! ## Double precision -/

namespace Binary64

open BinaryLayout

/-- Two patterns stand for the same number: for the same infinity, or for the same value. -/
inductive IsSame (x y : Binary64) : Prop
  | infinite (hx : double.IsInfinite x.bits.toBitVec) (hy : double.IsInfinite y.bits.toBitVec)
      (hsign : x.bits.toBitVec.msb = y.bits.toBitVec.msb)
  | finite (hx : double.IsFinite x.bits.toBitVec) (hy : double.IsFinite y.bits.toBitVec)
      (hvalue : double.exactValue x.bits.toBitVec = double.exactValue y.bits.toBitVec)

variable {x y z : Binary64}

/-! ### The sorts of numbers -/

theorem width_eq : 64 = double.fractionBits + double.exponentBits + 1 := rfl

/-- Numbers with the same bits are equal. -/
theorem ext_bits (h : x.bits.toBitVec = y.bits.toBitVec) : x = y := by
  cases x
  cases y
  exact congrArg mk (UInt64.toBitVec_inj.mp h)

/-- A value is not a number where its pattern is such a one. -/
theorem value_eq_nan_iff : x.value = .nan ↔ double.IsNan x.bits.toBitVec :=
  decode_eq_nan_iff width_eq (by decide)

/-- A finite pattern has a finite value, which is its exact value. -/
theorem exists_value_of_isFinite (h : double.IsFinite x.bits.toBitVec) :
    ∃ a : Dyadic, x.value = .finite x.bits.toBitVec.msb a.significand a.exponent ∧
      withSign x.bits.toBitVec.msb a.toRat = double.exactValue x.bits.toBitVec :=
  decode_of_isFinite width_eq (by decide) h

/-- A finite value has a finite pattern, whose exact value it is. -/
theorem isFinite_of_value {negative : Bool} {a : Dyadic}
    (h : x.value = .finite negative a.significand a.exponent) :
    double.IsFinite x.bits.toBitVec ∧
      double.exactValue x.bits.toBitVec = withSign negative a.toRat :=
  isFinite_of_decode width_eq (by decide) h

/-- Infinities with the same sign are one number. -/
theorem eq_of_isInfinite (hx : double.IsInfinite x.bits.toBitVec)
    (hy : double.IsInfinite y.bits.toBitVec)
    (hsign : x.bits.toBitVec.msb = y.bits.toBitVec.msb) : x = y :=
  ext_bits (IsInfinite.eq width_eq hx hy hsign)

/-- A finite number is known from its value, unless it is zero. -/
theorem eq_of_exactValue_eq (hx : double.IsFinite x.bits.toBitVec)
    (hy : double.IsFinite y.bits.toBitVec) (hzero : double.exactValue x.bits.toBitVec ≠ 0)
    (hvalue : double.exactValue x.bits.toBitVec = double.exactValue y.bits.toBitVec) :
    x = y := by
  obtain ⟨a, ha, hexact⟩ := exists_value_of_isFinite hx
  obtain ⟨b, hb, hexact'⟩ := exists_value_of_isFinite hy
  rw [← hexact, ne_eq, withSign_eq_zero_iff] at hzero
  rw [← hexact, ← hexact'] at hvalue
  have hpos : 0 < a.toRat := lt_of_le_of_ne a.toRat_nonneg (Ne.symm hzero)
  obtain ⟨hsign, hrat⟩ := withSign_inj hpos b.toRat_nonneg hvalue
  have hrepresents : double.Represents a := represents_of_decode (by decide) ha
  have hrepresents' : double.Represents b := represents_of_decode (by decide) hb
  obtain rfl : a = b := hrepresents.eq_of_toRat_eq hrepresents' hpos hrat
  have hdecode : x.value = y.value := by rw [ha, hb, hsign]
  exact ext_bits (eq_of_decode_eq width_eq hx hy hdecode)

/-- The significand of a zero is zero, whatever its sign is. -/
theorem exists_value_of_zero (h : double.IsFinite x.bits.toBitVec)
    (hzero : double.exactValue x.bits.toBitVec = 0) :
    ∃ negative exponent, x.value = .finite negative 0 exponent := by
  obtain ⟨⟨significand, exponent⟩, hx, hvalue⟩ := exists_value_of_isFinite h
  rw [hzero, withSign_eq_zero_iff, Dyadic.toRat_eq_zero_iff] at hvalue
  exact ⟨_, exponent, by rw [hx, hvalue]⟩

/-! ### The same number -/

theorem IsSame.symm (h : x.IsSame y) : y.IsSame x := by
  cases h with
  | infinite hx hy hsign => exact .infinite hy hx hsign.symm
  | finite hx hy hvalue => exact .finite hy hx hvalue.symm

theorem IsSame.trans (h : x.IsSame y) (h' : y.IsSame z) : x.IsSame z := by
  cases h with
  | infinite hx hy hsign =>
      cases h' with
      | infinite _ hz hsign' => exact .infinite hx hz (hsign.trans hsign')
      | finite hy' _ _ => exact absurd hy.1 hy'
  | finite hx hy hvalue =>
      cases h' with
      | infinite hy' _ _ => exact absurd hy'.1 hy
      | finite _ hz hvalue' => exact .finite hx hz (hvalue.trans hvalue')

/-- All but what is not a number is the same as itself. -/
theorem isSame_self_iff : x.IsSame x ↔ ¬double.IsNan x.bits.toBitVec := by
  constructor
  · intro h hnan
    cases h with
    | infinite hx _ _ => exact hnan.2 hx.2
    | finite hx _ _ => exact hx hnan.1
  · intro hnan
    rcases isNan_or_isInfinite_or_isFinite x.bits.toBitVec with hx | hx | hx
    · exact absurd hx hnan
    · exact .infinite hx hx rfl
    · exact .finite hx hx rfl

/-- The same number is truncated to the same whole number. -/
theorem IsSame.truncate_eq (h : x.IsSame y) (least greatest : Int) :
    x.value.truncate least greatest = y.value.truncate least greatest := by
  cases h with
  | infinite hx hy hsign => rw [eq_of_isInfinite hx hy hsign]
  | finite hx hy hvalue =>
      obtain ⟨a, ha, hvalue'⟩ := exists_value_of_isFinite hx
      obtain ⟨b, hb, hvalue''⟩ := exists_value_of_isFinite hy
      rw [ha, hb, FloatValue.truncate_finite, FloatValue.truncate_finite, hvalue', hvalue'', hvalue]

/-- A number is the same as itself. -/
theorem sameNumber_self (h : x.value ≠ .nan) : x.sameNumber x = true := by
  unfold sameNumber
  split
  · contradiction
  · contradiction
  · rfl
  · exact beq_self_eq_true x

/-- The comparison finds the numbers that are the same. -/
theorem sameNumber_iff : x.sameNumber y = true ↔ x.IsSame y := by
  constructor
  · intro h
    unfold sameNumber at h
    split at h
    · contradiction
    · contradiction
    next negative exponent negative' exponent' hx hy =>
      obtain ⟨hx, hvalue⟩ := isFinite_of_value (a := ⟨0, exponent⟩) hx
      obtain ⟨hy, hvalue'⟩ := isFinite_of_value (a := ⟨0, exponent'⟩) hy
      refine .finite hx hy ?_
      rw [hvalue, hvalue']
      simp [withSign, Dyadic.toRat]
    next hnan _ _ =>
      obtain rfl : x = y := eq_of_beq h
      exact isSame_self_iff.mpr fun h => hnan (value_eq_nan_iff.mpr h)
  · intro h
    have hnan : x.value ≠ .nan := fun hx =>
      isSame_self_iff.mp (h.trans h.symm) (value_eq_nan_iff.mp hx)
    cases h with
    | infinite hx hy hsign =>
        obtain rfl := eq_of_isInfinite hx hy hsign
        exact sameNumber_self hnan
    | finite hx hy hvalue =>
        by_cases hzero : double.exactValue x.bits.toBitVec = 0
        · obtain ⟨negative, exponent, hx⟩ := exists_value_of_zero hx hzero
          obtain ⟨negative', exponent', hy⟩ := exists_value_of_zero hy (hvalue.symm.trans hzero)
          simp [sameNumber, hx, hy]
        · obtain rfl := eq_of_exactValue_eq hx hy hzero hvalue
          exact sameNumber_self hnan

end Binary64

end TextTemplate
