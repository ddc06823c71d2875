import TextTemplate.Parameter.Basic
import TextTemplate.Proofs.Number.Decimal
import TextTemplate.Proofs.Number.Widening

/-!
# Rendering numbers

Every number is rendered as the canonical decimal of a whole number.  A word is that whole
number itself.  A floating-point number loses its fraction, exactly, and is then kept within
64 signed bits, in single precision as in double precision; infinities are at the bounds and
what is not a number counts as zero.

Main results:

- Definition `Number.IsTruncated`: what is shown for a floating-point pattern.
- Theorem `Number.isCanonical_render`: a canonical decimal is all that is ever rendered.
- Theorem `Number.isTruncated_truncate`: truncation of a decoded pattern, for both layouts.
- Theorem `Number.render_canonical`: the words of all widths and both floating-point types.
-/

namespace TextTemplate.Number

/-! ## What is to be shown -/

/-- All values of a type are rendered as the canonical decimals of these whole numbers. -/
def RendersAs {α : Type} [Numeric α] (toInt : α → ℤ) : Prop :=
  ∀ n : α, Decimal.IsCanonical (Numeric.number n).render (toInt n)

/-- The text that is shown for a floating-point pattern: the exact value without its fraction,
kept within 64 signed bits. -/
structure IsTruncated (layout : BinaryLayout) {width : Nat} (bits : BitVec width)
    (text : String) : Prop where
  nan : layout.IsNan bits → text = "0"
  infinite : layout.IsInfinite bits → bits.msb = false → text = "9223372036854775807"
  negativeInfinite : layout.IsInfinite bits → bits.msb = true → text = "-9223372036854775808"
  finite : layout.IsFinite bits → Decimal.IsCanonical text
    (max (-2 ^ 63) (min (2 ^ 63 - 1) (towardZero (layout.exactValue bits))))

/-! ## Whole numbers -/

/-- A number is rendered as the canonical decimal of its whole number. -/
theorem isCanonical_render (number : Number) : Decimal.IsCanonical number.render number.whole :=
  Decimal.isCanonical_iff.mpr rfl

/-- A type whose values are widened without change is rendered as it is. -/
theorem rendersAs_of_whole {α : Type} [Numeric α] {toInt : α → ℤ}
    (h : ∀ n : α, (Numeric.number n).whole = toInt n) : RendersAs toInt := by
  intro n
  rw [← h n]
  exact isCanonical_render _

/-! ## Floating-point numbers -/

/-- The decoded number, truncated, is what is to be shown for its pattern. -/
theorem isTruncated_truncate {layout : BinaryLayout} {width : Nat} {bits : BitVec width}
    (hwidth : width = layout.fractionBits + layout.exponentBits + 1)
    (hexponent : 0 < layout.exponentBits) :
    IsTruncated layout bits (Decimal.ofInt
      ((layout.decode bits.toNat).truncate Decimal.int64Least Decimal.int64Greatest)) where
  nan := by
    intro h
    rw [BinaryLayout.decode_of_isNan hwidth h]
    rfl
  infinite := by
    intro h hsign
    rw [BinaryLayout.decode_of_isInfinite hwidth h, hsign]
    rfl
  negativeInfinite := by
    intro h hsign
    rw [BinaryLayout.decode_of_isInfinite hwidth h, hsign]
    rfl
  finite := by
    intro h
    obtain ⟨x, hdecode, hvalue⟩ := BinaryLayout.decode_of_isFinite hwidth hexponent h
    rw [hdecode, FloatValue.truncate_finite, hvalue]
    exact Decimal.isCanonical_iff.mpr rfl

theorem isTruncated_double (x : Binary64) :
    IsTruncated .double x.bits.toBitVec (Numeric.number x).render :=
  isTruncated_truncate rfl (by decide)

/-- Single precision is widened first, which does not change what is shown. -/
theorem isTruncated_single (x : Binary32) :
    IsTruncated .single x.bits.toBitVec (Numeric.number x).render := by
  have hwidened : (Numeric.number x).render = Decimal.ofInt
      ((BinaryLayout.single.decode x.bits.toBitVec.toNat).truncate Decimal.int64Least
        Decimal.int64Greatest) :=
    congrArg Decimal.ofInt (Binary32.truncate_widen _ _ x)
  rw [hwidened]
  exact isTruncated_truncate rfl (by decide)

/-! ## All numbers -/

/-- Words are rendered as the canonical decimals of their values.  Floating-point numbers, of
any pattern, are rendered without their fractions and kept within 64 signed bits.  No text is
`-0`, and none has a point or an exponent. -/
theorem render_canonical :
    (RendersAs Int8.toInt ∧ RendersAs Int16.toInt ∧ RendersAs Int32.toInt ∧
      RendersAs Int64.toInt) ∧
    (RendersAs (fun n : UInt8 => (n.toNat : ℤ)) ∧ RendersAs (fun n : UInt16 => (n.toNat : ℤ)) ∧
      RendersAs (fun n : UInt32 => (n.toNat : ℤ)) ∧
      RendersAs (fun n : UInt64 => (n.toNat : ℤ))) ∧
    (∀ x : Binary64, IsTruncated .double x.bits.toBitVec (Numeric.number x).render) ∧
    (∀ x : Binary32, IsTruncated .single x.bits.toBitVec (Numeric.number x).render) ∧
    ∀ number : Number, number.render ≠ "-0" ∧
      ∀ c ∈ number.render.toList, c.isDigit = true ∨ c = '-' := by
  refine ⟨⟨?_, ?_, ?_, ?_⟩, ⟨?_, ?_, ?_, ?_⟩, isTruncated_double, isTruncated_single, ?_⟩
  · exact rendersAs_of_whole fun n => Int8.toInt_toInt64 n
  · exact rendersAs_of_whole fun n => Int16.toInt_toInt64 n
  · exact rendersAs_of_whole fun n => Int32.toInt_toInt64 n
  · exact rendersAs_of_whole fun n => rfl
  · exact rendersAs_of_whole fun n => congrArg Nat.cast (UInt8.toNat_toUInt64 n)
  · exact rendersAs_of_whole fun n => congrArg Nat.cast (UInt16.toNat_toUInt64 n)
  · exact rendersAs_of_whole fun n => congrArg Nat.cast (UInt32.toNat_toUInt64 n)
  · exact rendersAs_of_whole fun n => rfl
  · intro number
    have hcanonical := isCanonical_render number
    exact ⟨hcanonical.ne_minus_zero, hcanonical.isDigit_or_minus⟩

/-- Minus 3.99 in single precision is rounded toward zero. -/
example : (Numeric.number (⟨0xC07F5C29⟩ : Binary32)).render = "-3" := by decide

end TextTemplate.Number
