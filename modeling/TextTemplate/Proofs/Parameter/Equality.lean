import TextTemplate.Proofs.Number.Equality
import TextTemplate.Proofs.Parameter.Hex

/-!
# Comparing values

Values of one kind are compared by their contents, numbers by what they stand for, and values of
different kinds differ.  This is an equivalence on everything but what is not a number.  Values
that are the same are rendered by the same text, with one exception: a `0x` in front of bytes
makes no difference to the comparison, but it can be seen in the text.

Main results:

- Definition `ParameterValue.IsSame`: the values that are the same, kind by kind.
- Theorem `ParameterValue.sameValue_iff`: the comparison finds these.
- Theorem `Hex.render_eq_iff`: bytes that are the same are rendered by the same text if both
  have a `0x` or neither.
- Theorem `ParameterValue.sameValue_partial_equivalence`: the laws of the comparison, and what
  it says about the rendering.
-/

namespace TextTemplate

/-! ## Numbers -/

namespace Number

/-- Two numbers are the same: the same words of one kind, or the same floating-point number. -/
inductive IsSame : Number → Number → Prop
  | signed (n : Int64) : IsSame (signed n) (signed n)
  | unsigned (n : UInt64) : IsSame (unsigned n) (unsigned n)
  | float {x y : Binary64} (h : x.IsSame y) : IsSame (float x) (float y)

variable {a b c : Number}

/-- The comparison finds the numbers that are the same. -/
theorem sameValue_iff : a.sameValue b = true ↔ a.IsSame b := by
  constructor
  · intro h
    unfold sameValue at h
    split at h
    next m n =>
      obtain rfl : m = n := eq_of_beq h
      exact .signed m
    next m n =>
      obtain rfl : m = n := eq_of_beq h
      exact .unsigned m
    next x y => exact .float (Binary64.sameNumber_iff.mp h)
    · contradiction
  · intro h
    cases h with
    | signed n => exact beq_self_eq_true n
    | unsigned n => exact beq_self_eq_true n
    | float h => exact Binary64.sameNumber_iff.mpr h

theorem IsSame.symm (h : a.IsSame b) : b.IsSame a := by
  cases h with
  | signed n => exact .signed n
  | unsigned n => exact .unsigned n
  | float h => exact .float h.symm

theorem IsSame.trans (h : a.IsSame b) (h' : b.IsSame c) : a.IsSame c := by
  cases h with
  | signed n => exact h'
  | unsigned n => exact h'
  | float h =>
      cases h' with
      | float h' => exact .float (h.trans h')

/-- Numbers that are the same are rendered by the same digits. -/
theorem IsSame.render_eq (h : a.IsSame b) : a.render = b.render := by
  cases h with
  | signed n => rfl
  | unsigned n => rfl
  | float h => exact congrArg Decimal.ofInt (h.truncate_eq _ _)

end Number

/-! ## Bytes -/

namespace Hex

variable {a b : Hex}

/-- Bytes are compared with the case of their letters, and without a `0x`. -/
theorem sameValue_iff : a.sameValue b = true ↔ a.bytes = b.bytes ∧ a.uppercase = b.uppercase := by
  simp [sameValue]

/-- The text of bytes has two digits for each, and the `0x` if there is one. -/
theorem length_render (value : Hex) :
    value.render.length = (if value.prefixed then 2 else 0) + 2 * value.bytes.length := by
  rw [render_eq, String.length_append, String.length_ofList, HexDigits.length_encode]
  split <;> rfl

/-- Bytes that are the same are rendered by texts of different lengths if only one of them has a
`0x`, and otherwise by the same text. -/
theorem render_eq_iff (h : a.sameValue b = true) :
    a.render = b.render ↔ a.prefixed = b.prefixed := by
  obtain ⟨hbytes, huppercase⟩ := sameValue_iff.mp h
  constructor
  · intro hrender
    have hlength := congrArg String.length hrender
    rw [length_render, length_render, hbytes] at hlength
    cases ha : a.prefixed <;> cases hb : b.prefixed <;> simp [ha, hb] at hlength ⊢
  · intro hprefixed
    obtain rfl : a = b := by
      cases a
      cases b
      simp_all
    rfl

end Hex

/-! ## Values of all kinds -/

namespace ParameterValue

variable {κ : Type}

/-- Two values are the same: values of one kind, with the same contents. -/
inductive IsSame : ParameterValue κ → ParameterValue κ → Prop
  | text (value : TextValue) : IsSame (text value) (text value)
  | number {a b : Number} (h : a.IsSame b) : IsSame (number a) (number b)
  | character (value : Character) : IsSame (character value) (character value)
  | hex {a b : Hex} (h : a.sameValue b = true) : IsSame (hex a) (hex b)
  | custom (value : κ) : IsSame (custom value) (custom value)

/-- What is not a number, as a value. -/
def IsNan (value : ParameterValue κ) : Prop :=
  ∃ x : Binary64, value = number (.float x) ∧ BinaryLayout.double.IsNan x.bits.toBitVec

/-- Bytes of which only one have a `0x` in front of them. -/
def DifferInPrefix (a b : ParameterValue κ) : Prop :=
  ∃ x y : Hex, a = hex x ∧ b = hex y ∧ x.prefixed ≠ y.prefixed

variable {a b c : ParameterValue κ}

/-- The comparison finds the values that are the same. -/
theorem sameValue_iff [DecidableEq κ] : a.sameValue b = true ↔ a.IsSame b := by
  constructor
  · intro h
    unfold sameValue at h
    split at h
    next x y =>
      obtain rfl : x = y := eq_of_beq h
      exact .text x
    next => exact .number (Number.sameValue_iff.mp h)
    next x y =>
      obtain rfl : x = y := eq_of_beq h
      exact .character x
    next => exact .hex h
    next x y =>
      obtain rfl : x = y := eq_of_beq h
      exact .custom x
    · contradiction
  · intro h
    cases h with
    | text value => exact beq_self_eq_true value
    | number h => exact Number.sameValue_iff.mpr h
    | character value => exact beq_self_eq_true value
    | hex h => exact h
    | custom value => exact beq_self_eq_true value

theorem IsSame.symm (h : a.IsSame b) : b.IsSame a := by
  cases h with
  | text value => exact .text value
  | number h => exact .number h.symm
  | character value => exact .character value
  | hex h =>
      rw [Hex.sameValue_iff] at h
      exact .hex (Hex.sameValue_iff.mpr ⟨h.1.symm, h.2.symm⟩)
  | custom value => exact .custom value

/-- Values that are the same as one and the same value are the same. -/
theorem IsSame.trans (h : a.IsSame b) (h' : b.IsSame c) : a.IsSame c := by
  cases h with
  | text value => exact h'
  | number h =>
      cases h' with
      | number h' => exact .number (h.trans h')
  | character value => exact h'
  | hex h =>
      cases h' with
      | hex h' =>
          rw [Hex.sameValue_iff] at h h'
          exact .hex (Hex.sameValue_iff.mpr ⟨h.1.trans h'.1, h.2.trans h'.2⟩)
  | custom value => exact h'

/-- All but what is not a number is the same as itself. -/
theorem isSame_self_iff : a.IsSame a ↔ ¬a.IsNan := by
  constructor
  · rintro h ⟨x, rfl, hnan⟩
    cases h with
    | number h =>
        cases h with
        | float h => exact Binary64.isSame_self_iff.mp h hnan
  · intro h
    cases a with
    | text value => exact .text value
    | number value =>
        cases value with
        | signed n => exact .number (.signed n)
        | unsigned n => exact .number (.unsigned n)
        | float x =>
            exact .number (.float (Binary64.isSame_self_iff.mpr fun hnan => h ⟨x, rfl, hnan⟩))
    | character value => exact .character value
    | hex value => exact .hex (Hex.sameValue_iff.mpr ⟨rfl, rfl⟩)
    | custom value => exact .custom value

/-- Values that are the same are rendered by the same text, except for bytes of which only one
have a `0x` in front of them. -/
theorem IsSame.render_eq_iff [CustomValue κ] (h : a.IsSame b) (locale : Locale) :
    a.render locale = b.render locale ↔ ¬DifferInPrefix a b := by
  cases h with
  | text value => simp [DifferInPrefix]
  | number h => simp [DifferInPrefix, render, h.render_eq]
  | character value => simp [DifferInPrefix]
  | hex h => simp [DifferInPrefix, render, Hex.render_eq_iff h]
  | custom value => simp [DifferInPrefix]

/-- The comparison of values is symmetric and transitive, and only what is not a number differs
from itself.  In every locale, values that are the same are rendered by the same text unless they
are bytes of which only one have a `0x`, and these are never rendered by the same text. -/
theorem sameValue_partial_equivalence [DecidableEq κ] [CustomValue κ] :
    (∀ a b : ParameterValue κ, a.sameValue b = true → b.sameValue a = true) ∧
    (∀ a b c : ParameterValue κ, a.sameValue b = true → b.sameValue c = true →
      a.sameValue c = true) ∧
    (∀ a : ParameterValue κ, a.sameValue a = true ↔ ¬a.IsNan) ∧
    ∀ a b : ParameterValue κ, a.sameValue b = true → ∀ locale,
      (a.render locale = b.render locale ↔ ¬DifferInPrefix a b) := by
  simp only [sameValue_iff]
  exact ⟨fun _ _ h => h.symm, fun _ _ _ h h' => h.trans h', fun _ => isSame_self_iff,
    fun _ _ h locale => h.render_eq_iff locale⟩

/-- The two zeros are one number, although their patterns differ. -/
example : (number (.float ⟨0⟩) : ParameterValue Empty).sameValue
    (number (.float ⟨0x8000000000000000⟩)) = true := by
  decide

end ParameterValue

end TextTemplate
