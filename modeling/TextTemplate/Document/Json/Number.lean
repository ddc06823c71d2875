import TextTemplate.Document.Value
import TextTemplate.Number.Decimal

/-!
# Numbers in JSON

A number is a run of digits with an optional sign, fraction and exponent.  Whole
numbers that fit into 64 bits are kept exactly.  All others become
floating-point numbers in few steps: as many leading digits as fit into an
unsigned 64-bit significand are kept, the significand is rounded, and the result
is multiplied or divided by a rounded power of ten.  A number that becomes too
large is refused.

Main definitions:

- `Json.Numeral` holds the parts of a number as they are written.
- `Json.Numeral.read?` takes one off the front of a text.
- `Json.Numeral.value?` is the value of a number.
-/

namespace TextTemplate.Json

/-- The parts of a number. -/
structure Numeral where
  /-- Whether a minus stands in front. -/
  negative : Bool
  /-- The digits before the point. -/
  whole : List Char
  /-- The digits after the point, if there is one. -/
  fraction : Option (List Char)
  /-- The exponent: whether it is negative, and its digits. -/
  exponent : Option (Bool × List Char)
deriving DecidableEq, Repr

namespace Numeral

/-! ### Reading -/

/-- Takes the digits off the front of a text; there must be one at least. -/
def readDigits? (text : List Char) : Option (List Char × List Char) :=
  let digits := Decimal.leading text
  if digits.isEmpty then none else some (digits, Decimal.afterLeading text)

/-- Takes the digits before the point; a zero in front of other digits is refused. -/
def readWhole? (text : List Char) : Option (List Char × List Char) := do
  let (digits, rest) ← readDigits? text
  if digits.head? == some '0' && 1 < digits.length then none else some (digits, rest)

/-- Takes a point and the digits after it, if there is a point. -/
def readFraction? : List Char → Option (Option (List Char) × List Char)
  | '.' :: text => do
      let (digits, rest) ← readDigits? text
      some (some digits, rest)
  | text => some (none, text)

/-- Takes an exponent, if there is one. -/
def readExponent? : List Char → Option (Option (Bool × List Char) × List Char)
  | [] => some (none, [])
  | c :: text =>
      if c == 'e' || c == 'E' then do
        let (negative, unsigned) := Decimal.unsigned text
        let (digits, rest) ← readDigits? unsigned
        some (some (negative, digits), rest)
      else some (none, c :: text)

/-- A text without the minus at its front, and whether there was one. -/
def readMinus : List Char → Bool × List Char
  | '-' :: rest => (true, rest)
  | text => (false, text)

/-- Takes a number off the front of a text. -/
def read? (text : List Char) : Option (Numeral × List Char) := do
  let (negative, unsigned) := readMinus text
  let (whole, afterWhole) ← readWhole? unsigned
  let (fraction, afterFraction) ← readFraction? afterWhole
  let (exponent, rest) ← readExponent? afterFraction
  some (⟨negative, whole, fraction, exponent⟩, rest)

/-! ### Values -/

/-- The greatest significand. -/
def greatestSignificand : Nat := 0xFFFFFFFFFFFFFFFF

/-- The greatest exponent that is still read as a number. -/
def greatestExponent : Nat := 0x7FFFFFFF

/-- Appends digits to a significand as long as it stays small enough, and counts
the digits that are left over. -/
def absorb (significand : Nat) : List Char → Nat × Nat
  | [] => (significand, 0)
  | c :: rest =>
      let longer := 10 * significand + Decimal.digitValue c
      if longer ≤ greatestSignificand then absorb longer rest
      else (significand, rest.length + 1)

/-- A power of ten in double precision. -/
def powerOfTen (exponent : Nat) : Dyadic :=
  (BinaryLayout.double.nearest? (Decimal.powerOfTen exponent) 1).getD ⟨0, 0⟩

/-- The rounded product. -/
def times? (x y : Dyadic) : Option Dyadic :=
  BinaryLayout.double.nearest? (x.numerator * y.numerator) (x.denominator * y.denominator)

/-- The rounded quotient. -/
def over? (x y : Dyadic) : Option Dyadic :=
  BinaryLayout.double.nearest? (x.numerator * y.denominator) (x.denominator * y.numerator)

/-- The greatest power of ten that is multiplied or divided by in one step. -/
def greatestPower : Nat := 308

/-- Divides by the greatest power of ten, as often as is asked for. -/
def shrink? : (times : Nat) → Dyadic → Option Dyadic
  | 0, x => some x
  | times + 1, x =>
      if x.significand = 0 then some x
      else (over? x (powerOfTen greatestPower)).bind (shrink? times)

/-- Multiplies by a power of ten.  A power that is too small for one step is
divided by in steps; a power that is too large leaves only zero as it is. -/
def scale? (x : Dyadic) (exponent : Int) : Option Dyadic :=
  if x.significand = 0 then some x
  else if 0 ≤ exponent then
    if greatestPower < exponent then none else times? x (powerOfTen exponent.toNat)
  else
    let down := (-exponent).toNat
    let steps := (down - 1) / greatestPower
    (shrink? steps x).bind fun smaller =>
      over? smaller (powerOfTen (down - steps * greatestPower))

/-- The floating-point number of a significand and an exponent of ten. -/
def float? (negative : Bool) (significand : Nat) (exponent : Int) : Option Value := do
  let rounded ← BinaryLayout.double.nearest? significand 1
  let scaled ← scale? rounded exponent
  some (.float (Binary64.ofDyadic negative scaled))

/-- The value of a number without fraction and exponent. -/
def wholeValue? (negative : Bool) (significand : Nat) : Option Value :=
  if !negative then some (.integer significand)
  else if significand = 0 ∨ 0x8000000000000000 < significand then float? true significand 0
  else some (.integer (-significand))

/-- The value of a number; `none` when it is too large. -/
def value? (numeral : Numeral) : Option Value :=
  let (ofWhole, skipped) := absorb 0 numeral.whole
  let fraction := numeral.fraction.getD []
  let (significand, leftOver) := absorb ofWhole fraction
  let place : Int := (skipped : Int) - (fraction.length - leftOver : Nat)
  match numeral.exponent with
  | some (down, digits) =>
      let exponent := Decimal.value digits
      if greatestExponent < exponent then
        if significand ≠ 0 ∧ !down then none else float? numeral.negative 0 0
      else float? numeral.negative significand (place + Decimal.signed down exponent)
  | none =>
      if numeral.fraction.isNone && skipped == 0 then wholeValue? numeral.negative significand
      else float? numeral.negative significand place

/-! ### What is taken off the text -/

/-- Digits are taken off the front. -/
theorem suffix_of_readDigits? {text digits rest : List Char}
    (h : readDigits? text = some (digits, rest)) :
    rest <:+ text ∧ rest.length < text.length := by
  dsimp only [readDigits?] at h
  split at h
  · simp at h
  next hdigits =>
    simp only [Option.some.injEq, Prod.mk.injEq] at h
    obtain ⟨rfl, rfl⟩ := h
    have happend : Decimal.leading text ++ Decimal.afterLeading text = text :=
      List.takeWhile_append_dropWhile
    refine ⟨⟨_, happend⟩, ?_⟩
    have hlength := congrArg List.length happend
    rw [List.length_append] at hlength
    have hpos : 0 < (Decimal.leading text).length := by
      simpa [List.length_pos_iff] using hdigits
    omega

/-- Reading a number takes at least one character off the text. -/
theorem length_lt_of_read? {text rest : List Char} {numeral : Numeral}
    (h : read? text = some (numeral, rest)) : rest.length < text.length := by
  unfold read? at h
  simp only [Option.bind_eq_bind, Option.bind_eq_some_iff, Prod.exists, Option.some.injEq,
    Prod.mk.injEq] at h
  obtain ⟨whole, afterWhole, hwhole, fraction, afterFraction, hfraction, exponent, behind,
    hexponent, _, rfl⟩ := h
  have hminus : (readMinus text).2.length ≤ text.length := by
    unfold readMinus
    split <;> simp
  have h₁ : afterWhole.length < (readMinus text).2.length := by
    unfold readWhole? at hwhole
    simp only [Option.bind_eq_bind, Option.bind_eq_some_iff, Prod.exists] at hwhole
    obtain ⟨digits, rest', hdigits, hwhole⟩ := hwhole
    split at hwhole
    · simp at hwhole
    · simp only [Option.some.injEq, Prod.mk.injEq] at hwhole
      obtain ⟨_, rfl⟩ := hwhole
      exact (suffix_of_readDigits? hdigits).2
  have h₂ : afterFraction.length ≤ afterWhole.length := by
    unfold readFraction? at hfraction
    split at hfraction
    · simp only [Option.bind_eq_bind, Option.bind_eq_some_iff, Prod.exists, Option.some.injEq,
        Prod.mk.injEq] at hfraction
      obtain ⟨digits, rest', hdigits, _, rfl⟩ := hfraction
      have := (suffix_of_readDigits? hdigits).2
      simp only [List.length_cons]
      omega
    · simp only [Option.some.injEq, Prod.mk.injEq] at hfraction
      obtain ⟨_, rfl⟩ := hfraction
      exact Nat.le_refl _
  have h₃ : behind.length ≤ afterFraction.length := by
    unfold readExponent? at hexponent
    split at hexponent
    · simp only [Option.some.injEq, Prod.mk.injEq] at hexponent
      obtain ⟨_, rfl⟩ := hexponent
      exact Nat.le_refl _
    next c after =>
      split at hexponent
      · simp only [Option.bind_eq_bind, Option.bind_eq_some_iff, Prod.exists,
          Option.some.injEq, Prod.mk.injEq] at hexponent
        obtain ⟨digits, rest', hdigits, _, rfl⟩ := hexponent
        have hless := (suffix_of_readDigits? hdigits).2
        have hunsigned : (Decimal.unsigned after).2.length ≤ after.length := by
          unfold Decimal.unsigned
          split <;> simp
        simp only [List.length_cons]
        omega
      · simp only [Option.some.injEq, Prod.mk.injEq] at hexponent
        obtain ⟨_, rfl⟩ := hexponent
        exact Nat.le_refl _
  omega

end Numeral

end TextTemplate.Json
