/-!
# Numbers as bytes

A machine word written as its bytes, the most significant one first.  Negative
numbers are written in two's complement.

Main results:

- `bigEndian` lists the bytes of a word.
- `length_bigEndian`: there are as many bytes as were asked for.
-/

namespace TextTemplate

/-- The `count` lowest bytes of a number, the highest of them first. -/
def bigEndian : (count : Nat) → Nat → List UInt8
  | 0, _ => []
  | count + 1, n => bigEndian count (n / 256) ++ [UInt8.ofNat n]

/-- There are as many bytes as were asked for. -/
theorem length_bigEndian (count n : Nat) : (bigEndian count n).length = count := by
  induction count generalizing n with
  | zero => rfl
  | succ count ih => simp [bigEndian, ih]

end TextTemplate
