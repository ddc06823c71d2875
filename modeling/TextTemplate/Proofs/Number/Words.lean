import Mathlib.Algebra.Ring.Nat
import TextTemplate.Number.Words

/-!
# Words read from their bytes

The bytes of a word are read again as a number, the most significant byte first.  Where there
are enough bytes, the word itself comes back.

Main results:

- Definition `ofBigEndian`: the number that bytes stand for.
- Theorem `ofBigEndian_bigEndian`: the bytes of a number stand for it, up to what does not fit
  into them.
- Theorem `ofNat_ofBigEndian`: a word is read again from its bytes.
-/

namespace TextTemplate

/-- The number that bytes stand for, the most significant byte first. -/
def ofBigEndian (bytes : List UInt8) : Nat := bytes.foldl (fun n byte => 256 * n + byte.toNat) 0

@[simp] theorem ofBigEndian_nil : ofBigEndian [] = 0 := rfl

/-- A byte behind others is the least significant one. -/
theorem ofBigEndian_concat (bytes : List UInt8) (byte : UInt8) :
    ofBigEndian (bytes ++ [byte]) = 256 * ofBigEndian bytes + byte.toNat := by
  simp [ofBigEndian]

/-- The bytes of a number stand for it, up to what does not fit into them. -/
theorem ofBigEndian_bigEndian (count n : Nat) :
    ofBigEndian (bigEndian count n) = n % 256 ^ count := by
  induction count generalizing n with
  | zero => simp [bigEndian, Nat.mod_one]
  | succ count ih =>
      have hlast : (UInt8.ofNat n).toNat = n % 256 := UInt8.toNat_ofNat'
      rw [bigEndian, ofBigEndian_concat, ih, hlast, pow_succ', Nat.mod_mul, Nat.add_comm]

/-- A word is read again from its bytes. -/
theorem ofNat_ofBigEndian {count : Nat} (word : BitVec (8 * count)) :
    BitVec.ofNat (8 * count) (ofBigEndian (bigEndian count word.toNat)) = word := by
  have hlt : word.toNat < 256 ^ count := by
    have hword := word.isLt
    rwa [pow_mul] at hword
  rw [ofBigEndian_bigEndian, Nat.mod_eq_of_lt hlt, BitVec.ofNat_toNat, BitVec.setWidth_eq]

end TextTemplate
