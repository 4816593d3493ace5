/-
  Rounding up to a power of two with a mask.

  `roundUp a n` is the least multiple of `a` that is `n` or more. Adding `a - 1` and clearing the
  low bits computes it on machine words, as long as the addition does not wrap.
-/
import Mathlib.Data.Nat.Bitwise
import Mathlib.Order.Bounds.Basic
import Mathlib.Tactic.Common

namespace Align

/-- `n`, rounded up to a multiple of `a`. -/
def roundUp (a n : Nat) : Nat := (n + (a - 1)) / a * a

theorem roundUp_isLeast {a : Nat} (ha : 0 < a) (n : Nat) :
    IsLeast {m | a ∣ m ∧ n ≤ m} (roundUp a n) := by
  unfold roundUp
  refine ⟨⟨Nat.dvd_mul_left _ _, ?_⟩, ?_⟩
  · have hdiv := Nat.div_add_mod' (n + (a - 1)) a
    have hmod := Nat.mod_lt (n + (a - 1)) ha
    omega
  · rintro m ⟨⟨k, rfl⟩, hle⟩
    rw [Nat.mul_comm a k]
    refine Nat.mul_le_mul_right a (Nat.le_of_lt_succ ?_)
    rw [Nat.div_lt_iff_lt_mul ha, Nat.succ_mul, Nat.mul_comm k a]
    omega

/-- The mask of the low bits. -/
theorem toNat_mask {w k : Nat} (h : k < w) : (BitVec.ofNat w (2 ^ k) - 1).toNat = 2 ^ k - 1 := by
  have hpos : 0 < 2 ^ k := Nat.two_pow_pos k
  have hlt : 2 ^ k < 2 ^ w := Nat.pow_lt_pow_right (by decide) h
  have hone : (1 : BitVec w).toNat = 1 := BitVec.toNat_one (by omega)
  rw [BitVec.toNat_sub_of_le, hone, BitVec.toNat_ofNat, Nat.mod_eq_of_lt hlt]
  rw [BitVec.le_def, hone, BitVec.toNat_ofNat, Nat.mod_eq_of_lt hlt]
  exact hpos

/-- Clearing the low bits. -/
theorem toNat_and_not_mask {w k : Nat} (h : k < w) (y : BitVec w) :
    (y &&& ~~~(BitVec.ofNat w (2 ^ k) - 1)).toNat = y.toNat / 2 ^ k * 2 ^ k := by
  apply Nat.eq_of_testBit_eq
  intro i
  have hmask : (BitVec.ofNat w (2 ^ k) - 1).getLsbD i = decide (i < k) := by
    rw [BitVec.getLsbD, toNat_mask h, Nat.testBit_two_pow_sub_one]
  rw [BitVec.testBit_toNat, BitVec.getLsbD_and, BitVec.getLsbD_not, hmask, ← Nat.shiftLeft_eq,
    ← Nat.shiftRight_eq_div_pow, Nat.testBit_shiftLeft, Nat.testBit_shiftRight,
    BitVec.testBit_toNat]
  by_cases hi : i < k
  · simp [hi]
  · have hin : k + (i - k) = i := by omega
    rw [hin]
    by_cases hw : i < w
    · simp [hi, hw, Nat.not_lt.mp hi]
    · simp [hi, BitVec.getLsbD_of_ge y i (Nat.not_lt.mp hw)]

/-- Rounding up on machine words: the sum is reduced, and its low bits are cleared. -/
theorem toNat_align {w k : Nat} (h : k < w) (x : Nat) :
    ((BitVec.ofNat w x + (BitVec.ofNat w (2 ^ k) - 1)) &&&
      ~~~(BitVec.ofNat w (2 ^ k) - 1)).toNat = (x + (2 ^ k - 1)) % 2 ^ w / 2 ^ k * 2 ^ k := by
  rw [toNat_and_not_mask h, BitVec.toNat_add, BitVec.toNat_ofNat, toNat_mask h, Nat.mod_add_mod]

end Align
