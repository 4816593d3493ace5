/-
  What a run of code reads from a buffer, and when that stays inside the buffer.
-/
import Mlx5ctl.Lib.ByteMem

namespace ByteMem

/-- One read: a run of bytes, or a C string up to and including its terminating NUL. -/
inductive Access where
  | bytes (off len : Nat)
  | cstr (off : Nat)
  deriving DecidableEq

/-- The read touches offset `k`. -/
def Access.Touches (p : Mem) : Access → Nat → Prop
  | bytes off len, k => off ≤ k ∧ k < off + len
  | cstr off, k => off ≤ k ∧ ∀ j, off ≤ j → j < k → p j ≠ 0

/-- The read touches only offsets below `n`. -/
def Access.Within (p : Mem) (n : Int) (a : Access) : Prop :=
  ∀ k, a.Touches p k → (k : Int) < n

theorem Access.within_bytes {p : Mem} {n : Int} {off len : Nat} :
    (Access.bytes off len).Within p n ↔ len = 0 ∨ ((off + len : Nat) : Int) ≤ n := by
  constructor
  · intro h
    by_cases hl : len = 0
    · exact Or.inl hl
    · have := h (off + len - 1) ⟨by omega, by omega⟩
      exact Or.inr (by omega)
  · rintro (hl | hn) k ⟨h1, h2⟩ <;> omega

/-- A string read stays inside exactly when there is a NUL at or after its start, inside. -/
theorem Access.within_cstr {p : Mem} {n : Int} {off : Nat} :
    (Access.cstr off).Within p n ↔ ∃ k, off ≤ k ∧ (k : Int) < n ∧ p k = 0 := by
  constructor
  · intro h
    by_contra hno
    have hne : ∀ j, off ≤ j → (j : Int) < n → p j ≠ 0 := fun j h1 h2 h3 => hno ⟨j, h1, h2, h3⟩
    -- with no NUL inside, the first offset from `off` on that is not inside is read
    have hout := h (max off n.toNat) ⟨Nat.le_max_left _ _, fun j h1 h2 => by
      by_cases hj : (j : Int) < n
      · exact hne j h1 hj
      · exact absurd (h off ⟨Nat.le_refl _, fun i h3 h4 => by omega⟩) (by omega)⟩
    omega
  · rintro ⟨k, h1, h2, h3⟩ m ⟨h4, h5⟩
    by_contra hm
    exact h5 k h1 (by omega) h3

end ByteMem
