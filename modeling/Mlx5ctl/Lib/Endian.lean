/-
  Native loads and stores of 32-bit and 64-bit words, on a host of either byte order, and the
  `be32toh` family of <endian.h>.

  A native access followed by the conversion is the same on both hosts: it reads and writes
  the big-endian word (`be32toh_load32`, `store32_replaces` and their 64-bit forms).
-/
import Mlx5ctl.Lib.ByteMem

namespace ByteMem

/-- Byte order of the machine the program runs on. -/
inductive Host where
  | little
  | big
  deriving DecidableEq

/-- Byte `k` of a native `n`-byte word in memory. -/
def Host.byteOf (h : Host) (n : Nat) {w : Nat} (x : BitVec w) (k : Nat) : Byte :=
  match h with
  | .little => x.extractLsb' (8 * k) 8
  | .big => x.extractLsb' (8 * (n - 1 - k)) 8

/-- `*(u32 *)(p + a)`. -/
def load32 (h : Host) (p : Mem) (a : Nat) : BitVec 32 :=
  match h with
  | .little => p (a + 3) ++ p (a + 2) ++ p (a + 1) ++ p a
  | .big => p a ++ p (a + 1) ++ p (a + 2) ++ p (a + 3)

/-- `*(u64 *)(p + a)`. -/
def load64 (h : Host) (p : Mem) (a : Nat) : BitVec 64 :=
  match h with
  | .little => load32 .little p (a + 4) ++ load32 .little p a
  | .big => load32 .big p a ++ load32 .big p (a + 4)

/-- `*(u32 *)(p + a) = x`. -/
def store32 (h : Host) (p : Mem) (a : Nat) (x : BitVec 32) : Mem :=
  copy p a 4 (h.byteOf 4 x)

/-- `*(u64 *)(p + a) = x`. -/
def store64 (h : Host) (p : Mem) (a : Nat) (x : BitVec 64) : Mem :=
  copy p a 8 (h.byteOf 8 x)

/-- The four bytes of a word in the opposite order. -/
def bswap32 (x : BitVec 32) : BitVec 32 :=
  x.extractLsb' 0 8 ++ x.extractLsb' 8 8 ++ x.extractLsb' 16 8 ++ x.extractLsb' 24 8

/-- The eight bytes of a word in the opposite order. -/
def bswap64 (x : BitVec 64) : BitVec 64 :=
  bswap32 (x.extractLsb' 0 32) ++ bswap32 (x.extractLsb' 32 32)

/-- `be32toh`. -/
def be32toh (h : Host) (x : BitVec 32) : BitVec 32 :=
  match h with
  | .little => bswap32 x
  | .big => x

/-- `htobe32`. -/
def htobe32 (h : Host) (x : BitVec 32) : BitVec 32 :=
  match h with
  | .little => bswap32 x
  | .big => x

/-- `be64toh`. -/
def be64toh (h : Host) (x : BitVec 64) : BitVec 64 :=
  match h with
  | .little => bswap64 x
  | .big => x

/-- `htobe64`. -/
def htobe64 (h : Host) (x : BitVec 64) : BitVec 64 :=
  match h with
  | .little => bswap64 x
  | .big => x

/-! ## Loads -/

/-- Bits of four bytes put together. -/
theorem getLsbD_bytes (b₀ b₁ b₂ b₃ : Byte) (j : Nat) :
    (b₃ ++ b₂ ++ b₁ ++ b₀ : BitVec 32).getLsbD j =
      if j < 8 then b₀.getLsbD j else if j < 16 then b₁.getLsbD (j - 8)
      else if j < 24 then b₂.getLsbD (j - 16) else b₃.getLsbD (j - 24) := by
  have h : ∀ w (x : BitVec w) (y : Byte) j, (x ++ y).getLsbD j =
      if j < 8 then y.getLsbD j else x.getLsbD (j - 8) := fun _ _ _ _ => by
    rw [BitVec.getLsbD_append]
  show (b₃ ++ b₂ ++ b₁ ++ b₀ : BitVec (8 + 8 + 8 + 8)).getLsbD j = _
  rw [h, h, h]
  grind

theorem getLsbD_halves (x y : BitVec 32) (j : Nat) :
    (x ++ y : BitVec 64).getLsbD j = if j < 32 then y.getLsbD j else x.getLsbD (j - 32) := by
  show (x ++ y : BitVec (32 + 32)).getLsbD j = _
  rw [BitVec.getLsbD_append]

theorem getLsbD_bswap32 (x : BitVec 32) (j : Nat) (hj : j < 32) :
    (bswap32 x).getLsbD j = x.getLsbD (8 * (3 - j / 8) + j % 8) := by
  unfold bswap32
  rw [getLsbD_bytes]
  simp only [BitVec.getLsbD_extractLsb']
  grind

theorem getLsbD_bswap64 (x : BitVec 64) (j : Nat) (hj : j < 64) :
    (bswap64 x).getLsbD j = x.getLsbD (8 * (7 - j / 8) + j % 8) := by
  unfold bswap64
  rw [getLsbD_halves]
  by_cases h : j < 32
  · rw [if_pos h, getLsbD_bswap32 _ _ h, BitVec.getLsbD_extractLsb']
    grind
  · rw [if_neg h, getLsbD_bswap32 _ _ (by omega), BitVec.getLsbD_extractLsb']
    grind

theorem bswap32_bytes (b₀ b₁ b₂ b₃ : Byte) :
    bswap32 (b₃ ++ b₂ ++ b₁ ++ b₀ : BitVec 32) = (b₀ ++ b₁ ++ b₂ ++ b₃ : BitVec 32) := by
  apply BitVec.eq_of_getLsbD_eq
  intro j hj
  rw [getLsbD_bswap32 _ _ hj, getLsbD_bytes, getLsbD_bytes]
  grind

/-- A native load and `be32toh` read the big-endian word, on either host. -/
theorem be32toh_load32 (h : Host) (p : Mem) (a : Nat) : be32toh h (load32 h p a) = word32 p a := by
  cases h with
  | little => exact bswap32_bytes _ _ _ _
  | big => rfl

theorem bswap64_halves (x y : BitVec 32) :
    bswap64 (x ++ y : BitVec 64) = (bswap32 y ++ bswap32 x : BitVec 64) := by
  apply BitVec.eq_of_getLsbD_eq
  intro j hj
  rw [getLsbD_bswap64 _ _ hj, getLsbD_halves, getLsbD_halves]
  by_cases h : j < 32
  · rw [if_pos h, if_neg (by omega), getLsbD_bswap32 _ _ h]
    congr 1
    omega
  · rw [if_neg h, if_pos (by omega), getLsbD_bswap32 _ _ (by omega)]
    congr 1
    omega

/-- A native load and `be64toh` read the big-endian word, on either host. -/
theorem be64toh_load64 (h : Host) (p : Mem) (a : Nat) : be64toh h (load64 h p a) = word64 p a := by
  cases h with
  | little =>
      simp only [be64toh, load64, word64, bswap64_halves]
      rw [show bswap32 (load32 .little p a) = word32 p a from be32toh_load32 .little p a,
        show bswap32 (load32 .little p (a + 4)) = word32 p (a + 4) from
          be32toh_load32 .little p (a + 4)]
  | big => rfl

/-! ## Stores -/

/-- Bytes of a big-endian word, most significant first. -/
theorem replaces_of_bytes {p q : Mem} {a n : Nat} {w : Nat} (x : BitVec w)
    (hin : ∀ k, k < n → q (a + k) = x.extractLsb' (8 * (n - 1 - k)) 8)
    (hout : ∀ i, i < a ∨ a + n ≤ i → q i = p i) : Replaces p (8 * a) (8 * n) x.toNat q := by
  intro i
  obtain ⟨b, m, hm, rfl⟩ : ∃ b m, m < 8 ∧ i = 8 * b + m :=
    ⟨i / 8, i % 8, Nat.mod_lt _ (by decide), by omega⟩
  by_cases hb : a ≤ b ∧ b < a + n
  · obtain ⟨k, rfl⟩ := Nat.exists_eq_add_of_le hb.1
    have hpos : 8 * a + 8 * n - 1 - (8 * (a + k) + m) = 8 * (n - 1 - k) + (7 - m) := by omega
    rw [if_pos (by omega), bit_byte _ _ _ hm, hin k (by omega), hpos]
    simp [BitVec.getMsbD_eq_getLsbD, hm, BitVec.testBit_toNat]
    omega
  · rw [if_neg (by omega), bit_byte _ _ _ hm, bit_byte _ _ _ hm, hout b (by omega)]

theorem byteOf_htobe32 (h : Host) (x : BitVec 32) {k : Nat} (hk : k < 4) :
    h.byteOf 4 (htobe32 h x) k = x.extractLsb' (8 * (4 - 1 - k)) 8 := by
  cases h with
  | big => rfl
  | little =>
      apply BitVec.eq_of_getLsbD_eq
      intro j hj
      simp only [Host.byteOf, htobe32, BitVec.getLsbD_extractLsb']
      rw [getLsbD_bswap32 _ _ (by omega)]
      congr 2
      omega

theorem byteOf_htobe64 (h : Host) (x : BitVec 64) {k : Nat} (hk : k < 8) :
    h.byteOf 8 (htobe64 h x) k = x.extractLsb' (8 * (8 - 1 - k)) 8 := by
  cases h with
  | big => rfl
  | little =>
      apply BitVec.eq_of_getLsbD_eq
      intro j hj
      simp only [Host.byteOf, htobe64, BitVec.getLsbD_extractLsb']
      rw [getLsbD_bswap64 _ _ (by omega)]
      congr 2
      omega

theorem copy_inside (dst : Mem) (d n : Nat) (src : Mem) {k : Nat} (hk : k < n) :
    copy dst d n src (d + k) = src k := by
  unfold copy
  rw [if_pos (by omega), Nat.add_sub_cancel_left]

/-- `htobe32` and a native store replace the 32 bits of the word, on either host. -/
theorem store32_replaces (h : Host) (p : Mem) (a : Nat) (x : BitVec 32) :
    Replaces p (8 * a) 32 x.toNat (store32 h p a (htobe32 h x)) := by
  refine replaces_of_bytes (n := 4) x (fun k hk => ?_) (fun i hi => copy_outside _ _ _ _ hi)
  rw [store32, copy_inside _ _ _ _ hk, byteOf_htobe32 h x hk]

/-- `htobe64` and a native store replace the 64 bits of the word, on either host. -/
theorem store64_replaces (h : Host) (p : Mem) (a : Nat) (x : BitVec 64) :
    Replaces p (8 * a) 64 x.toNat (store64 h p a (htobe64 h x)) := by
  refine replaces_of_bytes (n := 8) x (fun k hk => ?_) (fun i hi => copy_outside _ _ _ _ hi)
  rw [store64, copy_inside _ _ _ _ hk, byteOf_htobe64 h x hk]

end ByteMem
