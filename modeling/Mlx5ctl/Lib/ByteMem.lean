/-
  Byte memory as a big-endian bit string.

  A `Mem` is the memory seen from a base pointer: one byte at every offset, with no end.
  `bit p i` numbers its bits from the most significant bit of byte 0, the way a register
  layout does. `num p s n` is the number in the `n` bits from bit `s` on.

  `Replaces p s n v q` says that `q` is `p` with exactly those `n` bits replaced by the low
  bits of `v`. It determines `q` (`Replaces.unique`), so a writer that satisfies it is known
  completely: what is read back (`Replaces.num_self`), what is left alone
  (`Replaces.num_disjoint`, `Replaces.byte`), and that disjoint writers commute
  (`Replaces.comm`).
-/
import Mathlib.Data.Nat.Bitwise
import Mathlib.Tactic.Common

namespace ByteMem

/-- One byte. -/
abbrev Byte := BitVec 8

/-- The memory seen from a base pointer. -/
abbrev Mem := Nat → Byte

/-- Bit `i`, counted from the most significant bit of byte 0. -/
def bit (p : Mem) (i : Nat) : Bool := (p (i / 8)).getMsbD (i % 8)

theorem bit_byte (p : Mem) (a k : Nat) (hk : k < 8) : bit p (8 * a + k) = (p a).getMsbD k := by
  unfold bit
  have hd : (8 * a + k) / 8 = a := by omega
  have hm : (8 * a + k) % 8 = k := by omega
  rw [hd, hm]

/-- A byte is its eight bits. -/
theorem byte_eq_of_bits {p q : Mem} {a : Nat}
    (h : ∀ k, k < 8 → bit p (8 * a + k) = bit q (8 * a + k)) : p a = q a := by
  apply BitVec.eq_of_getMsbD_eq
  intro k hk
  rw [← bit_byte p a k hk, ← bit_byte q a k hk, h k hk]

theorem ext_bit {p q : Mem} (h : ∀ i, bit p i = bit q i) : p = q :=
  funext fun _ => byte_eq_of_bits fun _ _ => h _

/-! ## Numbers in a bit string -/

/-- The number a list of bits stands for, most significant bit first. -/
def beNat (l : List Bool) : Nat := l.foldl (fun n b => 2 * n + b.toNat) 0

theorem beNat_concat (l : List Bool) (b : Bool) : beNat (l ++ [b]) = 2 * beNat l + b.toNat := by
  simp [beNat]

/-- The number in the `n` bits from bit `s` on. -/
def num (p : Mem) (s n : Nat) : Nat := beNat ((List.range n).map fun j => bit p (s + j))

@[simp] theorem num_zero (p : Mem) (s : Nat) : num p s 0 = 0 := rfl

theorem num_succ (p : Mem) (s n : Nat) :
    num p s (n + 1) = 2 * num p s n + (bit p (s + n)).toNat := by
  unfold num
  rw [List.range_succ, List.map_append]
  exact beNat_concat _ _

theorem num_lt (p : Mem) (s n : Nat) : num p s n < 2 ^ n := by
  induction n with
  | zero => simp
  | succ n ih =>
      have hb : (bit p (s + n)).toNat ≤ 1 := Bool.toNat_le _
      rw [num_succ, Nat.pow_succ]
      omega

theorem testBit_num (p : Mem) (s n j : Nat) :
    (num p s n).testBit j = (decide (j < n) && bit p (s + (n - 1 - j))) := by
  induction n generalizing j with
  | zero => simp
  | succ n ih =>
      rw [num_succ]
      cases j with
      | zero =>
          have hs : s + (n + 1 - 1 - 0) = s + n := by omega
          rw [hs, Nat.testBit_zero]
          cases bit p (s + n) <;> simp
      | succ j =>
          have hhalf : (2 * num p s n + (bit p (s + n)).toNat) / 2 = num p s n := by
            have hb : (bit p (s + n)).toNat ≤ 1 := Bool.toNat_le _
            omega
          have hs : s + (n + 1 - 1 - (j + 1)) = s + (n - 1 - j) := by omega
          rw [Nat.testBit_succ, hhalf, ih, hs]
          simp

/-- Equal bits, equal numbers. -/
theorem num_congr {p q : Mem} {s n : Nat}
    (h : ∀ i, s ≤ i → i < s + n → bit p i = bit q i) : num p s n = num q s n := by
  apply Nat.eq_of_testBit_eq
  intro j
  rw [testBit_num, testBit_num]
  by_cases hj : j < n
  · rw [h _ (by omega) (by omega)]
  · simp [hj]

/-- Equal numbers, equal bits. -/
theorem bit_of_num {p q : Mem} {s n i : Nat} (h : num p s n = num q s n) (hs : s ≤ i)
    (hi : i < s + n) : bit p i = bit q i := by
  have hlt : n - 1 - (i - s) < n := by omega
  have hpos : s + (n - 1 - (n - 1 - (i - s))) = i := by omega
  have hj := congrArg (fun x => x.testBit (n - 1 - (i - s))) h
  simpa only [testBit_num, hlt, decide_true, Bool.true_and, hpos] using hj

/-! ## Replacing a run of bits -/

/-- `q` is `p` with the `n` bits from bit `s` on replaced by the low `n` bits of `v`. -/
def Replaces (p : Mem) (s n v : Nat) (q : Mem) : Prop :=
  ∀ i, bit q i = if s ≤ i ∧ i < s + n then v.testBit (s + n - 1 - i) else bit p i

namespace Replaces

variable {p q r : Mem} {s n v s' n' v' : Nat}

theorem inside (h : Replaces p s n v q) {i : Nat} (hs : s ≤ i) (hi : i < s + n) :
    bit q i = v.testBit (s + n - 1 - i) := by
  rw [h i, if_pos ⟨hs, hi⟩]

theorem outside (h : Replaces p s n v q) {i : Nat} (hi : i < s ∨ s + n ≤ i) :
    bit q i = bit p i := by
  rw [h i, if_neg (by omega)]

/-- Only the low `n` bits of the value count. -/
theorem congr (h : Replaces p s n v q) (hv : v % 2 ^ n = v' % 2 ^ n) : Replaces p s n v' q := by
  intro i
  rw [h i]
  by_cases hi : s ≤ i ∧ i < s + n
  · have hj := congrArg (fun x => x.testBit (s + n - 1 - i)) hv
    simp only [Nat.testBit_mod_two_pow, show s + n - 1 - i < n by omega, decide_true,
      Bool.true_and] at hj
    rw [if_pos hi, if_pos hi, hj]
  · rw [if_neg hi, if_neg hi]

theorem unique (h : Replaces p s n v q) (h' : Replaces p s n v r) : q = r :=
  ext_bit fun i => (h i).trans (h' i).symm

/-- What was written is read back. -/
theorem num_self (h : Replaces p s n v q) : num q s n = v % 2 ^ n := by
  apply Nat.eq_of_testBit_eq
  intro j
  rw [testBit_num, Nat.testBit_mod_two_pow]
  by_cases hj : j < n
  · have hpos : s + n - 1 - (s + (n - 1 - j)) = j := by omega
    rw [h.inside (by omega) (by omega), hpos]
  · simp [hj]

/-- A number in other bits is left alone. -/
theorem num_disjoint (h : Replaces p s n v q) (hd : s' + n' ≤ s ∨ s + n ≤ s') :
    num q s' n' = num p s' n' :=
  num_congr fun _ _ _ => h.outside (by omega)

/-- A byte with none of the replaced bits is left alone. -/
theorem byte (h : Replaces p s n v q) {a : Nat} (hd : 8 * a + 8 ≤ s ∨ s + n ≤ 8 * a) :
    q a = p a :=
  byte_eq_of_bits fun _ _ => h.outside (by omega)

/-- Replacements of disjoint runs commute. -/
theorem comm {p₁ p₂ q₁ q₂ : Mem} (h₁ : Replaces p s n v p₁) (h₂ : Replaces p₁ s' n' v' p₂)
    (k₁ : Replaces p s' n' v' q₁) (k₂ : Replaces q₁ s n v q₂)
    (hd : s' + n' ≤ s ∨ s + n ≤ s') : p₂ = q₂ := by
  apply ext_bit
  intro i
  by_cases hi : s ≤ i ∧ i < s + n
  · rw [h₂.outside (by omega), h₁.inside hi.1 hi.2, k₂.inside hi.1 hi.2]
  · by_cases hi' : s' ≤ i ∧ i < s' + n'
    · rw [h₂.inside hi'.1 hi'.2, k₂.outside (by omega), k₁.inside hi'.1 hi'.2]
    · rw [h₂.outside (by omega), h₁.outside (by omega), k₂.outside (by omega),
        k₁.outside (by omega)]

/-- Two adjacent replacements are one: the high part, then the low part. -/
theorem append (h : Replaces p s n (v / 2 ^ n') q) (h' : Replaces q (s + n) n' v r) :
    Replaces p s (n + n') v r := by
  intro i
  by_cases hlow : s + n ≤ i ∧ i < s + n + n'
  · rw [h'.inside hlow.1 hlow.2, if_pos (by omega), Nat.add_assoc]
  · rw [h'.outside (by omega), h i]
    by_cases hhigh : s ≤ i ∧ i < s + n
    · have hpos : s + n - 1 - i + n' = s + (n + n') - 1 - i := by omega
      rw [if_pos hhigh, if_pos (by omega), Nat.testBit_div_two_pow, hpos]
    · rw [if_neg hhigh, if_neg (by omega)]

/-- Replacing by the number that `r` holds in the same bits copies these bits. -/
theorem of_num (h : Replaces p s n (num r s n) q) (i : Nat) :
    bit q i = if s ≤ i ∧ i < s + n then bit r i else bit p i := by
  rw [h i]
  by_cases hi : s ≤ i ∧ i < s + n
  · have hlt : s + n - 1 - i < n := by omega
    have hpos : s + (n - 1 - (s + n - 1 - i)) = i := by omega
    rw [if_pos hi, if_pos hi, testBit_num, hpos]
    simp [hlt]
  · rw [if_neg hi, if_neg hi]

end Replaces

/-! ## Reading and writing runs of bytes -/

/-- The `n` bytes from offset `a` on. -/
def load (p : Mem) (a n : Nat) : List Byte := (List.range n).map fun k => p (a + k)

@[simp] theorem load_length (p : Mem) (a n : Nat) : (load p a n).length = n := by
  simp [load]

@[simp] theorem load_zero (p : Mem) (a : Nat) : load p a 0 = [] := rfl

theorem load_succ (p : Mem) (a n : Nat) : load p a (n + 1) = p a :: load p (a + 1) n := by
  simp only [load, List.range_succ_eq_map, List.map_cons, List.map_map, Nat.add_zero]
  congr 1
  apply List.map_congr_left
  intro k _
  simp only [Function.comp, Nat.succ_eq_add_one]
  congr 1
  omega

theorem load_add (p : Mem) (a m n : Nat) : load p a (m + n) = load p a m ++ load p (a + m) n := by
  induction m generalizing a with
  | zero => simp
  | succ m ih =>
      have e : m + 1 + n = (m + n) + 1 := by omega
      rw [e, load_succ, load_succ, ih, List.cons_append]
      congr 3
      omega

/-- Runs that are the same start the same. -/
theorem load_le {p q : Mem} {a b m n : Nat} (hm : m ≤ n) (h : load p a n = load q b n) :
    load p a m = load q b m := by
  rw [← Nat.add_sub_cancel' hm, load_add, load_add] at h
  exact (List.append_inj h (by simp)).1

theorem load_congr {p q : Mem} {a b n : Nat} (h : ∀ k, k < n → p (a + k) = q (b + k)) :
    load p a n = load q b n :=
  List.map_congr_left fun k hk => h k (List.mem_range.mp hk)

theorem getElem_load (p : Mem) (a n k : Nat) (h : k < (load p a n).length) :
    (load p a n)[k] = p (a + k) := by
  simp [load]

/-- `memcpy(dst + d, src, n)`. -/
def copy (dst : Mem) (d n : Nat) (src : Mem) : Mem :=
  fun i => if d ≤ i ∧ i < d + n then src (i - d) else dst i

theorem load_copy_self (dst : Mem) (d n : Nat) (src : Mem) :
    load (copy dst d n src) d n = load src 0 n := by
  apply load_congr
  intro k hk
  unfold copy
  rw [if_pos (by omega)]
  congr 1
  omega

theorem copy_outside (dst : Mem) (d n : Nat) (src : Mem) {i : Nat} (h : i < d ∨ d + n ≤ i) :
    copy dst d n src i = dst i := by
  unfold copy
  rw [if_neg (by omega)]

/-- The memory that starts at offset `a` of `p`. -/
def shift (p : Mem) (a : Nat) : Mem := fun i => p (a + i)

theorem load_shift (p : Mem) (a b n : Nat) : load (shift p a) b n = load p (a + b) n := by
  apply load_congr
  intro k _
  simp only [shift, Nat.add_assoc]

/-- A list of bytes as memory: the bytes, then whatever `rest` holds there. -/
def overlay (xs : List Byte) (rest : Mem) : Mem := fun i => xs.getD i (rest i)

theorem load_overlay (xs : List Byte) (rest : Mem) : load (overlay xs rest) 0 xs.length = xs := by
  apply List.ext_getElem
  · simp
  · intro k h h'
    rw [getElem_load]
    simp [overlay, h']

/-- The bytes of a run stand where they stood. -/
theorem overlay_load (p rest : Mem) {n k : Nat} (hk : k < n) :
    overlay (load p 0 n) rest k = p k := by
  simp [overlay, load, hk]

/-- A run that was taken from anywhere starts as it did there. -/
theorem load_overlay_load (p rest : Mem) (a : Nat) {m n : Nat} (h : m ≤ n) :
    load (overlay (load p a n) rest) 0 m = load p a m := by
  have hshift (l : Nat) : load (shift p a) 0 l = load p a l := load_shift p a 0 l
  refine Eq.trans (load_congr fun k hk => ?_) (hshift m)
  rw [Nat.zero_add, ← hshift n, overlay_load (shift p a) rest (by omega)]

/-! ## Words -/

/-- The big-endian 32-bit word at offset `a`. -/
def word32 (p : Mem) (a : Nat) : BitVec 32 := p a ++ p (a + 1) ++ p (a + 2) ++ p (a + 3)

theorem getMsbD_word32 (p : Mem) (a k : Nat) (hk : k < 32) :
    (word32 p a).getMsbD k = bit p (8 * a + k) := by
  have hr : k % 8 < 8 := Nat.mod_lt _ (by decide)
  have hbit : bit p (8 * a + k) = (p (a + k / 8)).getMsbD (k % 8) := by
    rw [← bit_byte p (a + k / 8) (k % 8) hr]
    congr 1
    omega
  rw [hbit]
  unfold word32
  rcases (by omega : k / 8 = 0 ∨ k / 8 = 1 ∨ k / 8 = 2 ∨ k / 8 = 3) with h | h | h | h
  · have e : k % 8 = k := by omega
    rw [h, e, BitVec.getMsbD_append, if_neg (by omega), BitVec.getMsbD_append, if_neg (by omega),
      BitVec.getMsbD_append, if_neg (by omega), Nat.add_zero]
  · have e : k % 8 = k - 8 := by omega
    rw [h, e, BitVec.getMsbD_append, if_neg (by omega), BitVec.getMsbD_append, if_neg (by omega),
      BitVec.getMsbD_append, if_pos (by omega)]
  · have e : k % 8 = k - 16 := by omega
    rw [h, e, BitVec.getMsbD_append, if_neg (by omega), BitVec.getMsbD_append, if_pos (by omega)]
  · have e : k % 8 = k - 24 := by omega
    rw [h, e, BitVec.getMsbD_append, if_pos (by omega)]

/-- The big-endian 64-bit word at offset `a`. -/
def word64 (p : Mem) (a : Nat) : BitVec 64 := word32 p a ++ word32 p (a + 4)

theorem getMsbD_word64 (p : Mem) (a k : Nat) (hk : k < 64) :
    (word64 p a).getMsbD k = bit p (8 * a + k) := by
  unfold word64
  rw [BitVec.getMsbD_append]
  by_cases h : 32 ≤ k
  · have e : 8 * (a + 4) + (k - 32) = 8 * a + k := by omega
    rw [if_pos h, getMsbD_word32 p (a + 4) (k - 32) (by omega), e]
  · rw [if_neg h, getMsbD_word32 p a k (by omega)]

end ByteMem
