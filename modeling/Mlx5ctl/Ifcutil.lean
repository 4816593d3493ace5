/-
  ifcutil.h: the accessors of a big-endian mailbox.

  `MLX5_GET` and `MLX5_SET` load the dword that holds a field, convert it, shift and mask.
  The macros are written here step by step (`mlx5GetOn`, `mlx5SetOn`), on a host of either
  byte order. `mlx5GetOn_num` and `mlx5SetOn_replaces` say what they come to: a get is the
  number in the field's bits, a set replaces exactly these bits. Everything else about them
  follows from these two.

  A `Field` is an (offset, size) pair the macros can be used on: at least one bit, and inside
  one dword. The rest of the model is run on a little-endian host (`mlx5Get`, `mlx5Set`); by
  `mlx5GetOn_host` and `mlx5SetOn_host` that choice shows nowhere.
-/
import Mlx5ctl.Lib.Endian
import Mlx5ctl.Lib.Access

namespace Mlx5ctl

open ByteMem

abbrev u8 := BitVec 8
abbrev u32 := BitVec 32
abbrev u64 := BitVec 64

/-- A field of an `mlx5_ifc_*_bits` struct, in bits. -/
structure Field where
  off : Nat
  sz : Nat
  pos : 0 < sz
  fits : off % 32 + sz ≤ 32

/-- A 64-bit field. -/
structure Field64 where
  off : Nat
  aligned : off % 64 = 0

namespace Field

/-- `__mlx5_dw_off` -/
def dwOff (f : Field) : Nat := f.off / 32

/-- `__mlx5_dw_bit_off` -/
def dwBitOff (f : Field) : Nat := 32 - f.sz - (f.off &&& 0x1f)

/-- `__mlx5_mask` -/
def mask (f : Field) : u32 := ((1#64 <<< f.sz) - 1#64).setWidth 32

/-- `__mlx5_dw_mask` -/
def dwMask (f : Field) : u32 := f.mask <<< f.dwBitOff

theorem sz_le (f : Field) : f.sz ≤ 32 := by
  have := f.fits
  omega

theorem dwBitOff_eq (f : Field) : f.dwBitOff = 32 - f.sz - f.off % 32 := by
  unfold dwBitOff
  rw [show (0x1f : Nat) = 2 ^ 5 - 1 from rfl, Nat.and_two_pow_sub_one_eq_mod]

theorem getLsbD_mask (f : Field) (j : Nat) : f.mask.getLsbD j = decide (j < f.sz) := by
  have hsz := f.sz_le
  have hpow : 2 ^ f.sz ≤ 2 ^ 32 := Nat.pow_le_pow_right (by decide) hsz
  have hone : 0 < 2 ^ f.sz := Nat.two_pow_pos _
  have hval : ((1#64 <<< f.sz) - 1#64).toNat = 2 ^ f.sz - 1 := by
    have hsh : (1#64 <<< f.sz).toNat = 2 ^ f.sz := by
      rw [BitVec.toNat_shiftLeft, Nat.shiftLeft_eq, BitVec.toNat_one (by decide), Nat.one_mul]
      exact Nat.mod_eq_of_lt (by omega)
    rw [BitVec.toNat_sub, hsh, BitVec.toNat_one (by decide)]
    omega
  unfold mask
  rw [BitVec.getLsbD_setWidth, ← BitVec.testBit_toNat, hval, Nat.testBit_two_pow_sub_one]
  by_cases hj : j < f.sz
  · simp [hj, show j < 32 by omega]
  · simp [hj]

end Field

/-! ## The macros -/

/-- `MLX5_GET(typ, p + base, fld)` -/
def mlx5GetOn (h : Host) (p : Mem) (base : Nat) (f : Field) : u32 :=
  (be32toh h (load32 h p (base + 4 * f.dwOff)) >>> f.dwBitOff) &&& f.mask

/-- `MLX5_SET(typ, p + base, fld, v)` -/
def mlx5SetOn (h : Host) (p : Mem) (base : Nat) (f : Field) (v : u32) : Mem :=
  store32 h p (base + 4 * f.dwOff)
    (htobe32 h ((be32toh h (load32 h p (base + 4 * f.dwOff)) &&& ~~~f.dwMask) |||
      ((v &&& f.mask) <<< f.dwBitOff)))

/-- `MLX5_GET64(typ, p + base, fld)` -/
def mlx5Get64On (h : Host) (p : Mem) (base : Nat) (d : Field64) : u64 :=
  be64toh h (load64 h p (base + 8 * (d.off / 64)))

/-- `MLX5_SET64(typ, p + base, fld, v)` -/
def mlx5Set64On (h : Host) (p : Mem) (base : Nat) (d : Field64) (v : u64) : Mem :=
  store64 h p (base + 8 * (d.off / 64)) (htobe64 h v)

/-! ## What they come to -/

/-- Bit `j` of a field of the big-endian dword. -/
theorem getLsbD_mlx5GetOn (h : Host) (p : Mem) (base : Nat) (f : Field) (j : Nat) :
    (mlx5GetOn h p base f).getLsbD j =
      (decide (j < f.sz) && bit p (8 * base + f.off + (f.sz - 1 - j))) := by
  have hf := f.fits
  unfold mlx5GetOn
  rw [BitVec.getLsbD_and, f.getLsbD_mask, be32toh_load32, BitVec.getLsbD_ushiftRight,
    f.dwBitOff_eq]
  by_cases hj : j < f.sz
  · have hlt : 32 - f.sz - f.off % 32 + j < 32 := by omega
    have hk : 32 - 1 - (32 - f.sz - f.off % 32 + j) < 32 := by omega
    have hpos : 8 * (base + 4 * f.dwOff) + (32 - 1 - (32 - f.sz - f.off % 32 + j)) =
        8 * base + f.off + (f.sz - 1 - j) := by
      unfold Field.dwOff
      omega
    rw [BitVec.getLsbD_eq_getMsbD, getMsbD_word32 _ _ _ hk, hpos]
    simp [hj, hlt]
  · simp [hj]

/-- A get is the number in the bits of the field. -/
theorem mlx5GetOn_num (h : Host) (p : Mem) (base : Nat) (f : Field) :
    (mlx5GetOn h p base f).toNat = num p (8 * base + f.off) f.sz := by
  apply Nat.eq_of_testBit_eq
  intro j
  rw [BitVec.testBit_toNat, getLsbD_mlx5GetOn, testBit_num]

/-- A set replaces exactly the bits of the field, by the low bits of the value. -/
theorem mlx5SetOn_replaces (h : Host) (p : Mem) (base : Nat) (f : Field) (v : u32) :
    Replaces p (8 * base + f.off) f.sz v.toNat (mlx5SetOn h p base f v) := by
  have hf := f.fits
  have hpos := f.pos
  have hoff : f.off = 32 * f.dwOff + f.off % 32 := by unfold Field.dwOff; omega
  have hw := store32_replaces h p (base + 4 * f.dwOff)
    ((be32toh h (load32 h p (base + 4 * f.dwOff)) &&& ~~~f.dwMask) |||
      ((v &&& f.mask) <<< f.dwBitOff))
  intro i
  rw [show mlx5SetOn h p base f v = store32 h p (base + 4 * f.dwOff) (htobe32 h _) from rfl, hw i]
  by_cases hi : 8 * (base + 4 * f.dwOff) ≤ i ∧ i < 8 * (base + 4 * f.dwOff) + 32
  · -- bit `i` is bit `j` of the dword, counted from its low end
    obtain ⟨j, hj, hij⟩ : ∃ j, j < 32 ∧ 8 * (base + 4 * f.dwOff) + 32 - 1 - i = j :=
      ⟨_, by omega, rfl⟩
    have hold : (word32 p (base + 4 * f.dwOff)).getLsbD j = bit p i := by
      have hback : 8 * (base + 4 * f.dwOff) + (32 - 1 - j) = i := by omega
      rw [BitVec.getLsbD_eq_getMsbD, getMsbD_word32 _ _ _ (by omega), hback]
      simp [hj]
    rw [if_pos hi, hij, BitVec.testBit_toNat, BitVec.getLsbD_or, BitVec.getLsbD_and,
      BitVec.getLsbD_not, BitVec.getLsbD_shiftLeft, BitVec.getLsbD_and, f.getLsbD_mask,
      Field.dwMask, BitVec.getLsbD_shiftLeft, f.getLsbD_mask, be32toh_load32, hold,
      f.dwBitOff_eq, BitVec.testBit_toNat]
    by_cases hin : 8 * base + f.off ≤ i ∧ i < 8 * base + f.off + f.sz
    · have hlow : ¬ j < 32 - f.sz - f.off % 32 := by omega
      have hsz : j - (32 - f.sz - f.off % 32) < f.sz := by omega
      have hj' : j - (32 - f.sz - f.off % 32) = 8 * base + f.off + f.sz - 1 - i := by omega
      rw [if_pos hin, ← hj']
      simp [hj, hlow, hsz]
    · rw [if_neg hin]
      by_cases hlow : j < 32 - f.sz - f.off % 32
      · simp [hj, hlow]
      · have hsz : ¬ j - (32 - f.sz - f.off % 32) < f.sz := by omega
        simp [hj, hlow, hsz]
  · rw [if_neg hi, if_neg (by omega)]

/-- A 64-bit get is the big-endian 64-bit word. -/
theorem mlx5Get64On_word64 (h : Host) (p : Mem) (base : Nat) (d : Field64) :
    mlx5Get64On h p base d = word64 p (base + 8 * (d.off / 64)) :=
  be64toh_load64 h p _

/-- A 64-bit set replaces exactly the 64 bits of the field. -/
theorem mlx5Set64On_replaces (h : Host) (p : Mem) (base : Nat) (d : Field64) (v : u64) :
    Replaces p (8 * base + d.off) 64 v.toNat (mlx5Set64On h p base d v) := by
  have hd := d.aligned
  have hw := store64_replaces h p (base + 8 * (d.off / 64)) v
  rwa [show 8 * (base + 8 * (d.off / 64)) = 8 * base + d.off by omega] at hw

theorem mlx5GetOn_host (h h' : Host) (p : Mem) (base : Nat) (f : Field) :
    mlx5GetOn h p base f = mlx5GetOn h' p base f := by
  apply BitVec.eq_of_toNat_eq
  rw [mlx5GetOn_num, mlx5GetOn_num]

theorem mlx5SetOn_host (h h' : Host) (p : Mem) (base : Nat) (f : Field) (v : u32) :
    mlx5SetOn h p base f v = mlx5SetOn h' p base f v :=
  (mlx5SetOn_replaces h p base f v).unique (mlx5SetOn_replaces h' p base f v)

theorem mlx5Get64On_host (h h' : Host) (p : Mem) (base : Nat) (d : Field64) :
    mlx5Get64On h p base d = mlx5Get64On h' p base d := by
  rw [mlx5Get64On_word64, mlx5Get64On_word64]

theorem mlx5Set64On_host (h h' : Host) (p : Mem) (base : Nat) (d : Field64) (v : u64) :
    mlx5Set64On h p base d v = mlx5Set64On h' p base d v :=
  (mlx5Set64On_replaces h p base d v).unique (mlx5Set64On_replaces h' p base d v)

/-! ## Codec laws -/

/-- The dword that holds bits 63..32 of a 64-bit field. -/
def Field64.high (d : Field64) : Field where
  off := d.off
  sz := 32
  pos := by decide
  fits := by have := d.aligned; omega

/-- The dword that holds bits 31..0 of a 64-bit field. -/
def Field64.low (d : Field64) : Field where
  off := d.off + 32
  sz := 32
  pos := by decide
  fits := by have := d.aligned; omega

/-- Get after set: the value modulo the width of the field. -/
theorem mlx5GetOn_set_self (h : Host) (p : Mem) (base : Nat) (f : Field) (v : u32) :
    (mlx5GetOn h (mlx5SetOn h p base f v) base f).toNat = v.toNat % 2 ^ f.sz := by
  rw [mlx5GetOn_num]
  exact (mlx5SetOn_replaces h p base f v).num_self

theorem mlx5SetOn_comm (h : Host) (p : Mem) (base : Nat) (f g : Field) (v w : u32)
    (hd : f.off + f.sz ≤ g.off ∨ g.off + g.sz ≤ f.off) :
    mlx5SetOn h (mlx5SetOn h p base f v) base g w =
      mlx5SetOn h (mlx5SetOn h p base g w) base f v :=
  (mlx5SetOn_replaces h p base f v).comm (mlx5SetOn_replaces h _ base g w)
    (mlx5SetOn_replaces h p base g w) (mlx5SetOn_replaces h _ base f v) (by omega)

theorem mlx5Get64On_halves (h : Host) (p : Mem) (base : Nat) (d : Field64) :
    mlx5Get64On h p base d =
      (mlx5GetOn h p base d.high ++ mlx5GetOn h p base d.low : u64) := by
  have hd := d.aligned
  apply BitVec.eq_of_getLsbD_eq
  intro j hj
  have hpos : 8 * (base + 8 * (d.off / 64)) + (64 - 1 - j) = 8 * base + d.off + (63 - j) := by
    omega
  rw [mlx5Get64On_word64, BitVec.getLsbD_eq_getMsbD, getMsbD_word64 _ _ _ (by omega), hpos,
    getLsbD_halves, getLsbD_mlx5GetOn, getLsbD_mlx5GetOn]
  simp only [Field64.high, Field64.low, hj, decide_true, Bool.true_and]
  by_cases hlow : j < 32
  · simp only [hlow, if_true, decide_true, Bool.true_and]
    congr 1
    omega
  · simp only [hlow, if_false, show j - 32 < 32 by omega, decide_true, Bool.true_and]
    congr 1
    omega

theorem mlx5Set64On_halves (h : Host) (p : Mem) (base : Nat) (d : Field64) (v : u64) :
    mlx5Set64On h p base d v =
      mlx5SetOn h (mlx5SetOn h p base d.high (v.extractLsb' 32 32)) base d.low
        (v.extractLsb' 0 32) := by
  have hhigh : Replaces p (8 * base + d.off) 32 (v.toNat / 2 ^ 32)
      (mlx5SetOn h p base d.high (v.extractLsb' 32 32)) := by
    refine (mlx5SetOn_replaces h p base d.high _).congr ?_
    rw [BitVec.extractLsb'_toNat, Nat.shiftRight_eq_div_pow]
    exact Nat.mod_mod _ _
  have hlow : Replaces (mlx5SetOn h p base d.high (v.extractLsb' 32 32)) (8 * base + d.off + 32) 32
      v.toNat (mlx5SetOn h (mlx5SetOn h p base d.high (v.extractLsb' 32 32)) base d.low
        (v.extractLsb' 0 32)) := by
    refine (mlx5SetOn_replaces h _ base d.low _).congr ?_
    rw [BitVec.extractLsb'_toNat]
    exact Nat.mod_mod _ _
  exact (mlx5Set64On_replaces h p base d v).unique (hhigh.append hlow)

/-- **Codec laws.** On every host, memory, pointer into it, field and value: a get is the
    number in the bits of the field; a set replaces these bits by the value modulo the width
    of the field and no other bit; a get after a set returns that value; sets of disjoint
    fields commute; a 64-bit access is the pair of accesses to its two dwords. None of it
    depends on the byte order of the host. -/
theorem codec_laws (h : Host) (p : Mem) (base : Nat) (f : Field) (v : u32) :
    (mlx5GetOn h p base f).toNat = num p (8 * base + f.off) f.sz ∧
    (∀ i, bit (mlx5SetOn h p base f v) i =
      if 8 * base + f.off ≤ i ∧ i < 8 * base + f.off + f.sz
      then (v.toNat % 2 ^ f.sz).testBit (8 * base + f.off + f.sz - 1 - i) else bit p i) ∧
    (mlx5GetOn h (mlx5SetOn h p base f v) base f).toNat = v.toNat % 2 ^ f.sz ∧
    (∀ (g : Field) (w : u32), f.off + f.sz ≤ g.off ∨ g.off + g.sz ≤ f.off →
      mlx5SetOn h (mlx5SetOn h p base f v) base g w =
        mlx5SetOn h (mlx5SetOn h p base g w) base f v) ∧
    (∀ (d : Field64) (x : u64),
      mlx5Get64On h p base d =
        (mlx5GetOn h p base d.high ++ mlx5GetOn h p base d.low : u64) ∧
      mlx5Set64On h p base d x =
        mlx5SetOn h (mlx5SetOn h p base d.high (x.extractLsb' 32 32)) base d.low
          (x.extractLsb' 0 32)) ∧
    (∀ h' : Host,
      mlx5GetOn h p base f = mlx5GetOn h' p base f ∧
      mlx5SetOn h p base f v = mlx5SetOn h' p base f v ∧
      ∀ (d : Field64) (x : u64), mlx5Get64On h p base d = mlx5Get64On h' p base d ∧
        mlx5Set64On h p base d x = mlx5Set64On h' p base d x) := by
  refine ⟨mlx5GetOn_num h p base f, ?_, mlx5GetOn_set_self h p base f v,
    fun g w => mlx5SetOn_comm h p base f g v w,
    fun d x => ⟨mlx5Get64On_halves h p base d, mlx5Set64On_halves h p base d x⟩,
    fun h' => ⟨mlx5GetOn_host h h' p base f, mlx5SetOn_host h h' p base f v,
      fun d x => ⟨mlx5Get64On_host h h' p base d, mlx5Set64On_host h h' p base d x⟩⟩⟩
  exact (mlx5SetOn_replaces h p base f v).congr (Nat.mod_mod _ _).symm

/-! ## The accessors the tool is run with -/

/-- `MLX5_GET(typ, p + base, fld)` -/
def mlx5Get (p : Mem) (base : Nat) (f : Field) : u32 := mlx5GetOn .little p base f

/-- `MLX5_SET(typ, p + base, fld, v)` -/
def mlx5Set (p : Mem) (base : Nat) (f : Field) (v : u32) : Mem := mlx5SetOn .little p base f v

/-- `MLX5_GET64(typ, p + base, fld)` -/
def mlx5Get64 (p : Mem) (base : Nat) (d : Field64) : u64 := mlx5Get64On .little p base d

/-- `MLX5_SET64(typ, p + base, fld, v)` -/
def mlx5Set64 (p : Mem) (base : Nat) (d : Field64) (v : u64) : Mem :=
  mlx5Set64On .little p base d v

section Accessors

variable (p q : Mem) (base : Nat) (f g : Field) (v : u32)

theorem mlx5Get_num : (mlx5Get p base f).toNat = num p (8 * base + f.off) f.sz :=
  mlx5GetOn_num .little p base f

theorem mlx5Get_lt : (mlx5Get p base f).toNat < 2 ^ f.sz := by
  rw [mlx5Get_num]
  exact num_lt p _ _

theorem mlx5Set_replaces : Replaces p (8 * base + f.off) f.sz v.toNat (mlx5Set p base f v) :=
  mlx5SetOn_replaces .little p base f v

theorem mlx5Get_set_self :
    (mlx5Get (mlx5Set p base f v) base f).toNat = v.toNat % 2 ^ f.sz :=
  mlx5GetOn_set_self .little p base f v

theorem mlx5Get_set_ne (hd : g.off + g.sz ≤ f.off ∨ f.off + f.sz ≤ g.off) :
    mlx5Get (mlx5Set p base f v) base g = mlx5Get p base g := by
  apply BitVec.eq_of_toNat_eq
  rw [mlx5Get_num, mlx5Get_num]
  exact (mlx5Set_replaces p base f v).num_disjoint (by omega)

/-- A get depends on the bits of its field only. -/
theorem mlx5Get_congr {p q : Mem} {base : Nat} {f : Field}
    (h : ∀ i, 8 * base + f.off ≤ i → i < 8 * base + f.off + f.sz → bit p i = bit q i) :
    mlx5Get p base f = mlx5Get q base f := by
  apply BitVec.eq_of_toNat_eq
  rw [mlx5Get_num, mlx5Get_num]
  exact num_congr h

/-- The value of the field in the dword that holds it. -/
def Field.of (x : u32) : u32 := (x >>> f.dwBitOff) &&& f.mask

theorem mlx5Get_word : mlx5Get p base f = f.of (word32 p (base + 4 * f.dwOff)) := by
  unfold mlx5Get mlx5GetOn Field.of
  rw [be32toh_load32]

theorem Field.toNat_of (x : u32) :
    (f.of x).toNat = x.toNat / 2 ^ (32 - f.sz - f.off % 32) % 2 ^ f.sz := by
  have hmask : f.mask.toNat = 2 ^ f.sz - 1 := by
    apply Nat.eq_of_testBit_eq
    intro j
    rw [BitVec.testBit_toNat, f.getLsbD_mask, Nat.testBit_two_pow_sub_one]
  unfold Field.of
  rw [BitVec.toNat_and, hmask, Nat.and_two_pow_sub_one_eq_mod, BitVec.toNat_ushiftRight,
    Nat.shiftRight_eq_div_pow, f.dwBitOff_eq]

theorem toNat_append {m n : Nat} (h : BitVec m) (l : BitVec n) :
    (h ++ l).toNat = h.toNat * 2 ^ n + l.toNat := by
  rw [BitVec.toNat_append, ← Nat.shiftLeft_add_eq_or_of_lt l.isLt, Nat.shiftLeft_eq]

theorem toNat_halves (h l : BitVec 16) : (h ++ l : u32).toNat = h.toNat * 65536 + l.toNat :=
  toNat_append h l

/-- The field is the high half of its dword. -/
theorem Field.of_high {f : Field} (hsz : f.sz = 16) (hoff : f.off % 32 = 0) (h l : BitVec 16) :
    (f.of (h ++ l)).toNat = h.toNat := by
  have hh := h.isLt
  have hl := l.isLt
  rw [f.toNat_of, hsz, hoff, toNat_halves]
  omega

/-- The field is the low half of its dword. -/
theorem Field.of_low {f : Field} (hsz : f.sz = 16) (hoff : f.off % 32 = 16) (h l : BitVec 16) :
    (f.of (h ++ l)).toNat = l.toNat := by
  have hl := l.isLt
  rw [f.toNat_of, hsz, hoff, toNat_halves]
  omega

/-- The field is its dword. -/
theorem Field.of_whole {f : Field} (hsz : f.sz = 32) (x : u32) : (f.of x).toNat = x.toNat := by
  have hshift : 32 - 32 - f.off % 32 = 0 := by omega
  rw [f.toNat_of, hsz, hshift, Nat.pow_zero, Nat.div_one]
  exact Nat.mod_eq_of_lt x.isLt

section Halves

variable {p : Mem} {base : Nat} {f : Field} {h l : BitVec 16} {x : u32}

theorem mlx5Get_high (hw : word32 p (base + 4 * f.dwOff) = h ++ l) (hsz : f.sz = 16)
    (hoff : f.off % 32 = 0) : (mlx5Get p base f).toNat = h.toNat := by
  rw [mlx5Get_word, hw, Field.of_high hsz hoff]

theorem mlx5Get_low (hw : word32 p (base + 4 * f.dwOff) = h ++ l) (hsz : f.sz = 16)
    (hoff : f.off % 32 = 16) : (mlx5Get p base f).toNat = l.toNat := by
  rw [mlx5Get_word, hw, Field.of_low hsz hoff]

theorem mlx5Get_whole (hw : word32 p (base + 4 * f.dwOff) = x) (hsz : f.sz = 32) :
    (mlx5Get p base f).toNat = x.toNat := by
  rw [mlx5Get_word, hw, Field.of_whole hsz]

end Halves

theorem mlx5Get64_num (d : Field64) :
    (mlx5Get64 p base d).toNat = num p (8 * base + d.off) 64 := by
  have hd := d.aligned
  unfold mlx5Get64
  rw [mlx5Get64On_word64]
  apply Nat.eq_of_testBit_eq
  intro j
  rw [BitVec.testBit_toNat, testBit_num, BitVec.getLsbD_eq_getMsbD]
  by_cases hj : j < 64
  · rw [getMsbD_word64 _ _ _ (by omega)]
    congr 2
    omega
  · simp [hj]

theorem mlx5Set64_replaces (d : Field64) (x : u64) :
    Replaces p (8 * base + d.off) 64 x.toNat (mlx5Set64 p base d x) :=
  mlx5Set64On_replaces .little p base d x

end Accessors

/-- The bytes `MLX5_GET` loads. -/
def Field.dword (f : Field) (base : Nat) : Access := .bytes (base + 4 * f.dwOff) 4

/-- A dword is inside when its last byte is. -/
theorem dword_within (p : Mem) (size : Int) {f : Field} {base : Nat} :
    (f.dword base).Within p size ↔ ((base + 4 * f.dwOff + 4 : Nat) : Int) ≤ size := by
  unfold Field.dword
  rw [Access.within_bytes]
  exact ⟨fun h => h.resolve_left (by decide), Or.inr⟩

end Mlx5ctl
