/-
  reg.c: `mlx5_access_reg`, a register read or write through ACCESS_REG.

  The mailbox carries the caller's register data as it stands (`load_accessRegIn`), and a failed
  call leaves the caller's output untouched (`mlx5AccessReg_failed`).
-/
import Mlx5ctl.Misc

namespace Mlx5ctl

open ByteMem CInt Ifc

variable {σ : Type} (K : Sys σ)

/-- `EIO` -/
def eio : Int := 5

/-- `ENOMEM` -/
def enomem : Int := 12

/-- `EREMOTEIO` -/
def eremoteio : Int := 121

/-- `MLX5_REG_RESOURCE_DUMP` -/
def MLX5_REG_RESOURCE_DUMP : BitVec 16 := 0xC000

/-- What `mlx5_access_reg` leaves behind. -/
structure RegResult (σ : Type) where
  err : Int
  dataOut : Mem
  w : World σ

/-- The mailbox of an ACCESS_REG command in a block of `inlen` bytes. -/
def accessRegIn (block : Mem) (inlen : Nat) (dataIn : Mem) (sizeIn : Int) (regId : BitVec 16)
    (arg write : Int) : Mem :=
  let inb := memset0 block inlen
  let inb :=
    if sizeIn ≠ 0 then copy inb AccessRegisterIn.registerData (toSize sizeIn) dataIn else inb
  let inb := mlx5Set inb 0 AccessRegisterIn.opcode MLX5_CMD_OP_ACCESS_REG
  let inb := mlx5Set inb 0 AccessRegisterIn.opMod (if write = 0 then 1 else 0)
  let inb := mlx5Set inb 0 AccessRegisterIn.argument (BitVec.ofInt 32 arg)
  mlx5Set inb 0 AccessRegisterIn.registerId (regId.setWidth 32)

/-- A header field is set without touching the register data. -/
theorem mlx5Set_header (p : Mem) (f : Field) (v : u32) (hf : f.off + f.sz ≤ 128) {i : Nat}
    (hi : AccessRegisterIn.registerData ≤ i) : mlx5Set p 0 f v i = p i := by
  have h16 : AccessRegisterIn.registerData = 16 := rfl
  exact (mlx5Set_replaces p 0 f v).byte (by omega)

/-- The mailbox carries the register data as it stands. -/
theorem load_accessRegIn (block : Mem) (inlen : Nat) (dataIn : Mem) (n : Nat)
    (hn : n < 18446744073709551616) (regId : BitVec 16) (arg write : Int) :
    load (accessRegIn block inlen dataIn n regId arg write) AccessRegisterIn.registerData n =
      load dataIn 0 n := by
  have hsize : toSize (n : Int) = n := toSize_natCast (by omega)
  apply load_congr
  intro k hk
  have hi : AccessRegisterIn.registerData ≤ AccessRegisterIn.registerData + k := by omega
  unfold accessRegIn
  rw [mlx5Set_header _ _ _ (by decide) hi, mlx5Set_header _ _ _ (by decide) hi,
    mlx5Set_header _ _ _ (by decide) hi, mlx5Set_header _ _ _ (by decide) hi,
    if_pos (by omega), hsize, copy_inside _ _ _ _ hk, Nat.zero_add]

/-- `mlx5_access_reg(dev, data_in, size_in, data_out, size_out, reg_id, arg, write)` -/
def mlx5AccessReg (w : World σ) (dataIn : Mem) (sizeIn : Int) (dataOut : Mem) (sizeOut : Int)
    (regId : BitVec 16) (arg write : Int) : RegResult σ :=
  let outlen := toInt (AccessRegisterOut.szBytes + sizeOut)
  let inlen := toInt (AccessRegisterIn.szBytes + sizeIn)
  let (inBlock, s) := K.malloc w.sys (toSize inlen)
  let (outBlock, s) := K.malloc s (toSize outlen)
  let w := { w with sys := s }
  match inBlock, outBlock with
  | some inBlock, some outBlock =>
      let inb := accessRegIn inBlock (toSize inlen) dataIn sizeIn regId arg write
      let out := memset0 outBlock (toSize outlen)
      let r := mlx5uCmd K w inb (toSize inlen) out (toSize outlen)
      if r.ret ≠ 0 then ⟨r.ret, dataOut, r.w⟩
      else
        ⟨r.ret, copy dataOut 0 (toSize sizeOut) (shift r.out AccessRegisterOut.registerData), r.w⟩
  | _, _ => ⟨-enomem, dataOut, w⟩

/-- A failed access leaves the caller's output as it was. -/
theorem mlx5AccessReg_failed (w : World σ) (dataIn : Mem) (sizeIn : Int) (dataOut : Mem)
    (sizeOut : Int) (regId : BitVec 16) (arg write : Int)
    (h : (mlx5AccessReg K w dataIn sizeIn dataOut sizeOut regId arg write).err ≠ 0) :
    (mlx5AccessReg K w dataIn sizeIn dataOut sizeOut regId arg write).dataOut = dataOut := by
  unfold mlx5AccessReg at h ⊢
  dsimp only at h ⊢
  split
  · split
    · rfl
    · next hret => simp_all
  · rfl

/-- An access that returns 0 has printed nothing. -/
theorem mlx5AccessReg_silent {w : World σ} {dataIn : Mem} {sizeIn : Int} {dataOut : Mem}
    {sizeOut : Int} {regId : BitVec 16} {arg write : Int}
    (h : (mlx5AccessReg K w dataIn sizeIn dataOut sizeOut regId arg write).err = 0) :
    (mlx5AccessReg K w dataIn sizeIn dataOut sizeOut regId arg write).w.out = w.out := by
  unfold mlx5AccessReg at h ⊢
  dsimp only at h ⊢
  split at h
  · split_ifs at h ⊢ with hret
    · exact absurd h hret
    · exact (mlx5uCmd_zero K (not_not.mp hret)).2
  · exact absurd h (show -enomem ≠ 0 by decide)

end Mlx5ctl
