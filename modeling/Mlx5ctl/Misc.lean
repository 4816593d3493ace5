/-
  mlx5ctl_misc.c: `mlx5u_cmd`, one command through the kernel driver.

  The kernel copies at most `out_len` bytes of the response to `out`; the rest of `out` keeps
  what it held. The result records which bytes of `out` the function reads itself.
-/
import Mlx5ctl.Sys
import Mlx5ctl.Ifc

namespace Mlx5ctl

open ByteMem CInt Ifc

variable {σ : Type} (K : Sys σ)

/-- The status of a response is its first byte. -/
theorem status_byte (p : Mem) : (mlx5Get p 0 MboxOut.status).toNat = (p 0).toNat := by
  have h0 := (p 0).isLt
  have h1 := (p 1).isLt
  have h2 := (p 2).isLt
  have h3 := (p 3).isLt
  have hword : (word32 p 0).toNat =
      (((p 0).toNat * 2 ^ 8 + (p 1).toNat) * 2 ^ 8 + (p 2).toNat) * 2 ^ 8 + (p 3).toNat := by
    unfold word32
    rw [show (p 0 ++ p (0 + 1) ++ p (0 + 2) ++ p (0 + 3) : u32) =
      ((p 0 ++ p 1 : BitVec 16) ++ p 2 : BitVec 24) ++ p 3 from rfl, toNat_append (n := 8),
      toNat_append (n := 8), toNat_append (n := 8)]
  rw [mlx5Get_word, show 0 + 4 * MboxOut.status.dwOff = 0 from rfl, Field.toNat_of, hword,
    show 32 - MboxOut.status.sz - MboxOut.status.off % 32 = 24 from rfl]
  show _ / 2 ^ 24 % 2 ^ 8 = _
  omega

/-- What `mlx5u_cmd` leaves behind. -/
structure CmdResult (σ : Type) where
  ret : Int
  out : Mem
  reads : List Access
  w : World σ

/-- `mlx5u_cmd(dev, in, inlen, out, outlen)`. The lengths go through the `u32` fields of
    `struct fwctl_rpc`. -/
def mlx5uCmd (w : World σ) (inb : Mem) (inlen : Nat) (out : Mem) (outlen : Nat) : CmdResult σ :=
  let r := K.rpc w.sys (load inb 0 (toU32 inlen)) (toU32 outlen)
  let out := overlay (r.2.1.take (toU32 outlen)) out
  let w := { w with sys := r.2.2 }
  if r.1 ≠ 0 then
    ⟨r.1, out, [], w.print (.errMsg "MLX5CTL_IOCTL_CMDRPC failed: %d errno(%d): %s\n"
      [.int r.1, .int (K.errno w.sys)])⟩
  else
    let status := mlx5Get out 0 MboxOut.status
    if status ≠ 0 then
      ⟨status.toNat, out, [MboxOut.status.dword 0, MboxOut.syndrome.dword 0],
        ((w.print (.errMsg "command failed opcode 0x%x opmod 0x%x\n"
          [.int (mlx5Get inb 0 MboxIn.opcode).toNat, .int (mlx5Get inb 0 MboxIn.opMod).toNat])).print
          (.errMsg "status: 0x%x\n" [.int status.toNat])).print
          (.errMsg "syndrome: 0x%x\n" [.int (mlx5Get out 0 MboxOut.syndrome).toNat])⟩
    else ⟨r.1, out, [MboxOut.status.dword 0], w⟩

/-- The outside world after a command is the one the driver leaves. -/
theorem mlx5uCmd_sys (w : World σ) (inb : Mem) (inlen : Nat) (out : Mem) (outlen : Nat) :
    (mlx5uCmd K w inb inlen out outlen).w.sys =
      (K.rpc w.sys (load inb 0 (toU32 inlen)) (toU32 outlen)).2.2 := by
  unfold mlx5uCmd
  dsimp only
  split_ifs <;> rfl

/-- The response buffer after the kernel copied its reply there. -/
def replyIn (w : World σ) (inb : Mem) (inlen : Nat) (out : Mem) (outlen : Nat) : Mem :=
  overlay ((K.rpc w.sys (load inb 0 (toU32 inlen)) (toU32 outlen)).2.1.take (toU32 outlen)) out

/-- The return value of `mlx5u_cmd`: that of the `ioctl`, else the status of the response. -/
def cmdRet (ret : Int) (out : Mem) : Int :=
  if ret ≠ 0 then ret else (mlx5Get out 0 MboxOut.status).toNat

theorem cmdRet_eq_zero_iff (ret : Int) (out : Mem) :
    cmdRet ret out = 0 ↔ ret = 0 ∧ mlx5Get out 0 MboxOut.status = 0 := by
  unfold cmdRet
  split_ifs with hret
  · exact iff_of_false hret fun h => hret h.1
  · rw [Int.natCast_eq_zero, and_iff_right (not_not.mp hret)]
    exact (BitVec.toNat_inj (y := 0))

theorem cmdRet_pos_iff (ret : Int) (out : Mem) :
    0 < cmdRet ret out ↔ 0 < ret ∨ (ret = 0 ∧ mlx5Get out 0 MboxOut.status ≠ 0) := by
  by_cases hret : ret = 0
  · have hzero := cmdRet_eq_zero_iff ret out
    have hnonneg : 0 ≤ cmdRet ret out := by
      unfold cmdRet
      rw [if_neg (not_not.mpr hret)]
      exact Int.natCast_nonneg _
    simp only [hret, true_and, Int.lt_irrefl, false_or] at hzero hnonneg ⊢
    rw [Ne, ← hzero]
    omega
  · unfold cmdRet
    simp [hret]

theorem mlx5uCmd_out (w : World σ) (inb : Mem) (inlen : Nat) (out : Mem) (outlen : Nat) :
    (mlx5uCmd K w inb inlen out outlen).out = replyIn K w inb inlen out outlen := by
  unfold mlx5uCmd replyIn
  dsimp only
  split_ifs <;> rfl

theorem mlx5uCmd_ret (w : World σ) (inb : Mem) (inlen : Nat) (out : Mem) (outlen : Nat) :
    (mlx5uCmd K w inb inlen out outlen).ret =
      cmdRet (K.rpc w.sys (load inb 0 (toU32 inlen)) (toU32 outlen)).1
        (replyIn K w inb inlen out outlen) := by
  unfold mlx5uCmd cmdRet replyIn
  dsimp only
  split_ifs with hret hstatus
  · rfl
  · rfl
  · rw [not_not.mp hret, not_not.mp hstatus]
    rfl

/-- A command that succeeds leaves the reply and prints nothing. -/
theorem mlx5uCmd_ok {w : World σ} {inb : Mem} {inlen : Nat} {out : Mem} {outlen : Nat}
    (hret : (K.rpc w.sys (load inb 0 (toU32 inlen)) (toU32 outlen)).1 = 0)
    (hstatus : mlx5Get (replyIn K w inb inlen out outlen) 0 MboxOut.status = 0) :
    (mlx5uCmd K w inb inlen out outlen).ret = 0 ∧
    (mlx5uCmd K w inb inlen out outlen).out = replyIn K w inb inlen out outlen ∧
    (mlx5uCmd K w inb inlen out outlen).reads = [MboxOut.status.dword 0] ∧
    (mlx5uCmd K w inb inlen out outlen).w.out = w.out := by
  unfold replyIn at hstatus
  unfold mlx5uCmd
  dsimp only
  rw [if_neg (not_not.mpr hret), if_neg (not_not.mpr hstatus)]
  exact ⟨hret, rfl, rfl, rfl⟩

/-- A command that returns 0 has answered with status 0, and nothing is printed. -/
theorem mlx5uCmd_zero {w : World σ} {inb : Mem} {inlen : Nat} {out : Mem} {outlen : Nat}
    (h : (mlx5uCmd K w inb inlen out outlen).ret = 0) :
    mlx5Get (mlx5uCmd K w inb inlen out outlen).out 0 MboxOut.status = 0 ∧
      (mlx5uCmd K w inb inlen out outlen).w.out = w.out := by
  unfold mlx5uCmd at h ⊢
  dsimp only at h ⊢
  split_ifs at h ⊢ with hret hstatus
  · exact absurd h hret
  · exact absurd (BitVec.eq_of_toNat_eq (Int.ofNat_inj.mp h)) hstatus
  · exact ⟨not_not.mp hstatus, rfl⟩

/-- A response buffer a caller of `mlx5u_cmd` set up: the bytes it has, the `out_len` of the
    call, what it holds then, and what is read of it. -/
structure Response where
  cap : Nat
  outLen : Nat
  out : Mem
  reads : List Access

/-- The response buffer of a command, with the reads the caller makes after it. -/
def CmdResult.response (r : CmdResult σ) (cap : Nat) (reads : List Access) : Response :=
  ⟨cap, toU32 cap, r.out, r.reads ++ reads⟩

end Mlx5ctl
