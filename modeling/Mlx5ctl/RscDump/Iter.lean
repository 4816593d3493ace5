/-
  rscdump.c: `mlx5_rsc_dump_iter`, one round of the RESOURCE_DUMP register.

  The register is sent as it stands in `in`. A reply whose sequence number does not fit is
  rejected with `-EREMOTEIO`. When the device says that more is to come, its fields are copied
  into `in`, so that `in` is the next request.
-/
import Mlx5ctl.Reg

namespace Mlx5ctl.RscDump

open ByteMem CInt Ifc

variable {σ : Type} (K : Sys σ)

/-- `cpy_out2in(fld)` -/
def cpyOut2in (inb out : Mem) (f : Field) : Mem := mlx5Set inb 0 f (mlx5Get out 0 f)

/-- The next request: `in` after a reply with `more_dump` set. -/
def nextRequest (inb out : Mem) : Mem :=
  let inb := cpyOut2in inb out ResourceDump.seqNum
  let inb := cpyOut2in inb out ResourceDump.index1
  let inb := cpyOut2in inb out ResourceDump.index2
  let inb := cpyOut2in inb out ResourceDump.numOfObj1
  let inb := cpyOut2in inb out ResourceDump.numOfObj2
  let inb := cpyOut2in inb out ResourceDump.moreDump
  mlx5Set64 inb 0 ResourceDump.deviceOpaque (mlx5Get64 out 0 ResourceDump.deviceOpaque)

/-- What `mlx5_rsc_dump_iter` leaves behind. -/
structure IterResult (σ : Type) where
  err : Int
  inb : Mem
  out : Mem
  w : World σ

/-- The register access of one round. -/
def access (w : World σ) (inb out : Mem) : RegResult σ :=
  mlx5AccessReg K w inb ResourceDump.szBytes out ResourceDump.szBytes MLX5_REG_RESOURCE_DUMP 0 0

/-- `mlx5_rsc_dump_iter(dev, in, out)` -/
def mlx5RscDumpIter (w : World σ) (inb out : Mem) : IterResult σ :=
  let a := access K w inb out
  if a.err ≠ 0 then
    ⟨-eio, inb, a.dataOut,
      a.w.print (.errMsg "MLX5_REG_RESOURCE_DUMP: Failed to access err %d\n" [.int a.err])⟩
  else
    let inSeqNum := mlx5Get inb 0 ResourceDump.seqNum
    let outSeqNum := mlx5Get a.dataOut 0 ResourceDump.seqNum
    if outSeqNum ≠ 0 ∧ inSeqNum + 1 ≠ outSeqNum then ⟨-eremoteio, inb, a.dataOut, a.w⟩
    else if mlx5Get a.dataOut 0 ResourceDump.moreDump ≠ 0 then
      ⟨1, nextRequest inb a.dataOut, a.dataOut, a.w⟩
    else ⟨0, inb, a.dataOut, a.w⟩

/-! ## What a round can do -/

/-- The reply's sequence number passes the check. -/
def SeqOk (inb out : Mem) : Prop :=
  mlx5Get out 0 ResourceDump.seqNum = 0 ∨
    mlx5Get inb 0 ResourceDump.seqNum + 1 = mlx5Get out 0 ResourceDump.seqNum

/-- What a round comes to: it fails, rejects the reply, asks for more, or is the last. -/
inductive Round (w : World σ) (inb out : Mem) (r : IterResult σ) : Prop where
  | failed (acc : (access K w inb out).err ≠ 0) (err : r.err = -eio) (inb_eq : r.inb = inb)
  | rejected (acc : (access K w inb out).err = 0)
      (seq : ¬ SeqOk inb (access K w inb out).dataOut) (err : r.err = -eremoteio)
      (inb_eq : r.inb = inb)
  | more (acc : (access K w inb out).err = 0) (seq : SeqOk inb (access K w inb out).dataOut)
      (bit : mlx5Get (access K w inb out).dataOut 0 ResourceDump.moreDump ≠ 0)
      (err : r.err = 1) (inb_eq : r.inb = nextRequest inb (access K w inb out).dataOut)
  | last (acc : (access K w inb out).err = 0) (seq : SeqOk inb (access K w inb out).dataOut)
      (bit : mlx5Get (access K w inb out).dataOut 0 ResourceDump.moreDump = 0)
      (err : r.err = 0) (inb_eq : r.inb = inb)

theorem seqOk_iff (inb out : Mem) :
    SeqOk inb out ↔ ¬ (mlx5Get out 0 ResourceDump.seqNum ≠ 0 ∧
      mlx5Get inb 0 ResourceDump.seqNum + 1 ≠ mlx5Get out 0 ResourceDump.seqNum) := by
  unfold SeqOk
  tauto

/-- `mlx5_rsc_dump_iter` does one of the four. -/
theorem iter_round (w : World σ) (inb out : Mem) :
    Round K w inb out (mlx5RscDumpIter K w inb out) := by
  unfold mlx5RscDumpIter
  dsimp only
  by_cases h1 : (access K w inb out).err ≠ 0
  · rw [if_pos h1]
    exact .failed h1 rfl rfl
  · have hacc : (access K w inb out).err = 0 := not_not.mp h1
    rw [if_neg h1]
    by_cases h2 : mlx5Get (access K w inb out).dataOut 0 ResourceDump.seqNum ≠ 0 ∧
        mlx5Get inb 0 ResourceDump.seqNum + 1 ≠
          mlx5Get (access K w inb out).dataOut 0 ResourceDump.seqNum
    · rw [if_pos h2]
      exact .rejected hacc (fun h => (seqOk_iff _ _).mp h h2) rfl rfl
    · have hseq := (seqOk_iff inb (access K w inb out).dataOut).mpr h2
      rw [if_neg h2]
      by_cases h3 : mlx5Get (access K w inb out).dataOut 0 ResourceDump.moreDump ≠ 0
      · rw [if_pos h3]
        exact .more hacc hseq h3 rfl rfl
      · rw [if_neg h3]
        exact .last hacc hseq (not_not.mp h3) rfl rfl

/-- The reply buffer after a round is what the register access left in it. -/
theorem iter_out (w : World σ) (inb out : Mem) :
    (mlx5RscDumpIter K w inb out).out = (access K w inb out).dataOut := by
  unfold mlx5RscDumpIter
  dsimp only
  split_ifs <;> rfl

/-- The outside world after a round is the one the register access leaves. -/
theorem iter_sys (w : World σ) (inb out : Mem) :
    (mlx5RscDumpIter K w inb out).w.sys = (access K w inb out).w.sys := by
  unfold mlx5RscDumpIter
  dsimp only
  split_ifs <;> rfl

/-- A positive result leaves the next request behind. -/
theorem iter_goes_on {w : World σ} {inb out : Mem} (h : 0 < (mlx5RscDumpIter K w inb out).err) :
    (access K w inb out).err = 0 ∧ SeqOk inb (access K w inb out).dataOut ∧
    (mlx5RscDumpIter K w inb out).inb = nextRequest inb (access K w inb out).dataOut := by
  rcases iter_round K w inb out with
    ⟨-, err, -⟩ | ⟨-, -, err, -⟩ | ⟨acc, seq, -, -, inb_eq⟩ | ⟨-, -, -, err, -⟩
  · rw [err] at h
    exact absurd h (by decide)
  · rw [err] at h
    exact absurd h (by decide)
  · exact ⟨acc, seq, inb_eq⟩
  · rw [err] at h
    exact absurd h (by decide)

/-- A reply is accepted when the access succeeds and the sequence number passes. -/
theorem iter_accepted_iff (w : World σ) (inb out : Mem) :
    0 ≤ (mlx5RscDumpIter K w inb out).err ↔
      (access K w inb out).err = 0 ∧ SeqOk inb (access K w inb out).dataOut := by
  rcases iter_round K w inb out with
    ⟨acc, err, -⟩ | ⟨-, seq, err, -⟩ | ⟨acc, seq, -, err, -⟩ | ⟨acc, seq, -, err, -⟩
  · exact iff_of_false (by rw [err]; decide) fun h => acc h.1
  · exact iff_of_false (by rw [err]; decide) fun h => seq h.2
  · exact iff_of_true (by rw [err]; decide) ⟨acc, seq⟩
  · exact iff_of_true (Int.le_of_eq err.symm) ⟨acc, seq⟩

/-- `mlx5_rsc_dump_iter` asks for another round when an accepted reply has `more_dump` set. -/
theorem iter_more_iff (w : World σ) (inb out : Mem) :
    0 < (mlx5RscDumpIter K w inb out).err ↔
      (access K w inb out).err = 0 ∧ SeqOk inb (access K w inb out).dataOut ∧
      mlx5Get (access K w inb out).dataOut 0 ResourceDump.moreDump ≠ 0 := by
  rcases iter_round K w inb out with
    ⟨acc, err, -⟩ | ⟨-, seq, err, -⟩ | ⟨acc, seq, bit, err, -⟩ | ⟨-, -, bit, err, -⟩
  · exact iff_of_false (by rw [err]; decide) fun h => acc h.1
  · exact iff_of_false (by rw [err]; decide) fun h => seq h.2.1
  · exact iff_of_true (by rw [err]; decide) ⟨acc, seq, bit⟩
  · exact iff_of_false (by rw [err]; decide) fun h => h.2.2 bit

/-! ## The next request -/

/-- Bit `i` lies in the field. -/
def HasBit (f : Field) (i : Nat) : Prop := f.off ≤ i ∧ i < f.off + f.sz

instance (f : Field) (i : Nat) : Decidable (HasBit f i) := inferInstanceAs (Decidable (_ ∧ _))

/-- The fields `cpy_out2in` is used on. -/
def copiedFields : List Field :=
  [ResourceDump.seqNum, ResourceDump.index1, ResourceDump.index2, ResourceDump.numOfObj1,
    ResourceDump.numOfObj2, ResourceDump.moreDump]

/-- The bits a continuation request takes from the reply. -/
def Copied (i : Nat) : Prop :=
  (∃ f ∈ copiedFields, HasBit f i) ∨
    (ResourceDump.deviceOpaque.off ≤ i ∧ i < ResourceDump.deviceOpaque.off + 64)

theorem copied_lt {i : Nat} (h : Copied i) : i < 256 := by
  rcases h with ⟨f, hf, -, hi⟩ | ⟨-, hi⟩
  · have hend : ∀ f ∈ copiedFields, f.off + f.sz ≤ 256 := by decide
    have := hend f hf
    omega
  · exact Nat.lt_of_lt_of_le hi (by decide)

theorem bit_cpyOut2in (inb out : Mem) (f : Field) (i : Nat) :
    bit (cpyOut2in inb out f) i = if HasBit f i then bit out i else bit inb i := by
  have h := mlx5Set_replaces inb 0 f (mlx5Get out 0 f)
  rw [mlx5Get_num, Nat.mul_zero, Nat.zero_add] at h
  exact h.of_num i

/-- Fields copied one after the other: their bits come from the reply, all others stay. -/
theorem bit_foldl_cpyOut2in (out : Mem) (fs : List Field) (inb : Mem) (i : Nat) :
    bit (fs.foldl (fun p f => cpyOut2in p out f) inb) i =
      if ∃ f ∈ fs, HasBit f i then bit out i else bit inb i := by
  induction fs generalizing inb with
  | nil => simp
  | cons f fs ih =>
      rw [List.foldl_cons, ih, bit_cpyOut2in]
      by_cases hf : HasBit f i
      · rw [if_pos hf, ite_self, if_pos ⟨f, List.mem_cons_self, hf⟩]
      · simp [hf]

theorem bit_cpyOut2in64 (inb out : Mem) (f : Field64) (i : Nat) :
    bit (mlx5Set64 inb 0 f (mlx5Get64 out 0 f)) i =
      if f.off ≤ i ∧ i < f.off + 64 then bit out i else bit inb i := by
  have h := mlx5Set64_replaces inb 0 f (mlx5Get64 out 0 f)
  rw [mlx5Get64_num, Nat.mul_zero, Nat.zero_add] at h
  exact h.of_num i

/-- The next request takes exactly the copied bits from the reply. -/
theorem bit_nextRequest (inb out : Mem) (i : Nat) :
    (Copied i → bit (nextRequest inb out) i = bit out i) ∧
    (¬ Copied i → bit (nextRequest inb out) i = bit inb i) := by
  have hnext : nextRequest inb out =
      mlx5Set64 (copiedFields.foldl (fun p f => cpyOut2in p out f) inb) 0 ResourceDump.deviceOpaque
        (mlx5Get64 out 0 ResourceDump.deviceOpaque) := rfl
  rw [hnext, bit_cpyOut2in64, bit_foldl_cpyOut2in]
  constructor
  · rintro (hfield | hopaque)
    · rw [if_pos hfield, ite_self]
    · rw [if_pos hopaque]
  · intro h
    rw [if_neg fun hopaque => h (Or.inr hopaque), if_neg fun hfield => h (Or.inl hfield)]

end Mlx5ctl.RscDump
