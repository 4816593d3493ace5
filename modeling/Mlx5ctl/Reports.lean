/-
  What a run reports, and what it returns.

  `mlx5u_cmd` prints when it fails, and so does every caller of `mlx5_access_reg`, and each place
  where a dump is given up: `failureFormats` are these messages. `Quiet u v` says that none of them
  was printed on the way from `u` to `v`; it is reflexive and transitive. `Fate` is what holds of a
  command: it was quiet and returned 0, or it returned something the shell sees (`Fate.status`).
-/
import Mlx5ctl.RegAccess
import Mlx5ctl.Cli

namespace Mlx5ctl

open ByteMem CInt Ifc

variable {σ : Type} (K : Sys σ)

/-- The messages of a failed command, of a failed register access, and of a dump that is not, or
    not completely, made. -/
def failureFormats : List String :=
  ["MLX5CTL_IOCTL_CMDRPC failed: %d errno(%d): %s\n",
    "command failed opcode 0x%x opmod 0x%x\n",
    "Failed to access register, err %d errno(%d)\n",
    "Resource dump: Failed to access err %d\n",
    "Failed to access core dump err %d\n",
    "please allocate umem buff first\n",
    "Failed to allocate memory size %d\n",
    "Failed to allocate temp buffer\n",
    "Failed to re-allocate memory size %d\n",
    "Segment overflow %ld, data size %d\n"]

/-- The line reports a failure. -/
def Line.failure : Line → Bool
  | .errMsg fmt _ => fmt ∈ failureFormats
  | _ => false

theorem failure_of_mem {fmt : String} (h : fmt ∈ failureFormats) (args : List Arg) :
    (Line.errMsg fmt args).failure = true := decide_eq_true h

theorem not_failure {fmt : String} (h : fmt ∉ failureFormats) (args : List Arg) :
    (Line.errMsg fmt args).failure = false := decide_eq_false h

/-- Lines that are printed, not reported. -/
theorem printed_quiet {α : Type} {f : α → Line} (hf : ∀ a, ∃ fmt args, f a = .printf fmt args)
    (l : List α) : ∀ x ∈ l.map f, x.failure = false := by
  intro x hx
  obtain ⟨a, -, rfl⟩ := List.mem_map.mp hx
  obtain ⟨fmt, args, h⟩ := hf a
  rw [h]
  rfl

/-- A failure was reported on the way from `u` to `v`. -/
def Reported (u v : World σ) : Prop :=
  ∃ new, v.out = u.out ++ new ∧ ∃ l ∈ new, l.failure

/-- No failure was. -/
def Quiet (u v : World σ) : Prop :=
  ∃ new, v.out = u.out ++ new ∧ ∀ l ∈ new, l.failure = false

namespace Quiet

variable {u v w : World σ}

theorem of_out (h : v.out = u.out) : Quiet u v :=
  ⟨[], by rw [h, List.append_nil], fun _ hl => absurd hl List.not_mem_nil⟩

theorem refl (u : World σ) : Quiet u u := of_out rfl

theorem trans (h : Quiet u v) (h' : Quiet v w) : Quiet u w := by
  obtain ⟨new, hout, hnew⟩ := h
  obtain ⟨new', hout', hnew'⟩ := h'
  refine ⟨new ++ new', by rw [hout', hout, List.append_assoc], fun l hl => ?_⟩
  rcases List.mem_append.mp hl with hl | hl
  · exact hnew l hl
  · exact hnew' l hl

/-- Other lines are no failure. -/
theorem lines {ls : List Line} (hv : v.out = u.out ++ ls) (h : ∀ l ∈ ls, l.failure = false) :
    Quiet u v := ⟨ls, hv, h⟩

theorem print (u : World σ) {l : Line} (h : l.failure = false) : Quiet u (u.print l) :=
  lines rfl fun _ hl => List.mem_singleton.mp hl ▸ h

theorem prints (u : World σ) {ls : List Line} (h : ∀ l ∈ ls, l.failure = false) :
    Quiet u (u.prints ls) := lines rfl h

theorem not_reported (h : Quiet u v) : ¬ Reported u v := by
  rintro ⟨new, hout, l, hl, hfail⟩
  obtain ⟨new', hout', hnew⟩ := h
  obtain rfl : new = new' := List.append_cancel_left (hout.symm.trans hout')
  rw [hnew l hl] at hfail
  cases hfail

end Quiet

/-- What goes on quietly after a function that was quiet. -/
theorem bind_quiet {α β : Type} {u : World σ} {o : Outcome σ α} {f : α → World σ → Outcome σ β}
    (ho : Quiet u o.w) (hf : ∀ a v, o = .ret a v → Quiet v (f a v).w) : Quiet u (o.bind f).w := by
  cases o with
  | ret a v => exact Quiet.trans ho (hf a v rfl)
  | exit code v => exact ho
  | segv v => exact ho

theorem optionLoop_quiet {α : Type} {step : World σ → α → Opt → Outcome σ α}
    (hstep : ∀ w a o, Quiet w (step w a o).w) (w : World σ) (a : α) (os : List Opt) :
    Quiet w (optionLoop step w a os).w := by
  induction os generalizing w a with
  | nil => exact Quiet.refl w
  | cons o os ih => exact bind_quiet (hstep w a o) fun b v _ => ih v b

/-! ## Commands -/

/-- No `ioctl` fails with a multiple of 256: libc returns -1. -/
def IoctlErrors : Prop := ∀ s req n, (K.rpc s req n).1 % 256 = 0 → (K.rpc s req n).1 = 0

/-- A command was quiet and returned 0, or returned something whose eight low bits are not 0. -/
def Fate (u : World σ) (ret : Int) (v : World σ) : Prop :=
  ret % 256 ≠ 0 ∨ (ret = 0 ∧ Quiet u v)

namespace Fate

variable {u v w : World σ} {ret : Int}

theorem failed (h : Fate u ret v) (hret : ret ≠ 0) : ret % 256 ≠ 0 := by
  rcases h with h | h
  · exact h
  · exact absurd h.1 hret

theorem quiet (h : Fate u ret v) (hret : ret = 0) : Quiet u v := by
  rcases h with h | h
  · exact absurd (by rw [hret]; rfl) h
  · exact h.2

/-- The shell sees a failure. -/
theorem status (h : Fate u ret v) (hret : ret % 256 = 0) : Quiet u v := by
  rcases h with h | h
  · exact absurd hret h
  · exact h.2

end Fate

/-- The return value of `mlx5u_cmd` does not depend on what was printed before. -/
theorem mlx5uCmd_ret_congr {v w : World σ} (h : v.sys = w.sys) (inb : Mem) (inlen : Nat)
    (out : Mem) (outlen : Nat) :
    (mlx5uCmd K v inb inlen out outlen).ret = (mlx5uCmd K w inb inlen out outlen).ret := by
  rw [mlx5uCmd_ret, mlx5uCmd_ret]
  unfold replyIn
  rw [h]

theorem mlx5uCmd_fate (hK : IoctlErrors K) (w : World σ) (inb : Mem) (inlen : Nat) (out : Mem)
    (outlen : Nat) :
    Fate w (mlx5uCmd K w inb inlen out outlen).ret (mlx5uCmd K w inb inlen out outlen).w := by
  unfold mlx5uCmd
  dsimp only
  split_ifs with hret hstatus
  · exact Or.inl fun h => hret (hK _ _ _ h)
  · refine Or.inl fun h => hstatus (BitVec.eq_of_toNat_eq ?_)
    have hbyte := status_byte (overlay ((K.rpc w.sys (load inb 0 (toU32 inlen))
      (toU32 outlen)).2.1.take (toU32 outlen)) out)
    have hlt := (overlay ((K.rpc w.sys (load inb 0 (toU32 inlen))
      (toU32 outlen)).2.1.take (toU32 outlen)) out 0).isLt
    dsimp only at h
    show _ = 0
    omega
  · exact Or.inr ⟨not_not.mp hret, Quiet.of_out rfl⟩

/-- A command is reported when it fails, and only then. -/
theorem mlx5uCmd_reported_iff (w : World σ) (inb : Mem) (inlen : Nat) (out : Mem) (outlen : Nat) :
    Reported w (mlx5uCmd K w inb inlen out outlen).w ↔
      (mlx5uCmd K w inb inlen out outlen).ret ≠ 0 := by
  unfold mlx5uCmd
  dsimp only
  split_ifs with hret hstatus
  · exact iff_of_true ⟨_, rfl, _, List.mem_singleton_self _, failure_of_mem (by decide) _⟩ hret
  · refine iff_of_true ⟨_, by
      dsimp only [World.print]
      rw [List.append_assoc, List.append_assoc], _, List.mem_append_left _
        (List.mem_singleton_self _), failure_of_mem (by decide) _⟩ fun h => hstatus ?_
    exact BitVec.eq_of_toNat_eq (Int.ofNat_inj.mp h)
  · exact iff_of_false (Quiet.of_out rfl).not_reported fun h => h (not_not.mp hret)

theorem mlx5AccessReg_fate (hK : IoctlErrors K) (w : World σ) (dataIn : Mem) (sizeIn : Int)
    (dataOut : Mem) (sizeOut : Int) (regId : BitVec 16) (argument write : Int) :
    Fate w (mlx5AccessReg K w dataIn sizeIn dataOut sizeOut regId argument write).err
      (mlx5AccessReg K w dataIn sizeIn dataOut sizeOut regId argument write).w := by
  unfold mlx5AccessReg
  dsimp only
  split
  · split_ifs with hret
    · exact Or.inl ((mlx5uCmd_fate K hK _ _ _ _ _).failed hret)
    · have hquiet := (mlx5uCmd_fate K hK _ _ _ _ _).quiet (not_not.mp hret)
      exact Or.inr ⟨not_not.mp hret, hquiet⟩
  · exact Or.inl (show -enomem % 256 ≠ 0 by decide)

/-! ## Commands of the tool -/

/-- How a command of the tool ends, where `hidden` are the runs that return 0 whatever failed: any
    other run that returns shows a failure in the eight low bits, and a run that does not return
    has sent no command. -/
def Told (hidden : Prop) (u : World σ) : Outcome σ Int → Prop
  | .ret ret v => (hidden → ret = 0) ∧ (¬ hidden → ret % 256 = 0 → Quiet u v)
  | .exit _ v => ¬ hidden ∧ Quiet u v
  | .segv v => ¬ hidden ∧ Quiet u v

namespace Told

variable {hidden : Prop} {u v : World σ} {o : Outcome σ Int} {ret : Int}

/-- A run that reports no failure. -/
theorem of_quiet (h : Quiet u o.w) : Told False u o := by
  cases o with
  | ret ret v => exact ⟨False.elim, fun _ _ => h⟩
  | exit code v => exact ⟨not_false, h⟩
  | segv v => exact ⟨not_false, h⟩

/-- A run that shows its failures. -/
theorem of_seen (hn : ¬ hidden) (h : ret % 256 = 0 → Quiet u v) : Told hidden u (.ret ret v) :=
  ⟨fun hh => absurd hh hn, fun _ => h⟩

theorem congr {hidden' : Prop} (h : Told hidden u o) (heq : hidden ↔ hidden') :
    Told hidden' u o := propext heq ▸ h

/-- What was quiet may come before. -/
theorem before (h : Quiet u v) (ho : Told hidden v o) : Told hidden u o := by
  cases o with
  | ret ret w => exact ⟨ho.1, fun hn h0 => h.trans (ho.2 hn h0)⟩
  | exit code w => exact ⟨ho.1, h.trans ho.2⟩
  | segv w => exact ⟨ho.1, h.trans ho.2⟩

end Told

/-- How a command ends that may be a dump: quietly, with no dump asked for, or it returns, and the
    eight low bits are 0 exactly for the hidden runs. -/
def Shown (hidden asked : Prop) (u : World σ) (o : Outcome σ Int) : Prop :=
  (Quiet u o.w ∧ ¬ asked) ∨ ∃ ret v, o = .ret ret v ∧ (ret % 256 = 0 ↔ hidden)

theorem Told.shown {hidden : Prop} {u : World σ} {o : Outcome σ Int} (h : Told hidden u o) :
    Shown hidden False u o := by
  cases o with
  | ret ret v =>
      by_cases hh : hidden
      · have hzero : ret = 0 := h.1 hh
        exact Or.inr ⟨ret, v, rfl, iff_of_true (by rw [hzero]; rfl) hh⟩
      · by_cases h0 : ret % 256 = 0
        · exact Or.inl ⟨h.2 hh h0, not_false⟩
        · exact Or.inr ⟨ret, v, rfl, iff_of_false h0 hh⟩
  | exit code v => exact Or.inl ⟨h.2, not_false⟩
  | segv v => exact Or.inl ⟨h.2, not_false⟩

end Mlx5ctl
