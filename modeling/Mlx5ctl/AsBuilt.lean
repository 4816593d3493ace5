/-
  mlx5ctl_misc.c: the dumps of the tool as it is built.

  `mlx5u_umem_reg` is compiled as a stub that fails. So a dump with a `--umem=` that is not 0 gets
  as far as a PD and a block of memory, gives the PD back and fails: it creates no key and reads no
  register (`built_dumps`). A core dump needs a umem, so none is ever taken.
-/
import Mlx5ctl.CommandLines
import Mlx5ctl.Footprint

namespace Mlx5ctl

open ByteMem CInt CString Ifc Transition

variable {σ : Type}

/-! ## The stubs -/

/-- `mlx5u_umem_reg(dev, addr, len)` -/
def mlx5uUmemReg (_addr : u64) (_len : Nat) : Int := -1

/-- `mlx5u_umem_unreg(dev, umem_id)` -/
def mlx5uUmemUnreg (_umemId : u32) : Int := -1

/-- The umems are those of mlx5ctl_misc.c. -/
structure UmemSys.AsBuilt (K : UmemSys σ) : Prop where
  umemReg : ∀ s addr len, (K.umemReg s addr len).1 = mlx5uUmemReg addr len
  umemUnreg : ∀ s umemId, (K.umemUnreg s umemId).1 = mlx5uUmemUnreg umemId

theorem UmemSys.AsBuilt.traced {K : UmemSys σ} (h : K.AsBuilt) : K.traced.AsBuilt where
  umemReg s addr len := h.umemReg s.1 addr len
  umemUnreg s umemId := h.umemUnreg s.1 umemId

/-- What a dump may do with the stubs. -/
def builtDumpFootprint (argv : List CStr) : Footprint where
  opcodes := if asksUmem argv.tail then [MLX5_CMD_OP_ALLOC_PD, MLX5_CMD_OP_DEALLOC_PD] else []
  reads regId := argv.headD [] = "rscdump".toList ∧ asksUmem argv.tail = false ∧
    regId = MLX5_REG_RESOURCE_DUMP
  umem := asksUmem argv.tail

namespace RscDump

variable {K : UmemSys σ} (hK : K.AsBuilt) {f : Footprint}

include hK

/-- No buffer is ever made. -/
theorem allocUmemMkeyBuff_built (hf : f.umem = true) (w : World σ) (size : Nat) (pdn : u32) :
    (mlx5libAllocUmemMkeyBuff K w size pdn).1 = none ∧
      Leads K (Call.Within f) w (mlx5libAllocUmemMkeyBuff K w size pdn).2 := by
  have hone (v : World σ) {c : Call} (hc : c.Within f) (out : List Line) :
      Leads K (Call.Within f) v ⟨K.after v.sys c, out⟩ := Reaches.one hc v.sys
  unfold mlx5libAllocUmemMkeyBuff
  dsimp only
  have hmalloc : Leads K (Call.Within f) w ⟨(K.malloc w.sys umemBuffBytes).2, w.out⟩ :=
    .malloc (within_malloc f) w _ _
  generalize K.malloc w.sys umemBuffBytes = m at hmalloc ⊢
  cases m.1 with
  | none => exact ⟨rfl, hmalloc.trans (.of_sys rfl)⟩
  | some block =>
      dsimp only
      have hmemalign : Leads K (Call.Within f) w
          ⟨(K.memalign m.2 (align size UMEM_PAGE_SIZE)).2, w.out⟩ :=
        hmalloc.trans (hone ⟨m.2, w.out⟩ (c := .memalign _) hf w.out)
      generalize K.memalign m.2 (align size UMEM_PAGE_SIZE) = g at hmemalign ⊢
      cases g.1 with
      | none => exact ⟨rfl, hmemalign.trans (.of_sys rfl)⟩
      | some block =>
          obtain ⟨buff, -⟩ := block
          have hreg : Leads K (Call.Within f) w
              ⟨(K.umemReg g.2 buff (align size UMEM_PAGE_SIZE)).2, w.out⟩ :=
            hmemalign.trans (hone ⟨g.2, w.out⟩ (c := .umemReg buff _) hf w.out)
          have hstub : (K.umemReg g.2 buff (align size UMEM_PAGE_SIZE)).1 < 0 := by
            rw [hK.umemReg]
            show (-1 : Int) < 0
            decide
          dsimp only
          rw [if_pos hstub]
          exact ⟨rfl, hreg.trans (.of_sys rfl)⟩

/-- A dump that asks for memory fails. -/
theorem setupUmem_built (hf : f.umem = true) (halloc : MLX5_CMD_OP_ALLOC_PD ∈ f.opcodes)
    (hdealloc : MLX5_CMD_OP_DEALLOC_PD ∈ f.opcodes) (u : World σ) (args : Args)
    (h : args.umem ≠ 0) :
    ∃ ret v, setupUmem K u args = .returned ret v ∧ ret ≠ 0 ∧ Leads K (Call.Within f) u v := by
  have hpd : Leads K (Call.Within f) u (mlx5libAllocPd K u 0 0).w := by
    have hcmd : Leads K (Call.Within f) u (mlx5uCmd K.toSys u (allocPdIn 0) AllocPdIn.szBytes
        zeroMem AllocPdOut.szBytes).w :=
      .opcode (within_query halloc) u _ _ (by decide) (by decide) (opcode_allocPdIn 0)
    unfold mlx5libAllocPd
    dsimp only
    split_ifs <;> exact hcmd
  unfold setupUmem
  dsimp only
  rw [if_pos h]
  split_ifs with herr
  · exact ⟨_, _, rfl, herr, hpd⟩
  · obtain ⟨hnone, hbuff⟩ := allocUmemMkeyBuff_built hK hf (mlx5libAllocPd K u 0 0).w
      (toSize (toInt (args.umem * 1024))) (mlx5libAllocPd K u 0 0).pdn
    have hback : Leads K (Call.Within f) _ (mlx5libDeallocPd K (mlx5libAllocUmemMkeyBuff K
        (mlx5libAllocPd K u 0 0).w (toSize (toInt (args.umem * 1024)))
        (mlx5libAllocPd K u 0 0).pdn).2 (mlx5libAllocPd K u 0 0).pdn 0).w :=
      .opcode (within_query hdealloc) _ _ _ (by decide) (by decide) (opcode_deallocPdIn _ 0)
    rw [hnone]
    exact ⟨_, _, rfl, by decide, hpd.trans (hbuff.trans hback)⟩

/-- How a dump ends with the stubs. -/
theorem doRscdump_built {w : World σ} {argv : List CStr} {n : Nat} {o : Outcome σ Int}
    (h : doRscdump K w argv n = some o) :
    Leads K (Call.Within (builtDumpFootprint argv)) w o.w ∧
      (asksUmem argv.tail = true → o.code ≠ some 0) := by
  have hrun := doRscdump_run K h
  cases hasks : asksUmem argv.tail with
  | false =>
      have hread (hcmd : argv.headD [] = "rscdump".toList) :
          (builtDumpFootprint argv).reads MLX5_REG_RESOURCE_DUMP = true :=
        decide_eq_true ⟨hcmd, hasks, rfl⟩
      exact ⟨doRscdump_inline K (fun hcmd => within_read (hread hcmd)) hasks hrun,
        fun hyes => by cases hyes⟩
  | true =>
      have hops : (builtDumpFootprint argv).opcodes =
          [MLX5_CMD_OP_ALLOC_PD, MLX5_CMD_OP_DEALLOC_PD] := if_pos hasks
      have hsetup (u : World σ) (args : Args) (asks : asksUmem argv.tail = (args.umem != 0)) :=
        setupUmem_built hK (f := builtDumpFootprint argv) hasks (by simp [hops]) (by simp [hops]) u
          args (by simpa [hasks] using asks)
      cases hrun with
      | @stopped o sys stop =>
          refine ⟨.of_sys sys, fun _ hcode => ?_⟩
          cases o with
          | ret v u => exact stop v u rfl
          | exit code u => cases hcode
          | segv u => cases hcode
      | @returned args u v ret start asks setup =>
          obtain ⟨ret', v', hset, hne, hleads⟩ := hsetup u args asks
          rw [hset] at setup
          cases setup
          exact ⟨.trans (.of_sys start) hleads, fun _ hcode => hne (Option.some.inj hcode)⟩
      | @dumped args u v x umemBuff umemPdn start asks setup dump =>
          obtain ⟨ret', v', hset, -⟩ := hsetup u args asks
          rw [hset] at setup
          cases setup

end RscDump

section Main

variable (E : Env σ)

theorem dumps_built {K : UmemSys σ} (hK : K.AsBuilt) : DumpsWithin K builtDumpFootprint :=
  fun _ _ _ _ h => (RscDump.doRscdump_built hK h).1

/-- A dump that asks for memory, through `main`. -/
theorem main_built (hE : E.sys.AsBuilt) {words : List CStr} {name cmd : CStr} {args : List CStr}
    (hdev : deviceWords words = some (name, cmd :: args))
    (hcmd : cmd = "rscdump".toList ∨ cmd = "coredump".toList) (hasks : asksUmem args = true)
    {n : Nat} {w : World σ} {o : Outcome σ Int} (h : main E n w words = some o) :
    o.code ≠ some 0 := by
  rcases main_opens E hdev h with ⟨dev, v, o', -, hrun, rfl⟩ | ⟨-, hcode⟩
  · have hdump : RscDump.doRscdump E.sys v (cmd :: args) n = some o' := by
      rcases hcmd with rfl | rfl
      · exact (runCommand_leaf E (words.headD []) dev n v .rscdump args).symm.trans hrun
      · exact (runCommand_leaf E (words.headD []) dev n v .coredump args).symm.trans hrun
    have hfails := (RscDump.doRscdump_built hE hdump).2 hasks
    cases o' with
    | ret v u => exact fun hcode => hfails ((fold_code v).mp hcode)
    | exit code u => exact hfails
    | segv u => exact hfails
  · exact hcode

/-- **No dump goes into memory.** With the stubs of `mlx5u_umem_reg` and `mlx5u_umem_unreg`, on
    every device and in every run that ends: a dump that asks for memory sends ALLOC_PD and
    DEALLOC_PD at most, creates no key and reads no register, and `main` does not return 0 unless it
    is behind a `sleep`. All else stays in the footprint of its words. -/
theorem built_dumps (hE : E.sys.AsBuilt) (n : Nat) (w : World (σ × List Event))
    (words : List CStr) {o : Outcome (σ × List Event) Int} (h : main E.traced n w words = some o) :
    (∃ new, events o.w = events w ++ new ∧
      ∀ e ∈ new, e.call.Within (footprintBy builtDumpFootprint words)) ∧
    ∀ name cmd args, deviceWords words = some (name, cmd :: args) →
      cmd = "rscdump".toList ∨ cmd = "coredump".toList → asksUmem args = true →
      o.code ≠ some 0 := by
  have hbuilt : E.traced.sys.AsBuilt := hE.traced
  refine ⟨(main_leads_by E.traced (dumps_built hbuilt) h).adds
    (B := fun e => e.call.Within (footprintBy builtDumpFootprint words)) fun _ he => he, ?_⟩
  intro name cmd args hdev hcmd hasks
  exact main_built E.traced hbuilt hdev hcmd hasks h

/-- The stubs, on a device that grants everything. -/
def stubbed : Env Nat :=
  { answering fun _ => 0 with
    sys := { RscDump.granting with
      umemReg s addr len := (mlx5uUmemReg addr len, s)
      umemUnreg s umemId := (mlx5uUmemUnreg umemId, s) } }

/-- `mlx5ctl 0 coredump --umem=4` -/
theorem coredump_built : ∃ o, main stubbed.traced 1 ⟨(0, []), []⟩
      ["mlx5ctl".toList, "0".toList, "coredump".toList, "--umem=4".toList] = some o ∧
    o.code = some 12 ∧ o.code ≠ some 0 ∧ ∃ new, events o.w = new ∧ ∀ e ∈ new, e.call.Within
      { opcodes := [MLX5_CMD_OP_ALLOC_PD, MLX5_CMD_OP_DEALLOC_PD], umem := true } := by
  have hrun : ∃ o, main stubbed.traced 1 ⟨(0, []), []⟩
      ["mlx5ctl".toList, "0".toList, "coredump".toList, "--umem=4".toList] = some o ∧
      o.code = some 12 := ⟨_, rfl, rfl⟩
  obtain ⟨o, hmain, hcode⟩ := hrun
  obtain ⟨⟨new, hnew, hwithin⟩, hfails⟩ := built_dumps stubbed ⟨fun _ _ _ => rfl, fun _ _ => rfl⟩ 1
    ⟨(0, []), []⟩ _ hmain
  exact ⟨o, hmain, hcode, hfails _ _ _ rfl (.inr rfl) rfl, new, hnew, hwithin⟩

end Main

end Mlx5ctl
