/-
  rscdump.c: `do_rscdump`, which sets up a PD, a umem and a key, runs `rscdump` or `coredump`, and
  takes them down again.

  `rscdump_balanced`: on every path, what was created is destroyed in the opposite order, by the
  same handles. The dump in between only reads registers, which each collector's turn keeps
  (`collectTurn_leads`, `collectUmemTurn_leads`).

  `umem_buff` is a static variable of the file, `NULL` when the command starts.
-/
import Mlx5ctl.RscDump.Mlx5lib
import Mlx5ctl.RscDump.Modes
import Mlx5ctl.RscDump.Args
import Mlx5ctl.Calls

namespace Mlx5ctl.RscDump

open ByteMem CInt CString Ifc Turn Ledger Transition

variable {σ : Type} (K : UmemSys σ)

/-! ## The commands -/

/-- `MLX5_REG_CORE_DUMP` -/
def MLX5_REG_CORE_DUMP : BitVec 16 := 0x402e

/-- `MLX5_CORE_DUMP_REG_CORE_DUMP_TYPE_CR_DUMP_TO_MEM` -/
def MLX5_CORE_DUMP_REG_CORE_DUMP_TYPE_CR_DUMP_TO_MEM : u32 := 0x2

/-- The register data of a core dump. -/
def coreDumpIn (umemBuff : UmemBuff) : Mem :=
  let inb := mlx5Set zeroMem 0 CoreDumpReg.coreDumpType
    MLX5_CORE_DUMP_REG_CORE_DUMP_TYPE_CR_DUMP_TO_MEM
  let inb := mlx5Set64 inb 0 CoreDumpReg.address umemBuff.buff
  let inb := mlx5Set inb 0 CoreDumpReg.size (BitVec.ofNat 32 umemBuff.size)
  mlx5Set inb 0 CoreDumpReg.mkey umemBuff.umemMkey

/-- `mlx5_core_dump(dev)` -/
def mlx5CoreDump (w : World σ) (umemBuff : Option UmemBuff) : World σ :=
  match umemBuff with
  | none => w.print (.errMsg "please allocate umem buff first\n" [])
  | some umem =>
      let r := mlx5AccessReg K.toSys w (coreDumpIn umem) CoreDumpReg.szBytes zeroMem
        CoreDumpReg.szBytes MLX5_REG_CORE_DUMP 0 0
      if r.err ≠ 0 then r.w.print (.errMsg "Failed to access core dump err %d\n" [.int r.err])
      else
        let size := mlx5Get r.dataOut 0 CoreDumpReg.size
        r.w.prints
          [.hexdump (load (K.umem r.w.sys) 0 (toInt size.toNat).toNat),
            .infoMsg "Core dump done\n" [],
            .infoMsg "Core dump size %d\n" [.int size.toNat],
            .infoMsg "Core dump address 0x%lx\n"
              [.int (mlx5Get64 r.dataOut 0 CoreDumpReg.address).toNat],
            .infoMsg "Core dump cookie 0x%lx\n"
              [.int (mlx5Get64 r.dataOut 0 CoreDumpReg.cookie).toNat],
            .infoMsg "More Dump %d\n" [.int (mlx5Get r.dataOut 0 CoreDumpReg.moreDump).toNat]]

/-- What `do_rscdump` has before the dump: an early return, or `umem_buff` and `umem_pdn`. -/
inductive Setup (σ : Type) where
  | returned (ret : Int) (w : World σ)
  | ready (umemBuff : Option UmemBuff) (umemPdn : u32) (w : World σ)

/-- `if (args.umem) { .. }` -/
def setupUmem (w : World σ) (args : Args) : Setup σ :=
  if args.umem ≠ 0 then
    let umemBuffSize := toSize (toInt (args.umem * 1024))
    let pd := mlx5libAllocPd K w 0 0
    if pd.err ≠ 0 then .returned pd.err pd.w
    else
      let b := mlx5libAllocUmemMkeyBuff K pd.w umemBuffSize pd.pdn
      match b.1 with
      | none => .returned (-enomem) (mlx5libDeallocPd K b.2 pd.pdn 0).w
      | some umemBuff => .ready (some umemBuff) pd.pdn b.2
  else .ready none 0 w

/-- The dump by the name of the command, with at most `n` turns of each loop. -/
def dumpCommand (w : World σ) (cmd : CStr) (args : Args) (umemBuff : Option UmemBuff) (n : Nat) :
    Option (World σ) :=
  if cmd = "rscdump".toList then mlx5RscDump K.toSys w args umemBuff n
  else if cmd = "coredump".toList then some (mlx5CoreDump K w umemBuff)
  else some (w.print (.errMsg "Unknown command \"%s\"\n" [textArg cmd]))

/-- `if (umem_buff) { .. }` -/
def teardownUmem (w : World σ) (umemBuff : Option UmemBuff) (umemPdn : u32) : World σ :=
  match umemBuff with
  | none => w
  | some umem => (mlx5libDeallocPd K (mlx5libFreeUmemMkeyBuff K w umem) umemPdn 0).w

/-- The arguments with the type in place. -/
def Args.withType (args : Args) : Args :=
  if args.type < 0 then { args with type := MLX5_RSC_SGMT_TYPE_MENU } else args

/-- `do_rscdump(dev, argc, argv)`, with at most `n` turns of each loop. -/
def doRscdump (w : World σ) (argv : List CStr) (n : Nat) : Option (Outcome σ Int) :=
  match parseArgs w argv with
  | .exit code w => some (.exit code w)
  | .segv w => some (.segv w)
  | .ret args w =>
      let args := args.withType
      let w := w.print (.printf "umem %d, type 0x%x, index1 0x%x, index2 0x%x, vhca_id=0x%x\n"
        [.int args.umem, .int args.type, .int args.index1, .int args.index2, .int args.vhcaId])
      match setupUmem K w args with
      | .returned ret w => some (.ret ret w)
      | .ready umemBuff umemPdn w =>
          (dumpCommand K w (argv.headD []) args umemBuff n).map fun w =>
            .ret 0 (teardownUmem K w umemBuff umemPdn)

/-! ## The dump reads registers only -/

section Reads

variable {A : Call → Prop}

section ResourceDump

variable (hA : ReadKind A MLX5_REG_RESOURCE_DUMP)

include hA

theorem access_leads (w : World σ) (inb out : Mem) :
    Leads K A w (access K.toSys w inb out).w :=
  hA.accessReg w inb out (n := 256) (m := 256) (by decide) (by decide) 0

theorem iter_leads (w : World σ) (inb out : Mem) :
    Leads K A w (mlx5RscDumpIter K.toSys w inb out).w :=
  (access_leads K hA w inb out).trans (.of_sys (iter_sys K.toSys w inb out))

theorem makeRoom_leads (c : Collect σ) (n : Int) :
    Post (fun c' => Leads K A c.w c'.w) (fun r => Leads K A c.w r.w)
      (makeRoom K.toSys c n) := by
  have hrealloc : ∀ size out, Leads K A c.w ⟨(K.realloc c.w.sys size).2, out⟩ :=
    fun size _ => Reaches.one (hA.realloc size) c.w.sys
  unfold makeRoom
  dsimp only
  split_ifs
  · split
    · exact hrealloc _ _
    · exact hrealloc _ _
  · exact .refl c.w

/-- A turn of the inline collector. -/
theorem collectTurn_leads (c : Collect σ) :
    Post (fun c' => Leads K A c.w c'.w) (fun r => Leads K A c.w r.w)
      (collectTurn K.toSys c) := by
  have hiter := iter_leads K hA c.w c.inb c.out
  have hroom := makeRoom_leads K hA (c.iterate K.toSys)
    (c.iterate K.toSys).iterSize
  unfold collectTurn
  dsimp only
  by_cases herr : (mlx5RscDumpIter K.toSys c.w c.inb c.out).err < 0
  · rw [if_pos herr]
    exact hiter.trans (.of_sys rfl)
  · rw [if_neg herr]
    cases hm : makeRoom K.toSys (c.iterate K.toSys)
        (c.iterate K.toSys).iterSize with
    | exit r =>
        rw [hm] at hroom
        exact hiter.trans hroom
    | again c' =>
        rw [hm] at hroom
        rw [bind_again]
        split_ifs
        · exact hiter.trans hroom
        · exact hiter.trans hroom

/-- A turn of the umem collector. -/
theorem collectUmemTurn_leads (umem : UmemBuff) (c : CollectUmem σ) :
    Post (fun c' => Leads K A c.w c'.w) (fun r => Leads K A c.w r.w)
      (collectUmemTurn K.toSys umem c) := by
  have hiter := iter_leads K hA c.w c.inb c.out
  unfold collectUmemTurn
  dsimp only
  split_ifs <;> exact hiter.trans (.of_sys rfl)

theorem rscdumpCollect_leads (w : World σ) (args : Args) (n : Nat) :
    Post (fun c => Leads K A w c.w) (fun r => Leads K A w r.w)
      (rscdumpCollect K.toSys w args 0 n) := by
  have hstart : Post (fun c => Leads K A w c.w) (fun r => Leads K A w r.w)
      (collectStart K.toSys w args 0) := by
    unfold collectStart
    dsimp only
    split
    · exact .malloc hA.malloc w _ _
    · exact .malloc hA.malloc w _ _
  exact bind_run_invariant hstart
    (fun _ c _ hc => (collectTurn_leads K hA c).mono (fun _ h => hc.trans h)
      (fun _ h => hc.trans h)) n

theorem rscdumpCollectUmem_leads (w : World σ) (args : Args) (umem : UmemBuff)
    (n : Nat) : Post (fun c => Leads K A w c.w) (fun r => Leads K A w r.w)
      (rscdumpCollectUmem K.toSys w args umem n) := by
  have hstart : Post (fun c => Leads K A w c.w) (fun r => Leads K A w r.w)
      (collectUmemStart K.toSys w args umem) := by
    unfold collectUmemStart
    dsimp only
    split
    · exact .malloc hA.malloc w _ _
    · exact .malloc hA.malloc w _ _
  exact bind_run_invariant hstart
    (fun _ c _ hc => (collectUmemTurn_leads K hA umem c).mono (fun _ h => hc.trans h)
      (fun _ h => hc.trans h)) n

/-- What `mlx5_rsc_dump` collects. -/
theorem collectDump_leads {w : World σ} {args : Args}
    {umemBuff : Option UmemBuff} {n : Nat} {d : Dumped σ}
    (h : collectDump K.toSys w args umemBuff n = some d) : Leads K A w d.w := by
  cases umemBuff with
  | none =>
      have hrun := rscdumpCollect_leads K hA w args n
      unfold collectDump at h
      dsimp only at h
      cases hr : rscdumpCollect K.toSys w args 0 n with
      | exit r =>
          rw [hr] at h hrun
          cases h
          exact hrun
      | again c =>
          rw [hr] at h
          cases h
  | some umem =>
      have hrun := rscdumpCollectUmem_leads K hA w args umem n
      unfold collectDump at h
      dsimp only at h
      cases hr : rscdumpCollectUmem K.toSys w args umem n with
      | exit r =>
          rw [hr] at h hrun
          cases h
          exact hrun
      | again c =>
          rw [hr] at h
          cases h

theorem mlx5RscDump_leads {w v : World σ} {args : Args}
    {umemBuff : Option UmemBuff} {n : Nat}
    (h : mlx5RscDump K.toSys w args umemBuff n = some v) : Leads K A w v := by
  obtain ⟨d, hd, hv⟩ := Option.bind_eq_some_iff.mp h
  have hcollect := collectDump_leads K hA hd
  split at hv
  · cases hv
    exact hcollect
  · split at hv
    · cases hv
      exact hcollect.trans (.of_sys rfl)
    · cases hv

end ResourceDump

theorem mlx5CoreDump_leads {umemBuff : Option UmemBuff}
    (hA : umemBuff.isSome → ReadKind A MLX5_REG_CORE_DUMP) (w : World σ) :
    Leads K A w (mlx5CoreDump K w umemBuff) := by
  unfold mlx5CoreDump
  cases umemBuff with
  | none => exact .of_sys rfl
  | some umem =>
      have hreg := (hA rfl).accessReg (K := K) w (coreDumpIn umem) zeroMem (n := 64) (m := 64)
        (by decide) (by decide) 0
      dsimp only
      split_ifs
      · exact hreg.trans (.of_sys rfl)
      · exact hreg.trans (.of_sys rfl)

theorem dumpCommand_leads {w v : World σ} {cmd : CStr} {args : Args}
    {umemBuff : Option UmemBuff} {n : Nat}
    (hdump : cmd = "rscdump".toList → ReadKind A MLX5_REG_RESOURCE_DUMP)
    (hcore : cmd = "coredump".toList → umemBuff.isSome → ReadKind A MLX5_REG_CORE_DUMP)
    (h : dumpCommand K w cmd args umemBuff n = some v) : Leads K A w v := by
  unfold dumpCommand at h
  split_ifs at h with hrsc hcoredump
  · exact mlx5RscDump_leads K (hdump hrsc) h
  · cases h
    exact mlx5CoreDump_leads K (hcore hcoredump) w
  · cases h
    exact .of_sys rfl

end Reads

/-- Only register accesses. -/
def Accesses (w v : World (σ × List Event)) : Prop := Adds (Event.Only MLX5_CMD_OP_ACCESS_REG) w v

theorem makeRoom_accesses (c : Collect (σ × List Event)) (n : Int) :
    Post (fun c' => Accesses c.w c'.w) (fun r => Accesses c.w r.w)
      (makeRoom K.traced.toSys c n) :=
  (makeRoom_leads K.traced (readKind_only _) c n).mono (fun _ h => h.adds_of) fun _ h => h.adds_of

theorem collectTurn_accesses (c : Collect (σ × List Event)) :
    Post (fun c' => Accesses c.w c'.w) (fun r => Accesses c.w r.w)
      (collectTurn K.traced.toSys c) :=
  (collectTurn_leads K.traced (readKind_only _) c).mono (fun _ h => h.adds_of) fun _ h => h.adds_of

theorem collectUmemTurn_accesses (umem : UmemBuff) (c : CollectUmem (σ × List Event)) :
    Post (fun c' => Accesses c.w c'.w) (fun r => Accesses c.w r.w)
      (collectUmemTurn K.traced.toSys umem c) :=
  (collectUmemTurn_leads K.traced (readKind_only _) umem c).mono (fun _ h => h.adds_of)
    fun _ h => h.adds_of

theorem dumpCommand_accesses {w v : World (σ × List Event)} {cmd : CStr} {args : Args}
    {umemBuff : Option UmemBuff} {n : Nat}
    (h : dumpCommand K.traced w cmd args umemBuff n = some v) : Accesses w v :=
  (dumpCommand_leads K.traced (fun _ => readKind_only _) (fun _ _ => readKind_only _) h).adds_of

/-! ## Balance -/

/-- The handles of a setup that is still in place. -/
def heldBy (umemBuff : Option UmemBuff) (umemPdn : u32) : List Handle :=
  match umemBuff with
  | none => []
  | some umem =>
      [.pd umemPdn.toNat, .umem umem.umemId, .mkey (mlx5MkeyToIdx umem.umemMkey).toNat]

/-- What a setup leaves in the journal: a bracket of some of PD and umem when it returned, or what
    it holds. -/
def SetupLogs (w : World (σ × List Event)) : Setup (σ × List Event) → Prop
  | .returned _ v => ∃ p u hs, hs <+: [Handle.pd p, .umem u] ∧ Logs (bracket hs) w v
  | .ready umemBuff umemPdn v => Logs ((heldBy umemBuff umemPdn).map .acquire) w v ∧
      umemPdn.toNat < 2 ^ 24 ∧
      ∀ umem ∈ umemBuff, (mlx5MkeyToIdx umem.umemMkey).toNat < 2 ^ 24

theorem setupUmem_logs (w : World (σ × List Event)) (args : Args) :
    SetupLogs w (setupUmem K.traced w args) := by
  unfold setupUmem
  split_ifs with humem
  · dsimp only
    generalize hp : mlx5libAllocPd K.traced w 0 0 = pd
    obtain ⟨hpd, hpdn⟩ := allocPd_logs K w 0 0 hp
    by_cases herr : pd.err = 0
    · rw [if_neg (not_not.mpr herr)]
      rw [if_pos herr] at hpd
      obtain ⟨hnone, hsome⟩ := allocUmemMkeyBuff_logs K pd.w (toSize (toInt (args.umem * 1024)))
        pd.pdn
      generalize mlx5libAllocUmemMkeyBuff K.traced pd.w (toSize (toInt (args.umem * 1024)))
        pd.pdn = b at hnone hsome ⊢
      cases hb : b.1 with
      | none =>
          obtain ⟨hs, u, hinit, hlogs⟩ := hnone hb
          refine ⟨pd.pdn.toNat, u, .pd pd.pdn.toNat :: hs, ?_, ?_⟩
          · exact (List.prefix_cons_inj _).mpr hinit
          · rw [bracket_cons]
            exact hpd.trans (hlogs.trans (deallocPd_logs K b.2 (hpdn herr) 0))
      | some umem =>
          obtain ⟨hidx, hlogs⟩ := hsome umem hb
          refine ⟨hpd.trans hlogs, hpdn herr, fun u hu => ?_⟩
          cases hu
          exact hidx
    · rw [if_pos herr]
      rw [if_neg herr] at hpd
      exact ⟨0, 0, [], List.nil_prefix, hpd⟩
  · exact ⟨.of_sys rfl, by decide, fun umem hu => by cases hu⟩

theorem teardownUmem_logs (w : World (σ × List Event)) {umemBuff : Option UmemBuff}
    {umemPdn : u32} (hpdn : umemPdn.toNat < 2 ^ 24)
    (hidx : ∀ umem ∈ umemBuff, (mlx5MkeyToIdx umem.umemMkey).toNat < 2 ^ 24) :
    Logs ((heldBy umemBuff umemPdn).reverse.map .release) w
      (teardownUmem K.traced w umemBuff umemPdn) := by
  cases umemBuff with
  | none => exact .of_sys rfl
  | some umem =>
      exact (freeUmemMkeyBuff_logs K w (hidx umem rfl)).trans (deallocPd_logs K _ hpdn 0)

/-- **Resources are balanced.** For every outside world, every argument list and every number of
    turns after which `do_rscdump` returns: it created some of a PD, a umem and a key, in this
    order, and destroyed exactly these, each once, by the handle it was created with, in the
    opposite order. So nothing else was destroyed, and the ledger of the run ends empty. -/
theorem rscdump_balanced (w : World (σ × List Event)) (argv : List CStr) (n : Nat) {ret : Int}
    {v : World (σ × List Event)} (h : doRscdump K.traced w argv n = some (.ret ret v)) :
    ∃ new, events v = events w ++ new ∧
      (∃ p u m hs, hs <+: [Handle.pd p, .umem u, .mkey m] ∧ steps new = bracket hs) ∧
      replay [] (steps new) = some [] := by
  have hlogs : ∃ p u m hs, hs <+: [Handle.pd p, .umem u, .mkey m] ∧ Logs (bracket hs) w v := by
    have hparse := parseArgs_sys w argv
    unfold doRscdump at h
    cases hargs : parseArgs w argv with
    | exit code v => rw [hargs] at h; cases h
    | segv v => rw [hargs] at h; cases h
    | ret args w₁ =>
        rw [hargs] at h hparse
        dsimp only at h
        generalize hw₂ : w₁.print _ = w₂ at h
        have hstart : Logs [] w w₂ := .of_sys (by rw [← hw₂]; exact hparse)
        have hsetup := setupUmem_logs K w₂ args.withType
        cases hset : setupUmem K.traced w₂ args.withType with
        | returned ret v' =>
            rw [hset] at h hsetup
            cases h
            obtain ⟨p, u, hs, hinit, hl⟩ := hsetup
            exact ⟨p, u, 0, hs, hinit.trans ⟨[.mkey 0], rfl⟩, hstart.trans hl⟩
        | ready umemBuff umemPdn w₃ =>
            rw [hset] at h hsetup
            obtain ⟨hl, hpdn, hidx⟩ := hsetup
            obtain ⟨w₄, hdump, hret⟩ := Option.map_eq_some_iff.mp h
            cases hret
            have hquiet := Logs.of_adds (dumpCommand_accesses K hdump)
            have hdown := teardownUmem_logs K w₄ hpdn hidx
            have hall := (hstart.trans hl).trans (hquiet.trans hdown)
            cases umemBuff with
            | none => exact ⟨0, 0, 0, [], List.nil_prefix, hall⟩
            | some umem =>
                exact ⟨_, _, _, heldBy (some umem) umemPdn, List.prefix_rfl, hall⟩
  obtain ⟨p, u, m, hs, hinit, new, hnew, hsteps⟩ := hlogs
  exact ⟨new, hnew, ⟨p, u, m, hs, hinit, hsteps⟩, by rw [hsteps, replay_bracket]⟩

/-- A world where everything succeeds. The handles are the numbers of the commands. -/
def granting : UmemSys Nat where
  toSys := scripted fun k =>
    (0, List.replicate 9 0 ++ [0, 0, BitVec.ofNat 8 (k + 1)] ++ List.replicate 68 0)
  memalign s _ := (some (4096, zeroMem), s)
  umemReg s _ _ := (7, s)
  umemUnreg s _ := (0, s)

theorem coredump_balanced : ∃ v new,
    doRscdump granting.traced ⟨(0, []), []⟩ ["coredump".toList, "--umem=4".toList] 1 =
      some (.ret 0 v) ∧
    events v = new ∧ steps new = bracket [.pd 1, .umem 7, .mkey 2] ∧
    replay [] (steps new) = some [] := by
  have hrun : ∃ v, doRscdump granting.traced ⟨(0, []), []⟩
      ["coredump".toList, "--umem=4".toList] 1 = some (.ret 0 v) ∧
      steps (events v) = bracket [.pd 1, .umem 7, .mkey 2] := ⟨_, rfl, rfl⟩
  obtain ⟨v, hv, hsteps⟩ := hrun
  obtain ⟨new, hnew, -, hreplay⟩ := rscdump_balanced granting ⟨(0, []), []⟩ _ 1 hv
  have hall : events v = new := hnew
  exact ⟨v, new, hv, hall, by rw [← hall]; exact hsteps, hreplay⟩

end Mlx5ctl.RscDump
