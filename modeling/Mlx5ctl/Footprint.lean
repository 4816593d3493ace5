/-
  mlx5ctlu.c: what a command line may do to the device.

  `footprint` reads off the words of a command line which commands the device may get, which
  registers may be read, and whether memory may be registered with it. On every run, whatever is
  answered, all calls are in there (`main_leads`), and so are the entries of the journal
  (`main_within`). A register is never written: all of the tool's accesses are reads.

  A command that looks has the queries it is for. Only `diagcnt set`, `diagcnt disable` and a dump
  with a `--umem=` that is not 0 have more.
-/
import Mlx5ctl.Dispatch
import Mlx5ctl.DiagCnt.SetQuery
import Mlx5ctl.RscDump.Options
import Mlx5ctl.RscDump.SetupEvents

namespace Mlx5ctl

open ByteMem CInt CString Ifc Transition

variable {σ : Type}

/-- What a command line may do to the device. -/
structure Footprint where
  /-- The commands other than register accesses. -/
  opcodes : List u32 := []
  /-- The registers that may be read. -/
  reads : BitVec 16 → Bool := fun _ => false
  /-- Whether memory may be registered with the device. -/
  umem : Bool := false

/-- The request is in the footprint. `diagcnt set` of 2^30 - 8 counters hands over an empty
    mailbox. -/
def Footprint.Allows (f : Footprint) (req : List u8) : Prop :=
  opcodeOf req ∈ f.opcodes ∨
  (opcodeOf req = MLX5_CMD_OP_ACCESS_REG ∧ requestField req 0 AccessRegisterIn.opMod = 1 ∧
    ∃ regId, f.reads regId ∧ requestField req 0 AccessRegisterIn.registerId = regId.setWidth 32) ∨
  (req = [] ∧ MLX5_CMD_OP_SET_DIAGNOSTIC_PARAMS ∈ f.opcodes)

/-- The call is in the footprint. -/
def Call.Within (f : Footprint) : Call → Prop
  | .malloc _ => True
  | .realloc _ => True
  | .memalign _ => f.umem
  | .rpc req _ => f.Allows req
  | .umemReg _ _ => f.umem
  | .umemUnreg _ => f.umem

/-! ## The footprint of a command line -/

/-- The commands of a `diagcnt` sub-command. -/
def subOpcodes : DiagCnt.SubCommand → List u32
  | .doCap => [MLX5_CMD_OP_QUERY_HCA_CAP]
  | .doHelp => []
  | .doSet => [MLX5_CMD_OP_QUERY_HCA_CAP, MLX5_CMD_OP_SET_DIAGNOSTIC_PARAMS]
  | .doDisable => [MLX5_CMD_OP_SET_DIAGNOSTIC_PARAMS]
  | .doParam => [MLX5_CMD_OP_QUERY_DIAGNOSTIC_PARAMS]
  | .doDump => [MLX5_CMD_OP_QUERY_DIAGNOSTIC_COUNTERS]

/-- The commands that set a umem up and take it down. -/
def umemOpcodes : List u32 :=
  [MLX5_CMD_OP_ALLOC_PD, MLX5_CMD_OP_DEALLOC_PD, MLX5_CMD_OP_CREATE_MKEY,
    MLX5_CMD_OP_DESTROY_MKEY]

/-- Whether the last `--umem=` asks for memory. -/
def asksUmem (args : List CStr) : Bool :=
  RscDump.lastOf 0 ((RscDump.optionValues "--umem=" args).map atoi) != 0

/-- What a dump may do. -/
def dumpFootprint (argv : List CStr) : Footprint where
  opcodes := if asksUmem argv.tail then umemOpcodes else []
  reads regId :=
    if argv.headD [] = "rscdump".toList then regId == MLX5_REG_RESOURCE_DUMP
    else asksUmem argv.tail && regId == RscDump.MLX5_REG_CORE_DUMP
  umem := asksUmem argv.tail

/-- The entry of a table that `cmd_select` calls. -/
def selected {φ : Type} (cmds : List (Cmd φ)) (argv : List CStr) : Option φ :=
  cmdSelect cmds (fun _ => none) some argv

section Dump

variable (dump : List CStr → Footprint)

/-- What a command may do, by its `argv`, where a dump may do `dump`. -/
def leafFootprint (argv : List CStr) : Command → Footprint
  | .doDevinfo => {}
  | .doDevcap => { opcodes := [MLX5_CMD_OP_QUERY_HCA_CAP] }
  | .doReg => { reads := fun _ => true }
  | .queryObj => { opcodes := ((QueryObj.getQueryFunc argv[1]?).map fun f => f.opcode).toList }
  | .doDiagCnt => { opcodes := ((selected DiagCnt.commands argv.tail).map subOpcodes).getD [] }
  | .doRscdump => dump argv
  | .doHelp => {}
  | .doSleep => {}

/-- What a command may do, behind the `sleep`s. -/
def commandFootprint (argv : List CStr) : Footprint :=
  ((selected commands (innermost argv)).map (leafFootprint dump (innermost argv))).getD {}

/-- What a command line may do, where a dump may do `dump`. -/
def footprintBy (words : List CStr) : Footprint :=
  ((deviceWords words).map fun w => commandFootprint dump w.2).getD {}

end Dump

/-- What a command line may do. -/
def footprint (words : List CStr) : Footprint := footprintBy dumpFootprint words

/-! ## Commands and allocations -/

/-- `mlx5u_devinfo` only prints. -/
theorem mlx5uDevinfo_sys (K : Sys σ) (F : FileSys) (stale : List Char) (w : World σ)
    (dev : Mlx5uDev) : (mlx5uDevinfo K F stale w dev).2.sys = w.sys := by
  unfold mlx5uDevinfo
  dsimp only
  split_ifs
  · rfl
  · rfl
  · split
    · rfl
    · split <;> rfl

/-- Commands with this opcode are of kind `A`. -/
def CommandKind (A : Call → Prop) (opcode : u32) : Prop :=
  ∀ req n, opcodeOf req = opcode → A (.rpc req n)

/-- The commands of `mlx5_diag_cnt_set_param` are of kind `A`. -/
def SetKind (A : Call → Prop) : Prop :=
  ∀ req n, req = [] ∨ opcodeOf req = MLX5_CMD_OP_SET_DIAGNOSTIC_PARAMS → A (.rpc req n)

section Kinds

variable (K : UmemSys σ) {A : Call → Prop}

/-- A command by its opcode. -/
theorem Leads.opcode {K : UmemSys σ} {opcode : u32} (hA : CommandKind A opcode) (w : World σ)
    {inb : Mem} {inlen : Nat} (out : Mem) (outlen : Nat) (h2 : 2 ≤ inlen)
    (hlt : inlen < 4294967296) (hop : mlx5Get inb 0 MboxIn.opcode = opcode) :
    Leads K A w (mlx5uCmd K.toSys w inb inlen out outlen).w :=
  .command w inb hlt fun n => hA _ n (by rw [RscDump.opcodeOf_load _ h2, hop])

/-- The entry of a builder. -/
theorem getQueryFunc_entry {objName : Option CStr} {f : QueryObj.QueryFunc}
    (h : QueryObj.getQueryFunc objName = some f) :
    ∃ e ∈ QueryObj.queryFuncs, e.objFunc = f := by
  cases objName with
  | none => cases h
  | some name =>
      obtain ⟨e, he, hf⟩ := Option.map_eq_some_iff.mp h
      exact ⟨e, List.mem_of_find?_eq_some he, hf⟩

theorem queryFuncs_bytes : ∀ e ∈ QueryObj.queryFuncs,
    2 ≤ e.objFunc.inSz ∧ e.objFunc.inSz < 4294967296 := by decide

/-- A builder sets its own opcode. -/
theorem query_opcode {e : QueryObj.ObjNameFunc} (he : e ∈ QueryObj.queryFuncs)
    (objId opMod : u32) :
    mlx5Get (e.objFunc.run zeroMem objId opMod) 0 MboxIn.opcode = e.objFunc.opcode := by
  rw [← RscDump.opcodeOf_load _ (queryFuncs_bytes e he).1]
  exact QueryObj.request_opcode he objId opMod

/-! ## The commands that look -/

section Looks

variable (hm : ∀ n, A (.malloc n))

include hm

theorem scanCtlDevs_leads (F : FileSys) (stale : Nat → List Char) (w : World σ) :
    Leads K A w (scanCtlDevs K.toSys F stale w).w := by
  unfold scanCtlDevs
  dsimp only
  have hmalloc := Leads.malloc (K := K) hm w
    ((F.glob "/sys/class/fwctl/*".toList).2.length * (2 * DEV_NAME_MAX)) w.out
  split_ifs
  · exact .of_sys rfl
  · exact hmalloc
  · split
    · exact hmalloc
    · exact hmalloc

theorem mlx5uLsdevs_leads (F : FileSys) (stale : Nat → List Char) (w : World σ) :
    Leads K A w (mlx5uLsdevs K.toSys F stale w).w := by
  refine (scanCtlDevs_leads K hm F stale w).bind fun devs v _ => ?_
  cases devs with
  | none => exact .refl v
  | some devs => exact .of_sys rfl

theorem doHelp_leads (F : FileSys) (stale : Nat → List Char) (helpCmd : CStr)
    (w : World σ) : Leads K A w (doHelp K.toSys F stale helpCmd w).w :=
  .bind (.trans (.of_sys rfl) (mlx5uLsdevs_leads K hm F stale _)) fun _ v _ => .refl v

theorem unknownCommand_leads (F : FileSys) (stale : Nat → List Char) (helpCmd : CStr)
    (w : World σ) (name : CStr) :
    Leads K A w (unknownCommand K.toSys F stale helpCmd w name).w :=
  .bind (.trans (.of_sys rfl) (doHelp_leads K hm F stale helpCmd _)) fun _ v _ => .refl v

theorem mlx5uOpen_leads (F : FileSys) (stale : Nat → List Char) (w : World σ)
    (name : CStr) : Leads K A w (mlx5uOpen K.toSys F stale w name).w := by
  have hmalloc := Leads.malloc (K := K) hm w 68 w.out
  unfold mlx5uOpen
  dsimp only
  split
  · exact hmalloc
  · refine hmalloc.trans (.bind ?_ fun dev v _ => ?_)
    · unfold findDev
      dsimp only
      split_ifs
      · exact .refl _
      · exact .refl _
      · refine (scanCtlDevs_leads K hm F stale _).bind fun devs v _ => ?_
        cases devs with
        | none => exact .refl v
        | some devs => exact .refl v
    · cases dev with
      | none => exact .of_sys rfl
      | some dev => exact .refl v

/-! ### cap -/

section Cap

variable (hq : CommandKind A MLX5_CMD_OP_QUERY_HCA_CAP)

include hq

omit hm in
theorem queryCaps_leads (w : World σ) (opmod : BitVec 16) (out : Mem) :
    Leads K A w (DevCaps.queryCaps K.toSys w opmod out).w := by
  have hcmd : Leads K A w (mlx5uCmd K.toSys w (DevCaps.queryCapsIn opmod)
      QueryHcaCapIn.szBytes out QueryHcaCapOut.szBytes).w := by
    refine .opcode hq w out _ (by decide) (by decide) ?_
    unfold DevCaps.queryCapsIn
    dsimp only
    rw [RscDump.opcode_set _ _ _ _ (by decide)]
    decide
  unfold DevCaps.queryCaps
  dsimp only
  split_ifs
  · exact hcmd.trans (.of_sys rfl)
  · exact hcmd

omit hm in
theorem sweepTurn_leads (pretty : DevCaps.Printcap → List u8 → List Line) (capMode : Nat)
    (s : Mem × World σ) (c : DevCaps.CapInfo) :
    Leads K A s.2 (DevCaps.sweepTurn K.toSys pretty capMode s c).2 := by
  unfold DevCaps.sweepTurn
  split
  · exact .refl s.2
  · have hquery := queryCaps_leads K hq s.2 (DevCaps.opMod c.type capMode) s.1
    dsimp only
    split_ifs
    · exact hquery.trans (.of_sys rfl)
    · exact hquery.trans (.of_sys rfl)
    · exact hquery

theorem doDevcap_leads (pretty : DevCaps.Printcap → List u8 → List Line)
    (w : World σ) (opts : List Opt) :
    Leads K A w (DevCaps.doDevcap K.toSys pretty w opts).w := by
  have hmalloc := Leads.malloc (K := K) hm w QueryHcaCapOut.szBytes w.out
  unfold DevCaps.doDevcap
  dsimp only
  split
  · exact hmalloc
  · next block _ =>
    refine hmalloc.trans (.bind (.of_sys (DevCaps.parseArgs_sys _ opts)) fun args v _ => ?_)
    have hsweep (cs : List DevCaps.CapInfo) : ∀ s : Mem × World σ,
        Leads K A s.2 (cs.foldl (DevCaps.sweepTurn K.toSys pretty args.capMode) s).2 := by
      induction cs with
      | nil => exact fun s => .refl s.2
      | cons c cs ih => exact fun s => (sweepTurn_leads K hq pretty args.capMode s c).trans (ih _)
    have hquery := queryCaps_leads K hq v (DevCaps.opMod args.capType.toNat args.capMode)
      (memset0 block QueryHcaCapOut.szBytes)
    split_ifs
    · exact hquery.trans (.of_sys (DevCaps.showCap_sys pretty args _))
    · exact hquery
    · exact hsweep _ (_, v)

end Cap

/-! ### obj -/

theorem queryObj_leads {objName : Option CStr}
    (hq : ∀ f, QueryObj.getQueryFunc objName = some f →
      CommandKind A f.opcode)
    (w : World σ) (opts : List Opt) :
    Leads K A w (QueryObj.queryObj K.toSys w objName opts).w := by
  refine .bind (.of_sys (QueryObj.parseArgs_sys w objName opts)) fun args v _ => ?_
  cases hfunc : QueryObj.getQueryFunc objName with
  | none => exact .of_sys rfl
  | some func =>
      obtain ⟨e, he, rfl⟩ := getQueryFunc_entry hfunc
      have hmalloc := Leads.malloc (K := K) hm v e.objFunc.outSz v.out
      dsimp only
      split
      · exact hmalloc.trans (.of_sys rfl)
      · next block _ =>
        have hcmd := Leads.opcode (K := K) (hq _ hfunc)
          ⟨(K.toSys.malloc v.sys e.objFunc.outSz).2, v.out⟩
          (memset0 block e.objFunc.outSz) e.objFunc.outSz
          (queryFuncs_bytes e he).1 (queryFuncs_bytes e he).2
          (query_opcode he args.objId args.opMod)
        refine hmalloc.trans (hcmd.trans ?_)
        split_ifs <;> exact .of_sys rfl

end Looks

/-! ### reg -/

theorem doReg_leads (hA : ∀ regId, ReadKind A regId)
    (pretty : RegDump.PrintReg → List u8 → List Line) (w : World σ)
    (opts : List Opt) : Leads K A w (RegDump.doReg K.toSys pretty w opts).w := by
  refine .bind (.of_sys (RegDump.parseArgs_sys w opts)) fun args v _ => ?_
  have hread := (hA ((BitVec.ofInt 32 args.regId).setWidth 16)).accessReg (K := K) v
    (RegDump.regDumpData (BitVec.ofInt 32 args.port)) zeroMem (n := RegDump.documentBytes)
    (m := RegDump.documentBytes) (by decide) (by decide)
    (toInt (BitVec.ofInt 32 args.argument).toNat)
  unfold RegDump.mlx5RegDump
  dsimp only
  split_ifs
  · exact hread.trans (.of_sys rfl)
  · exact hread.trans (.of_sys (RegDump.showReg_sys pretty _ _ _ _))

/-! ## diagcnt -/

namespace DiagCnt

/-- The mailbox of a set is empty, or there is room for the opcode. -/
theorem setParamLen_cases (params : SetDiagParams) :
    setParamLen params = 0 ∨ 2 ≤ setParamLen params := by
  unfold setParamLen setParamSz toSize toU32 toInt SetDiagnosticParamsIn.szBytes CounterId.szBytes
  omega

theorem setParamMailbox_empty (block : Mem) {params : SetDiagParams}
    (h : setParamLen params = 0) : setParamMailbox block params = [] := by
  unfold setParamMailbox
  rw [h]
  rfl

theorem opcodeOf_setParamMailbox (block : Mem) {params : SetDiagParams}
    (h : 2 ≤ setParamLen params) :
    opcodeOf (setParamMailbox block params) = MLX5_CMD_OP_SET_DIAGNOSTIC_PARAMS := by
  rw [← setParamIn_opcode block params]
  exact RscDump.opcodeOf_load _ h

theorem setParamMailbox_opcode (block : Mem) (params : SetDiagParams) :
    setParamMailbox block params = [] ∨
      opcodeOf (setParamMailbox block params) = MLX5_CMD_OP_SET_DIAGNOSTIC_PARAMS :=
  (setParamLen_cases params).imp (setParamMailbox_empty block) (opcodeOf_setParamMailbox block)

theorem setCommand_leads (hs : SetKind A) (w : World σ) (block : Mem) (params : SetDiagParams) :
    Leads K A w (mlx5uCmd K.toSys w (setParamIn block params)
      (toSize (setParamSz params.numOfCounters)) zeroMem SetDiagnosticParamsOut.szBytes).w := by
  unfold Leads
  rw [mlx5uCmd_sys]
  exact Reaches.one (hs _ _ (setParamMailbox_opcode block params)) w.sys

variable (hm : ∀ n, A (.malloc n))

theorem queryDevcap_leads (hq : CommandKind A MLX5_CMD_OP_QUERY_HCA_CAP)
    (w : World σ) (type : Nat) (out : Mem) (outSz : Nat) :
    Leads K A w (queryDevcap K.toSys w type out outSz).w := by
  have hcmd (opmod : BitVec 16) : Leads K A w (mlx5uCmd K.toSys w
      (mlx5Set (mlx5Set zeroMem 0 QueryHcaCapIn.opcode MLX5_CMD_OP_QUERY_HCA_CAP) 0
        QueryHcaCapIn.opMod (opmod.setWidth 32)) QueryHcaCapIn.szBytes out outSz).w := by
    refine .opcode hq w out _ (by decide) (by decide) ?_
    rw [RscDump.opcode_set _ _ _ _ (by decide)]
    decide
  unfold queryDevcap
  dsimp only
  split_ifs
  · exact (hcmd _).trans (.of_sys rfl)
  · exact hcmd _

theorem getDevFreq_leads (hq : CommandKind A MLX5_CMD_OP_QUERY_HCA_CAP)
    (w : World σ) : Leads K A w (getDevFreq K.toSys w).w := by
  have hquery := queryDevcap_leads K hq w MLX5_CAP_GENERAL zeroMem QueryHcaCapOut.szBytes
  unfold getDevFreq
  dsimp only
  split_ifs
  · exact hquery
  · exact hquery

include hm

theorem mlx5DiagCntQueryCap_leads
    (hq : CommandKind A MLX5_CMD_OP_QUERY_HCA_CAP)
    (w : World σ) : Leads K A w (mlx5DiagCntQueryCap K.toSys w).w := by
  have hgeneral := queryDevcap_leads K hq w MLX5_CAP_GENERAL zeroMem QueryHcaCapOut.szBytes
  have hdebug (v : World σ) (first : Response) (n : Nat) (out2 : Mem) :
      Leads K A v (queryDebugCap K.toSys v first n out2).w := by
    have hquery := queryDevcap_leads K hq v MLX5_CAP_DEBUG out2 (toU32 (capOutSz n))
    unfold queryDebugCap
    dsimp only
    by_cases hret : (queryDevcap K.toSys v MLX5_CAP_DEBUG out2 (toU32 (capOutSz n))).ret = 0
    · rw [if_neg (not_not.mpr hret)]
      generalize hu : List.foldl _ (World.print _ _) debugCaps = u
      have hsys : u.sys =
          (queryDevcap K.toSys v MLX5_CAP_DEBUG out2 (toU32 (capOutSz n))).w.sys := by
        rw [← hu]
        rfl
      have hfreq := hquery.trans (.trans (.of_sys hsys) (getDevFreq_leads K hq u))
      split_ifs
      · exact hfreq.trans (.of_sys rfl)
      · exact hfreq.trans (.of_sys rfl)
    · rw [if_pos hret]
      exact hquery
  unfold mlx5DiagCntQueryCap
  dsimp only
  split_ifs
  · exact hgeneral
  · exact hgeneral.trans (.of_sys rfl)
  · split
    · exact hgeneral.trans (.malloc hm _ _ _)
    · exact hgeneral.trans (.trans (.malloc hm _ _ _) (hdebug _ _ _ _))

theorem mlx5DiagCntQueryParam_leads
    (hq : CommandKind A MLX5_CMD_OP_QUERY_DIAGNOSTIC_PARAMS)
    (w : World σ) (numCnt : Int) :
    Leads K A w (mlx5DiagCntQueryParam K.toSys w numCnt).w := by
  have hmalloc := Leads.malloc (K := K) hm w (paramOutSz numCnt) w.out
  unfold mlx5DiagCntQueryParam
  dsimp only
  split
  · exact hmalloc
  · next out _ =>
    have hcmd : Leads K A w (mlx5uCmd K.toSys _ queryParamIn QueryDiagnosticParamsIn.szBytes
        out (paramOutSz numCnt)).w :=
      hmalloc.trans (.opcode hq _ out _ (by decide) (by decide) (by decide))
    unfold queryParamIn at hcmd
    split_ifs
    · exact hcmd.trans (.of_sys rfl)
    · exact hcmd.trans (.of_sys rfl)

theorem queryDiagCounters_leads
    (hq : CommandKind A MLX5_CMD_OP_QUERY_DIAGNOSTIC_COUNTERS)
    (w : World σ) (printLines sampleIndex : Int) (binOutput : Bool) :
    Leads K A w (queryDiagCounters K.toSys w printLines sampleIndex binOutput).w := by
  have hop : mlx5Get (samplesRequest printLines sampleIndex) 0 MboxIn.opcode =
      MLX5_CMD_OP_QUERY_DIAGNOSTIC_COUNTERS := by
    unfold samplesRequest
    dsimp only
    rw [RscDump.opcode_set _ _ _ _ (by decide), RscDump.opcode_set _ _ _ _ (by decide)]
    decide
  have hmalloc := Leads.malloc (K := K) hm w (samplesOutSz printLines) w.out
  unfold queryDiagCounters
  dsimp only
  split
  · exact hmalloc
  · next out _ =>
    have hcmd : Leads K A w (mlx5uCmd K.toSys _ (samplesRequest printLines sampleIndex)
        QueryDiagnosticCntrsIn.szBytes out (samplesOutSz printLines)).w :=
      hmalloc.trans (.opcode hq _ out _ (by decide) (by decide) hop)
    split_ifs
    · exact hcmd
    · exact hcmd.trans (.of_sys rfl)

theorem mlx5DiagCntSetParam_leads
    (hs : SetKind A) (w : World σ) (params : SetDiagParams) :
    Leads K A w (mlx5DiagCntSetParam K.toSys w params).w := by
  have hmalloc := Leads.malloc (K := K) hm w (toSize (setParamSz params.numOfCounters)) w.out
  unfold mlx5DiagCntSetParam
  dsimp only
  split
  · exact hmalloc
  · next block _ =>
    have hcmd := hmalloc.trans (setCommand_leads K hs ⟨(K.malloc w.sys
      (toSize (setParamSz params.numOfCounters))).2, w.out⟩ block params)
    split_ifs
    · exact hcmd.trans (.of_sys rfl)
    · exact hcmd

theorem setParams_leads
    (hs : SetKind A) (w : World σ) (params : SetDiagParams) (devFreq : Int) :
    Leads K A w (setParams K.toSys w params devFreq).2 := by
  have hparams := mlx5DiagCntSetParam_leads K hm hs (w.prints (settingLines params devFreq)) params
  have hset : Leads K A w _ := .trans (.of_sys rfl) hparams
  unfold setParams
  dsimp only
  split_ifs
  · exact hset.trans (.of_sys rfl)
  · exact hset.trans (.of_sys rfl)

theorem doSet_leads (hq : CommandKind A MLX5_CMD_OP_QUERY_HCA_CAP)
    (hs : SetKind A) (w : World σ) (argv : List CStr) :
    Leads K A w (doSet K.toSys w argv).2 := by
  have hflags := (parseFlags_quiet w noParams 0 (arg argv 1)).2
  unfold doSet
  generalize parseFlags w noParams 0 (arg argv 1) = flags at hflags ⊢
  dsimp only
  have hmalloc : Leads K A w ⟨(K.toSys.malloc flags.w.sys
      (toSize (countCounters (arg argv 4)) * 4)).2, flags.w.out⟩ :=
    .trans (.of_sys hflags) (.malloc hm _ _ _)
  have hfreq := hmalloc.trans (getDevFreq_leads K hq _)
  split_ifs
  · exact .of_sys rfl
  · exact .of_sys rfl
  · exact .of_sys hflags
  · split
    · exact hmalloc
    · exact hfreq.trans (.of_sys rfl)
  · split
    · exact hmalloc
    · exact hfreq.trans (setParams_leads K hm hs _ _ _)

theorem doParam_leads
    (hq : CommandKind A MLX5_CMD_OP_QUERY_DIAGNOSTIC_PARAMS)
    (w : World σ) (argv : List CStr) :
    Leads K A w (doParam K.toSys w argv).2 := by
  unfold doParam
  dsimp only
  split_ifs
  · exact .of_sys rfl
  all_goals exact .trans (.of_sys (by rfl)) (mlx5DiagCntQueryParam_leads K hm hq _ _)

theorem doDump_leads
    (hq : CommandKind A MLX5_CMD_OP_QUERY_DIAGNOSTIC_COUNTERS)
    (w : World σ) (argv : List CStr) :
    Leads K A w (doDump K.toSys w argv).2 := by
  unfold doDump
  dsimp only
  split_ifs
  · exact .of_sys rfl
  all_goals exact .trans (.of_sys (by rfl)) (queryDiagCounters_leads K hm hq _ _ _ _)

theorem runSub_leads {c : SubCommand} (hq : ∀ opcode ∈ subOpcodes c, CommandKind A opcode)
    (hs : MLX5_CMD_OP_SET_DIAGNOSTIC_PARAMS ∈ subOpcodes c → SetKind A) (w : World σ)
    (helpCmd : CStr) (argv : List CStr) : Leads K A w (runSub K.toSys w helpCmd argv c).2 := by
  cases c with
  | doCap => exact mlx5DiagCntQueryCap_leads K hm (hq _ (by simp [subOpcodes])) w
  | doHelp => exact .of_sys rfl
  | doSet =>
      exact doSet_leads K hm (hq _ (by simp [subOpcodes])) (hs (by simp [subOpcodes])) w argv
  | doDisable =>
      exact .trans (.of_sys rfl)
        (mlx5DiagCntSetParam_leads K hm (hs (by simp [subOpcodes])) _ disableParams)
  | doParam => exact doParam_leads K hm (hq _ (by simp [subOpcodes])) w argv
  | doDump => exact doDump_leads K hm (hq _ (by simp [subOpcodes])) w argv

end DiagCnt

end Kinds

/-! ## What is inside a footprint -/

theorem within_malloc (f : Footprint) (n : Nat) : (Call.malloc n).Within f := trivial

theorem within_query {f : Footprint} {opcode : u32} (h : opcode ∈ f.opcodes) :
    CommandKind (Call.Within f) opcode := by
  intro req n hr
  left
  rwa [hr]

theorem within_set {f : Footprint} (h : MLX5_CMD_OP_SET_DIAGNOSTIC_PARAMS ∈ f.opcodes) :
    SetKind (Call.Within f) := by
  rintro req n (hempty | hr)
  · exact .inr (.inr ⟨hempty, h⟩)
  · exact within_query h req n hr

theorem within_read {f : Footprint} {regId : BitVec 16} (h : f.reads regId = true) :
    ReadKind (Call.Within f) regId where
  malloc _ := trivial
  realloc _ := trivial
  read _ _ hopcode hmod hreg := .inr (.inl ⟨hopcode, hmod, regId, h, hreg⟩)

theorem within_umem {f : Footprint} (h : f.umem = true) (hops : ∀ o ∈ umemOpcodes, o ∈ f.opcodes)
    (S : Nat) : RscDump.UmemCalls (Call.Within f) S where
  malloc _ := trivial
  memalign := h
  umemReg _ := h
  umemUnreg _ := h
  mkey _ _ hr _ := .inl (hr ▸ hops _ (by simp [umemOpcodes]))
  other req n hr := by
    refine .inl (hops _ ?_)
    simp only [List.mem_cons, List.not_mem_nil, or_false] at hr
    rcases hr with hr | hr | hr <;> simp [hr, umemOpcodes]

/-! ## The dumps -/

namespace RscDump

variable (K : UmemSys σ)

theorem dumpFootprint_opcodes {argv : List CStr} (h : asksUmem argv.tail = true) :
    (dumpFootprint argv).opcodes = umemOpcodes := if_pos h

theorem dumpFootprint_coredump {argv : List CStr} (h : asksUmem argv.tail = true)
    (hcmd : argv.headD [] = "coredump".toList) :
    (dumpFootprint argv).reads MLX5_REG_CORE_DUMP = true := by
  unfold dumpFootprint
  dsimp only
  rw [if_neg (by rw [hcmd]; decide), h]
  rfl

/-- How `do_rscdump` goes: where it ends, and what it returns there. -/
inductive DumpRun (w : World σ) (argv : List CStr) (n : Nat) : Outcome σ Int → Prop
  | stopped {o : Outcome σ Int} (sys : o.w.sys = w.sys) (stop : ∀ ret v, o ≠ .ret ret v) :
      DumpRun w argv n o
  | returned {args : Args} {u v : World σ} {ret : Int} (start : u.sys = w.sys)
      (asks : asksUmem argv.tail = (args.umem != 0))
      (setup : setupUmem K u args = .returned ret v) : DumpRun w argv n (.ret ret v)
  | dumped {args : Args} {u v x : World σ} {umemBuff : Option UmemBuff} {umemPdn : u32}
      (start : u.sys = w.sys) (asks : asksUmem argv.tail = (args.umem != 0))
      (setup : setupUmem K u args = .ready umemBuff umemPdn v)
      (dump : dumpCommand K v (argv.headD []) args umemBuff n = some x) :
      DumpRun w argv n (.ret 0 (teardownUmem K x umemBuff umemPdn))

theorem doRscdump_run {w : World σ} {argv : List CStr} {n : Nat} {o : Outcome σ Int}
    (h : doRscdump K w argv n = some o) : DumpRun K w argv n o := by
  have hparse := parseArgs_sys w argv
  unfold doRscdump at h
  cases hargs : parseArgs w argv with
  | exit code v =>
      rw [hargs] at h hparse
      cases h
      exact .stopped hparse fun _ _ heq => by cases heq
  | segv v =>
      rw [hargs] at h hparse
      cases h
      exact .stopped hparse fun _ _ heq => by cases heq
  | ret args v =>
      have hasks : asksUmem argv.tail = (args.withType.umem != 0) := by
        have humem : args.withType.umem = args.umem := by
          unfold Args.withType
          split_ifs <;> rfl
        rw [humem, (parseArgs_fields hargs).1.umem]
        rfl
      rw [hargs] at h hparse
      dsimp only at h
      generalize hv : World.print v _ = u at h
      have hstart : u.sys = w.sys := by
        rw [← hv]
        exact hparse
      cases hset : setupUmem K u args.withType with
      | returned ret x =>
          rw [hset] at h
          cases h
          exact .returned hstart hasks hset
      | ready umemBuff umemPdn x =>
          rw [hset] at h
          obtain ⟨y, hdump, rfl⟩ := Option.map_eq_some_iff.mp h
          exact .dumped hstart hasks hset hdump

/-- Without a umem there is nothing to set up. -/
theorem setupUmem_zero (u : World σ) {args : Args} (h : args.umem = 0) :
    setupUmem K u args = .ready none 0 u := if_neg (not_not.mpr h)

/-- A dump that does not ask for memory reads its register. -/
theorem doRscdump_inline {A : Call → Prop} {w : World σ} {argv : List CStr} {n : Nat}
    {o : Outcome σ Int} (hA : argv.headD [] = "rscdump".toList → ReadKind A MLX5_REG_RESOURCE_DUMP)
    (hasks : asksUmem argv.tail = false) (h : DumpRun K w argv n o) : Leads K A w o.w := by
  cases h with
  | stopped sys => exact .of_sys sys
  | @returned args u v ret start asks setup =>
      rw [setupUmem_zero K u (by simpa [hasks] using asks)] at setup
      cases setup
  | @dumped args u v x umemBuff umemPdn start asks setup dump =>
      rw [setupUmem_zero K u (by simpa [hasks] using asks)] at setup
      cases setup
      exact .trans (.of_sys start)
        (dumpCommand_leads K hA (fun _ hsome => by cases hsome) dump)

theorem doRscdump_leads {w : World σ} {argv : List CStr} {n : Nat}
    {o : Outcome σ Int} (h : doRscdump K w argv n = some o) :
    Leads K (Call.Within (dumpFootprint argv)) w o.w := by
  have hrun := doRscdump_run K h
  have hrsc : argv.headD [] = "rscdump".toList →
      ReadKind (Call.Within (dumpFootprint argv)) MLX5_REG_RESOURCE_DUMP := fun hcmd =>
    within_read (by simp only [dumpFootprint, hcmd, if_true, beq_self_eq_true])
  by_cases hasks : asksUmem argv.tail = true
  · -- with a umem, all of `dumpFootprint`
    have hkind (S : Nat) : UmemCalls (Call.Within (dumpFootprint argv)) S :=
      within_umem hasks (fun o ho => by rwa [dumpFootprint_opcodes hasks]) S
    have hcore : argv.headD [] = "coredump".toList →
        ReadKind (Call.Within (dumpFootprint argv)) MLX5_REG_CORE_DUMP := fun hcmd =>
      within_read (dumpFootprint_coredump hasks hcmd)
    cases hrun with
    | stopped sys => exact .of_sys sys
    | @returned args u v ret start asks setup =>
        have hsetup : Leads K (Call.Within (dumpFootprint argv)) u (setupUmem K u args).w :=
          setupUmem_leads K u (hkind _)
        rw [setup] at hsetup
        exact .trans (.of_sys start) hsetup
    | @dumped args u v x umemBuff umemPdn start asks setup dump =>
        have hsetup : Leads K (Call.Within (dumpFootprint argv)) u (setupUmem K u args).w :=
          setupUmem_leads K u (hkind _)
        rw [setup] at hsetup
        have hall := Leads.trans (.of_sys start) hsetup
        exact hall.trans ((dumpCommand_leads K hrsc (fun hcmd _ => hcore hcmd) dump).trans
          (teardownUmem_leads K x (hkind 0) umemBuff umemPdn))
  · exact doRscdump_inline K hrsc (by simpa using hasks) hrun

end RscDump

/-! ## The command line -/

section Main

variable (E : Env σ) {dump : List CStr → Footprint}

theorem cmdSelect_selected {φ ρ : Type} (cmds : List (Cmd φ)) (unknown : CStr → ρ) (call : φ → ρ)
    (argv : List CStr) : cmdSelect cmds unknown call argv =
      (selected cmds argv).elim (unknown (argv.headD [])) call := by
  unfold selected cmdSelect
  cases argv with
  | nil => cases cmds <;> rfl
  | cons name rest =>
      dsimp only
      split <;> rfl

theorem doDiagCnt_leads (helpCmd : CStr) (w : World σ) (argv : List CStr) :
    Leads E.sys (Call.Within (leafFootprint dump argv .doDiagCnt)) w
      (DiagCnt.doDiagCnt E.sys.toSys
        (unknownCommand E.sys.toSys E.files E.stale helpCmd) w argv).w := by
  unfold DiagCnt.doDiagCnt
  rw [cmdSelect_selected]
  refine .bind ?_ fun err v _ => ?_
  · cases hsub : selected DiagCnt.commands argv.tail with
    | none => exact unknownCommand_leads E.sys (within_malloc _) E.files E.stale helpCmd w _
    | some c =>
        simp only [leafFootprint, hsub, Option.map_some, Option.getD_some]
        exact DiagCnt.runSub_leads E.sys (within_malloc _) (fun _ h => within_query h)
          (fun h => within_set h) w _ _
  · split_ifs
    · exact .of_sys rfl
    · exact .refl v

/-- The dumps stay in these footprints. -/
def DumpsWithin (K : UmemSys σ) (dump : List CStr → Footprint) : Prop :=
  ∀ (w : World σ) argv n o, RscDump.doRscdump K w argv n = some o →
    Leads K (Call.Within (dump argv)) w o.w

theorem dumps_within (K : UmemSys σ) : DumpsWithin K dumpFootprint :=
  fun _ _ _ _ h => RscDump.doRscdump_leads K h

section Dumps

variable (hdump : DumpsWithin E.sys dump)

include hdump

/-- A command other than `sleep`. -/
theorem runLeaf_leads {helpCmd : CStr} {dev : Mlx5uDev} {w : World σ}
    {argv : List CStr} {n : Nat} {c : Command} {o : Outcome σ Int}
    (h : runLeaf E helpCmd dev w argv n c = some o) :
    Leads E.sys (Call.Within (leafFootprint dump argv c)) w o.w := by
  cases c with
  | doRscdump => exact hdump w argv n o h
  | doDevinfo =>
      cases h
      exact .of_sys (mlx5uDevinfo_sys _ _ _ _ _)
  | doDevcap =>
      cases h
      exact doDevcap_leads E.sys (within_malloc _) (within_query (by simp [leafFootprint])) _ _ _
  | doReg =>
      cases h
      exact doReg_leads E.sys (fun regId => within_read rfl) _ _ _
  | queryObj =>
      cases h
      refine queryObj_leads E.sys (within_malloc _) (fun f hf => within_query ?_) _ _
      simp [leafFootprint, hf]
  | doDiagCnt =>
      cases h
      exact doDiagCnt_leads E helpCmd w argv
  | doHelp =>
      cases h
      exact doHelp_leads E.sys (within_malloc _) _ _ _ _
  | doSleep =>
      cases h
      exact .of_sys rfl

theorem runCommand_leads {helpCmd : CStr} {dev : Mlx5uDev} {n : Nat} {w : World σ}
    {argv : List CStr} {o : Outcome σ Int}
    (h : runCommand E helpCmd dev n w argv = some o) :
    Leads E.sys (Call.Within (commandFootprint dump argv)) w o.w := by
  induction argv using innermost.induct generalizing o with
  | case1 time argv ih =>
      obtain ⟨o', ho, rfl⟩ := Option.map_eq_some_iff.mp h
      exact .bind (ih ho) fun _ v _ => .refl v
  | case2 name time argv hname =>
      have hin : innermost (name :: time :: argv) = name :: time :: argv := if_neg hname
      unfold commandFootprint selected
      rw [hin]
      cases hc : commands.find? (fun c => c.name.toList = name) with
      | none =>
          rw [runCommand_unknown _ _ hc] at h
          cases h
          exact unknownCommand_leads E.sys (within_malloc _) E.files E.stale helpCmd w name
      | some c =>
          rw [runCommand_found _ _ hc fun hs => absurd ((command_names hc).1.mp hs) hname] at h
          rw [cmdSelect_found hc]
          exact runLeaf_leads E hdump h
  | case3 argv hshort =>
      have hin : innermost argv = argv := by
        unfold innermost
        split
        · exact absurd rfl (hshort _ _ _)
        · rfl
      have hrun : runCommand E helpCmd dev n w argv =
          cmdSelect commands (fun name => some (unknownCommand E.sys.toSys E.files E.stale
            helpCmd w name)) (runLeaf E helpCmd dev w argv n) argv := by
        unfold runCommand
        split
        · exact absurd rfl (hshort _ _ _)
        · rfl
      rw [hrun, cmdSelect_selected] at h
      unfold commandFootprint
      rw [hin]
      cases hc : selected commands argv with
      | none =>
          rw [hc] at h
          cases h
          exact unknownCommand_leads E.sys (within_malloc _) E.files E.stale helpCmd w _
      | some c =>
          rw [hc] at h
          exact runLeaf_leads E hdump h

/-- From `mlx5u_open` on. -/
theorem runMain_leads {helpCmd name : CStr} {n : Nat} {w : World σ}
    {argv : List CStr} {o : Outcome σ Int}
    (h : runMain E helpCmd n w (name :: argv) = some o) :
    Leads E.sys (Call.Within (commandFootprint dump argv)) w o.w := by
  have hopen : Leads E.sys (Call.Within (commandFootprint dump argv)) w
      (mlx5uOpen E.sys.toSys E.files E.stale w name).w :=
    mlx5uOpen_leads E.sys (within_malloc _) E.files E.stale w name
  unfold runMain at h
  dsimp only at h
  change Leads E.sys _ _ (mlx5uOpen E.sys.toSys E.files E.stale w name).w at hopen
  cases ho : mlx5uOpen E.sys.toSys E.files E.stale w name with
  | ret dev v =>
      rw [ho] at h hopen
      cases dev with
      | none =>
          cases h
          exact hopen.trans (.of_sys rfl)
      | some dev =>
          obtain ⟨o', hrun, rfl⟩ := Option.map_eq_some_iff.mp h
          exact hopen.trans (.bind (runCommand_leads E hdump hrun) fun _ u _ => .of_sys rfl)
  | exit code v =>
      rw [ho] at h hopen
      cases h
      exact hopen
  | segv v =>
      rw [ho] at h hopen
      cases h
      exact hopen

theorem main_leads_by {n : Nat} {w : World σ} {words : List CStr}
    {o : Outcome σ Int} (h : main E n w words = some o) :
    Leads E.sys (Call.Within (footprintBy dump words)) w o.w := by
  have hhelp {helpCmd : CStr}
      (h : some (doHelp E.sys.toSys E.files E.stale helpCmd w) = some o) :
      Leads E.sys (Call.Within (footprintBy dump words)) w o.w := by
    cases h
    exact doHelp_leads E.sys (within_malloc _) E.files E.stale helpCmd w
  match words with
  | [] => exact hhelp h
  | [helpCmd] => exact hhelp h
  | helpCmd :: word :: rest =>
      unfold main at h
      dsimp only at h
      split_ifs at h with hword hverbose
      · exact hhelp h
      · match rest with
        | [] =>
            cases h
            exact .refl w
        | name :: argv =>
            have hdev : deviceWords (helpCmd :: word :: name :: argv) = some (name, argv) :=
              (if_neg hword).trans (if_pos hverbose)
            unfold footprintBy
            rw [hdev]
            exact runMain_leads E hdump h
      · have hdev : deviceWords (helpCmd :: word :: rest) = some (word, rest) :=
          (if_neg hword).trans (if_neg hverbose)
        unfold footprintBy
        rw [hdev]
        exact runMain_leads E hdump h

end Dumps

theorem main_leads {n : Nat} {w : World σ} {words : List CStr} {o : Outcome σ Int}
    (h : main E n w words = some o) : Leads E.sys (Call.Within (footprint words)) w o.w :=
  main_leads_by E (dumps_within E.sys) h

/-- A register access is no opcode of a footprint. -/
theorem leafFootprint_access (argv : List CStr) (c : Command) :
    MLX5_CMD_OP_ACCESS_REG ∉ (leafFootprint dumpFootprint argv c).opcodes := by
  cases c with
  | queryObj =>
      have htable : ∀ e ∈ QueryObj.queryFuncs,
          e.objFunc.opcode ≠ MLX5_CMD_OP_ACCESS_REG := by decide
      unfold leafFootprint
      cases hf : QueryObj.getQueryFunc argv[1]? with
      | none => exact List.not_mem_nil
      | some f =>
          obtain ⟨e, he, rfl⟩ := getQueryFunc_entry hf
          simpa using (htable e he).symm
  | doDiagCnt =>
      have hsub : ∀ c, MLX5_CMD_OP_ACCESS_REG ∉ subOpcodes c := by
        intro c
        cases c <;> decide
      unfold leafFootprint
      cases selected DiagCnt.commands argv.tail with
      | none => exact List.not_mem_nil
      | some c => exact hsub c
  | doRscdump =>
      show MLX5_CMD_OP_ACCESS_REG ∉ if _ then _ else _
      split_ifs <;> decide
  | doDevcap =>
      show MLX5_CMD_OP_ACCESS_REG ∉ [MLX5_CMD_OP_QUERY_HCA_CAP]
      decide
  | _ => exact List.not_mem_nil

theorem footprint_access (words : List CStr) :
    MLX5_CMD_OP_ACCESS_REG ∉ (footprint words).opcodes := by
  unfold footprint footprintBy
  cases deviceWords words with
  | none => exact List.not_mem_nil
  | some w =>
      show MLX5_CMD_OP_ACCESS_REG ∉ (commandFootprint dumpFootprint w.2).opcodes
      unfold commandFootprint
      cases selected commands (innermost w.2) with
      | none => exact List.not_mem_nil
      | some c => exact leafFootprint_access _ c

/-- Inside a footprint, a register access is a read. -/
theorem Footprint.Allows.read {words : List CStr} {req : List u8} (h : (footprint words).Allows req)
    (hr : opcodeOf req = MLX5_CMD_OP_ACCESS_REG) :
    requestField req 0 AccessRegisterIn.opMod = 1 := by
  rcases h with h | ⟨-, hmod, -⟩ | ⟨hempty, -⟩
  · rw [hr] at h
    exact absurd h (footprint_access words)
  · exact hmod
  · rw [hempty] at hr
    exact absurd hr (by decide)

/-! ## The journal -/

/-- The same surroundings, with a journal. -/
def Env.traced (E : Env σ) : Env (σ × List Event) where
  sys := E.sys.traced
  files := E.files
  stale := E.stale
  getopt := E.getopt
  regPretty := E.regPretty
  capPretty := E.capPretty
  regPretty_printf := E.regPretty_printf

/-- **A command line stays in its footprint.** Whatever the device, the allocator and the file
    system answer: all that a run hands to the outside world, once it has ended, is in the footprint
    of its words, and a register access is always a read. Runs that never end are not covered. -/
theorem main_within (n : Nat) (w : World (σ × List Event)) (words : List CStr)
    {o : Outcome (σ × List Event) Int} (h : main E.traced n w words = some o) :
    ∃ new, events o.w = events w ++ new ∧ (∀ e ∈ new, e.call.Within (footprint words)) ∧
      ∀ r, .rpc r ∈ new → opcodeOf r.request = MLX5_CMD_OP_ACCESS_REG →
        requestField r.request 0 AccessRegisterIn.opMod = 1 := by
  obtain ⟨new, hnew, hwithin⟩ := (main_leads E.traced h).adds
    (B := fun e => e.call.Within (footprint words)) fun _ he => he
  exact ⟨new, hnew, hwithin, fun r hr => (hwithin _ hr).read⟩

/-- `mlx5ctl 0 sleep 1 diagcnt disable`: one command is all it may send. -/
theorem disable_within : ∃ o, main (answering fun _ => 0).traced 1 ⟨(0, []), []⟩
      ["mlx5ctl".toList, "0".toList, "sleep".toList, "1".toList, "diagcnt".toList,
        "disable".toList] = some o ∧
    ∃ new, events o.w = new ∧ ∀ e ∈ new, e.call.Within
      { opcodes := [MLX5_CMD_OP_SET_DIAGNOSTIC_PARAMS] } := by
  refine ⟨_, rfl, ?_⟩
  obtain ⟨new, hnew, hwithin, -⟩ := main_within (answering fun _ => 0) 1 ⟨(0, []), []⟩
    ["mlx5ctl".toList, "0".toList, "sleep".toList, "1".toList, "diagcnt".toList,
      "disable".toList] rfl
  exact ⟨new, hnew, hwithin⟩

end Main

end Mlx5ctl
