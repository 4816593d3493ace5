/-
  diag_cnt.c: the counter configuration over a session.

  A session is any number of command lines of the tool, one after another, on a device that keeps
  the context of the last SET_DIAGNOSTIC_PARAMS it accepted (`KeepsParams`). Seen from the context,
  a session is a run of a small store (`Effect`): a command line writes the parameters it asks for
  or leaves the context alone, and for a command line that is not behind a `sleep` the value the
  shell gets says which (`session_refines`). So `diagcnt param` shows what was last set, whatever
  was run since (`last_set_shown`).
-/
import Mlx5ctl.DiagCnt.CounterIds
import Mlx5ctl.CommandLines
import Mlx5ctl.Footprint
import Mlx5ctl.Lib.Runs

namespace Mlx5ctl

open ByteMem CInt CString Ifc Transition

variable {σ : Type}

/-! ## The device -/

/-- The call is a set. -/
def Call.Sets : Call → Prop
  | .rpc req _ => opcodeOf req = MLX5_CMD_OP_SET_DIAGNOSTIC_PARAMS
  | _ => False

/-- The entry of a command in this state of the outside world. -/
def entry (K : Sys σ) (s : σ) (req : List u8) (n : Nat) : Rpc :=
  ⟨req, n, (K.rpc s req n).1, (K.rpc s req n).2.1⟩

/-- The device keeps the context of the last set it accepted, no other call changes it, and an
    accepted query returns it behind a header. -/
structure KeepsParams (K : UmemSys σ) (stored : σ → List u8) : Prop where
  set : ∀ s req n, opcodeOf req = MLX5_CMD_OP_SET_DIAGNOSTIC_PARAMS →
    stored (K.rpc s req n).2.2 = if (entry K.toSys s req n).err = 0 then
      req.drop SetDiagnosticParamsIn.diagnosticParamsContext else stored s
  other : ∀ s c, ¬ c.Sets → stored (K.after s c) = stored s
  query : ∀ s req n, opcodeOf req = MLX5_CMD_OP_QUERY_DIAGNOSTIC_PARAMS →
    (entry K.toSys s req n).err = 0 → ∃ header tail,
      (K.rpc s req n).2.1 = header ++ stored s ++ tail ∧
        header.length = QueryDiagnosticParamsOut.diagnosticParamsContext

namespace KeepsParams

variable {K : UmemSys σ} {stored : σ → List u8} (hK : KeepsParams K stored)

include hK

/-- What is done without a set. -/
theorem kept {w v : World σ} (h : Leads K (fun c => ¬ c.Sets) w v) :
    stored v.sys = stored w.sys := Reaches.same hK.other h

/-- What is done in a footprint without a set. -/
theorem within {f : Footprint} (hf : MLX5_CMD_OP_SET_DIAGNOSTIC_PARAMS ∉ f.opcodes)
    {w v : World σ} (h : Leads K (Call.Within f) w v) : stored v.sys = stored w.sys := by
  refine hK.kept (Reaches.mono (fun c hc hsets => ?_) h)
  cases c with
  | rpc req n =>
      have hop : opcodeOf req = MLX5_CMD_OP_SET_DIAGNOSTIC_PARAMS := hsets
      rcases hc with h | ⟨h, -, -⟩ | ⟨-, h⟩
      · rw [hop] at h
        exact hf h
      · rw [hop] at h
        exact absurd h (by decide)
      · exact hf h
  | _ => exact hsets

end KeepsParams

/-! ## The store -/

/-- The context is that of a mailbox of these parameters. -/
def Holds (params : DiagCnt.SetDiagParams) (ctx : List u8) : Prop :=
  ∃ block, ctx = (DiagCnt.setParamMailbox block params).drop
    SetDiagnosticParamsIn.diagnosticParamsContext

/-- What is done to the context by a command that asks to set one of these parameters, and returns
    this: nothing, or it stores them. Where it is `told`, the value returned says which. -/
inductive Effect (asks : DiagCnt.SetDiagParams → Prop) (told : Prop) (ret : Option Int)
    (ctx ctx' : List u8) : Prop
  | kept (same : ctx' = ctx) (failed : told → (∃ params, asks params) → ret ≠ some 0)
  | stores {params : DiagCnt.SetDiagParams} (asked : asks params) (holds : Holds params ctx')
      (returned : told → ret = some 0)

/-- The effect of a command, seen by what it is behind. -/
theorem Effect.behind {asks asks' : DiagCnt.SetDiagParams → Prop} {told told' : Prop}
    {ret ret' : Option Int} {ctx ctx' : List u8} (h : Effect asks told ret ctx ctx')
    (hasks : ∀ params, asks' params ↔ asks params)
    (htold : told' → told ∧ (ret' = some 0 ↔ ret = some 0)) :
    Effect asks' told' ret' ctx ctx' := by
  cases h with
  | kept same failed =>
      refine .kept same fun ht ⟨params, hp⟩ h0 => ?_
      obtain ⟨ht, hret⟩ := htold ht
      exact failed ht ⟨params, (hasks params).mp hp⟩ (hret.mp h0)
  | stores asked holds returned =>
      refine .stores ((hasks _).mpr asked) holds fun ht => ?_
      obtain ⟨ht, hret⟩ := htold ht
      exact hret.mpr (returned ht)

/-- `diagcnt set` with this `argv` asks to set these parameters, with what the array of ids held in
    the slots no token fills. The mailbox of 2^30 - 8 counters is empty, and sets nothing. -/
structure SetAsks (argv : List CStr) (params : DiagCnt.SetDiagParams) : Prop where
  flags : DiagCnt.FlagsTaken argv
  argc : 5 ≤ argv.length
  mailbox : 2 ≤ DiagCnt.setParamLen params
  params : ∃ ids, params = DiagCnt.sentParams argv ids

/-- A `diagcnt` sub-command asks to set these parameters. -/
def SubAsks (argv : List CStr) (params : DiagCnt.SetDiagParams) : DiagCnt.SubCommand → Prop
  | .doSet => SetAsks argv params
  | .doDisable => params = DiagCnt.disableParams
  | _ => False

/-- The words ask to set these parameters. -/
def Asks (words : List CStr) (params : DiagCnt.SetDiagParams) : Prop :=
  ∃ name argv args sub, deviceWords words = some (name, argv) ∧
    innermost argv = "diagcnt".toList :: args ∧ selected DiagCnt.commands args = some sub ∧
    SubAsks args params sub

/-- The command is not behind a `sleep`. -/
def Direct (words : List CStr) : Prop :=
  ∀ name argv, deviceWords words = some (name, argv) → innermost argv = argv

/-! ## The sub-commands -/

namespace DiagCnt

variable {K : UmemSys σ} {stored : σ → List u8} (hK : KeepsParams K stored)

include hK

omit hK in
/-- The return value of a set that gets its block is that of its command. -/
theorem setParam_err {w : World σ} {params : SetDiagParams} {block : Mem}
    (hm : (K.malloc w.sys (toSize (setParamSz params.numOfCounters))).1 = some block) :
    (mlx5DiagCntSetParam K.toSys w params).err = (entry K.toSys
      (K.malloc w.sys (toSize (setParamSz params.numOfCounters))).2
      (setParamMailbox block params) SetDiagnosticParamsOut.szBytes).err := by
  have hret := mlx5uCmd_ret K.toSys { w with sys :=
    (K.malloc w.sys (toSize (setParamSz params.numOfCounters))).2 }
    (setParamIn block params) (toSize (setParamSz params.numOfCounters)) zeroMem
    SetDiagnosticParamsOut.szBytes
  refine Eq.trans ?_ hret
  unfold mlx5DiagCntSetParam
  dsimp only
  rw [hm]
  dsimp only
  split_ifs <;> rfl

/-- A set stores its parameters exactly if it returns 0, where it has a mailbox. -/
theorem setParam_effect (w : World σ) (params : SetDiagParams) :
    Effect (fun asked => 2 ≤ setParamLen asked ∧ asked = params) True
      (some (mlx5DiagCntSetParam K.toSys w params).err) (stored w.sys)
      (stored (mlx5DiagCntSetParam K.toSys w params).w.sys) := by
  have hmalloc (n : Nat) : stored (K.malloc w.sys n).2 = stored w.sys :=
    hK.other w.sys (.malloc n) id
  cases hm : (K.malloc w.sys (toSize (setParamSz params.numOfCounters))).1 with
  | none =>
      have hnone : mlx5DiagCntSetParam K.toSys w params = ⟨enomem, { w with sys :=
          (K.malloc w.sys (toSize (setParamSz params.numOfCounters))).2 }⟩ := by
        unfold mlx5DiagCntSetParam
        dsimp only
        rw [hm]
      rw [hnone]
      refine .kept (hmalloc _) fun _ _ h0 => ?_
      exact absurd (Option.some.inj h0) (show enomem ≠ 0 by decide)
  | some block =>
      rw [setParam_sys K.toSys hm, setParam_err hm]
      rcases setParamLen_cases params with hlen | hlen
      · -- an empty mailbox is no set
        rw [setParamMailbox_empty block hlen]
        have hother := hK.other (K.malloc w.sys (toSize (setParamSz params.numOfCounters))).2
          (.rpc [] SetDiagnosticParamsOut.szBytes) (show opcodeOf [] ≠ _ by decide)
        refine .kept (hother.trans (hmalloc _)) fun _ ⟨asked, hasked, heq⟩ => ?_
        rw [heq, hlen] at hasked
        exact absurd hasked (by decide)
      · have hset := hK.set (K.malloc w.sys (toSize (setParamSz params.numOfCounters))).2
          (setParamMailbox block params) SetDiagnosticParamsOut.szBytes
          (opcodeOf_setParamMailbox block hlen)
        rw [hset]
        split_ifs with h0
        · exact .stores ⟨hlen, rfl⟩ ⟨block, rfl⟩ fun _ => congrArg some h0
        · exact .kept (hmalloc _) fun _ _ h => h0 (Option.some.inj h)

/-- The frequency query sets nothing. -/
theorem getDevFreq_kept (w : World σ) : stored (getDevFreq K.toSys w).w.sys = stored w.sys := by
  have hquery : CommandKind (fun c => ¬ c.Sets) MLX5_CMD_OP_QUERY_HCA_CAP := by
    intro req n hr hsets
    rw [show opcodeOf req = MLX5_CMD_OP_SET_DIAGNOSTIC_PARAMS from hsets] at hr
    exact absurd hr (by decide)
  exact hK.kept (getDevFreq_leads K hquery w)

theorem malloc_kept {s t : σ} {n : Nat} {block : Option Mem} (h : K.malloc s n = (block, t)) :
    stored t = stored s := by
  have hother := hK.other s (.malloc n) id
  unfold UmemSys.after at hother
  dsimp only at hother
  rwa [h] at hother

omit hK in
/-- The ids take no part in the length. -/
theorem setParamLen_sent (argv : List CStr) (ids block : Mem) :
    setParamLen (sentParams argv ids) = setParamLen (sentParams argv block) := by
  unfold setParamLen
  rfl

/-- A `diagcnt set` stores what it asks for exactly if it returns 0. -/
theorem doSet_effect (w : World σ) (argv : List CStr) :
    Effect (SetAsks argv) True (some (doSet K.toSys w argv).1) (stored w.sys)
      (stored (doSet K.toSys w argv).2.sys) := by
  have hrun := doSet_run K.toSys w argv
  generalize doSet K.toSys w argv = r at hrun
  cases hrun with
  | @refused ret v args sys =>
      rw [show v.sys = w.sys from sys]
      exact .kept rfl fun _ ⟨params, hp⟩ => absurd ⟨hp.flags, hp.argc⟩ args
  | noIds flags argc malloc =>
      refine .kept (malloc_kept hK malloc) fun _ _ h0 => ?_
      exact absurd (Option.some.inj h0) (show enomem ≠ 0 by decide)
  | noFreq flags argc malloc freq =>
      refine .kept ((getDevFreq_kept hK _).trans (malloc_kept hK malloc)) fun _ _ h0 => ?_
      exact Int.ne_of_lt freq (Option.some.inj h0)
  | @sets flags argc block s malloc freq =>
      have hkept := (getDevFreq_kept hK { w with sys := s }).trans (malloc_kept hK malloc)
      generalize getDevFreq K.toSys { w with sys := s } = u at hkept
      have hset := setParam_effect hK
        (u.w.prints (settingLines (sentParams argv block) u.err)) (sentParams argv block)
      rw [World.prints_sys, hkept] at hset
      generalize hr : mlx5DiagCntSetParam K.toSys
          (u.w.prints (settingLines (sentParams argv block) u.err)) (sentParams argv block) = r
        at hset
      have hdone : (setParams K.toSys u.w (sentParams argv block) u.err).1 = r.err ∧
          (setParams K.toSys u.w (sentParams argv block) u.err).2.sys = r.w.sys := by
        unfold setParams
        dsimp only
        rw [hr]
        split_ifs with h0
        · exact ⟨rfl, rfl⟩
        · exact ⟨(not_not.mp h0).symm, rfl⟩
      rw [hdone.1, hdone.2]
      cases hset with
      | kept same failed =>
          refine .kept same fun _ ⟨params, hp⟩ => failed trivial ⟨_, ?_, rfl⟩
          obtain ⟨ids, rfl⟩ := hp.params
          rw [setParamLen_sent argv block ids]
          exact hp.mailbox
      | stores asked holds returned =>
          obtain ⟨hlen, rfl⟩ := asked
          exact .stores ⟨flags, argc, hlen, block, rfl⟩ holds returned

/-- A `diagcnt disable` stores its parameters exactly if it returns 0. -/
theorem doDisable_effect (w : World σ) :
    Effect (fun params => params = disableParams) True (some (doDisable K.toSys w).1)
      (stored w.sys) (stored (doDisable K.toSys w).2.sys) :=
  (setParam_effect hK (w.print (.printf
    "disabling diag counters and clearing HW buffer\n" [])) disableParams).behind
      (fun params => iff_and_self.mpr fun h => by
        rw [h]
        decide) fun h => ⟨h, Iff.rfl⟩

theorem runSub_effect (w : World σ) (helpCmd : CStr) (args : List CStr) (c : SubCommand) :
    Effect (fun params => SubAsks args params c) True (some (runSub K.toSys w helpCmd args c).1)
      (stored w.sys) (stored (runSub K.toSys w helpCmd args c).2.sys) := by
  have hleads := runSub_leads (A := Call.Within { opcodes := subOpcodes c }) K (within_malloc _)
    (fun _ h => within_query h) (fun h => within_set h) w helpCmd args
  cases c with
  | doSet => exact doSet_effect hK w args
  | doDisable => exact doDisable_effect hK w
  | _ => exact .kept (hK.within (by decide) hleads) fun _ ⟨_, hp⟩ => hp.elim

/-- `diagcnt` ends as its sub-command does. -/
theorem doDiagCnt_effect (unknown : World σ → CStr → Outcome σ Int) (w : World σ) (name : CStr)
    {args : List CStr} {c : SubCommand} (hc : selected commands args = some c) :
    ∃ ret v, doDiagCnt K.toSys unknown w (name :: args) = .ret ret v ∧
      Effect (fun params => SubAsks args params c) True (some ret) (stored w.sys)
        (stored v.sys) := by
  have heffect := runSub_effect hK w name args c
  unfold doDiagCnt
  rw [List.tail_cons, cmdSelect_selected, hc]
  dsimp only [Option.elim, Outcome.bind_ret]
  split_ifs
  · exact ⟨_, _, rfl, heffect⟩
  · exact ⟨_, _, rfl, heffect⟩

end DiagCnt

/-! ## The command line -/

theorem selected_diagcnt {argv : List CStr} (h : selected commands argv = some .doDiagCnt) :
    ∃ args, argv = "diagcnt".toList :: args := by
  cases argv with
  | nil => cases h
  | cons name args =>
      unfold selected at h
      cases hc : commands.find? (fun c => c.name.toList = name) with
      | none =>
          rw [cmdSelect_unknown hc] at h
          cases h
      | some c =>
          rw [cmdSelect_found hc] at h
          exact ⟨args, congrArg (· :: args) ((command_names hc).2.mp (Option.some.inj h))⟩

/-- Only `diagcnt` may set. -/
theorem commandFootprint_set {argv : List CStr}
    (h : MLX5_CMD_OP_SET_DIAGNOSTIC_PARAMS ∈ (commandFootprint dumpFootprint argv).opcodes) :
    ∃ args c, innermost argv = "diagcnt".toList :: args ∧
      selected DiagCnt.commands args = some c := by
  unfold commandFootprint at h
  cases hsel : selected commands (innermost argv) with
  | none =>
      rw [hsel] at h
      cases h
  | some c =>
      rw [hsel, Option.map_some, Option.getD_some] at h
      cases c with
      | doDiagCnt =>
          obtain ⟨args, hargs⟩ := selected_diagcnt hsel
          rw [hargs] at h
          unfold leafFootprint at h
          dsimp only [List.tail_cons] at h
          cases hsub : selected DiagCnt.commands args with
          | none =>
              rw [hsub] at h
              cases h
          | some c => exact ⟨args, c, hargs, hsub⟩
      | queryObj =>
          have htable : ∀ e ∈ QueryObj.queryFuncs,
              e.objFunc.opcode ≠ MLX5_CMD_OP_SET_DIAGNOSTIC_PARAMS := by decide
          obtain ⟨f, hf, hop⟩ : ∃ f, QueryObj.getQueryFunc (innermost argv)[1]? = some f ∧
              f.opcode = MLX5_CMD_OP_SET_DIAGNOSTIC_PARAMS := by
            simpa [leafFootprint] using h
          obtain ⟨e, he, rfl⟩ := getQueryFunc_entry hf
          exact absurd hop (htable e he)
      | doRscdump =>
          have hdump : MLX5_CMD_OP_SET_DIAGNOSTIC_PARAMS ∉
              if asksUmem (innermost argv).tail then umemOpcodes else [] := by
            split_ifs <;> decide
          exact absurd h hdump
      | doDevcap => exact absurd h (show _ ∉ [MLX5_CMD_OP_QUERY_HCA_CAP] by decide)
      | _ => cases h

section Line

variable (E : Env σ)

/-- A `diagcnt` with a sub-command, on the device it opened. -/
theorem runCommand_effect {K : UmemSys σ} (hsys : E.sys = K) {stored : σ → List u8}
    (hK : KeepsParams K stored) {helpCmd : CStr} {dev : Mlx5uDev} {n : Nat} {w : World σ}
    {argv args : List CStr} {c : DiagCnt.SubCommand} {o : Outcome σ Int}
    (hargs : innermost argv = "diagcnt".toList :: args)
    (hc : selected DiagCnt.commands args = some c)
    (h : runCommand E helpCmd dev n w argv = some o) :
    ∃ ret v, Effect (fun params => SubAsks args params c) True (some ret) (stored w.sys)
        (stored v.sys) ∧ o.w = v ∧ (innermost argv = argv → o = .ret ret v) := by
  subst hsys
  obtain ⟨o', ho', hw, hdirect⟩ := runCommand_innermost E h
  rw [hargs] at ho'
  have hleaf := (runCommand_leaf E helpCmd dev n w .diagcnt args).symm.trans ho'
  obtain ⟨ret, v, hrun, heffect⟩ := DiagCnt.doDiagCnt_effect hK
    (unknownCommand E.sys.toSys E.files E.stale helpCmd) w "diagcnt".toList hc
  have ho : o' = .ret ret v := (Option.some.inj hleaf).symm.trans hrun
  rw [ho] at hw hdirect
  exact ⟨ret, v, heffect, hw.symm, fun heq => (hdirect heq).symm⟩

theorem open_kept {stored : σ → List u8} (hK : KeepsParams E.sys stored) (w : World σ)
    (name : CStr) :
    stored (mlx5uOpen E.sys.toSys E.files E.stale w name).w.sys = stored w.sys :=
  hK.kept (mlx5uOpen_leads E.sys (A := fun c => ¬ c.Sets) (fun _ => id) E.files E.stale w name)

/-- What a command line does to the context. -/
theorem main_effect {stored : σ → List u8} (hK : KeepsParams E.sys stored) {n : Nat} {w : World σ}
    {words : List CStr} {o : Outcome σ Int} (h : main E n w words = some o) :
    Effect (Asks words) (Direct words) o.code (stored w.sys) (stored o.w.sys) := by
  by_cases hasks : ∃ name argv args c, deviceWords words = some (name, argv) ∧
      innermost argv = "diagcnt".toList :: args ∧ selected DiagCnt.commands args = some c
  · obtain ⟨name, argv, args, c, hdev, hargs, hc⟩ := hasks
    have hopen := open_kept E hK w name
    rcases main_opens E hdev h with ⟨dev, v, o', ho, hrun, rfl⟩ | ⟨hsys, hcode⟩
    · rw [ho] at hopen
      obtain ⟨ret, u, heffect, hw, hdirect⟩ := runCommand_effect E rfl hK hargs hc hrun
      have hworld : (o'.bind fun ret w => .ret (if 0 < ret then ret else -ret) w).w = u := by
        rw [← hw]
        cases o' <;> rfl
      rw [show stored v.sys = stored w.sys from hopen] at heffect
      rw [hworld]
      refine heffect.behind (fun params => ?_) fun ht => ⟨trivial, ?_⟩
      · constructor
        · rintro ⟨name', argv', args', c', hdev', hargs', hc', hsub⟩
          rw [hdev] at hdev'
          cases hdev'
          rw [hargs] at hargs'
          cases hargs'
          rw [hc] at hc'
          cases hc'
          exact hsub
        · exact fun hsub => ⟨name, argv, args, c, hdev, hargs, hc, hsub⟩
      · rw [hdirect (ht name argv hdev)]
        exact fold_code ret
    · rw [hsys]
      exact .kept hopen fun _ _ => hcode
  · refine .kept (hK.within (fun hset => hasks ?_) (main_leads E h)) fun _ ⟨params, hp⟩ => ?_
    · unfold footprint footprintBy at hset
      cases hdev : deviceWords words with
      | none =>
          rw [hdev] at hset
          cases hset
      | some d =>
          rw [hdev, Option.map_some, Option.getD_some] at hset
          obtain ⟨args, c, hargs, hc⟩ := commandFootprint_set hset
          exact ⟨d.1, d.2, args, c, rfl, hargs, hc⟩
    · obtain ⟨name, argv, args, c, hdev, hargs, hc, -⟩ := hp
      exact absurd ⟨name, argv, args, c, hdev, hargs, hc⟩ hasks

/-! ## Sessions -/

/-- A command line of a session, with what `main` returned. -/
def session (line : List CStr × Option Int) (w v : World σ) : Prop :=
  ∃ n o, main E n w line.1 = some o ∧ o.w = v ∧ o.code = line.2

/-- What the command line may do to the context. -/
def store (line : List CStr × Option Int) (ctx ctx' : List u8) : Prop :=
  Effect (Asks line.1) (Direct line.1) line.2 ctx ctx'

/-- **A session is a run of the store.** On a device that keeps the parameters it accepted, each
    command line of a session, whatever it is and however it ends, leaves the parameters alone or
    stores the ones its words ask for, and where it is not behind a `sleep` its value says
    which. -/
theorem session_refines {stored : σ → List u8} (hK : KeepsParams E.sys stored)
    {lines : List (List CStr × Option Int)} {w v : World σ} (h : Run (session E) lines w v) :
    Run store lines (stored w.sys) (stored v.sys) := by
  refine Run.map (f := fun w => stored w.sys) (fun line s t hline => ?_) h
  obtain ⟨n, o, hmain, rfl, hcode⟩ := hline
  unfold store
  rw [← hcode]
  exact main_effect E hK hmain

/-- The tool on a device that is its stored context. -/
def keeping : Env (List u8) where
  sys :=
    { toSys := DiagCnt.keeper
      memalign s _ := (none, s)
      umemReg s _ _ := (7, s)
      umemUnreg s _ := (0, s) }
  files := sysfs shallow
  stale _ := []
  getopt _ := []
  regPretty := (answering fun _ => 0).regPretty
  capPretty _ _ := []
  regPretty_printf := (answering fun _ => 0).regPretty_printf

theorem keeping_keeps : KeepsParams keeping.sys id where
  set s req n h := by
    have hrpc : keeping.sys.rpc s req n = (0, List.replicate 16 0,
        req.drop SetDiagnosticParamsIn.diagnosticParamsContext) := if_pos h
    have herr : (entry keeping.sys.toSys s req n).err = 0 := by
      unfold entry Rpc.err cmdRet
      dsimp only
      rw [hrpc, if_neg (not_not.mpr rfl), status_byte]
      cases n <;> rfl
    rw [hrpc, if_pos herr]
    rfl
  other s c hc := by
    cases c with
    | rpc req n => 
      have hrpc : keeping.sys.rpc s req n = (0, List.replicate 8 0 ++ s, s) := if_neg hc
      exact congrArg (fun r => r.2.2) hrpc
    | _ => rfl
  query s req n h herr := by
    have hrpc : keeping.sys.rpc s req n = (0, List.replicate 8 0 ++ s, s) := if_neg (by
      rw [h]
      decide)
    rw [hrpc]
    exact ⟨List.replicate 8 0, [], (List.append_nil _).symm, rfl⟩

/-- A command line on the device 0. -/
def wordsOn (args : List String) : List CStr := ("mlx5ctl" :: "0" :: args).map String.toList

/-- `diagcnt set rS 7 255 4097,65535` -/
def setWords : List CStr := wordsOn ["diagcnt", "set", "rS", "7", "255", "4097,65535"]

/-- `sleep 1 diagcnt disable`, and the set. -/
theorem set_behind_sleep : ∃ v, Run store
    [(wordsOn ["sleep", "1", "diagcnt", "disable"], some 0), (setWords, some 0)] [] v := by
  have hrun : ∃ v, Run (session keeping)
      [(wordsOn ["sleep", "1", "diagcnt", "disable"], some 0), (setWords, some 0)] ⟨[], []⟩ v :=
    ⟨_, .cons ⟨1, _, rfl, rfl, rfl⟩ (.cons ⟨1, _, rfl, rfl, rfl⟩ (.nil _))⟩
  obtain ⟨v, hv⟩ := hrun
  exact ⟨v.sys, session_refines keeping keeping_keeps hv⟩

/-! ## The last set -/

/-- Lines that set nothing keep the context. -/
theorem store_keeps {lines : List (List CStr × Option Int)} {ctx ctx' : List u8}
    (h : Run store lines ctx ctx')
    (hlines : ∀ line ∈ lines, (∃ params, Asks line.1 params) →
      Direct line.1 ∧ line.2 ≠ some 0) : ctx' = ctx := by
  refine h.keeps (P := fun c => c = ctx) (fun line hline c d hstep hc => ?_) rfl
  cases hstep with
  | kept same failed => exact same.trans hc
  | stores asked holds returned =>
      obtain ⟨hdirect, hne⟩ := hlines line hline ⟨_, asked⟩
      exact absurd (returned hdirect) hne

/-- The context is that of the last set that returned 0. -/
theorem last_set {before after : List (List CStr × Option Int)} {words : List CStr}
    {ctx ctx' : List u8} (h : Run store (before ++ (words, some 0) :: after) ctx ctx')
    (hdirect : Direct words) (hasks : ∃ params, Asks words params)
    (hafter : ∀ line ∈ after, (∃ params, Asks line.1 params) →
      Direct line.1 ∧ line.2 ≠ some 0) : ∃ params, Asks words params ∧ Holds params ctx' := by
  obtain ⟨c, -, hrest⟩ := run_append.mp h
  cases hrest with
  | cons hset hrun =>
      rw [store_keeps hrun hafter]
      cases hset with
      | kept same failed => exact absurd rfl (failed hdirect hasks)
      | stores asked holds returned => exact ⟨_, asked, holds⟩

/-- A command that returned 0 was accepted. -/
theorem accepted_of_zero {K : Sys σ} {w : World σ} {inb : Mem} {inlen : Nat} {out : Mem}
    {outlen : Nat} (h : (mlx5uCmd K w inb inlen out outlen).ret = 0) :
    (entry K w.sys (load inb 0 (toU32 inlen)) (toU32 outlen)).err = 0 := by
  rw [mlx5uCmd_ret] at h
  unfold Rpc.err entry cmdRet at *
  dsimp only
  split_ifs at h ⊢ with hret
  · exact absurd h hret
  · have hstatus := Int.ofNat_inj.mp h
    unfold replyIn at hstatus
    rw [status_byte] at hstatus ⊢
    unfold overlay at hstatus ⊢
    generalize (K.rpc w.sys (load inb 0 (toU32 inlen)) (toU32 outlen)).2.1.take
      (toU32 outlen) = reply at hstatus
    cases reply with
    | nil => rfl
    | cons b bs => exact congrArg Int.ofNat hstatus

namespace DiagCnt

/-- A query that returns 0 had a response, and printed its context. -/
theorem queryParam_zero {K : Sys σ} {w : World σ} {numCnt : Int}
    (herr : (mlx5DiagCntQueryParam K w numCnt).err = 0) :
    ∃ out, (entry K (K.malloc w.sys (paramOutSz numCnt)).2
        (load queryParamIn 0 QueryDiagnosticParamsIn.szBytes) (paramOutSz numCnt)).err = 0 ∧
      (mlx5DiagCntQueryParam K w numCnt).w.out = w.out ++ contextLines
        (overlay ((K.rpc (K.malloc w.sys (paramOutSz numCnt)).2
          (load queryParamIn 0 QueryDiagnosticParamsIn.szBytes)
          (paramOutSz numCnt)).2.1.take (paramOutSz numCnt)) out) numCnt := by
  have hlen : toU32 (paramOutSz numCnt : Int) = paramOutSz numCnt := toU32_natCast (by
    unfold paramOutSz toU16
    omega)
  cases hm : (K.malloc w.sys (paramOutSz numCnt)).1 with
  | none =>
      unfold mlx5DiagCntQueryParam at herr
      dsimp only at herr
      rw [hm] at herr
      exact absurd herr (show enomem ≠ 0 by decide)
  | some out =>
      generalize hr : mlx5uCmd K { w with sys := (K.malloc w.sys (paramOutSz numCnt)).2 }
        queryParamIn QueryDiagnosticParamsIn.szBytes out (paramOutSz numCnt) = r
      have hret : r.ret = 0 := by
        rw [← hr]
        unfold mlx5DiagCntQueryParam at herr
        dsimp only at herr
        rw [hm] at herr
        dsimp only at herr
        split_ifs at herr with hne
        · exact absurd herr hne
        · exact not_not.mp hne
      obtain ⟨-, hlines⟩ := queryParam_prints K hm hr hret
      rw [← hr] at hret hlines
      have haccepted := accepted_of_zero hret
      rw [hlen] at haccepted
      refine ⟨out, haccepted, ?_⟩
      rw [hlines, (mlx5uCmd_zero K hret).2, mlx5uCmd_out]
      unfold replyIn
      rw [hlen]
      rfl

/-- The size of the response wraps from 16376 counters on. -/
theorem paramOutSz_room {n : Int} (hn : 0 ≤ n) (hroom : n ≤ 16375) : 32 + 4 * n ≤ paramOutSz n := by
  unfold paramOutSz toU16
  show 32 + 4 * n ≤ (((32 : Nat) + n * (4 : Nat)) % 65536).toNat
  omega

/-- A query that returns 0 prints the parameters that the context holds. -/
theorem queryParam_shows {K : UmemSys σ} {stored : σ → List u8} (hK : KeepsParams K stored)
    {w : World σ} {params : SetDiagParams} (hholds : Holds params (stored w.sys))
    (hp : params.InRange)
    (hmax : params.numOfCounters ≤ 16375)
    (herr : (mlx5DiagCntQueryParam K.toSys w params.numOfCounters).err = 0) :
    (mlx5DiagCntQueryParam K.toSys w params.numOfCounters).w.out =
      w.out ++ paramLines params := by
  have hlen := setParamLen_eq hp
  have hcnt := hp.numOfCounters
  have hroom := paramOutSz_room hcnt.1 hmax
  obtain ⟨out, haccepted, hlines⟩ := queryParam_zero herr
  obtain ⟨header, tail, hreply, hheader⟩ := hK.query _ _ _ opcodeOf_queryParam haccepted
  have hkept : stored (K.malloc w.sys (paramOutSz params.numOfCounters)).2 = stored w.sys :=
    hK.other w.sys (.malloc _) id
  obtain ⟨block, hblock⟩ := hholds
  rw [hlines, hreply, hkept, hblock]
  congr 1
  exact contextLines_eq hp fun base f h64 hin => reply_field hheader (by omega) h64 hin

/-- `diagcnt param` with a number is the query for as many counters. -/
theorem doDiagCnt_param {K : Sys σ} {w : World σ} {num : CStr}
    (unknown : World σ → CStr → Outcome σ Int) (hnum : num ≠ "help".toList) {r : QueryResult σ}
    (hr : mlx5DiagCntQueryParam K (w.print (.printf "query diag counter params with %d counters\n"
      [.int (atoi num)])) (atoi num) = r) :
    doDiagCnt K unknown w ["diagcnt".toList, "param".toList, num] =
      if r.err ≠ 0 then .ret r.err (r.w.print (.errMsg "diag_cnt %s failed, %d\n"
        [nameArg ["diagcnt".toList, "param".toList], .int r.err]))
      else .ret r.err r.w := by
  have hparam : doParam K w ["param".toList, num] = (r.err, r.w) := by
    unfold doParam
    rw [if_neg fun h => hnum h.2, ← hr]
    rfl
  have hsel : selected commands ["param".toList, num] = some .doParam := rfl
  unfold doDiagCnt
  rw [List.tail_cons, cmdSelect_selected, hsel]
  dsimp only [Option.elim, Outcome.bind_ret, runSub]
  rw [hparam]
  rfl

end DiagCnt

/-- **The last set is shown.** After a session on a device that keeps the parameters it accepted, in
    which a command line that asks to set parameters returned 0 and none after it did, a
    `diagcnt param` that returns 0 prints parameters that the words of this command line ask for,
    every field and every counter, whatever else was run before and since: up to 16375 counters,
    from where on the size of the response wraps. -/
theorem last_set_shown {stored : σ → List u8} (hK : KeepsParams E.sys stored)
    {before after : List (List CStr × Option Int)} {words : List CStr} {w v : World σ}
    (h : Run (session E) (before ++ (words, some 0) :: after) w v) (hdirect : Direct words)
    (hasks : ∃ params, Asks words params)
    (hafter : ∀ line ∈ after, (∃ params, Asks line.1 params) →
      Direct line.1 ∧ line.2 ≠ some 0) :
    ∃ params, Asks words params ∧ ∀ n query name num o,
      deviceWords query = some (name, ["diagcnt".toList, "param".toList, num]) →
      num ≠ "help".toList → main E n v query = some o → o.code = some 0 →
      atoi num = params.numOfCounters → params.InRange → params.numOfCounters ≤ 16375 →
      o.w.out = v.out ++ .printf "query diag counter params with %d counters\n"
        [.int params.numOfCounters] :: DiagCnt.paramLines params := by
  obtain ⟨params, hparams, hholds⟩ := last_set (session_refines E hK h) hdirect hasks hafter
  refine ⟨params, hparams, fun n query name num o hdev hnum hmain hcode hn hp hmax => ?_⟩
  have hopen := open_kept E hK v name
  rcases main_opens E hdev hmain with ⟨dev, u, o', ho, hrun, rfl⟩ | ⟨-, hne⟩
  · rw [ho] at hopen
    have hout := mlx5uOpen_out ho
    generalize hr : DiagCnt.mlx5DiagCntQueryParam E.sys.toSys (u.print (.printf
      "query diag counter params with %d counters\n" [.int (atoi num)])) (atoi num) = r
    have hleaf := (runCommand_leaf E (query.headD []) dev n u .diagcnt
      ["param".toList, num]).symm.trans hrun
    have hdone := (Option.some.inj hleaf).symm.trans (DiagCnt.doDiagCnt_param
      (unknownCommand E.sys.toSys E.files E.stale (query.headD [])) hnum hr)
    by_cases herr : r.err = 0
    · rw [hdone, if_neg (not_not.mpr herr)]
      rw [hn] at hr
      rw [← hr] at herr
      have hshown := DiagCnt.queryParam_shows hK (w := u.print (.printf
        "query diag counter params with %d counters\n" [.int params.numOfCounters]))
        (by rwa [World.print_sys, show stored u.sys = stored v.sys from hopen]) hp hmax herr
      rw [hr] at hshown
      show r.w.out = _
      rw [hshown, ← hout, List.append_cons]
      rfl
    · rw [hdone, if_pos herr] at hcode
      exact absurd ((fold_code r.err).mp hcode) fun h => herr (Option.some.inj h)
  · exact absurd hcode hne

theorem setWords_asks : ∃ params, Asks setWords params :=
  ⟨_, _, _, _, .doSet, rfl, rfl, rfl, by decide, by decide, by decide, zeroMem, rfl⟩

theorem setWords_inRange {params : DiagCnt.SetDiagParams} (h : Asks setWords params) :
    params.InRange ∧ params.numOfCounters = 2 := by
  obtain ⟨name, argv, args, c, hdev, hargs, hc, hsub⟩ := h
  cases hdev
  cases hargs
  cases hc
  obtain ⟨ids, rfl⟩ := hsub.params
  have hcount : "4097,65535".toList.count ',' = 1 := by decide
  have hfit : DiagCnt.ArgsFit ["set".toList, "rS".toList, "7".toList, "255".toList,
      "4097,65535".toList] ids := by
    have htoks : (strtok ',' "4097,65535".toList).length = 2 := by decide
    exact ⟨by decide, by decide, by decide, by decide, fun i hi hi' => by
      have hi : (strtok ',' "4097,65535".toList).length ≤ i := hi
      have hi' : i ≤ "4097,65535".toList.count ',' := hi'
      omega⟩
  obtain ⟨hp, -, -, hnum⟩ := hfit.inRange
  refine ⟨hp, hnum.trans ?_⟩
  show (("4097,65535".toList.count ',' + 1 : Nat) : Int) = 2
  rw [hcount]
  rfl

/-- The help between the set and the query. -/
theorem set_shown : ∃ v o params, main keeping 1 v (wordsOn ["diagcnt", "param", "2"]) = some o ∧
    Asks setWords params ∧
    o.w.out = v.out ++ .printf "query diag counter params with %d counters\n" [.int 2] ::
      DiagCnt.paramLines params := by
  have hrun : ∃ v o, Run (session keeping)
      [(setWords, some 0), (["mlx5ctl".toList], some 0)] ⟨[], []⟩ v ∧
      main keeping 1 v (wordsOn ["diagcnt", "param", "2"]) = some o ∧ o.code = some 0 :=
    ⟨_, _, .cons ⟨1, _, rfl, rfl, rfl⟩ (.cons ⟨1, _, rfl, rfl, rfl⟩ (.nil _)), rfl, rfl⟩
  obtain ⟨v, o, hsession, hmain, hcode⟩ := hrun
  have hdirect : Direct setWords := by
    intro name argv hdev
    cases hdev
    rfl
  have hafter : ∀ line ∈ [(["mlx5ctl".toList], some (0 : Int))],
      (∃ params, Asks line.1 params) → Direct line.1 ∧ line.2 ≠ some 0 := by
    intro line hline ⟨params, name, argv, args, c, hdev, _⟩
    rw [List.mem_singleton.mp hline] at hdev
    cases hdev
  have hsession : Run (session keeping)
      ([] ++ (setWords, some 0) :: [(["mlx5ctl".toList], some 0)]) ⟨[], []⟩ v := hsession
  obtain ⟨params, hasks, hshown⟩ := last_set_shown keeping keeping_keeps hsession hdirect
    setWords_asks hafter
  obtain ⟨hp, hnum⟩ := setWords_inRange hasks
  have hlines := hshown 1 (wordsOn ["diagcnt", "param", "2"]) "0".toList "2".toList o rfl
    (by decide) hmain hcode (by rw [hnum]; decide) hp (by rw [hnum]; decide)
  rw [hnum] at hlines
  exact ⟨v, o, params, hmain, hasks, hlines⟩

end Line

end Mlx5ctl
