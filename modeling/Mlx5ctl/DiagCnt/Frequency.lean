/-
  What `diagcnt` returns, and the frequency query in `set` and `cap`.

  `get_dev_freq` returns a device status where its query fails, and its callers test the sign
  only: a status is taken for a frequency. `Mistaken` says that this happened and that no command
  failed after it. Such a run returns 0; every other one returns something the shell sees, if a
  command failed (`doDiagCnt_told`).
-/
import Mlx5ctl.DiagCnt.Command
import Mlx5ctl.Reports

namespace Mlx5ctl.DiagCnt

open ByteMem CInt CString Ifc

variable {σ : Type} (K : Sys σ)

/-! ## The commands -/

theorem queryDevcap_fate (hK : IoctlErrors K) (w : World σ) (type : Nat) (out : Mem)
    (outSz : Nat) :
    Fate w (queryDevcap K w type out outSz).ret (queryDevcap K w type out outSz).w := by
  unfold queryDevcap
  dsimp only
  split_ifs with hret
  · exact Or.inl ((mlx5uCmd_fate K hK _ _ _ _ _).failed hret)
  · exact mlx5uCmd_fate K hK _ _ _ _ _

theorem queryDevcap_ret_congr {v w : World σ} (h : v.sys = w.sys) (type : Nat) (out : Mem)
    (outSz : Nat) :
    (queryDevcap K v type out outSz).ret = (queryDevcap K w type out outSz).ret := by
  have hret (u : World σ) : (queryDevcap K u type out outSz).ret =
      (mlx5uCmd K u (mlx5Set (mlx5Set zeroMem 0 QueryHcaCapIn.opcode
        MLX5_CMD_OP_QUERY_HCA_CAP) 0 QueryHcaCapIn.opMod ((BitVec.ofNat 16 ((type <<< 1) |||
          (HCA_CAP_OPMOD_GET_CUR &&& 0x01))).setWidth 32)) QueryHcaCapIn.szBytes out
            outSz).ret := by
    unfold queryDevcap
    dsimp only
    split_ifs <;> rfl
  rw [hret, hret, mlx5uCmd_ret_congr K h]

theorem setParam_fate (hK : IoctlErrors K) (w : World σ) (params : SetDiagParams) :
    Fate w (mlx5DiagCntSetParam K w params).err (mlx5DiagCntSetParam K w params).w := by
  unfold mlx5DiagCntSetParam
  dsimp only
  split
  · exact Or.inl (show enomem % 256 ≠ 0 by decide)
  · split_ifs with hret
    · exact Or.inl ((mlx5uCmd_fate K hK _ _ _ _ _).failed hret)
    · have hquiet := (mlx5uCmd_fate K hK _ _ _ _ _).quiet (not_not.mp hret)
      exact Or.inr ⟨not_not.mp hret, hquiet⟩

theorem setParam_err_congr {v w : World σ} (h : v.sys = w.sys) (params : SetDiagParams) :
    (mlx5DiagCntSetParam K v params).err = (mlx5DiagCntSetParam K w params).err := by
  unfold mlx5DiagCntSetParam
  rw [h]
  dsimp only
  cases (K.malloc w.sys (toSize (setParamSz params.numOfCounters))).1 with
  | none => rfl
  | some block =>
      dsimp only
      rw [mlx5uCmd_ret_congr K (v := { v with sys := _ }) (w := { w with sys := _ }) rfl]
      split_ifs <;> rfl

theorem queryParam_fate (hK : IoctlErrors K) (w : World σ) (numCnt : Int) :
    Fate w (mlx5DiagCntQueryParam K w numCnt).err (mlx5DiagCntQueryParam K w numCnt).w := by
  unfold mlx5DiagCntQueryParam
  dsimp only
  split
  · exact Or.inl (show enomem % 256 ≠ 0 by decide)
  · split_ifs with hret
    · exact Or.inl ((mlx5uCmd_fate K hK _ _ _ _ _).failed hret)
    · have hquiet := (mlx5uCmd_fate K hK _ _ _ _ _).quiet (not_not.mp hret)
      refine Or.inr ⟨rfl, Quiet.trans hquiet (Quiet.lines rfl ?_)⟩
      simp only [List.forall_mem_append, List.forall_mem_singleton]
      exact ⟨⟨rfl, printed_quiet (fun _ => ⟨_, _, rfl⟩) _⟩,
        printed_quiet (fun _ => ⟨_, _, rfl⟩) _⟩

theorem queryDiagCounters_fate (hK : IoctlErrors K) (w : World σ) (printLines sampleIndex : Int)
    (binOutput : Bool) :
    Fate w (queryDiagCounters K w printLines sampleIndex binOutput).err
      (queryDiagCounters K w printLines sampleIndex binOutput).w := by
  unfold queryDiagCounters
  dsimp only
  split
  · exact Or.inl (show -enomem % 256 ≠ 0 by decide)
  · split_ifs with hret
    · exact Or.inl ((mlx5uCmd_fate K hK _ _ _ _ _).failed hret)
    · have hquiet := (mlx5uCmd_fate K hK _ _ _ _ _).quiet (not_not.mp hret)
      refine Or.inr ⟨not_not.mp hret, Quiet.trans hquiet (Quiet.lines rfl fun l hl => ?_)⟩
      obtain ⟨off, -, rfl⟩ := List.mem_map.mp hl
      unfold sampleLine
      split_ifs <;> rfl

/-! ## The frequency query -/

/-- The frequency query, sent in a state of the outside world, is answered with a status. -/
def FreqStatus (s : σ) : Prop :=
  0 < (queryDevcap K ⟨s, []⟩ MLX5_CAP_GENERAL zeroMem QueryHcaCapOut.szBytes).ret

/-- `get_dev_freq` returns what its query returns where that fails; else it was quiet. -/
theorem getDevFreq_fate (hK : IoctlErrors K) (w : World σ) :
    ((getDevFreq K w).err % 256 ≠ 0 ∧ (0 < (getDevFreq K w).err ↔ FreqStatus K w.sys)) ∨
      (Quiet w (getDevFreq K w).w ∧ ¬ FreqStatus K w.sys) := by
  have hfate := queryDevcap_fate K hK w MLX5_CAP_GENERAL zeroMem QueryHcaCapOut.szBytes
  unfold FreqStatus
  rw [queryDevcap_ret_congr K (v := ⟨w.sys, []⟩) (w := w) rfl]
  unfold getDevFreq
  dsimp only
  split_ifs with hret
  · exact Or.inl ⟨hfate.failed hret, Iff.rfl⟩
  · have hzero := not_not.mp hret
    exact Or.inr ⟨hfate.quiet hzero, by rw [hzero]; exact Int.lt_irrefl 0⟩

/-- The frequency query, and what comes after it, in `set` and in `cap`: a status is taken for a
    frequency, and lost where the rest returns 0. -/
theorem freq_told (hK : IoctlErrors K) (w : World σ) {ret : Int} {v : World σ}
    (hnext : Fate (getDevFreq K w).w ret v) :
    Told (FreqStatus K w.sys ∧ ret = 0) w
      (if (getDevFreq K w).err < 0 then .ret (getDevFreq K w).err
          ((getDevFreq K w).w.print (.errMsg "Can't get device frequency.\n" []))
        else .ret ret v) := by
  have hfreq := getDevFreq_fate K hK w
  generalize getDevFreq K w = freq at hfreq hnext ⊢
  split_ifs with herr
  · rcases hfreq with ⟨hne, hpos⟩ | ⟨hquiet, hnot⟩
    · exact Told.of_seen (fun h => absurd (hpos.mpr h.1) (by omega)) fun h => absurd h hne
    · exact Told.of_seen (fun h => hnot h.1) fun _ =>
        hquiet.trans (Quiet.print _ (not_failure (by decide) _))
  · refine ⟨fun h => h.2, fun hn h0 => ?_⟩
    have hzero : ret = 0 := by
      by_contra hne
      exact hnext.failed hne h0
    rcases hfreq with ⟨hne, hpos⟩ | ⟨hquiet, -⟩
    · have hsome : freq.err ≠ 0 := fun h => hne (by rw [h]; rfl)
      exact absurd ⟨hpos.mp (by omega), hzero⟩ hn
    · exact hquiet.trans (hnext.status h0)

/-- The state in which `mlx5_diag_cnt_query_cap` asks for the frequency, if it gets there. -/
def capFreqSys (w : World σ) : Option σ :=
  let r := queryDevcap K w MLX5_CAP_GENERAL zeroMem QueryHcaCapOut.szBytes
  if r.ret ≠ 0 then none
  else if mlx5Get r.out QueryHcaCapOut.capability CmdHcaCap.debug = 0 then none
  else
    let m := K.malloc r.w.sys (toSize (capOutSz (numCounters r.out)))
    match m.1 with
    | none => none
    | some out2 =>
        let r2 := queryDevcap K { r.w with sys := m.2 } MLX5_CAP_DEBUG out2
          (toU32 (capOutSz (numCounters r.out)))
        if r2.ret ≠ 0 then none else some r2.w.sys

/-- A loop that prints is quiet, and leaves the outside world alone. -/
theorem foldl_quiet {α : Type} (step : World σ → α → World σ)
    (hstep : ∀ w a, Quiet w (step w a) ∧ (step w a).sys = w.sys) (l : List α) (w : World σ) :
    Quiet w (l.foldl step w) ∧ (l.foldl step w).sys = w.sys := by
  induction l generalizing w with
  | nil => exact ⟨Quiet.refl w, rfl⟩
  | cons a l ih =>
      obtain ⟨hquiet, hsys⟩ := ih (step w a)
      exact ⟨(hstep w a).1.trans hquiet, hsys.trans (hstep w a).2⟩

/-- `mlx5_diag_cnt_query_cap` from its second query on. -/
theorem queryDebugCap_told (hK : IoctlErrors K) (w : World σ) (first : Response) (n : Nat)
    (out2 : Mem) {r2 : CmdResult σ}
    (hr2 : queryDevcap K w MLX5_CAP_DEBUG out2 (toU32 (capOutSz n)) = r2) :
    Told (r2.ret = 0 ∧ FreqStatus K r2.w.sys) w
      (.ret (queryDebugCap K w first n out2).err (queryDebugCap K w first n out2).w) := by
  have hfate := queryDevcap_fate K hK w MLX5_CAP_DEBUG out2 (toU32 (capOutSz n))
  unfold queryDebugCap
  dsimp only
  rw [hr2] at hfate ⊢
  by_cases hret : r2.ret ≠ 0
  · rw [if_pos hret]
    exact Told.of_seen (fun h => hret h.1) hfate.status
  · rw [if_neg hret]
    have hzero := not_not.mp hret
    generalize hw : debugCaps.foldl (fun (w : World σ) (c : String × Field) =>
      w.print (printcap r2.out QueryHcaCapOut.capability c.1 c.2)) (r2.w.print
        (.printf "diag counters:\n\tnum_of_diagnostic_counters: %d\n" [.int n])) = w'
    obtain ⟨hprint, hsys⟩ := foldl_quiet (fun (w : World σ) (c : String × Field) =>
      w.print (printcap r2.out QueryHcaCapOut.capability c.1 c.2))
        (fun w c => ⟨Quiet.print w rfl, rfl⟩) debugCaps (r2.w.print
          (.printf "diag counters:\n\tnum_of_diagnostic_counters: %d\n" [.int n]))
    rw [hw] at hprint hsys
    have hcaps : Quiet w w' := (hfate.quiet hzero).trans ((Quiet.print _ rfl).trans hprint)
    have hlines : Quiet (getDevFreq K w').w { (getDevFreq K w').w.print (.printf
        "\tdev_freq: %d kHz\n" [.int (getDevFreq K w').err]) with
          out := ((getDevFreq K w').w.print (.printf "\tdev_freq: %d kHz\n"
            [.int (getDevFreq K w').err])).out ++ capCounterLines r2.out n } :=
      (Quiet.print _ rfl).trans (Quiet.lines rfl (printed_quiet (fun _ => ⟨_, _, rfl⟩) _))
    have hfreq := freq_told K hK w' (Or.inr ⟨rfl, hlines⟩)
    refine Told.before hcaps (Told.congr ?_ (?_ : FreqStatus K w'.sys ∧ (0 : Int) = 0 ↔ _))
    · split_ifs at hfreq ⊢
      · exact hfreq
      · exact hfreq
    · rw [hsys]
      exact ⟨fun h => ⟨hzero, h.1⟩, fun h => ⟨h.2, rfl⟩⟩

/-- The frequency query of `mlx5_diag_cnt_query_cap` is answered with a status. -/
def CapMistaken (w : World σ) : Prop := ∃ s, capFreqSys K w = some s ∧ FreqStatus K s

theorem queryCap_told (hK : IoctlErrors K) (w : World σ) :
    Told (CapMistaken K w) w
      (.ret (mlx5DiagCntQueryCap K w).err (mlx5DiagCntQueryCap K w).w) := by
  have hfate := queryDevcap_fate K hK w MLX5_CAP_GENERAL zeroMem QueryHcaCapOut.szBytes
  have hnone : ¬ ∃ s, (none : Option σ) = some s ∧ FreqStatus K s := by
    rintro ⟨_, hs, -⟩
    cases hs
  unfold CapMistaken capFreqSys mlx5DiagCntQueryCap
  dsimp only
  generalize queryDevcap K w MLX5_CAP_GENERAL zeroMem QueryHcaCapOut.szBytes = r at hfate ⊢
  by_cases hret : r.ret ≠ 0
  · rw [if_pos hret, if_pos hret]
    exact Told.of_seen hnone hfate.status
  rw [if_neg hret, if_neg hret]
  by_cases hdebug : mlx5Get r.out QueryHcaCapOut.capability CmdHcaCap.debug = 0
  · rw [if_pos hdebug, if_pos hdebug]
    exact Told.of_seen hnone fun h => absurd h (show enotsup % 256 ≠ 0 by decide)
  rw [if_neg hdebug, if_neg hdebug]
  refine Told.before (hfate.quiet (not_not.mp hret)) ?_
  generalize K.malloc r.w.sys (toSize (capOutSz (numCounters r.out))) = m
  cases hm : m.1 with
  | none => exact Told.of_seen hnone fun h => absurd h (show enomem % 256 ≠ 0 by decide)
  | some out2 =>
      dsimp only
      have htold := queryDebugCap_told K hK { r.w with sys := m.2 }
        (r.response QueryHcaCapOut.szBytes
          [CmdHcaCap.debug.dword QueryHcaCapOut.capability,
            CmdHcaCap.numOfDiagnosticCounters.dword QueryHcaCapOut.capability])
        (numCounters r.out) out2 rfl
      by_cases hret2 : (queryDevcap K { r.w with sys := m.2 } MLX5_CAP_DEBUG out2
          (toU32 (capOutSz (numCounters r.out)))).ret ≠ 0
      · rw [if_pos hret2]
        exact Told.of_seen hnone (htold.2 fun hboth => hret2 hboth.1)
      · rw [if_neg hret2]
        refine ⟨fun ⟨s, hs, hfreq⟩ => ?_, fun hn => htold.2 fun hboth => hn ⟨_, rfl, hboth.2⟩⟩
        cases hs
        exact htold.1 ⟨not_not.mp hret2, hfreq⟩

/-! ## set -/

theorem parseFlags_quiet (w : World σ) (params : SetDiagParams) (ret : Nat) (flags : CStr) :
    Quiet w (parseFlags w params ret flags).w ∧ (parseFlags w params ret flags).w.sys = w.sys := by
  fun_induction parseFlags w params ret flags with
  | case1 => exact ⟨Quiet.refl w, rfl⟩
  | case8 => exact ⟨Quiet.print w rfl, rfl⟩
  | _ => assumption

/-- What `do_set` sends once it has the frequency, and the state in which it asks for that. -/
def setFreqSys (w : World σ) (argv : List CStr) : Option (SetDiagParams × σ) :=
  if AsksHelp argv ∨ argv.length < 5 then none
  else
    let flags := parseFlags w noParams 0 (arg argv 1)
    if flags.ret ≠ 0 then none
    else
      let m := K.malloc w.sys (toSize (countCounters (arg argv 4)) * 4)
      m.1.map fun block => (setArgs flags.params argv block, m.2)

/-- The frequency query of `do_set` is answered with a status, and the device takes the set. -/
def SetMistaken (w : World σ) (argv : List CStr) : Prop :=
  ∃ params s, setFreqSys K w argv = some (params, s) ∧ FreqStatus K s ∧
    (mlx5DiagCntSetParam K ⟨(getDevFreq K ⟨s, []⟩).w.sys, []⟩ params).err = 0

theorem getDevFreq_sys_congr {v w : World σ} (h : v.sys = w.sys) :
    (getDevFreq K v).w.sys = (getDevFreq K w).w.sys := by
  have hsys (u : World σ) : (getDevFreq K u).w.sys =
      (queryDevcap K u MLX5_CAP_GENERAL zeroMem QueryHcaCapOut.szBytes).w.sys := by
    unfold getDevFreq
    dsimp only
    split_ifs <;> rfl
  have hcmd (u : World σ) :
      (queryDevcap K u MLX5_CAP_GENERAL zeroMem QueryHcaCapOut.szBytes).w.sys =
        (K.rpc u.sys (load (mlx5Set (mlx5Set zeroMem 0 QueryHcaCapIn.opcode
          MLX5_CMD_OP_QUERY_HCA_CAP) 0 QueryHcaCapIn.opMod ((BitVec.ofNat 16 ((MLX5_CAP_GENERAL <<<
            1) ||| (HCA_CAP_OPMOD_GET_CUR &&& 0x01))).setWidth 32)) 0
              (toU32 QueryHcaCapIn.szBytes)) (toU32 QueryHcaCapOut.szBytes)).2.2 := by
    unfold queryDevcap
    dsimp only
    split_ifs
    · exact mlx5uCmd_sys K u _ _ _ _
    · exact mlx5uCmd_sys K u _ _ _ _
  rw [hsys, hsys, hcmd, hcmd, h]

/-- `do_set` from its `mlx5_diag_cnt_set_param` on. -/
theorem setParams_fate (hK : IoctlErrors K) (w : World σ) (params : SetDiagParams)
    (devFreq : Int) :
    Fate w (setParams K w params devFreq).1 (setParams K w params devFreq).2 ∧
      ((setParams K w params devFreq).1 = 0 ↔
        (mlx5DiagCntSetParam K ⟨w.sys, []⟩ params).err = 0) := by
  have hfate := setParam_fate K hK (w.prints (settingLines params devFreq)) params
  have hlines : ∀ l ∈ settingLines params devFreq, l.failure = false := by
    unfold settingLines
    rw [List.forall_mem_append]
    exact ⟨by simp [Line.failure], printed_quiet (fun _ => ⟨_, _, rfl⟩) _⟩
  rw [setParam_err_congr K (v := ⟨w.sys, []⟩) (w := w.prints (settingLines params devFreq)) rfl]
  unfold setParams
  dsimp only
  split_ifs with herr
  · exact ⟨Or.inl (hfate.failed herr), Iff.rfl⟩
  · refine ⟨Or.inr ⟨rfl, ?_⟩, iff_of_true rfl (not_not.mp herr)⟩
    exact (Quiet.prints w hlines).trans ((hfate.quiet (not_not.mp herr)).trans (Quiet.print _ rfl))

theorem doSet_told (hK : IoctlErrors K) (w : World σ) (argv : List CStr) :
    Told (SetMistaken K w argv) w (.ret (doSet K w argv).1 (doSet K w argv).2) := by
  obtain ⟨hflags, hsys⟩ := parseFlags_quiet w noParams 0 (arg argv 1)
  have hnone : ¬ ∃ params s, (none : Option (SetDiagParams × σ)) = some (params, s) ∧
      FreqStatus K s ∧
        (mlx5DiagCntSetParam K ⟨(getDevFreq K ⟨s, []⟩).w.sys, []⟩ params).err = 0 := by
    rintro ⟨_, _, hs, -⟩
    cases hs
  unfold SetMistaken setFreqSys doSet
  dsimp only
  rw [hsys]
  generalize parseFlags w noParams 0 (arg argv 1) = flags at hflags hsys ⊢
  by_cases hhelp : AsksHelp argv
  · rw [if_pos (Or.inl hhelp), if_pos hhelp]
    exact Told.of_seen hnone fun _ => Quiet.prints w (by simp [Line.failure])
  rw [if_neg hhelp]
  by_cases hargc : argv.length < 5
  · rw [if_pos (Or.inr hargc), if_pos hargc]
    exact Told.of_seen hnone fun h => absurd h (show einval % 256 ≠ 0 by decide)
  rw [if_neg hargc, if_neg (not_or.mpr ⟨hhelp, hargc⟩)]
  by_cases hret : flags.ret ≠ 0
  · rw [if_pos hret, if_pos hret]
    exact Told.of_seen hnone fun h => absurd h (show einval % 256 ≠ 0 by decide)
  rw [if_neg hret, if_neg hret]
  refine Told.before hflags ?_
  generalize K.malloc w.sys (toSize (countCounters (arg argv 4)) * 4) = m
  cases hm : m.1 with
  | none => exact Told.of_seen hnone fun h => absurd h (show enomem % 256 ≠ 0 by decide)
  | some block =>
      dsimp only [Option.map_some]
      have hparams := setParams_fate K hK (getDevFreq K { flags.w with sys := m.2 }).w
        (setArgs flags.params argv block) (getDevFreq K { flags.w with sys := m.2 }).err
      have hfreq := freq_told K hK { flags.w with sys := m.2 } hparams.1
      rw [getDevFreq_sys_congr K (v := { flags.w with sys := m.2 }) (w := ⟨m.2, []⟩) rfl] at hparams
      refine Told.congr ?_ ((and_congr_right fun _ => hparams.2).trans ?_ :
        FreqStatus K m.2 ∧ _ ↔ _)
      · dsimp only at hfreq ⊢
        split_ifs at hfreq ⊢
        · exact hfreq
        · exact hfreq
      · constructor
        · exact fun h => ⟨_, _, rfl, h⟩
        · rintro ⟨_, _, hs, h⟩
          cases hs
          exact h

/-! ## diagcnt -/

theorem doParam_told (hK : IoctlErrors K) (w : World σ) (argv : List CStr) :
    Told False w (.ret (doParam K w argv).1 (doParam K w argv).2) := by
  unfold doParam
  split_ifs
  · exact Told.of_quiet (Quiet.print w rfl)
  · exact Told.before (Quiet.print w rfl) (Told.of_seen not_false (queryParam_fate K hK _ _).status)
  · exact Told.before (Quiet.print w rfl) (Told.of_seen not_false (queryParam_fate K hK _ _).status)

theorem doDump_told (hK : IoctlErrors K) (w : World σ) (argv : List CStr) :
    Told False w (.ret (doDump K w argv).1 (doDump K w argv).2) := by
  have hdump (u : World σ) (printLines sampleIndex : Int) (binOutput : Bool) :
      Told False u (.ret (queryDiagCounters K u printLines sampleIndex binOutput).err
        (queryDiagCounters K u printLines sampleIndex binOutput).w) :=
    Told.of_seen not_false (queryDiagCounters_fate K hK u _ _ _).status
  unfold doDump
  dsimp only
  by_cases hhelp : AsksHelp argv
  · rw [if_pos hhelp]
    exact Told.of_quiet (Quiet.print w rfl)
  · rw [if_neg hhelp]
    refine Told.before ?_ (hdump _ _ _ _)
    split_ifs <;> first | exact Quiet.refl w | exact Quiet.print w rfl

theorem doDisable_told (hK : IoctlErrors K) (w : World σ) :
    Told False w (.ret (doDisable K w).1 (doDisable K w).2) :=
  Told.before (Quiet.print w rfl) (Told.of_seen not_false (setParam_fate K hK _ _).status)

theorem cmdLines_quiet {φ : Type} (cmds : List (Cmd φ)) :
    ∀ l ∈ cmdLines cmds, l.failure = false := printed_quiet (fun _ => ⟨_, _, rfl⟩) cmds

theorem doHelp_told (w : World σ) (helpCmd : CStr) :
    Told False w (.ret (doHelp w helpCmd).1 (doHelp w helpCmd).2) := by
  refine Told.of_quiet (Quiet.prints w ?_)
  rw [List.forall_mem_append]
  exact ⟨by simp [Line.failure], cmdLines_quiet commands⟩

/-- A frequency query of the sub-command is answered with a status, and no command failed after
    it. -/
def SubMistaken (w : World σ) (argv : List CStr) : SubCommand → Prop
  | .doCap => CapMistaken K w
  | .doSet => SetMistaken K w argv
  | _ => False

theorem runSub_told (hK : IoctlErrors K) (w : World σ) (helpCmd : CStr) (argv : List CStr)
    (c : SubCommand) :
    Told (SubMistaken K w argv c) w
      (.ret (runSub K w helpCmd argv c).1 (runSub K w helpCmd argv c).2) := by
  cases c with
  | doCap => exact queryCap_told K hK w
  | doHelp => exact doHelp_told w helpCmd
  | doSet => exact doSet_told K hK w argv
  | doDisable => exact doDisable_told K hK w
  | doParam => exact doParam_told K hK w argv
  | doDump => exact doDump_told K hK w argv

/-- The same of the sub-command that `diagcnt` selects. -/
def Mistaken (w : World σ) (argv : List CStr) : Prop :=
  cmdSelect commands (fun _ => False) (SubMistaken K w argv.tail) argv.tail

/-- **What `diagcnt` returns.** 0 where a status was taken for a frequency; else something the
    shell sees, if a command failed. -/
theorem doDiagCnt_told (hK : IoctlErrors K) {unknown : World σ → CStr → Outcome σ Int}
    (hunknown : ∀ w name, Told False w (unknown w name)) (w : World σ) (argv : List CStr) :
    Told (Mistaken K w argv) w (doDiagCnt K unknown w argv) := by
  have hselect : Told (Mistaken K w argv) w (cmdSelect commands (unknown w)
      (fun c => .ret (runSub K w (arg argv 0) argv.tail c).1
        (runSub K w (arg argv 0) argv.tail c).2) argv.tail) := by
    unfold Mistaken cmdSelect
    split
    · exact runSub_told K hK w (arg argv 0) _ .doCap
    · split
      · exact runSub_told K hK w (arg argv 0) _ _
      · exact hunknown w _
  unfold doDiagCnt
  dsimp only
  cases ho : cmdSelect commands (unknown w) (fun c => .ret (runSub K w (arg argv 0) argv.tail c).1
      (runSub K w (arg argv 0) argv.tail c).2) argv.tail with
  | ret err v =>
      rw [ho] at hselect
      dsimp only [Outcome.bind]
      split_ifs with herr
      · exact ⟨hselect.1, fun hn h0 => (hselect.2 hn h0).trans
          (Quiet.print v (not_failure (by decide) _))⟩
      · exact hselect
  | exit code v =>
      rw [ho] at hselect
      exact hselect
  | segv v =>
      rw [ho] at hselect
      exact hselect

end Mlx5ctl.DiagCnt
