/-
  diag_cnt.c: the frequency that `set` and `cap` use.

  `get_dev_freq` returns the frequency, or what its query returned where that failed, and its
  callers take what is negative for a failure. So a failed query is told from a frequency where
  its return value is negative, and is not where the device answers it with a status
  (`StatusAnswer`). A frequency of 2 ^ 31 kHz or more is negative too, and is not used.
-/
import Mlx5ctl.DiagCnt.Settings

namespace Mlx5ctl.DiagCnt

open ByteMem CInt CString Ifc

variable {σ : Type} (K : Sys σ)

/-- What the `ioctl` of the frequency query returns in a state of the outside world. -/
def freqRet (s : σ) : Int := (K.rpc s freqRequest QueryHcaCapOut.szBytes).1

/-- The response of the frequency query. -/
def freqOut (s : σ) : Mem :=
  overlay ((K.rpc s freqRequest QueryHcaCapOut.szBytes).2.1.take QueryHcaCapOut.szBytes) zeroMem

/-- The frequency of the device, where the query succeeds. -/
def deviceFreq (s : σ) : Option Nat :=
  if freqRet K s = 0 ∧ mlx5Get (freqOut K s) 0 MboxOut.status = 0 then
    some (mlx5Get (freqOut K s) QueryHcaCapOut.capability CmdHcaCap.deviceFrequencyKhz).toNat
  else none

/-- The query fails with a positive value: with the status of a response, or from the `ioctl`. -/
def StatusAnswer (s : σ) : Prop :=
  0 < freqRet K s ∨ (freqRet K s = 0 ∧ mlx5Get (freqOut K s) 0 MboxOut.status ≠ 0)

theorem queryFreq_ret (w : World σ) :
    (queryDevcap K w MLX5_CAP_GENERAL zeroMem QueryHcaCapOut.szBytes).ret =
      cmdRet (freqRet K w.sys) (freqOut K w.sys) := by
  unfold queryDevcap
  dsimp only
  split_ifs <;> exact mlx5uCmd_ret K w _ _ _ _

theorem queryFreq_out (w : World σ) :
    (queryDevcap K w MLX5_CAP_GENERAL zeroMem QueryHcaCapOut.szBytes).out = freqOut K w.sys := by
  unfold queryDevcap
  dsimp only
  split_ifs <;> exact mlx5uCmd_out K w _ _ _ _

theorem getDevFreq_err (w : World σ) :
    (getDevFreq K w).err =
      if cmdRet (freqRet K w.sys) (freqOut K w.sys) ≠ 0 then
        cmdRet (freqRet K w.sys) (freqOut K w.sys)
      else toInt (mlx5Get (freqOut K w.sys) QueryHcaCapOut.capability
        CmdHcaCap.deviceFrequencyKhz).toNat := by
  rw [← queryFreq_ret, ← queryFreq_out]
  unfold getDevFreq
  dsimp only
  split_ifs <;> rfl

/-- That is what the value of the query says, which the exit status depends on. -/
theorem statusAnswer_iff (s : σ) : StatusAnswer K s ↔ FreqStatus K s := by
  unfold StatusAnswer FreqStatus
  rw [queryFreq_ret, cmdRet_pos_iff]

/-- `get_dev_freq` returns the frequency of the device as an `int`, or a failure that is positive
    where the query was answered with a status. -/
theorem getDevFreq_answer (w : World σ) :
    (∃ f, deviceFreq K w.sys = some f ∧ (getDevFreq K w).err = toInt f ∧ f < 4294967296 ∧
      ¬ StatusAnswer K w.sys) ∨
    (deviceFreq K w.sys = none ∧ (getDevFreq K w).err ≠ 0 ∧
      (0 < (getDevFreq K w).err ↔ StatusAnswer K w.sys)) := by
  rw [getDevFreq_err, statusAnswer_iff]
  unfold FreqStatus deviceFreq
  rw [queryFreq_ret]
  dsimp only
  have hzero := cmdRet_eq_zero_iff (freqRet K w.sys) (freqOut K w.sys)
  by_cases hok : freqRet K w.sys = 0 ∧ mlx5Get (freqOut K w.sys) 0 MboxOut.status = 0
  · left
    rw [if_pos hok, if_neg (not_not.mpr (hzero.mpr hok)), hzero.mpr hok]
    exact ⟨_, rfl, rfl, (mlx5Get _ _ _).isLt, Int.lt_irrefl 0⟩
  · right
    have hne := mt hzero.mp hok
    rw [if_neg hok, if_pos hne]
    exact ⟨rfl, hne, Iff.rfl⟩

/-- Without such an answer, what is not negative is the frequency of the device. -/
theorem getDevFreq_exact {w : World σ} (h : ¬ StatusAnswer K w.sys)
    (hpos : 0 ≤ (getDevFreq K w).err) :
    ∃ f : Nat, deviceFreq K w.sys = some f ∧ (getDevFreq K w).err = f := by
  rcases getDevFreq_answer K w with ⟨f, hf, herr, hlt, -⟩ | ⟨-, hne, hstatus⟩
  · refine ⟨f, hf, ?_⟩
    unfold toInt at herr
    omega
  · exact absurd (hstatus.mp (by omega)) h

/-- With such an answer, there is no frequency of the device, and what is returned is taken for
    one. -/
theorem getDevFreq_mistaken {w : World σ} (h : StatusAnswer K w.sys) :
    deviceFreq K w.sys = none ∧ 0 ≤ (getDevFreq K w).err := by
  rcases getDevFreq_answer K w with ⟨_, -, -, -, hnot⟩ | ⟨hnone, -, hstatus⟩
  · exact absurd h hnot
  · exact ⟨hnone, Int.le_of_lt (hstatus.mpr h)⟩

/-! ## set -/

/-- The formats of the frequency, which is the last of their arguments. -/
def freqFmts : List String := ["\tsample_period: %.1f μs\n", "\tdev_freq: %d kHz\n"]

theorem freqFmts_echo {fmt : String} (h : fmt ∈ freqFmts) : fmt ∈ echoFmts := by
  simp only [freqFmts, List.mem_cons, List.not_mem_nil, or_false] at h
  rcases h with rfl | rfl <;> decide

theorem echo_freq {fmt : String} (h : fmt ∈ freqFmts) (params : SetDiagParams) (devFreq : Int) :
    ∃ args, argsOf fmt (settingLines params devFreq) = [args] ∧
      args.getLast? = some (.int devFreq) := by
  simp only [freqFmts, List.mem_cons, List.not_mem_nil, or_false] at h
  unfold settingLines
  rcases h with rfl | rfl <;> simp [argsOf_map]

/-- Where `do_set` asks for the frequency. -/
theorem setFreqSys_iff {w : World σ} {argv : List CStr} {params : SetDiagParams} {s : σ} :
    setFreqSys K w argv = some (params, s) ↔
      FlagsTaken argv ∧ 5 ≤ argv.length ∧ ∃ block,
        K.malloc w.sys (toSize (countCounters (arg argv 4)) * 4) = (some block, s) ∧
          params = sentParams argv block := by
  unfold setFreqSys
  dsimp only
  by_cases htaken : FlagsTaken argv ∧ 5 ≤ argv.length
  · obtain ⟨flags, argc⟩ := htaken
    have hdoc := (flagsTaken_iff argv).mp flags
    rw [if_neg (not_or.mpr ⟨flags.1, Nat.not_lt.mpr argc⟩),
      parseFlags_documented w noParams 0 hdoc.1, if_neg hdoc.2]
    dsimp only
    rw [if_neg (not_not.mpr Int.ofNat_zero)]
    generalize K.malloc w.sys (toSize (countCounters (arg argv 4)) * 4) = m
    obtain ⟨ids, s'⟩ := m
    cases ids with
    | none => simp
    | some block =>
        simp only [Option.map_some, Option.some.injEq, Prod.mk.injEq, flags, argc, true_and]
        constructor
        · rintro ⟨rfl, rfl⟩
          exact ⟨block, ⟨rfl, rfl⟩, rfl⟩
        · rintro ⟨_, ⟨rfl, rfl⟩, rfl⟩
          exact ⟨rfl, rfl⟩
  · constructor
    · intro h
      by_cases hargs : AsksHelp argv ∨ argv.length < 5
      · rw [if_pos hargs] at h
        cases h
      · rw [if_neg hargs] at h
        obtain ⟨hhelp, hargc⟩ := not_or.mp hargs
        rw [if_pos (parseFlags_refused w fun flags => htaken ⟨flags, Nat.not_lt.mp hargc⟩)] at h
        cases h
    · rintro ⟨flags, argc, -⟩
      exact absurd ⟨flags, argc⟩ htaken

/-- `do_set` never takes a failed query for a frequency: what it prints as one is the device's,
    and where the query fails it returns an error and sends nothing after it. -/
structure SetFreqExact (w : World (σ × List Rpc)) (argv : List CStr) : Prop where
  printed : ∀ fmt ∈ freqFmts, ∀ l, Prints fmt l w (doSet K.recorded w argv).2 → ∀ args ∈ l,
    ∃ params s f, setFreqSys K.recorded w argv = some (params, s) ∧
      deviceFreq K.recorded s = some f ∧ args.getLast? = some (.int f)
  failed : ∀ params s, setFreqSys K.recorded w argv = some (params, s) →
    deviceFreq K.recorded s = none →
      (doSet K.recorded w argv).1 ≠ 0 ∧
        requests (doSet K.recorded w argv).2 = requests w ++ [freqRequest]

/-- With a status for an answer, something else is printed. -/
theorem SetFreqExact.no_status {w : World (σ × List Rpc)} {argv : List CStr}
    (h : SetFreqExact K w argv) {params : SetDiagParams} {s : σ × List Rpc}
    (hs : setFreqSys K.recorded w argv = some (params, s)) : ¬ StatusAnswer K.recorded s := by
  intro hstatus
  obtain ⟨flags, argc, block, hm, -⟩ := (setFreqSys_iff K.recorded).mp hs
  obtain ⟨hnone, hpos⟩ := getDevFreq_mistaken K.recorded (w := { w with sys := s }) hstatus
  have hfmt : "\tdev_freq: %d kHz\n" ∈ freqFmts := by decide
  obtain ⟨args, hecho, -⟩ := echo_freq hfmt (sentParams argv block)
    (getDevFreq K.recorded { w with sys := s }).err
  have hprints : Prints "\tdev_freq: %d kHz\n" [args] w (doSet K.recorded w argv).2 := by
    rw [doSet_taken K.recorded flags argc hm, ← hecho]
    unfold setFromIds
    dsimp only
    rw [if_neg (Int.not_lt.mpr hpos)]
    exact (getDevFreq_prints K.recorded _ { w with sys := s }).before
      (setParams_prints K.recorded (freqFmts_echo hfmt) _ _ _)
  obtain ⟨_, _, f, hs', hf, -⟩ := h.printed _ hfmt _ hprints _ List.mem_cons_self
  rw [hs] at hs'
  cases hs'
  rw [hnone] at hf
  cases hf

theorem setFreqExact_of {w : World (σ × List Rpc)} {argv : List CStr}
    (h : ∀ params s, setFreqSys K.recorded w argv = some (params, s) →
      ¬ StatusAnswer K.recorded s) : SetFreqExact K w argv := by
  constructor
  · intro fmt hfmt l hl args hargs
    rcases doSet_prints K.recorded w argv (freqFmts_echo hfmt) with
      hnone | ⟨block, s, flags, argc, hm, hpos, hecho⟩
    · rw [hl.unique hnone] at hargs
      cases hargs
    · have hs := (setFreqSys_iff K.recorded).mpr ⟨flags, argc, block, hm, rfl⟩
      obtain ⟨f, hf, herr⟩ := getDevFreq_exact K.recorded (w := { w with sys := s })
        (h _ _ hs) hpos
      obtain ⟨args', hargs', hlast⟩ := echo_freq hfmt (sentParams argv block)
        (getDevFreq K.recorded { w with sys := s }).err
      rw [hl.unique hecho, hargs'] at hargs
      rw [List.mem_singleton.mp hargs, hlast, herr]
      exact ⟨_, s, f, hs, hf, rfl⟩
  · intro params s hs hnone
    obtain ⟨flags, argc, block, hm, -⟩ := (setFreqSys_iff K.recorded).mp hs
    have hneg : (getDevFreq K.recorded { w with sys := s }).err < 0 := by
      by_contra hpos
      obtain ⟨f, hf, -⟩ := getDevFreq_exact K.recorded (w := { w with sys := s }) (h _ _ hs)
        (Int.not_lt.mp hpos)
      rw [hnone] at hf
      cases hf
    rw [doSet_taken K.recorded flags argc hm]
    unfold setFromIds
    dsimp only
    rw [if_pos hneg]
    refine ⟨Int.ne_of_lt hneg, ?_⟩
    rw [← (recorded_malloc K hm).2]
    exact getDevFreq_requests K _

/-! ## cap -/

/-- The format of the frequency in `cap`. -/
def devFreqFmt : String := "\tdev_freq: %d kHz\n"

/-- `mlx5_diag_cnt_query_cap` prints the frequency of the device, or none. -/
def CapFreqExact (w : World σ) : Prop :=
  ∀ l, Prints devFreqFmt l w (mlx5DiagCntQueryCap K w).w → ∀ args ∈ l,
    ∃ s f, capFreqSys K w = some s ∧ deviceFreq K s = some f ∧ args = [.int f]

/-- What `mlx5_diag_cnt_query_cap` prints as the frequency. -/
def capPrinted (s : σ) : List (List Arg) :=
  if (getDevFreq K ⟨s, []⟩).err < 0 then [] else [[.int (getDevFreq K ⟨s, []⟩).err]]

theorem devFreqFmt_echo : devFreqFmt ∈ echoFmts := by decide

theorem foldl_prints {α : Type} (f : α → Line) (l : List α) (w : World σ) :
    l.foldl (fun w a => w.print (f a)) w = w.prints (l.map f) := by
  induction l generalizing w with
  | nil => exact congrArg (World.mk w.sys) (List.append_nil w.out).symm
  | cons a l ih =>
      rw [List.foldl_cons, ih]
      exact congrArg (World.mk w.sys) (List.append_assoc w.out [f a] (l.map f))

/-- The frequency and the counters of `mlx5_diag_cnt_query_cap`. -/
theorem capFreq_prints (w : World σ) (ls : List Line) (hls : ∀ l ∈ ls, isEcho l = false) :
    Prints devFreqFmt (capPrinted K w.sys) w
      (if (getDevFreq K w).err < 0 then
          (getDevFreq K w).w.print (.errMsg "Can't get device frequency.\n" [])
        else ((getDevFreq K w).w.print (.printf devFreqFmt [.int (getDevFreq K w).err])).prints
          ls) := by
  have herr : (getDevFreq K ⟨w.sys, []⟩).err = (getDevFreq K w).err := by
    rw [getDevFreq_err, getDevFreq_err]
  have hquery := getDevFreq_prints K devFreqFmt w
  unfold capPrinted
  rw [herr]
  split_ifs
  · exact hquery.after (.errMsg _ _ _)
  · refine hquery.before (Prints.after ⟨[_], rfl, ?_⟩ (.unechoed devFreqFmt_echo _ ls hls))
    simp

/-- `mlx5_diag_cnt_query_cap` from its second query on. -/
theorem queryDebugCap_prints (w : World σ) (first : Response) (n : Nat) (out2 : Mem) :
    Prints devFreqFmt
      (if (queryDevcap K w MLX5_CAP_DEBUG out2 (toU32 (capOutSz n))).ret ≠ 0 then []
        else capPrinted K (queryDevcap K w MLX5_CAP_DEBUG out2 (toU32 (capOutSz n))).w.sys) w
      (queryDebugCap K w first n out2).w := by
  have hquery := queryDevcap_prints K devFreqFmt w MLX5_CAP_DEBUG out2 (toU32 (capOutSz n))
  unfold queryDebugCap
  dsimp only
  generalize queryDevcap K w MLX5_CAP_DEBUG out2 (toU32 (capOutSz n)) = r at hquery ⊢
  by_cases hret : r.ret ≠ 0
  · rw [if_pos hret, if_pos hret]
    exact hquery
  · rw [if_neg hret, if_neg hret, foldl_prints fun c : String × Field =>
      printcap r.out QueryHcaCapOut.capability c.1 c.2]
    have hcaps : Prints devFreqFmt [] w ((r.w.print (.printf
        "diag counters:\n\tnum_of_diagnostic_counters: %d\n" [.int n])).prints
          (debugCaps.map fun c => printcap r.out QueryHcaCapOut.capability c.1 c.2)) := by
      refine (hquery.before (.unechoed devFreqFmt_echo _ [_] ?_)).before
        (.unechoed devFreqFmt_echo _ _ (List.forall_mem_map.mpr fun c _ => ?_))
      · simp [isEcho, echoFmts]
      · simp [isEcho, echoFmts, printcap]
    have hfreq := capFreq_prints K ((r.w.print (.printf
        "diag counters:\n\tnum_of_diagnostic_counters: %d\n" [.int n])).prints
          (debugCaps.map fun c => printcap r.out QueryHcaCapOut.capability c.1 c.2))
      (capCounterLines r.out n)
      (List.forall_mem_map.mpr fun i _ => by simp [isEcho, echoFmts])
    have hprinted := hcaps.before hfreq
    split_ifs at hprinted ⊢
    · exact hprinted
    · exact hprinted

theorem queryCap_prints (w : World σ) :
    Prints devFreqFmt ((capFreqSys K w).elim [] (capPrinted K)) w (mlx5DiagCntQueryCap K w).w := by
  have hquery := queryDevcap_prints K devFreqFmt w MLX5_CAP_GENERAL zeroMem
    QueryHcaCapOut.szBytes
  unfold capFreqSys mlx5DiagCntQueryCap
  dsimp only
  generalize queryDevcap K w MLX5_CAP_GENERAL zeroMem QueryHcaCapOut.szBytes = r at hquery ⊢
  by_cases hret : r.ret ≠ 0
  · rw [if_pos hret, if_pos hret]
    exact hquery
  rw [if_neg hret, if_neg hret]
  by_cases hdebug : mlx5Get r.out QueryHcaCapOut.capability CmdHcaCap.debug = 0
  · rw [if_pos hdebug, if_pos hdebug]
    exact hquery.after (.errMsg _ _ _)
  rw [if_neg hdebug, if_neg hdebug]
  generalize K.malloc r.w.sys (toSize (capOutSz (numCounters r.out))) = m
  have hmalloc : Prints devFreqFmt [] w { r.w with sys := m.2 } := hquery
  cases hm : m.1 with
  | none => exact hmalloc
  | some out2 =>
      have hdebugCap := hmalloc.before (queryDebugCap_prints K { r.w with sys := m.2 }
        (r.response QueryHcaCapOut.szBytes
          [CmdHcaCap.debug.dword QueryHcaCapOut.capability,
            CmdHcaCap.numOfDiagnosticCounters.dword QueryHcaCapOut.capability])
        (numCounters r.out) out2)
      dsimp only
      split_ifs at hdebugCap ⊢ with hret2
      · exact hdebugCap
      · exact hdebugCap

/-- The frequency that `cap` prints is the device's, unless its query is answered with a
    status. -/
theorem capFreqExact_iff (w : World σ) :
    CapFreqExact K w ↔ ∀ s, capFreqSys K w = some s → ¬ StatusAnswer K s := by
  have hprints := queryCap_prints K w
  constructor
  · intro h s hs hstatus
    obtain ⟨hnone, hpos⟩ := getDevFreq_mistaken K (w := ⟨s, []⟩) hstatus
    rw [hs] at hprints
    have hprinted : capPrinted K s = [[.int (getDevFreq K ⟨s, []⟩).err]] :=
      if_neg (Int.not_lt.mpr hpos)
    obtain ⟨s', f, hs', hf, -⟩ := h _ hprints [.int (getDevFreq K ⟨s, []⟩).err] (by
      rw [Option.elim_some, hprinted]
      exact List.mem_cons_self)
    rw [hs] at hs'
    cases hs'
    rw [hnone] at hf
    cases hf
  · intro h l hl args hargs
    rw [hl.unique hprints] at hargs
    cases hs : capFreqSys K w with
    | none =>
        rw [hs] at hargs
        cases hargs
    | some s =>
        rw [hs, Option.elim_some] at hargs
        unfold capPrinted at hargs
        split_ifs at hargs with hneg
        · cases hargs
        · obtain ⟨f, hf, herr⟩ := getDevFreq_exact K (w := ⟨s, []⟩) (h s hs) (Int.not_lt.mp hneg)
          rw [herr] at hargs
          exact ⟨s, f, rfl, hf, List.mem_singleton.mp hargs⟩

/-- **The frequency.** A failed query is never taken for a frequency, by `set` and by `cap`,
    exactly in the runs where the query is not answered with a status. -/
theorem frequency_exact_iff :
    (∀ (w : World (σ × List Rpc)) (argv : List CStr), SetFreqExact K w argv ↔
      ∀ params s, setFreqSys K.recorded w argv = some (params, s) →
        ¬ StatusAnswer K.recorded s) ∧
    ∀ w : World σ, CapFreqExact K w ↔ ∀ s, capFreqSys K w = some s → ¬ StatusAnswer K s :=
  ⟨fun _ _ => ⟨fun h _ _ hs => h.no_status K hs, fun h => setFreqExact_of K h⟩,
    capFreqExact_iff K⟩

/-- `set -S 7 10 1` on a device that answers every command with status 4: 4 kHz is printed. -/
theorem status_for_frequency : ¬ SetFreqExact (scripted fun _ => (0, [4])) ⟨(0, []), []⟩
    ["set".toList, "-S".toList, "7".toList, "10".toList, "1".toList] := by
  intro h
  have hm : ((scripted fun _ => (0, [4])).recorded.malloc (0, []) (toSize 1 * 4)) =
      (some zeroMem, (0, [])) :=
    congrArg (fun m => (m.1, m.2, [])) (scripted_malloc _ 0 (by decide))
  have hs := (setFreqSys_iff (scripted fun _ => (0, [4])).recorded (w := ⟨(0, []), []⟩)).mpr
    ⟨(by decide : FlagsTaken
      ["set".toList, "-S".toList, "7".toList, "10".toList, "1".toList]), by decide, zeroMem,
      hm, rfl⟩
  exact h.no_status _ hs (Or.inr ⟨rfl, by decide⟩)

end Mlx5ctl.DiagCnt
