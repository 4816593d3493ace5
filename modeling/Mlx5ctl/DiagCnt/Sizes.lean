/-
  The response buffers of the diagnostic-counter queries.

  `Sized n r` says that a response buffer has `n` bytes, that the driver is told so, and that
  everything read of it is inside. `mlx5_diag_cnt_query_cap` keeps its size in an `int` and is
  always right; the other two keep theirs in a `u16`, and are right up to where it wraps. The
  converse directions run the queries on a device that answers every command with zeroes.
-/
import Mlx5ctl.DiagCnt.Query

namespace Mlx5ctl.DiagCnt

open ByteMem CInt Ifc

variable {σ : Type} (K : Sys σ)

/-- Everything read of the buffer is inside. -/
def Inside (r : Response) : Prop := ∀ a ∈ r.reads, a.Within r.out r.cap

/-- The buffer has the bytes asked for, and is read inside only. -/
structure Sized (n : Int) (r : Response) : Prop where
  cap : (r.cap : Int) = n
  outLen : (r.outLen : Int) = n
  reads : Inside r

/-! ## Reads -/

theorem dword_within_iff {p : Mem} {f : Field} {base n : Nat} :
    (f.dword base).Within p n ↔ base + 4 * f.dwOff + 4 ≤ n :=
  (dword_within p n).trans Int.ofNat_le

/-- `mlx5u_cmd` reads the status and the syndrome only. -/
theorem mlx5uCmd_reads (w : World σ) (inb : Mem) (inlen : Nat) (out : Mem) (outlen : Nat)
    {p : Mem} {n : Nat} (hn : 8 ≤ n) :
    ∀ a ∈ (mlx5uCmd K w inb inlen out outlen).reads, a.Within p n := by
  have hstatus : (MboxOut.status.dword 0).Within p n := dword_within_iff.mpr (by
    show 0 + 4 * 0 + 4 ≤ n
    omega)
  have hsyndrome : (MboxOut.syndrome.dword 0).Within p n := dword_within_iff.mpr (by
    show 0 + 4 * 1 + 4 ≤ n
    omega)
  unfold mlx5uCmd
  dsimp only
  split_ifs
  · exact fun a ha => absurd ha List.not_mem_nil
  · exact List.forall_mem_cons.mpr ⟨hstatus, List.forall_mem_singleton.mpr hsyndrome⟩
  · exact List.forall_mem_singleton.mpr hstatus

theorem queryDevcap_reads (w : World σ) (type : Nat) (out : Mem) (outSz : Nat)
    {p : Mem} {n : Nat} (hn : 8 ≤ n) :
    ∀ a ∈ (queryDevcap K w type out outSz).reads, a.Within p n := by
  unfold queryDevcap
  dsimp only
  split_ifs
  · exact mlx5uCmd_reads K w _ _ out outSz hn
  · exact mlx5uCmd_reads K w _ _ out outSz hn

/-- A response buffer of a command, from the reads of its caller. -/
theorem response_sized {r : CmdResult σ} {n : Nat} {reads : List Access} (hlt : n < 4294967296)
    (hcmd : ∀ a ∈ r.reads, a.Within r.out n) (hreads : ∀ a ∈ reads, a.Within r.out n) :
    Sized n (r.response n reads) where
  cap := rfl
  outLen := by
    show ((toU32 n : Nat) : Int) = n
    unfold toU32
    omega
  reads := List.forall_mem_append.mpr ⟨hcmd, hreads⟩

/-! ## Capabilities -/

theorem getDevFreq_sized (w : World σ) : ∀ r ∈ (getDevFreq K w).responses, Sized 4112 r := by
  have hcmd : ∀ p : Mem, ∀ a ∈ (queryDevcap K w MLX5_CAP_GENERAL zeroMem
      QueryHcaCapOut.szBytes).reads, a.Within p (4112 : Nat) := fun p =>
    queryDevcap_reads K w _ _ _ (by decide)
  unfold getDevFreq
  dsimp only
  split_ifs
  · refine List.forall_mem_singleton.mpr (response_sized (by decide) (hcmd _) ?_)
    exact fun a ha => absurd ha List.not_mem_nil
  · refine List.forall_mem_singleton.mpr (response_sized (by decide) (hcmd _) ?_)
    exact List.forall_mem_singleton.mpr (dword_within_iff.mpr (by decide))

theorem capCounterReads_within {p : Mem} {n : Nat} :
    ∀ a ∈ capCounterReads n, a.Within p (4112 + n * 4 : Nat) := by
  intro a ha
  obtain ⟨i, hi, ha⟩ := List.mem_flatMap.mp ha
  have hlt := List.mem_range.mp hi
  have hin : diagnosticCounter i + 4 * 0 + 4 ≤ 4112 + n * 4 := by
    unfold diagnosticCounter QueryHcaCapOut.capability DebugCapX.diagnosticCounter
      DiagnosticCntrLayout.szBytes
    omega
  rcases List.mem_cons.mp ha with rfl | ha
  · exact dword_within_iff.mpr hin
  · rw [List.mem_singleton.mp ha]
    exact dword_within_iff.mpr hin

theorem debugCaps_within {p : Mem} {n : Nat} (hn : 24 ≤ n) :
    ∀ a ∈ debugCaps.map (fun nf => nf.2.dword QueryHcaCapOut.capability), a.Within p n := by
  have hoff : ∀ nf ∈ debugCaps, QueryHcaCapOut.capability + 4 * nf.2.dwOff + 4 ≤ 24 := by decide
  intro a ha
  obtain ⟨nf, hnf, rfl⟩ := List.mem_map.mp ha
  exact dword_within_iff.mpr (Nat.le_trans (hoff nf hnf) hn)

/-- The number of counters the device reports. -/
def reportedCounters (out : Mem) : Nat :=
  (mlx5Get out QueryHcaCapOut.capability CmdHcaCap.numOfDiagnosticCounters).toNat

theorem reportedCounters_lt (out : Mem) : reportedCounters out < 65536 :=
  mlx5Get_lt out QueryHcaCapOut.capability CmdHcaCap.numOfDiagnosticCounters

theorem numCounters_eq (out : Mem) : numCounters out = reportedCounters out := by
  have := reportedCounters_lt out
  unfold reportedCounters at *
  unfold numCounters toU16
  omega

/-- The first response and the one that asks for the frequency have the size of the struct, the
    second that of the counters reported in the first. -/
def CapSized : List Response → Prop
  | [] => True
  | first :: rest => Sized 4112 first ∧
      match rest with
      | [] => True
      | second :: rest =>
          Sized (4112 + reportedCounters first.out * 4) second ∧ ∀ r ∈ rest, Sized 4112 r

/-- A `u16` of counters leaves the size far inside an `int`. -/
theorem capOutSz_eq {n : Nat} (h : n < 65536) : capOutSz n = (4112 + n * 4 : Nat) := by
  unfold capOutSz QueryHcaCapOut.szBytes DiagnosticCntrLayout.szBytes
  exact toInt_of_fits (by omega) (by omega)

theorem queryDebugCap_sized (w : World σ) {first : Response} (out2 : Mem)
    (hfirst : Sized 4112 first) :
    CapSized (queryDebugCap K w first (reportedCounters first.out) out2).responses := by
  have hlt := reportedCounters_lt first.out
  generalize hn : reportedCounters first.out = n at hlt
  have hsize : toSize (capOutSz n) = 4112 + n * 4 := by
    rw [capOutSz_eq hlt]
    unfold toSize
    omega
  have hcmd : ∀ p : Mem, ∀ a ∈ (queryDevcap K w MLX5_CAP_DEBUG out2 (toU32 (capOutSz n))).reads,
      a.Within p (4112 + n * 4 : Nat) := fun p => queryDevcap_reads K w _ _ _ (by omega)
  have hsecond : ∀ reads : List Access, (∀ a ∈ reads, a.Within
      (queryDevcap K w MLX5_CAP_DEBUG out2 (toU32 (capOutSz n))).out (4112 + n * 4 : Nat)) →
      Sized (4112 + reportedCounters first.out * 4)
        ((queryDevcap K w MLX5_CAP_DEBUG out2 (toU32 (capOutSz n))).response
          (toSize (capOutSz n)) reads) := by
    intro reads hreads
    rw [hsize, hn]
    exact_mod_cast response_sized (by omega) (hcmd _) hreads
  unfold queryDebugCap
  dsimp only
  split_ifs
  · exact ⟨hfirst, hsecond [] fun a ha => absurd ha List.not_mem_nil, fun r hr =>
      absurd hr List.not_mem_nil⟩
  · exact ⟨hfirst, hsecond _ (debugCaps_within (by omega)), getDevFreq_sized K _⟩
  · exact ⟨hfirst, hsecond _ (List.forall_mem_append.mpr
      ⟨debugCaps_within (by omega), capCounterReads_within⟩), getDevFreq_sized K _⟩

theorem queryCap_sized (w : World σ) : CapSized (mlx5DiagCntQueryCap K w).responses := by
  have hcmd : ∀ p : Mem, ∀ a ∈ (queryDevcap K w MLX5_CAP_GENERAL zeroMem
      QueryHcaCapOut.szBytes).reads, a.Within p (4112 : Nat) := fun p =>
    queryDevcap_reads K w _ _ _ (by decide)
  have hdebug : ∀ p : Mem,
      (CmdHcaCap.debug.dword QueryHcaCapOut.capability).Within p (4112 : Nat) :=
    fun p => dword_within_iff.mpr (by decide)
  have hnum : ∀ p : Mem,
      (CmdHcaCap.numOfDiagnosticCounters.dword QueryHcaCapOut.capability).Within p (4112 : Nat) :=
    fun p => dword_within_iff.mpr (by decide)
  have hfirst : ∀ reads : List Access, (∀ a ∈ reads, a.Within
      (queryDevcap K w MLX5_CAP_GENERAL zeroMem QueryHcaCapOut.szBytes).out (4112 : Nat)) →
      Sized 4112 ((queryDevcap K w MLX5_CAP_GENERAL zeroMem QueryHcaCapOut.szBytes).response
        QueryHcaCapOut.szBytes reads) := fun reads hreads =>
    response_sized (by decide) (hcmd _) hreads
  have hboth := hfirst _ (List.forall_mem_cons.mpr
    ⟨hdebug _, List.forall_mem_singleton.mpr (hnum _)⟩)
  unfold mlx5DiagCntQueryCap
  dsimp only
  split_ifs
  · exact ⟨hfirst [] fun a ha => absurd ha List.not_mem_nil, trivial⟩
  · exact ⟨hfirst _ (List.forall_mem_singleton.mpr (hdebug _)), trivial⟩
  · split
    · exact ⟨hboth, trivial⟩
    · rw [numCounters_eq]
      exact queryDebugCap_sized K _ _ hboth

/-! ## Parameters -/

/-- The parameters are printed from the first 16 bytes. -/
theorem paramCaps_within {p : Mem} {n : Nat} (hn : 16 ≤ n) :
    ∀ a ∈ paramCaps.map (fun nf =>
      nf.2.dword QueryDiagnosticParamsOut.diagnosticParamsContext), a.Within p n := by
  have hoff : ∀ nf ∈ paramCaps,
      QueryDiagnosticParamsOut.diagnosticParamsContext + 4 * nf.2.dwOff + 4 ≤ 16 := by decide
  intro a ha
  obtain ⟨nf, hnf, rfl⟩ := List.mem_map.mp ha
  exact dword_within_iff.mpr (Nat.le_trans (hoff nf hnf) hn)

theorem paramOutSz_eq (n : Int) : (paramOutSz n : Int) = (32 + n * 4) % 65536 := by
  unfold paramOutSz QueryDiagnosticParamsOut.szBytes CounterId.szBytes toU16
  omega

/-- With room for the parameters and for the identifiers, every response is read inside. -/
theorem queryParam_sized {n : Int} (hctx : 16 ≤ paramOutSz n)
    (hroom : 0 < n → 32 + n * 4 ≤ paramOutSz n) (w : World σ) :
    ∀ r ∈ (mlx5DiagCntQueryParam K w n).responses, Sized (paramOutSz n) r := by
  have hlt : (paramOutSz n : Int) < 65536 := by
    rw [paramOutSz_eq]
    omega
  generalize hsz : paramOutSz n = outSz at *
  have hids : ∀ p : Mem, ∀ a ∈ (List.range n.toNat).map (fun i =>
      CounterId.counterId.dword (paramCounterId i)), a.Within p outSz := by
    intro p a ha
    obtain ⟨i, hi, rfl⟩ := List.mem_map.mp ha
    have hlt := List.mem_range.mp hi
    refine dword_within_iff.mpr ?_
    show paramCounterId i + 4 * 0 + 4 ≤ outSz
    unfold paramCounterId QueryDiagnosticParamsOut.diagnosticParamsContext
      DiagnosticParamsContext.counterId CounterId.szBytes
    omega
  unfold mlx5DiagCntQueryParam
  dsimp only
  rw [hsz]
  split
  · exact fun r hr => absurd hr List.not_mem_nil
  · split_ifs
    · exact List.forall_mem_singleton.mpr (response_sized (by omega)
        (mlx5uCmd_reads K _ _ _ _ _ (by omega)) fun a ha => absurd ha List.not_mem_nil)
    · exact List.forall_mem_singleton.mpr (response_sized (by omega)
        (mlx5uCmd_reads K _ _ _ _ _ (by omega)) (List.forall_mem_append.mpr
          ⟨paramCaps_within (by omega), hids _⟩))

/-! ## Samples -/

theorem sampleReads_within {p : Mem} {off n : Nat} (h : off + 16 ≤ n) :
    ∀ a ∈ sampleReads off, a.Within p n := by
  unfold sampleReads
  simp only [List.forall_mem_cons, List.not_mem_nil, IsEmpty.forall_iff, implies_true, and_true,
    dword_within_iff, show DiagnosticCntrStruct.counterId.dwOff = 0 from rfl,
    show DiagnosticCntrStruct.sampleId.dwOff = 0 from rfl,
    show DiagnosticCntrStruct.timeStamp310.dwOff = 1 from rfl,
    show DiagnosticCntrStruct.counterValueH.dwOff = 2 from rfl,
    show DiagnosticCntrStruct.counterValueL.dwOff = 3 from rfl]
  omega

theorem samplesOutSz_eq (n : Int) : (samplesOutSz n : Int) = (16 + n * 16) % 65536 := by
  unfold samplesOutSz QueryDiagnosticCntrsOut.szBytes DiagnosticCntrStruct.szBytes toU16
  omega

/-- With room for the header and for the samples, every response is read inside. -/
theorem queryDiagCounters_sized {n : Int} (hroom : 16 + n.toNat * 16 ≤ samplesOutSz n)
    (w : World σ) (sampleIndex : Int) (binOutput : Bool) :
    ∀ r ∈ (queryDiagCounters K w n sampleIndex binOutput).responses,
      Sized (samplesOutSz n) r := by
  have hlt : (samplesOutSz n : Int) < 65536 := by
    rw [samplesOutSz_eq]
    omega
  generalize hsz : samplesOutSz n = outSz at *
  have hsamples : ∀ p : Mem, ∀ a ∈ ((List.range n.toNat).map diagCounter).flatMap sampleReads,
      a.Within p outSz := by
    intro p a ha
    obtain ⟨off, hoff, ha⟩ := List.mem_flatMap.mp ha
    obtain ⟨i, hi, rfl⟩ := List.mem_map.mp hoff
    have hlt := List.mem_range.mp hi
    refine sampleReads_within ?_ a ha
    unfold diagCounter QueryDiagnosticCntrsOut.diagCounter DiagnosticCntrStruct.szBytes
    omega
  unfold queryDiagCounters
  dsimp only
  rw [hsz]
  split
  · exact fun r hr => absurd hr List.not_mem_nil
  · split_ifs
    · exact List.forall_mem_singleton.mpr (response_sized (by omega)
        (mlx5uCmd_reads K _ _ _ _ _ (by omega)) fun a ha => absurd ha List.not_mem_nil)
    · exact List.forall_mem_singleton.mpr (response_sized (by omega)
        (mlx5uCmd_reads K _ _ _ _ _ (by omega)) (hsamples _))

/-! ## Where the sizes wrap -/

/-- A device that accepts every command and answers nothing. -/
def silent : Sys Nat := scripted fun _ => (0, [])

theorem silent_cmd (inb : Mem) (inlen outlen : Nat) :
    (mlx5uCmd silent ⟨0, []⟩ inb inlen zeroMem outlen).ret = 0 ∧
    (mlx5uCmd silent ⟨0, []⟩ inb inlen zeroMem outlen).reads = [MboxOut.status.dword 0] := by
  have hmem : replyIn silent ⟨0, []⟩ inb inlen zeroMem outlen = zeroMem := by
    unfold replyIn
    rw [show (silent.rpc 0 (load inb 0 (toU32 inlen)) (toU32 outlen)).2.1 = [] from rfl,
      List.take_nil]
    rfl
  have hzero : mlx5Get (replyIn silent ⟨0, []⟩ inb inlen zeroMem outlen) 0 MboxOut.status = 0 := by
    rw [hmem]
    rfl
  obtain ⟨hret, -, hreads, -⟩ := mlx5uCmd_ok silent (by rfl) hzero
  exact ⟨hret, hreads⟩

theorem silent_malloc {n : Nat} (h : n < 65536) : silent.malloc 0 n = (some zeroMem, 0) := by
  have hle : n ≤ ptrdiffMax := by
    unfold ptrdiffMax
    omega
  unfold silent scripted
  dsimp only
  rw [if_pos hle]

/-- On the silent device every read of `query_diag_counters` happens. -/
theorem silent_samples (n : Int) : ∃ r,
    (queryDiagCounters silent ⟨0, []⟩ n 0 false).responses = [r] ∧
    r.cap = samplesOutSz n ∧
    r.reads = MboxOut.status.dword 0 ::
      ((List.range n.toNat).map diagCounter).flatMap sampleReads := by
  have hlt : samplesOutSz n < 65536 := by
    have := samplesOutSz_eq n
    omega
  obtain ⟨hret, hreads⟩ := silent_cmd (samplesRequest n 0) QueryDiagnosticCntrsIn.szBytes
    (samplesOutSz n)
  unfold queryDiagCounters
  dsimp only
  rw [silent_malloc hlt]
  dsimp only
  rw [if_neg (not_not.mpr hret)]
  refine ⟨_, rfl, rfl, ?_⟩
  unfold CmdResult.response
  rw [hreads]
  rfl

/-- On the silent device every read of `mlx5_diag_cnt_query_param` happens. -/
theorem silent_params (n : Int) : ∃ r, (mlx5DiagCntQueryParam silent ⟨0, []⟩ n).responses = [r] ∧
    r.cap = paramOutSz n ∧
    r.reads = MboxOut.status.dword 0 ::
      (paramCaps.map (fun nf => nf.2.dword QueryDiagnosticParamsOut.diagnosticParamsContext) ++
        (List.range n.toNat).map fun i => CounterId.counterId.dword (paramCounterId i)) := by
  have hlt : paramOutSz n < 65536 := by
    have := paramOutSz_eq n
    omega
  obtain ⟨hret, hreads⟩ := silent_cmd
    (mlx5Set zeroMem 0 QueryDiagnosticParamsIn.opcode MLX5_CMD_OP_QUERY_DIAGNOSTIC_PARAMS)
    QueryDiagnosticParamsIn.szBytes (paramOutSz n)
  unfold mlx5DiagCntQueryParam
  dsimp only
  rw [silent_malloc hlt]
  dsimp only
  rw [if_neg (not_not.mpr hret)]
  refine ⟨_, rfl, rfl, ?_⟩
  unfold CmdResult.response
  rw [hreads]
  rfl

/-- The status and the last sample are read, so there is room for the header and the samples. -/
theorem samples_room {n : Int}
    (h : ∀ r ∈ (queryDiagCounters silent ⟨0, []⟩ n 0 false).responses, Inside r) :
    16 + n.toNat * 16 ≤ samplesOutSz n := by
  obtain ⟨r, hr, hcap, hreads⟩ := silent_samples n
  have hinside := h r (by rw [hr]; exact List.mem_singleton_self r)
  unfold Inside at hinside
  rw [hreads, hcap] at hinside
  obtain ⟨hstatus, hsamples⟩ := List.forall_mem_cons.mp hinside
  have hhead : 0 + 4 * 0 + 4 ≤ samplesOutSz n := dword_within_iff.mp hstatus
  have hsize := samplesOutSz_eq n
  by_cases hn : 0 < n
  · have hmem : DiagnosticCntrStruct.counterValueL.dword (diagCounter (n.toNat - 1)) ∈
        ((List.range n.toNat).map diagCounter).flatMap sampleReads :=
      List.mem_flatMap.mpr ⟨_, List.mem_map.mpr ⟨n.toNat - 1, List.mem_range.mpr (by omega), rfl⟩,
        by simp [sampleReads]⟩
    have hlast : diagCounter (n.toNat - 1) + 4 * 3 + 4 ≤ samplesOutSz n :=
      dword_within_iff.mp (hsamples _ hmem)
    unfold diagCounter QueryDiagnosticCntrsOut.diagCounter DiagnosticCntrStruct.szBytes at hlast
    omega
  · omega

/-- The sample period and the last identifier are read, so there is room for both. -/
theorem params_room {n : Int}
    (h : ∀ r ∈ (mlx5DiagCntQueryParam silent ⟨0, []⟩ n).responses, Inside r) :
    16 ≤ paramOutSz n ∧ (0 < n → 32 + n * 4 ≤ paramOutSz n) := by
  obtain ⟨r, hr, hcap, hreads⟩ := silent_params n
  have hinside := h r (by rw [hr]; exact List.mem_singleton_self r)
  unfold Inside at hinside
  rw [hreads, hcap] at hinside
  obtain ⟨hcaps, hids⟩ := List.forall_mem_append.mp (List.forall_mem_cons.mp hinside).2
  refine ⟨?_, fun hn => ?_⟩
  · have hperiod : 8 + 4 * 1 + 4 ≤ paramOutSz n := dword_within_iff.mp (hcaps
      (DiagnosticParamsContext.logSamplePeriod.dword
        QueryDiagnosticParamsOut.diagnosticParamsContext) (by simp [paramCaps]))
    exact hperiod
  · have hlast : paramCounterId (n.toNat - 1) + 4 * 0 + 4 ≤ paramOutSz n :=
      dword_within_iff.mp (hids _ (List.mem_map.mpr
        ⟨n.toNat - 1, List.mem_range.mpr (by omega), rfl⟩))
    unfold paramCounterId QueryDiagnosticParamsOut.diagnosticParamsContext
      DiagnosticParamsContext.counterId CounterId.szBytes at hlast
    omega

theorem samples_sized_iff (n : Int) :
    (∀ (σ : Type) (K : Sys σ) (w : World σ) (sampleIndex : Int) (binOutput : Bool),
      ∀ r ∈ (queryDiagCounters K w n sampleIndex binOutput).responses, Sized (16 + n * 16) r) ↔
    0 ≤ n ∧ n ≤ 4094 := by
  have hsize := samplesOutSz_eq n
  constructor
  · intro h
    obtain ⟨r, hr, hcap, -⟩ := silent_samples n
    have hn := (h Nat silent ⟨0, []⟩ 0 false r (by rw [hr]; exact List.mem_singleton_self r)).cap
    have hroom := samples_room fun r hr => (h Nat silent ⟨0, []⟩ 0 false r hr).reads
    rw [hcap] at hn
    omega
  · intro h σ K w sampleIndex binOutput
    rw [show 16 + n * 16 = (samplesOutSz n : Int) by omega]
    exact queryDiagCounters_sized K (by omega) w sampleIndex binOutput

/-- A negative count is read inside as well, unless it wraps to 0. -/
theorem samples_inside_iff (n : Int) :
    (∀ (σ : Type) (K : Sys σ) (w : World σ) (sampleIndex : Int) (binOutput : Bool),
      ∀ r ∈ (queryDiagCounters K w n sampleIndex binOutput).responses, Inside r) ↔
    n ≤ 4094 ∧ 16 ≤ (16 + n * 16) % 65536 := by
  have hsize := samplesOutSz_eq n
  constructor
  · intro h
    have hroom := samples_room (h Nat silent ⟨0, []⟩ 0 false)
    omega
  · intro h σ K w sampleIndex binOutput r hr
    exact (queryDiagCounters_sized K (by omega) w sampleIndex binOutput r hr).reads

theorem params_sized_iff (n : Int) :
    (∀ (σ : Type) (K : Sys σ) (w : World σ),
      ∀ r ∈ (mlx5DiagCntQueryParam K w n).responses, Sized (32 + n * 4) r) ↔
    -4 ≤ n ∧ n ≤ 16375 := by
  have hsize := paramOutSz_eq n
  constructor
  · intro h
    obtain ⟨r, hr, hcap, -⟩ := silent_params n
    have hn := (h Nat silent ⟨0, []⟩ r (by rw [hr]; exact List.mem_singleton_self r)).cap
    have hroom := params_room fun r hr => (h Nat silent ⟨0, []⟩ r hr).reads
    rw [hcap] at hn
    omega
  · intro h σ K w
    rw [show 32 + n * 4 = (paramOutSz n : Int) by omega]
    exact queryParam_sized K (by omega) (by omega) w

theorem params_inside_iff (n : Int) :
    (∀ (σ : Type) (K : Sys σ) (w : World σ),
      ∀ r ∈ (mlx5DiagCntQueryParam K w n).responses, Inside r) ↔
    n ≤ 16375 ∧ 16 ≤ (32 + n * 4) % 65536 := by
  have hsize := paramOutSz_eq n
  constructor
  · intro h
    obtain ⟨hctx, hroom⟩ := params_room (h Nat silent ⟨0, []⟩)
    omega
  · intro h σ K w r hr
    exact (queryParam_sized K (by omega) (by omega) w r hr).reads

/-- **Where the response buffers are right.** For every outside world, the buffers of
    `query_diag_counters` have their mathematical size and hold all that is read of them if
    and only if `0 ≤ n ≤ 4094`, and those of `mlx5_diag_cnt_query_param` if and only if
    `-4 ≤ n ≤ 16375`; they hold all that is read also at a negative count that wraps to a size
    with room for the header. Those of `mlx5_diag_cnt_query_cap` are right for every count. -/
theorem buffers_sized_iff (n : Int) :
    ((∀ (σ : Type) (K : Sys σ) (w : World σ) (sampleIndex : Int) (binOutput : Bool),
        ∀ r ∈ (queryDiagCounters K w n sampleIndex binOutput).responses, Sized (16 + n * 16) r) ↔
      0 ≤ n ∧ n ≤ 4094) ∧
    ((∀ (σ : Type) (K : Sys σ) (w : World σ) (sampleIndex : Int) (binOutput : Bool),
        ∀ r ∈ (queryDiagCounters K w n sampleIndex binOutput).responses, Inside r) ↔
      n ≤ 4094 ∧ 16 ≤ (16 + n * 16) % 65536) ∧
    ((∀ (σ : Type) (K : Sys σ) (w : World σ),
        ∀ r ∈ (mlx5DiagCntQueryParam K w n).responses, Sized (32 + n * 4) r) ↔
      -4 ≤ n ∧ n ≤ 16375) ∧
    ((∀ (σ : Type) (K : Sys σ) (w : World σ),
        ∀ r ∈ (mlx5DiagCntQueryParam K w n).responses, Inside r) ↔
      n ≤ 16375 ∧ 16 ≤ (32 + n * 4) % 65536) ∧
    ∀ (σ : Type) (K : Sys σ) (w : World σ), CapSized (mlx5DiagCntQueryCap K w).responses :=
  ⟨samples_sized_iff n, samples_inside_iff n, params_sized_iff n, params_inside_iff n,
    fun _ K w => queryCap_sized K w⟩

/-- The size of 4095 samples wraps to 0, and the status is read from an empty buffer. -/
theorem wrapped_size_overread : ¬ ∀ (σ : Type) (K : Sys σ) (w : World σ) (n sampleIndex : Int)
    (binOutput : Bool), 0 ≤ n →
    ∀ r ∈ (queryDiagCounters K w n sampleIndex binOutput).responses, Inside r := by
  intro h
  have hroom := samples_room (h Nat silent ⟨0, []⟩ 4095 0 false (by decide))
  have hsize := samplesOutSz_eq 4095
  omega

end Mlx5ctl.DiagCnt
