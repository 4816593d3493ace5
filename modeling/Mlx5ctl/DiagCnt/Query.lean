/-
  diag_cnt.c: the three queries, `mlx5_diag_cnt_query_cap`, `mlx5_diag_cnt_query_param` and
  `query_diag_counters`.

  Each of them sizes a response buffer by a count, sends one command or more, and prints in a
  loop over the count. The result keeps every response buffer with what was read of it. The
  assignment to `errno` on a missing debug capability is left out: nothing reads it.
-/
import Mlx5ctl.Reg

namespace Mlx5ctl.DiagCnt

open ByteMem CInt Ifc

variable {σ : Type} (K : Sys σ)

/-- What a query leaves behind. -/
structure QueryResult (σ : Type) where
  err : Int
  responses : List Response
  w : World σ

/-- `printcap(cap)` -/
def printcap (p : Mem) (base : Nat) (name : String) (f : Field) : Line :=
  .printf "\t%s: %d\n" [.text name, .int (mlx5Get p base f).toNat]

/-! ## Capabilities -/

/-- `ENOTSUP` -/
def enotsup : Int := 95

/-- `MLX5_CAP_GENERAL` -/
def MLX5_CAP_GENERAL : Nat := 0

/-- `MLX5_CAP_DEBUG` -/
def MLX5_CAP_DEBUG : Nat := 13

/-- `HCA_CAP_OPMOD_GET_CUR` -/
def HCA_CAP_OPMOD_GET_CUR : Nat := 1

/-- `query_devcap(dev, type, out, out_sz)` -/
def queryDevcap (w : World σ) (type : Nat) (out : Mem) (outSz : Nat) : CmdResult σ :=
  let opmod : BitVec 16 := BitVec.ofNat 16 ((type <<< 1) ||| (HCA_CAP_OPMOD_GET_CUR &&& 0x01))
  let inb := mlx5Set zeroMem 0 QueryHcaCapIn.opcode MLX5_CMD_OP_QUERY_HCA_CAP
  let inb := mlx5Set inb 0 QueryHcaCapIn.opMod (opmod.setWidth 32)
  let r := mlx5uCmd K w inb QueryHcaCapIn.szBytes out outSz
  if r.ret ≠ 0 then
    { r with w := r.w.print (.errMsg "query_hca_cap(%d) failed: %d\n" [.int type, .int r.ret]) }
  else r

/-- `get_dev_freq(dev)` -/
def getDevFreq (w : World σ) : QueryResult σ :=
  let r := queryDevcap K w MLX5_CAP_GENERAL zeroMem QueryHcaCapOut.szBytes
  if r.ret ≠ 0 then ⟨r.ret, [r.response QueryHcaCapOut.szBytes []], r.w⟩
  else
    ⟨toInt (mlx5Get r.out QueryHcaCapOut.capability CmdHcaCap.deviceFrequencyKhz).toNat,
      [r.response QueryHcaCapOut.szBytes
        [CmdHcaCap.deviceFrequencyKhz.dword QueryHcaCapOut.capability]], r.w⟩

/-- The pointer to `diagnostic_counter[i]` in the response. -/
def diagnosticCounter (i : Nat) : Nat :=
  QueryHcaCapOut.capability + DebugCapX.diagnosticCounter + i * DiagnosticCntrLayout.szBytes

/-- The loop of `mlx5_diag_cnt_query_cap`. -/
def capCounterLines (p : Mem) (n : Nat) : List Line :=
  (List.range n).map fun (i : Nat) => .printf "\tcounter[%d]: 0x%x sync(%d)\n"
    [.int i, .int (mlx5Get p (diagnosticCounter i) DiagnosticCntrLayout.counterId).toNat,
      .int (mlx5Get p (diagnosticCounter i) DiagnosticCntrLayout.sync).toNat]

/-- The reads of the loop. -/
def capCounterReads (n : Nat) : List Access :=
  (List.range n).flatMap fun (i : Nat) =>
    [DiagnosticCntrLayout.counterId.dword (diagnosticCounter i),
      DiagnosticCntrLayout.sync.dword (diagnosticCounter i)]

/-- The capabilities `printcap` is used on. -/
def debugCaps : List (String × Field) :=
  [("single", DebugCapX.single), ("repetitive", DebugCapX.repetitive),
    ("log_max_samples", DebugCapX.logMaxSamples),
    ("log_min_sample_period", DebugCapX.logMinSamplePeriod)]

/-- `out_sz` of the second query of `mlx5_diag_cnt_query_cap`, an `int`. -/
def capOutSz (numCounters : Nat) : Int :=
  toInt (QueryHcaCapOut.szBytes + numCounters * DiagnosticCntrLayout.szBytes : Nat)

/-- `mlx5_diag_cnt_query_cap(dev)` from its second query on. -/
def queryDebugCap (w : World σ) (first : Response) (numCounters : Nat) (out2 : Mem) :
    QueryResult σ :=
  let outSz := capOutSz numCounters
  let r := queryDevcap K w MLX5_CAP_DEBUG out2 (toU32 outSz)
  if r.ret ≠ 0 then ⟨r.ret, [first, r.response (toSize outSz) []], r.w⟩
  else
    let w := r.w.print
      (.printf "diag counters:\n\tnum_of_diagnostic_counters: %d\n" [.int numCounters])
    let w := debugCaps.foldl (fun w (name, f) =>
      w.print (printcap r.out QueryHcaCapOut.capability name f)) w
    let capReads := debugCaps.map fun (_, f) => f.dword QueryHcaCapOut.capability
    let freq := getDevFreq K w
    if freq.err < 0 then
      ⟨freq.err, [first, r.response (toSize outSz) capReads] ++ freq.responses,
        freq.w.print (.errMsg "Can't get device frequency.\n" [])⟩
    else
      let w := freq.w.print (.printf "\tdev_freq: %d kHz\n" [.int freq.err])
      ⟨0, [first, r.response (toSize outSz) (capReads ++ capCounterReads numCounters)] ++
        freq.responses, { w with out := w.out ++ capCounterLines r.out numCounters }⟩

/-- `num_counters`, a `u16`. -/
def numCounters (out : Mem) : Nat :=
  toU16 (mlx5Get out QueryHcaCapOut.capability CmdHcaCap.numOfDiagnosticCounters).toNat

/-- `mlx5_diag_cnt_query_cap(dev)` -/
def mlx5DiagCntQueryCap (w : World σ) : QueryResult σ :=
  let r := queryDevcap K w MLX5_CAP_GENERAL zeroMem QueryHcaCapOut.szBytes
  let debugRead := CmdHcaCap.debug.dword QueryHcaCapOut.capability
  let numRead := CmdHcaCap.numOfDiagnosticCounters.dword QueryHcaCapOut.capability
  if r.ret ≠ 0 then ⟨r.ret, [r.response QueryHcaCapOut.szBytes []], r.w⟩
  else if mlx5Get r.out QueryHcaCapOut.capability CmdHcaCap.debug = 0 then
    ⟨enotsup, [r.response QueryHcaCapOut.szBytes [debugRead]],
      r.w.print (.errMsg "debug capability is not supported\n" [])⟩
  else
    let first := r.response QueryHcaCapOut.szBytes [debugRead, numRead]
    let m := K.malloc r.w.sys (toSize (capOutSz (numCounters r.out)))
    let w := { r.w with sys := m.2 }
    match m.1 with
    | none => ⟨enomem, [first], w⟩
    | some out2 => queryDebugCap K w first (numCounters r.out) out2

/-! ## Parameters -/

/-- The capabilities `mlx5_diag_cnt_query_param` prints. -/
def paramCaps : List (String × Field) :=
  [("sync", DiagnosticParamsContext.sync), ("clear", DiagnosticParamsContext.clear),
    ("enable", DiagnosticParamsContext.enable), ("single", DiagnosticParamsContext.single),
    ("repetitive", DiagnosticParamsContext.repetitive),
    ("on_demand", DiagnosticParamsContext.onDemand),
    ("log_num_of_samples", DiagnosticParamsContext.logNumOfSamples),
    ("log_sample_period", DiagnosticParamsContext.logSamplePeriod)]

/-- The pointer to `counter_id[i]` in the response. -/
def paramCounterId (i : Nat) : Nat :=
  QueryDiagnosticParamsOut.diagnosticParamsContext + DiagnosticParamsContext.counterId +
    i * CounterId.szBytes

/-- `out_sz` of `mlx5_diag_cnt_query_param`, a `u16`. -/
def paramOutSz (numCnt : Int) : Nat :=
  toU16 (QueryDiagnosticParamsOut.szBytes + numCnt * CounterId.szBytes)

/-- `mlx5_diag_cnt_query_param(dev, num_cnt)` -/
def mlx5DiagCntQueryParam (w : World σ) (numCnt : Int) : QueryResult σ :=
  let outSz := paramOutSz numCnt
  let m := K.malloc w.sys outSz
  let w := { w with sys := m.2 }
  match m.1 with
  | none => ⟨enomem, [], w⟩
  | some out =>
      let inb := mlx5Set zeroMem 0 QueryDiagnosticParamsIn.opcode
        MLX5_CMD_OP_QUERY_DIAGNOSTIC_PARAMS
      let r := mlx5uCmd K w inb QueryDiagnosticParamsIn.szBytes out outSz
      if r.ret ≠ 0 then
        ⟨r.ret, [r.response outSz []],
          r.w.print (.errMsg "query diagnostic params failed, %d\n" [.int r.ret])⟩
      else
        let ctx := QueryDiagnosticParamsOut.diagnosticParamsContext
        let lines := [.printf "diag params:\n" []] ++
          paramCaps.map (fun (name, f) => printcap r.out ctx name f) ++
          (List.range numCnt.toNat).map (fun (i : Nat) => .printf "\tcounter[%d]: 0x%x\n"
            [.int i, .int (mlx5Get r.out (paramCounterId i) CounterId.counterId).toNat])
        let reads := paramCaps.map (fun (_, f) => f.dword ctx) ++
          (List.range numCnt.toNat).map (fun i => CounterId.counterId.dword (paramCounterId i))
        ⟨0, [r.response outSz reads], { r.w with out := r.w.out ++ lines }⟩

/-! ## Samples -/

/-- `counter_value`: the two halves as the code puts them together, in 32 bits. -/
def counterValue (h l : u32) : u64 := ((h <<< 31) ||| l).setWidth 64

/-- The bytes of `printout`, four `u64` in the order of the host. -/
def printoutBytes (printout : List u64) : List u8 :=
  printout.flatMap fun x => (List.range 8).map (Host.little.byteOf 8 x)

/-- One turn of the loop of `query_diag_counters`. -/
def sampleLine (p : Mem) (binOutput : Bool) (diagCnt : Nat) : Line :=
  let counterId := mlx5Get p diagCnt DiagnosticCntrStruct.counterId
  let sampleId := mlx5Get p diagCnt DiagnosticCntrStruct.sampleId
  let timeStamp := mlx5Get p diagCnt DiagnosticCntrStruct.timeStamp310
  let value := counterValue (mlx5Get p diagCnt DiagnosticCntrStruct.counterValueH)
    (mlx5Get p diagCnt DiagnosticCntrStruct.counterValueL)
  if binOutput then
    .fwrite (printoutBytes [counterId.setWidth 64, sampleId.setWidth 64, timeStamp.setWidth 64,
      value])
  else
    .printf "counter_id: 0x%04x, sample_id: %010d, time_stamp: %010u counter_value: %lu\n"
      [.int counterId.toNat, .int sampleId.toNat, .int timeStamp.toNat, .int value.toNat]

/-- The reads of one turn. -/
def sampleReads (diagCnt : Nat) : List Access :=
  [DiagnosticCntrStruct.counterId.dword diagCnt, DiagnosticCntrStruct.sampleId.dword diagCnt,
    DiagnosticCntrStruct.timeStamp310.dword diagCnt,
    DiagnosticCntrStruct.counterValueH.dword diagCnt,
    DiagnosticCntrStruct.counterValueL.dword diagCnt]

/-- The pointer to `diag_counter[i]` in the response. -/
def diagCounter (i : Nat) : Nat :=
  QueryDiagnosticCntrsOut.diagCounter + i * DiagnosticCntrStruct.szBytes

/-- `out_sz` of `query_diag_counters`, a `u16`. -/
def samplesOutSz (printLines : Int) : Nat :=
  toU16 (QueryDiagnosticCntrsOut.szBytes + printLines * DiagnosticCntrStruct.szBytes)

/-- The request of `query_diag_counters`. -/
def samplesRequest (printLines sampleIndex : Int) : Mem :=
  let inb := mlx5Set zeroMem 0 QueryDiagnosticCntrsIn.opcode MLX5_CMD_OP_QUERY_DIAGNOSTIC_COUNTERS
  let inb := mlx5Set inb 0 QueryDiagnosticCntrsIn.numOfSamples (BitVec.ofInt 32 printLines)
  mlx5Set inb 0 QueryDiagnosticCntrsIn.sampleIndex (BitVec.ofInt 32 sampleIndex)

/-- `query_diag_counters(dev, print_lines, sample_index, bin_output)` -/
def queryDiagCounters (w : World σ) (printLines sampleIndex : Int) (binOutput : Bool) :
    QueryResult σ :=
  let outSz := samplesOutSz printLines
  let m := K.malloc w.sys outSz
  let w := { w with sys := m.2 }
  match m.1 with
  | none => ⟨-enomem, [], w⟩
  | some out =>
      let r := mlx5uCmd K w (samplesRequest printLines sampleIndex)
        QueryDiagnosticCntrsIn.szBytes out outSz
      if r.ret ≠ 0 then ⟨r.ret, [r.response outSz []], r.w⟩
      else
        let samples := (List.range printLines.toNat).map diagCounter
        ⟨r.ret, [r.response outSz (samples.flatMap sampleReads)],
          { r.w with out := r.w.out ++ samples.map (sampleLine r.out binOutput) }⟩

end Mlx5ctl.DiagCnt
