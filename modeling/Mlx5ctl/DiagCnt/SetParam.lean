/-
  diag_cnt.c: `mlx5_diag_cnt_set_param`, and what its mailbox carries.

  The mailbox is a block from `malloc`, which no one clears, with the fields of the parameters
  set in it (`setParamIn`). So a bit that a set names is the same in every run, and any other
  bit is the bit of the block (`setParamIn_patched`): `mailbox_of_params_iff` says when two runs
  hand the same bytes to the device. `stale_mailbox` has two runs that do not.
-/
import Mlx5ctl.DiagCnt.Query
import Mlx5ctl.Request

namespace Mlx5ctl.DiagCnt

open ByteMem CInt Ifc

variable {σ τ : Type} (K : Sys σ)

/-- `struct set_diag_params` -/
structure SetDiagParams where
  logNumOfSamples : Int
  single : BitVec 1
  repetitive : BitVec 1
  sync : BitVec 1
  clear : BitVec 1
  onDemand : BitVec 1
  enable : BitVec 1
  logSamplePeriod : Int
  numOfCounters : Int
  counterId : Nat → u32

/-- `sz_in`, an `int`. -/
def setParamSz (numOfCounters : Int) : Int :=
  toInt (SetDiagnosticParamsIn.szBytes + numOfCounters * CounterId.szBytes)

/-- The pointer to `counter_id[i]` in the mailbox. -/
def setCounterId (i : Nat) : Nat :=
  SetDiagnosticParamsIn.diagnosticParamsContext + DiagnosticParamsContext.counterId +
    i * CounterId.szBytes

/-- The mailbox of SET_DIAGNOSTIC_PARAMS in a block from `malloc`. -/
def setParamIn (block : Mem) (params : SetDiagParams) : Mem :=
  let ctx := SetDiagnosticParamsIn.diagnosticParamsContext
  let inb := mlx5Set block 0 SetDiagnosticParamsIn.opcode MLX5_CMD_OP_SET_DIAGNOSTIC_PARAMS
  let inb := mlx5Set inb ctx DiagnosticParamsContext.logNumOfSamples
    (BitVec.ofInt 32 params.logNumOfSamples)
  let inb := mlx5Set inb ctx DiagnosticParamsContext.single (params.single.setWidth 32)
  let inb := mlx5Set inb ctx DiagnosticParamsContext.repetitive (params.repetitive.setWidth 32)
  let inb := mlx5Set inb ctx DiagnosticParamsContext.sync (params.sync.setWidth 32)
  let inb := mlx5Set inb ctx DiagnosticParamsContext.clear (params.clear.setWidth 32)
  let inb := mlx5Set inb ctx DiagnosticParamsContext.onDemand (params.onDemand.setWidth 32)
  let inb := mlx5Set inb ctx DiagnosticParamsContext.enable (params.enable.setWidth 32)
  let inb := mlx5Set inb ctx DiagnosticParamsContext.logSamplePeriod
    (BitVec.ofInt 32 params.logSamplePeriod)
  let inb := mlx5Set inb ctx DiagnosticParamsContext.numOfCounters
    (BitVec.ofInt 32 params.numOfCounters)
  (List.range params.numOfCounters.toNat).foldl (fun inb i =>
    mlx5Set inb (setCounterId i) CounterId.counterId (params.counterId i)) inb

/-- What `mlx5_diag_cnt_set_param` leaves behind. -/
structure SetResult (σ : Type) where
  err : Int
  w : World σ

/-- `mlx5_diag_cnt_set_param(dev, params)` -/
def mlx5DiagCntSetParam (w : World σ) (params : SetDiagParams) : SetResult σ :=
  let szIn := setParamSz params.numOfCounters
  let m := K.malloc w.sys (toSize szIn)
  let w := { w with sys := m.2 }
  match m.1 with
  | none => ⟨enomem, w⟩
  | some block =>
      let r := mlx5uCmd K w (setParamIn block params) (toSize szIn) zeroMem
        SetDiagnosticParamsOut.szBytes
      if r.ret ≠ 0 then
        ⟨r.ret, r.w.print (.errMsg "set diagnostic params failed, %d\n" [.int r.ret])⟩
      else ⟨r.ret, r.w⟩

/-! ## The mailbox as a run of sets -/

/-- The sets before the loop. -/
def contextWrites (params : SetDiagParams) : List Write :=
  let ctx := SetDiagnosticParamsIn.diagnosticParamsContext
  [⟨0, SetDiagnosticParamsIn.opcode, MLX5_CMD_OP_SET_DIAGNOSTIC_PARAMS⟩,
    ⟨ctx, DiagnosticParamsContext.logNumOfSamples, BitVec.ofInt 32 params.logNumOfSamples⟩,
    ⟨ctx, DiagnosticParamsContext.single, params.single.setWidth 32⟩,
    ⟨ctx, DiagnosticParamsContext.repetitive, params.repetitive.setWidth 32⟩,
    ⟨ctx, DiagnosticParamsContext.sync, params.sync.setWidth 32⟩,
    ⟨ctx, DiagnosticParamsContext.clear, params.clear.setWidth 32⟩,
    ⟨ctx, DiagnosticParamsContext.onDemand, params.onDemand.setWidth 32⟩,
    ⟨ctx, DiagnosticParamsContext.enable, params.enable.setWidth 32⟩,
    ⟨ctx, DiagnosticParamsContext.logSamplePeriod, BitVec.ofInt 32 params.logSamplePeriod⟩,
    ⟨ctx, DiagnosticParamsContext.numOfCounters, BitVec.ofInt 32 params.numOfCounters⟩]

/-- The sets of the loop. -/
def counterWrites (params : SetDiagParams) : List Write :=
  (List.range params.numOfCounters.toNat).map fun i =>
    ⟨setCounterId i, CounterId.counterId, params.counterId i⟩

/-- All the sets of the mailbox. -/
def setParamWrites (params : SetDiagParams) : List Write :=
  contextWrites params ++ counterWrites params

theorem setParamIn_sets (block : Mem) (params : SetDiagParams) :
    setParamIn block params = sets block (setParamWrites params) := by
  unfold setParamWrites counterWrites
  rw [sets_append, show sets (sets block (contextWrites params)) _ = _ from List.foldl_map]
  rfl

/-- Bit `i` of the mailbox is in a field that is set. -/
def Named (params : SetDiagParams) (i : Nat) : Prop := Covered (patches (setParamWrites params)) i

theorem setParamIn_patched (block : Mem) (params : SetDiagParams) :
    Patched block (patches (setParamWrites params)) (setParamIn block params) := by
  rw [setParamIn_sets]
  exact sets_patched block _

theorem contextWrites_covered (params : SetDiagParams) (i : Nat) :
    Covered (patches (contextWrites params)) i ↔
      i < 16 ∨ (64 ≤ i ∧ i < 80) ∨ (88 ≤ i ∧ i < 102) ∨ (120 ≤ i ∧ i < 128) := by
  simp only [patches, contextWrites, List.map_cons, List.map_nil, covered_cons, not_covered_nil,
    or_false, Patch.Covers, Write.patch, fld, SetDiagnosticParamsIn.opcode,
    SetDiagnosticParamsIn.diagnosticParamsContext, DiagnosticParamsContext.logNumOfSamples,
    DiagnosticParamsContext.single, DiagnosticParamsContext.repetitive,
    DiagnosticParamsContext.sync, DiagnosticParamsContext.clear, DiagnosticParamsContext.onDemand,
    DiagnosticParamsContext.enable, DiagnosticParamsContext.logSamplePeriod,
    DiagnosticParamsContext.numOfCounters]
  omega

theorem counterWrites_covered (params : SetDiagParams) (i : Nat) :
    Covered (patches (counterWrites params)) i ↔
      ∃ k < params.numOfCounters.toNat, 272 + 32 * k ≤ i ∧ i < 288 + 32 * k := by
  unfold Covered patches counterWrites
  simp only [List.map_map, List.mem_map, List.mem_range, exists_exists_and_eq_and, Function.comp,
    Patch.Covers, Write.patch, setCounterId, fld, SetDiagnosticParamsIn.diagnosticParamsContext,
    DiagnosticParamsContext.counterId, CounterId.counterId, CounterId.szBytes]
  refine exists_congr fun k => and_congr_right fun _ => ?_
  omega

/-- The named bits: the opcode, the parameters of the context, and the lower half of each counter
    entry. -/
theorem named_iff (params : SetDiagParams) (i : Nat) :
    Named params i ↔
      i < 16 ∨ (64 ≤ i ∧ i < 80) ∨ (88 ≤ i ∧ i < 102) ∨ (120 ≤ i ∧ i < 128) ∨
      ∃ k < params.numOfCounters.toNat, 272 + 32 * k ≤ i ∧ i < 288 + 32 * k := by
  unfold Named setParamWrites patches
  rw [List.map_append, covered_append]
  have hctx := contextWrites_covered params i
  have hcnt := counterWrites_covered params i
  unfold patches at hctx hcnt
  rw [hctx, hcnt, or_assoc, or_assoc, or_assoc]

/-! ## What is sent -/

/-- The length of the mailbox as the driver is told it. -/
def setParamLen (params : SetDiagParams) : Nat := toU32 (toSize (setParamSz params.numOfCounters))

/-- The mailbox of a run whose block from `malloc` is `block`. -/
def setParamMailbox (block : Mem) (params : SetDiagParams) : List u8 :=
  load (setParamIn block params) 0 (setParamLen params)

theorem setParam_requests {w : World (σ × List Rpc)} {params : SetDiagParams} {block : Mem}
    (h : (K.malloc w.sys.1 (toSize (setParamSz params.numOfCounters))).1 = some block) :
    requests (mlx5DiagCntSetParam K.recorded w params).w =
      requests w ++ [setParamMailbox block params] := by
  have hm : (K.recorded.malloc w.sys (toSize (setParamSz params.numOfCounters))).1 = some block := h
  unfold mlx5DiagCntSetParam
  dsimp only
  rw [hm]
  dsimp only
  split_ifs
  · exact mlx5uCmd_requests K _ _ _ _ _
  · exact mlx5uCmd_requests K _ _ _ _ _

/-- A bit of the mailbox that no set names is the bit of the block. -/
theorem mailbox_unnamed {block : Mem} {params : SetDiagParams} {i : Nat}
    (hi : i < 8 * setParamLen params) (hn : ¬ Named params i) :
    requestBit (setParamMailbox block params) i = bit block i := by
  unfold setParamMailbox
  rw [requestBit_load _ hi, (setParamIn_patched block params).uncovered hn]

/-- **What the mailbox depends on.** In any two runs of `mlx5_diag_cnt_set_param` on the same
    parameters, the device is handed the same bytes exactly when the two blocks from `malloc`
    agree in every bit that no set names; and the bits of the mailbox that no set names are zero
    exactly when those of the block were. -/
theorem mailbox_of_params_iff (L : Sys τ) (params : SetDiagParams) {w : World (σ × List Rpc)}
    {v : World (τ × List Rpc)} {b c : Mem}
    (hb : (K.malloc w.sys.1 (toSize (setParamSz params.numOfCounters))).1 = some b)
    (hc : (L.malloc v.sys.1 (toSize (setParamSz params.numOfCounters))).1 = some c) :
    ∃ m n, requests (mlx5DiagCntSetParam K.recorded w params).w = requests w ++ [m] ∧
      requests (mlx5DiagCntSetParam L.recorded v params).w = requests v ++ [n] ∧
      (m = n ↔ ∀ i, i < 8 * setParamLen params → ¬ Named params i → bit b i = bit c i) ∧
      ((∀ i, i < 8 * setParamLen params → ¬ Named params i → requestBit m i = false) ↔
        ∀ i, i < 8 * setParamLen params → ¬ Named params i → bit b i = false) := by
  refine ⟨_, _, setParam_requests K hb, setParam_requests L hc, ?_, ?_⟩
  · exact (setParamIn_patched b params).load_eq_iff (setParamIn_patched c params) _
  · refine forall_congr' fun i => forall_congr' fun hi => forall_congr' fun hn => ?_
    rw [mailbox_unnamed hi hn]

/-- A device that accepts every command, under an allocator whose blocks hold `x`. -/
def filled (x : u8) : Sys Unit where
  malloc _ n := (if n ≤ ptrdiffMax then some (fun _ => x) else none, ())
  realloc _ n := (if n ≤ ptrdiffMax then some (fun _ => x) else none, ())
  rpc _ _ _ := (0, [], ())
  errno _ := 0
  umem _ := zeroMem
  malloc_limit _ _ h := if_neg (Nat.not_le.mpr h)
  realloc_limit _ _ h := if_neg (Nat.not_le.mpr h)

theorem filled_malloc (x : u8) (s : Unit) {n : Nat} (h : n ≤ ptrdiffMax) :
    ((filled x).malloc s n).1 = some fun _ => x := if_pos h

/-- The parameters of `do_disable`. -/
def disableParams : SetDiagParams where
  logNumOfSamples := 0
  single := 0
  repetitive := 0
  sync := 0
  clear := 1
  onDemand := 0
  enable := 0
  logSamplePeriod := 0
  numOfCounters := 0
  counterId _ := 0

/-- The world a run starts in. -/
def fresh : World (Unit × List Rpc) := ⟨((), []), []⟩

theorem disable_blocks :
    ∃ m n, requests (mlx5DiagCntSetParam (filled 0xff).recorded fresh disableParams).w = [m] ∧
      requests (mlx5DiagCntSetParam (filled 0).recorded fresh disableParams).w = [n] ∧
      (m = n ↔ ∀ i, i < 8 * setParamLen disableParams → ¬ Named disableParams i →
        bit (fun _ => 0xff) i = bit (fun _ => 0) i) := by
  obtain ⟨m, n, hm, hn, heq, _⟩ := mailbox_of_params_iff (filled 0xff) (filled 0) disableParams
    (w := fresh) (v := fresh) (b := fun _ => 0xff) (c := fun _ => 0) (filled_malloc _ _ (by decide))
    (filled_malloc _ _ (by decide))
  exact ⟨m, n, hm, hn, heq⟩

/-- `diagcnt disable` on a block that holds `0xff` and on one that holds `0`: the mailboxes
    differ, and op_mod of the first is not zero. -/
theorem stale_mailbox :
    requests (mlx5DiagCntSetParam (filled 0xff).recorded fresh disableParams).w ≠
      requests (mlx5DiagCntSetParam (filled 0).recorded fresh disableParams).w ∧
    ∃ m, requests (mlx5DiagCntSetParam (filled 0xff).recorded fresh disableParams).w = [m] ∧
      ¬ Named disableParams 48 ∧ requestBit m 48 = true := by
  have hlen : setParamLen disableParams = 32 := by decide
  have hunnamed : ¬ Named disableParams 48 := (named_iff disableParams 48).not.mpr (by decide)
  have hff : requests (mlx5DiagCntSetParam (filled 0xff).recorded fresh disableParams).w =
      [setParamMailbox (fun _ => 0xff) disableParams] :=
    setParam_requests (filled 0xff) (filled_malloc _ _ (by decide))
  have h0 : requests (mlx5DiagCntSetParam (filled 0).recorded fresh disableParams).w =
      [setParamMailbox (fun _ => 0) disableParams] :=
    setParam_requests (filled 0) (filled_malloc _ _ (by decide))
  have hbit : requestBit (setParamMailbox (fun _ => 0xff) disableParams) 48 = true :=
    mailbox_unnamed (by omega) hunnamed
  have hbit0 : requestBit (setParamMailbox (fun _ => 0) disableParams) 48 = false :=
    mailbox_unnamed (by omega) hunnamed
  rw [hff, h0]
  refine ⟨fun heq => ?_, _, rfl, hunnamed, hbit⟩
  obtain ⟨heq, _⟩ := List.cons.inj heq
  rw [heq, hbit0] at hbit
  cases hbit

end Mlx5ctl.DiagCnt
