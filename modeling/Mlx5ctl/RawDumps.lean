/-
  ifcutil.h, devcaps.c, reg.c and query_obj.c: the raw dumps, and what can be read from them.

  A dump is `hexdump` or `fwrite` of some bytes, and either text gives the bytes back
  (`readDump_dumpLine`). Which bytes they are is said once for the three commands by
  `RawQuery.Answered.prints`: they start where the structure starts, and there are as many as the
  structure has, but for `cap`, which always takes the 256 bytes of `cmd_hca_cap`.
-/
import Mlx5ctl.DevCaps
import Mlx5ctl.RegDump
import Mlx5ctl.QueryObj
import Mlx5ctl.Lib.Hex

namespace Mlx5ctl

open ByteMem CInt CString Ifc HexText

/-! ## The text of a dump -/

/-- The loop of `hexdump(data, size)` from byte `i` on, and the newline behind it. -/
def hexdumpFrom (i : Nat) : List u8 → CStr
  | [] => ['\n']
  | b :: bs =>
      hex2 b ++ ' ' :: ((if (i + 1) % 16 = 0 then ['\n'] else []) ++ hexdumpFrom (i + 1) bs)

/-- The text a line writes to `stdout`, for the lines of a raw dump. -/
def dumpText : Line → CStr
  | .hexdump b => hexdumpFrom 0 b
  | .fwrite b => b.map fun x => Char.ofNat x.toNat
  | _ => []

/-- The bytes a dump is read as: the characters, or the hexadecimal words. -/
def readDump (binary : Bool) (text : CStr) : Option (List u8) :=
  if binary then some (text.map fun c => BitVec.ofNat 8 c.toNat) else readHex text

/-- How a command dumps `b`. -/
def dumpLine (binary : Bool) (b : List u8) : Line := if binary then .fwrite b else .hexdump b

/-- The words of a hexdump are its bytes, wherever its lines break. -/
theorem readHex_hexdumpFrom (i : Nat) (bs : List u8) : readHex (hexdumpFrom i bs) = some bs := by
  induction bs generalizing i with
  | nil =>
      unfold hexdumpFrom
      rw [readHex_space (by decide), readHex_nil]
  | cons b bs ih =>
      unfold hexdumpFrom
      rw [readHex_byte (by decide)]
      split_ifs with hline
      · rw [List.singleton_append, readHex_space (by decide), ih, Option.map_some]
      · rw [List.nil_append, ih, Option.map_some]

theorem readDump_dumpLine (binary : Bool) (b : List u8) :
    readDump binary (dumpText (dumpLine binary b)) = some b := by
  cases binary with
  | false => exact readHex_hexdumpFrom 0 b
  | true =>
      have hchar : ∀ x : u8, BitVec.ofNat 8 (Char.ofNat x.toNat).toNat = x := by
        intro x
        have hx := x.isLt
        have hvalid : x.toNat.isValidChar := Or.inl (by omega)
        unfold Char.ofNat
        rw [dif_pos hvalid]
        exact BitVec.ofNat_toNat 8 x
      simp [readDump, dumpText, dumpLine, hchar, Function.comp_def]

/-- Equal texts are dumps of equal bytes. -/
theorem dumpText_inj {binary : Bool} {b b' : List u8}
    (h : dumpText (dumpLine binary b) = dumpText (dumpLine binary b')) : b = b' := by
  have hread := readDump_dumpLine binary b
  rw [h, readDump_dumpLine] at hread
  exact (Option.some.inj hread).symm

/-! ## Options -/

/-- A world to read options in. -/
def idle : World Unit := ⟨(), []⟩

/-- A loop that takes every option without a message takes them in any world. -/
theorem optionLoop_idle {σ τ α : Type} {step : World τ → α → Opt → Outcome τ α}
    {step' : World σ → α → Opt → Outcome σ α}
    (hstep : ∀ w a o b v, step w a o = .ret b v → ∀ w', step' w' a o = .ret b w') {w v : World τ}
    {a b : α} {os : List Opt} (h : optionLoop step w a os = .ret b v) (w' : World σ) :
    optionLoop step' w' a os = .ret b w' := by
  induction os generalizing w a with
  | nil =>
      cases h
      rfl
  | cons o os ih =>
      unfold optionLoop at h ⊢
      cases ho : step w a o with
      | ret c u =>
          rw [ho] at h
          rw [hstep w a o c u ho w', Outcome.bind_ret]
          exact ih h
      | exit code u =>
          rw [ho] at h
          cases h
      | segv u =>
          rw [ho] at h
          cases h

theorem capOption_idle {σ τ : Type} (w : World τ) (a : DevCaps.CapArgs) (o : Opt)
    (b : DevCaps.CapArgs) (v : World τ) (h : DevCaps.parseOption w a o = .ret b v)
    (w' : World σ) : DevCaps.parseOption w' a o = .ret b w' := by
  unfold DevCaps.parseOption at h ⊢
  split at h
  case h_4 =>
    split_ifs at h ⊢ <;> cases h <;> rfl
  all_goals cases h <;> rfl

theorem regOption_idle {σ τ : Type} (w : World τ) (a : RegDump.RegArgs) (o : Opt)
    (b : RegDump.RegArgs) (v : World τ) (h : RegDump.parseOption w a o = .ret b v)
    (w' : World σ) : RegDump.parseOption w' a o = .ret b w' := by
  unfold RegDump.parseOption at h ⊢
  split at h
  all_goals cases h <;> rfl

theorem regArgs_idle {σ τ : Type} {w v : World τ} {opts : List Opt} {args : RegDump.RegArgs}
    (h : RegDump.parseArgs w opts = .ret args v) (w' : World σ) :
    RegDump.parseArgs w' opts = .ret args w' := by
  unfold RegDump.parseArgs at h ⊢
  cases hloop : optionLoop RegDump.parseOption w {} opts with
  | ret a u =>
      rw [hloop, Outcome.bind_ret] at h
      rw [optionLoop_idle regOption_idle hloop w', Outcome.bind_ret]
      split_ifs at h ⊢
      cases h
      rfl
  | exit code u =>
      rw [hloop] at h
      cases h
  | segv u =>
      rw [hloop] at h
      cases h

theorem objOption_idle {σ τ : Type} (w : World τ) (a : QueryObj.ObjArgs) (o : Opt)
    (b : QueryObj.ObjArgs) (v : World τ) (h : QueryObj.parseOption w a o = .ret b v)
    (w' : World σ) : QueryObj.parseOption w' a o = .ret b w' := by
  unfold QueryObj.parseOption at h ⊢
  split at h
  all_goals cases h <;> rfl

/-! ## Structures -/

/-- The bytes of the capability structure of a cap type, where the PRM has one. They are 256 but for
    `flow_table_nic_cap` (0x7), `flow_table_eswitch_cap` (0x8), `port_selection_cap` (0x25),
    `device_event_cap` (0x14) and `debug_cap` (0xd), which ends in `diagnostic_counter[]`, 4 bytes
    for each of the device's counters. -/
def capStructBytes (counters capType : Nat) : Option Nat :=
  if capType ∈ [0x0, 0x1, 0x2, 0x3, 0x4, 0x5, 0x6, 0x9, 0xc, 0xf, 0x11, 0x13, 0x15, 0x1f, 0x20,
      0x26] then some 256
  else if capType ∈ [0x7, 0x8, 0x25] then some 4096
  else if capType = 0x14 then some 64
  else if capType = 0xd then some (64 + 4 * counters)
  else none

/-- The bytes of the fixed part of `query_<name>_out`. -/
def objStructBytes (name : String) : Nat :=
  match name with
  | "tis" => 176
  | "dct" | "esw_functions" => 128
  | "xrq" => 336
  | "q_counter" => 256
  | "mkey" => 304
  | "pages" | "vport_state" | "cong_status" | "wol_rol" | "lag" => 16
  | "l2_table_entry" | "vhca_migration_state" => 64
  | "issi" => 112
  | "vport_counter" | "vnic_env" => 528
  | "packet_reformat_context" => 28
  | "special_contexts" => 32
  | "mad_demux" => 20
  | _ => 272

/-- A builder asks for as many bytes as the structure has. -/
theorem queryFuncs_outSz :
    ∀ e ∈ QueryObj.queryFuncs, e.objFunc.outSz = objStructBytes e.objName := by
  decide

theorem queryFuncs_sizes : ∀ e ∈ QueryObj.queryFuncs,
    e.objFunc.inSz < 4294967296 ∧ e.objFunc.outSz < 4294967296 ∧ 0 < e.objFunc.outSz := by
  decide

/-! ## Raw queries -/

/-- A command whose options are good and ask for a raw dump. -/
inductive RawQuery where
  | cap (opts : List Opt) (args : DevCaps.CapArgs)
      (parsed : DevCaps.parseArgs idle opts = .ret args idle) (typed : 0 ≤ args.capType)
      (raw : args.prFormat = 'B' ∨ args.prFormat = 'H')
  | reg (opts : List Opt) (args : RegDump.RegArgs)
      (parsed : RegDump.parseArgs idle opts = .ret args idle)
      (raw : args.prFormat = 'B' ∨ args.prFormat = 'H')
  | obj (e : QueryObj.ObjNameFunc) (known : e ∈ QueryObj.queryFuncs) (opts : List Opt)
      (args : QueryObj.ObjArgs)
      (parsed : QueryObj.parseArgs idle (some e.objName.toList) opts = .ret args idle)

/-- The pretty printers. -/
structure Pretty where
  cap : DevCaps.Printcap → List u8 → List Line
  reg : RegDump.PrintReg → List u8 → List Line

namespace RawQuery

/-- The command. -/
def run {σ : Type} (q : RawQuery) (K : Sys σ) (pretty : Pretty) (w : World σ) : Outcome σ Int :=
  match q with
  | cap opts .. => DevCaps.doDevcap K pretty.cap w opts
  | reg opts .. => RegDump.doReg K pretty.reg w opts
  | obj e _ opts .. => QueryObj.queryObj K w (some e.objName.toList) opts

/-- Whether it asks for -B. -/
def binary : RawQuery → Bool
  | cap _ args .. => args.prFormat = 'B'
  | reg _ args .. => args.prFormat = 'B'
  | obj _ _ _ args _ => args.binFormat

/-- Where the structure starts in the response. -/
def offset : RawQuery → Nat
  | cap .. => QueryHcaCapOut.capability
  | reg .. => AccessRegisterOut.registerData
  | obj .. => 0

/-- The bytes of the structure, on a device with so many diagnostic counters. -/
def structBytes (counters : Nat) : RawQuery → Option Nat
  | cap _ args .. => capStructBytes counters (args.capType.toNat % 2 ^ 15)
  | reg _ args .. => some (RegDump.getRegSize (BitVec.ofInt 32 args.regId).toNat)
  | obj e .. => some (objStructBytes e.objName)

/-- The structure in a response; a response that is cut short counts as continued with zeroes. -/
def struct (counters : Nat) (q : RawQuery) (cmd : Rpc) : Option (List u8) :=
  (q.structBytes counters).map fun n => load (overlay cmd.reply zeroMem) q.offset n

/-- A run of the query that succeeds: the one command it sends, which succeeds, and what it
    prints. -/
def Answered {σ : Type} (q : RawQuery) (K : Sys σ) (pretty : Pretty) (w : World (σ × List Rpc))
    (cmd : Rpc) (printed : List Line) : Prop :=
  ∃ v, q.run K.recorded pretty w = .ret 0 v ∧ v.sys.2 = w.sys.2 ++ [cmd] ∧
    cmdRet cmd.ret (overlay cmd.reply zeroMem) = 0 ∧ v.out = w.out ++ printed

/-- The bytes dumped. -/
def dumpBytes : RawQuery → Nat
  | cap .. => DevCaps.capBytes
  | reg _ args .. => RegDump.getRegSize (BitVec.ofInt 32 args.regId).toNat
  | obj e .. => e.objFunc.outSz

end RawQuery

/-! ## Runs -/

section Runs

variable {σ : Type} {K : Sys σ}

/-- `query_caps` with a cleared buffer: one command, and whether it finds a capability. -/
theorem queryCaps_run {w : World (σ × List Rpc)} {opmod : BitVec 16} {block : Mem}
    {r : DevCaps.CapsResult (σ × List Rpc)}
    (hr : DevCaps.queryCaps K.recorded w opmod (memset0 block QueryHcaCapOut.szBytes) = r) :
    let req := load (DevCaps.queryCapsIn opmod) 0 QueryHcaCapIn.szBytes
    let answer := K.rpc w.sys.1 req QueryHcaCapOut.szBytes
    r.w.sys.2 = w.sys.2 ++ [⟨req, QueryHcaCapOut.szBytes, answer.1, answer.2.1⟩] ∧
      (r.found = true ↔ cmdRet answer.1 (overlay answer.2.1 zeroMem) = 0) ∧
      (r.found = true → r.w.out = w.out) ∧
      ∀ k, k < QueryHcaCapOut.szBytes → r.out k = overlay answer.2.1 zeroMem k := by
  intro req answer
  generalize hc : mlx5uCmd K.recorded w (DevCaps.queryCapsIn opmod) QueryHcaCapIn.szBytes
    (memset0 block QueryHcaCapOut.szBytes) QueryHcaCapOut.szBytes = c
  obtain ⟨hlog, hret, hout⟩ := mlx5uCmd_memset K w _ _
    (show QueryHcaCapIn.szBytes < 4294967296 by decide)
    (show QueryHcaCapOut.szBytes < 4294967296 by decide) (by decide) hc
  unfold DevCaps.queryCaps at hr
  dsimp only at hr
  rw [hc] at hr
  by_cases hzero : c.ret = 0
  · have hdone := mlx5uCmd_zero K.recorded (hc ▸ hzero)
    rw [hc] at hdone
    obtain ⟨hstatus, hsilent⟩ := hdone
    rw [if_neg (by simp [hzero, hstatus])] at hr
    subst hr
    exact ⟨hlog, iff_of_true rfl (hret.symm.trans hzero), fun _ => hsilent, hout⟩
  · rw [if_pos (Or.inl hzero)] at hr
    subst hr
    exact ⟨hlog, iff_of_false (by simp) fun h => hzero (hret.trans h), fun h => by simp at h, hout⟩

/-- The text of a capability in the buffer. -/
theorem showCap_raw {pretty : DevCaps.Printcap → List u8 → List Line} {args : DevCaps.CapArgs}
    {r : DevCaps.CapsResult σ} (raw : args.prFormat = 'B' ∨ args.prFormat = 'H') :
    DevCaps.showCap pretty args r = (0, r.w.print (dumpLine (args.prFormat = 'B')
      (DevCaps.capability r.out DevCaps.capBytes))) := by
  unfold DevCaps.showCap dumpLine
  rcases raw with h | h
  · simp [h]
  · simp [h]

/-- The cap command when the buffer is allocated. -/
theorem doDevcap_granted {pretty : DevCaps.Printcap → List u8 → List Line} {w : World σ}
    {opts : List Opt} {args : DevCaps.CapArgs} {block : Mem} {s : σ}
    (hm : K.malloc w.sys QueryHcaCapOut.szBytes = (some block, s))
    (parsed : DevCaps.parseArgs idle opts = .ret args idle) (typed : 0 ≤ args.capType)
    (raw : args.prFormat = 'B' ∨ args.prFormat = 'H') {r : DevCaps.CapsResult σ}
    (hr : DevCaps.queryCaps K ⟨s, w.out⟩ (DevCaps.opMod args.capType.toNat args.capMode)
      (memset0 block QueryHcaCapOut.szBytes) = r) :
    DevCaps.doDevcap K pretty w opts =
      if r.found then .ret 0 (r.w.print (dumpLine (args.prFormat = 'B')
        (DevCaps.capability r.out DevCaps.capBytes)))
      else .ret 1 r.w := by
  have hargs : ∀ w : World σ, DevCaps.parseArgs w opts = .ret args w :=
    optionLoop_idle capOption_idle parsed
  unfold DevCaps.doDevcap
  dsimp only
  rw [hm]
  dsimp only
  rw [hargs, Outcome.bind_ret, if_pos typed, hr, showCap_raw raw]

/-- The cap command when it succeeds: 256 bytes of the response. -/
theorem doDevcap_run {pretty : DevCaps.Printcap → List u8 → List Line}
    {w v : World (σ × List Rpc)} {opts : List Opt} {args : DevCaps.CapArgs}
    (parsed : DevCaps.parseArgs idle opts = .ret args idle) (typed : 0 ≤ args.capType)
    (raw : args.prFormat = 'B' ∨ args.prFormat = 'H')
    (hrun : DevCaps.doDevcap K.recorded pretty w opts = .ret 0 v) :
    ∃ cmd, v.sys.2 = w.sys.2 ++ [cmd] ∧
      v.out = w.out ++ [dumpLine (args.prFormat = 'B') (load (overlay cmd.reply zeroMem)
        QueryHcaCapOut.capability DevCaps.capBytes)] := by
  cases hm : (K.recorded.malloc w.sys QueryHcaCapOut.szBytes).1 with
  | none =>
      unfold DevCaps.doDevcap at hrun
      dsimp only at hrun
      rw [hm] at hrun
      injection hrun with hret
      exact absurd hret (by decide)
  | some block =>
      generalize hr : DevCaps.queryCaps K.recorded
        ⟨(K.recorded.malloc w.sys QueryHcaCapOut.szBytes).2, w.out⟩
        (DevCaps.opMod args.capType.toNat args.capMode)
        (memset0 block QueryHcaCapOut.szBytes) = r
      obtain ⟨hlog, -, hsilent, hbytes⟩ := queryCaps_run hr
      rw [doDevcap_granted (Prod.ext hm rfl) parsed typed raw hr] at hrun
      split_ifs at hrun with hfound
      · injection hrun with _ hv
        subst hv
        refine ⟨_, hlog, ?_⟩
        show r.w.out ++ [_] = w.out ++ [_]
        rw [hsilent hfound]
        refine congrArg (fun b => w.out ++ [dumpLine _ b]) (load_congr fun k hk => hbytes _ ?_)
        have hk : k < 256 := hk
        show 16 + k < 4112
        omega
      · injection hrun with hret
        exact absurd hret (by decide)

/-- An access that succeeds was granted both its buffers. -/
theorem accessReg_granted {w : World (σ × List Rpc)} {dataIn dataOut : Mem} {n m : Nat}
    (hn : n < 2147483632) (hm : m < 2147483632) {regId : BitVec 16} {arg write : Int}
    (h : (mlx5AccessReg K.recorded w dataIn n dataOut m regId arg write).err = 0) :
    ∃ b s c t, K.malloc w.sys.1 (16 + n) = (some b, s) ∧ K.malloc s (16 + m) = (some c, t) := by
  have hin : toSize (toInt (AccessRegisterIn.szBytes + (n : Int))) = 16 + n := accessRegSize hn
  have hout : toSize (toInt (AccessRegisterOut.szBytes + (m : Int))) = 16 + m := accessRegSize hm
  unfold mlx5AccessReg at h
  dsimp only at h
  rw [hin, hout] at h
  split at h
  · next b c hb hc =>
      exact ⟨b, (K.malloc w.sys.1 (16 + n)).2, c, (K.malloc _ (16 + m)).2, Prod.ext hb rfl,
        Prod.ext hc rfl⟩
  · exact absurd h (show -enomem ≠ 0 by decide)

/-- What is printed of a register. -/
theorem showReg_raw {pretty : RegDump.PrintReg → List u8 → List Line} {w : World σ}
    {prFormat : Char} {regId : Nat} {out : Mem} (raw : prFormat = 'B' ∨ prFormat = 'H') :
    RegDump.showReg pretty w prFormat regId out =
      w.print (dumpLine (prFormat = 'B') (load out 0 (RegDump.getRegSize regId))) := by
  unfold RegDump.showReg dumpLine
  rcases raw with h | h
  · simp [h]
  · simp [h]

/-- No register is larger than the document. -/
theorem getRegSize_le (regId : Nat) : RegDump.getRegSize regId ≤ RegDump.documentBytes := by
  have hall : ∀ r ∈ RegDump.regs, r.size ≤ RegDump.documentBytes := by decide
  unfold RegDump.getRegSize
  cases hfind : RegDump.findReg regId with
  | none => exact Nat.le_refl _
  | some r => exact hall r (List.mem_of_find?_eq_some hfind)

/-- The reg command when it succeeds: the bytes of the register in the response. -/
theorem doReg_run {pretty : RegDump.PrintReg → List u8 → List Line} {w v : World (σ × List Rpc)}
    {opts : List Opt} {args : RegDump.RegArgs}
    (parsed : RegDump.parseArgs idle opts = .ret args idle)
    (raw : args.prFormat = 'B' ∨ args.prFormat = 'H')
    (hrun : RegDump.doReg K.recorded pretty w opts = .ret 0 v) :
    ∃ cmd, v.sys.2 = w.sys.2 ++ [cmd] ∧
      v.out = w.out ++ [dumpLine (args.prFormat = 'B') (load (overlay cmd.reply zeroMem)
        AccessRegisterOut.registerData
        (RegDump.getRegSize (BitVec.ofInt 32 args.regId).toNat))] := by
  have hargs := regArgs_idle parsed w
  unfold RegDump.doReg RegDump.mlx5RegDump at hrun
  rw [hargs, Outcome.bind_ret] at hrun
  dsimp only at hrun
  generalize hr : mlx5AccessReg K.recorded w (RegDump.regDumpData (BitVec.ofInt 32 args.port))
    RegDump.documentBytes zeroMem RegDump.documentBytes
    ((BitVec.ofInt 32 args.regId).setWidth 16) (toInt (BitVec.ofInt 32 args.argument).toNat) 0 =
      r at hrun
  by_cases herr : r.err = 0
  · rw [if_neg (not_not.mpr herr), showReg_raw raw] at hrun
    have hdoc : RegDump.documentBytes < 2147483632 := by decide
    obtain ⟨b, s, c, t, hb, hc⟩ := accessReg_granted hdoc hdoc (hr ▸ herr)
    obtain ⟨req, ret, reply, hlog, -, -, -, hdata⟩ :=
      accessReg_handed K w _ _ hdoc hdoc hb hc _ _ _ hr
    have hsilent := mlx5AccessReg_silent K.recorded (hr ▸ herr)
    rw [hr] at hsilent
    injection hrun with _ hv
    subst hv
    have hreg := load_le (getRegSize_le (BitVec.ofInt 32 args.regId).toNat) (hdata herr).1
    refine ⟨_, hlog, ?_⟩
    show r.w.out ++ [_] = _
    rw [hsilent, hreg]
  · rw [if_pos herr] at hrun
    injection hrun with hret
    exact absurd hret herr

/-- The obj command when it succeeds: the fixed part of the response, and nothing else where the
    device accepted the command. -/
theorem queryObj_run {e : QueryObj.ObjNameFunc} (known : e ∈ QueryObj.queryFuncs)
    {w v : World (σ × List Rpc)} {opts : List Opt} {args : QueryObj.ObjArgs}
    (parsed : QueryObj.parseArgs idle (some e.objName.toList) opts = .ret args idle)
    (hrun : QueryObj.queryObj K.recorded w (some e.objName.toList) opts = .ret 0 v) :
    ∃ cmd, v.sys.2 = w.sys.2 ++ [cmd] ∧
      (cmdRet cmd.ret (overlay cmd.reply zeroMem) = 0 →
        v.out = w.out ++ [dumpLine args.binFormat (load (overlay cmd.reply zeroMem) 0
          e.objFunc.outSz)]) := by
  have hargs : QueryObj.parseArgs w (some e.objName.toList) opts = .ret args w :=
    optionLoop_idle objOption_idle parsed w
  obtain ⟨hin, hout, hpos⟩ := queryFuncs_sizes e known
  unfold QueryObj.queryObj at hrun
  rw [QueryObj.getQueryFunc_mem known, hargs, Outcome.bind_ret] at hrun
  dsimp only at hrun
  cases hm : (K.recorded.malloc w.sys e.objFunc.outSz).1 with
  | none =>
      rw [hm] at hrun
      injection hrun with hret
      exact absurd hret (by decide)
  | some block =>
      rw [hm] at hrun
      dsimp only at hrun
      generalize hc : mlx5uCmd K.recorded _ _ _ _ _ = c at hrun
      obtain ⟨hlog, hret, hbytes⟩ := mlx5uCmd_memset K _ _ _ hin hout hpos hc
      by_cases hneg : c.ret < 0
      · rw [if_pos hneg] at hrun
        injection hrun with hone
        exact absurd hone (by decide)
      rw [if_neg hneg] at hrun
      injection hrun with _ hv
      -- a warning does not hide the command
      have hlog' : v.sys.2 = c.w.sys.2 := by
        rw [← hv]
        split_ifs <;> rfl
      refine ⟨_, hlog'.trans hlog, fun hok => ?_⟩
      have hzero : c.ret = 0 := hret.trans hok
      have hdone := (mlx5uCmd_zero K.recorded (hc ▸ hzero)).2
      rw [hc] at hdone
      rw [if_neg (by omega)] at hv
      rw [← hv]
      show c.w.out ++ [_] = _
      rw [hdone]
      refine congrArg (fun b => w.out ++ [dumpLine _ b]) (load_congr fun k hk => ?_)
      rw [Nat.zero_add]
      exact hbytes k hk

end Runs

/-- A query that succeeds prints one dump: its bytes of the response, from where its structure
    starts. -/
theorem RawQuery.Answered.prints {σ : Type} {K : Sys σ} {q : RawQuery} {pretty : Pretty}
    {w : World (σ × List Rpc)} {cmd : Rpc} {printed : List Line}
    (h : q.Answered K pretty w cmd printed) :
    printed = [dumpLine q.binary (load (overlay cmd.reply zeroMem) q.offset q.dumpBytes)] := by
  obtain ⟨v, hrun, hlog, hok, hout⟩ := h
  suffices hdump : v.out = w.out ++
      [dumpLine q.binary (load (overlay cmd.reply zeroMem) q.offset q.dumpBytes)] from
    List.append_cancel_left (hout.symm.trans hdump)
  have hsame : ∀ {sent}, v.sys.2 = w.sys.2 ++ [sent] → sent = cmd := fun hsent =>
    List.head_eq_of_cons_eq (List.append_cancel_left (hsent.symm.trans hlog))
  cases q with
  | cap opts args parsed typed raw =>
      obtain ⟨sent, hsent, hdump⟩ := doDevcap_run parsed typed raw hrun
      obtain rfl := hsame hsent
      exact hdump
  | reg opts args parsed raw =>
      obtain ⟨sent, hsent, hdump⟩ := doReg_run parsed raw hrun
      obtain rfl := hsame hsent
      exact hdump
  | obj e known opts args parsed =>
      obtain ⟨sent, hsent, hdump⟩ := queryObj_run known parsed hrun
      obtain rfl := hsame hsent
      exact hdump hok

/-- A device that answers with these bytes: the cap command prints a dump of them. -/
theorem cap_answers {opts : List Opt} {args : DevCaps.CapArgs}
    (parsed : DevCaps.parseArgs idle opts = .ret args idle) (typed : 0 ≤ args.capType)
    (raw : args.prFormat = 'B' ∨ args.prFormat = 'H') (pretty : Pretty) (reply : List u8)
    (hok : cmdRet 0 (overlay reply zeroMem) = 0) :
    ∃ cmd printed, cmd.reply = reply ∧ (RawQuery.cap opts args parsed typed raw).Answered
      (scripted fun _ => (0, reply)) pretty ⟨(0, []), []⟩ cmd printed := by
  generalize hr : DevCaps.queryCaps (scripted fun _ => (0, reply)).recorded ⟨(0, []), []⟩
    (DevCaps.opMod args.capType.toNat args.capMode) (memset0 zeroMem QueryHcaCapOut.szBytes) = r
  have hm : (scripted fun _ => (0, reply)).recorded.malloc (0, []) QueryHcaCapOut.szBytes =
      (some zeroMem, (0, [])) := rfl
  obtain ⟨hlog, hfound, hsilent, -⟩ := queryCaps_run hr
  have hfound := hfound.mpr hok
  have hrun : DevCaps.doDevcap _ pretty.cap ⟨(0, []), []⟩ opts = _ :=
    doDevcap_granted hm parsed typed raw hr
  rw [if_pos hfound] at hrun
  exact ⟨_, [_], rfl, _, hrun, hlog, hok, congrArg (· ++ [_]) (hsilent hfound)⟩

/-! ## What a dump is worth -/

namespace RawQuery

/-- Every dump is the whole structure. -/
def Complete (counters : Nat) (q : RawQuery) : Prop :=
  ∀ (σ : Type) (K : Sys σ) (pretty : Pretty) (w : World (σ × List Rpc)) (cmd : Rpc)
    (printed : List Line) (s : List u8), q.Answered K pretty w cmd printed →
    q.struct counters cmd = some s →
    ∃ line, printed = [line] ∧ readDump q.binary (dumpText line) = some s

/-- Responses with different structures have different dumps. -/
def Distinct (counters : Nat) (q : RawQuery) : Prop :=
  ∀ (σ τ : Type) (K : Sys σ) (L : Sys τ) (pretty : Pretty) (w : World (σ × List Rpc))
    (v : World (τ × List Rpc)) (cmd cmd' : Rpc) (printed printed' : List Line) (s s' : List u8),
    q.Answered K pretty w cmd printed → q.Answered L pretty v cmd' printed' →
    q.struct counters cmd = some s → q.struct counters cmd' = some s' → s ≠ s' →
    printed.map dumpText ≠ printed'.map dumpText

/-- The structure of the query has the 256 bytes that `cap` dumps, if it is one of `cap`. -/
def Whole (counters : Nat) : RawQuery → Prop
  | cap _ args .. => ∀ n, capStructBytes counters (args.capType.toNat % 2 ^ 15) = some n → n = 256
  | _ => True

/-- It has no more of them. -/
def Fits (counters : Nat) : RawQuery → Prop
  | cap _ args .. => ∀ n, capStructBytes counters (args.capType.toNat % 2 ^ 15) = some n → n ≤ 256
  | _ => True

variable {counters : Nat} {q : RawQuery}

/-- A register and an object are dumped to their last byte. -/
theorem whole_iff : q.Whole counters ↔ ∀ n, q.structBytes counters = some n → n = q.dumpBytes := by
  cases q with
  | cap opts args parsed typed raw => exact Iff.rfl
  | reg opts args parsed raw => exact iff_of_true trivial fun n hn => (Option.some.inj hn).symm
  | obj e known opts args parsed =>
      exact iff_of_true trivial fun n hn =>
        (Option.some.inj hn).symm.trans (queryFuncs_outSz e known).symm

theorem fits_iff : q.Fits counters ↔ ∀ n, q.structBytes counters = some n → n ≤ q.dumpBytes := by
  cases q with
  | cap opts args parsed typed raw => exact Iff.rfl
  | reg opts args parsed raw =>
      exact iff_of_true trivial fun n hn => Nat.le_of_eq (Option.some.inj hn).symm
  | obj e known opts args parsed =>
      exact iff_of_true trivial fun n hn => Nat.le_of_eq
        ((Option.some.inj hn).symm.trans (queryFuncs_outSz e known).symm)

theorem Whole.complete (h : q.Whole counters) : q.Complete counters := by
  intro σ K pretty w cmd printed s hanswered hs
  obtain ⟨n, hn, rfl⟩ := Option.map_eq_some_iff.mp hs
  refine ⟨_, hanswered.prints, ?_⟩
  rw [readDump_dumpLine, whole_iff.mp h n hn]

/-- The bytes of a structure that fits are among those dumped. -/
theorem Fits.distinct (h : q.Fits counters) : q.Distinct counters := by
  intro σ τ K L pretty w v cmd cmd' printed printed' s s' hanswered hanswered' hs hs' hne htext
  obtain ⟨n, hn, rfl⟩ := Option.map_eq_some_iff.mp hs
  obtain ⟨n', hn', rfl⟩ := Option.map_eq_some_iff.mp hs'
  obtain rfl : n = n' := Option.some.inj (hn.symm.trans hn')
  rw [hanswered.prints, hanswered'.prints] at htext
  have hbytes := dumpText_inj (List.head_eq_of_cons_eq htext)
  exact hne (load_le (fits_iff.mp h n hn) hbytes)

/-- A dump of 256 bytes is no dump of another number. -/
theorem Complete.whole (h : q.Complete counters) : q.Whole counters := by
  cases q with
  | cap opts args parsed typed raw =>
      intro n hn
      obtain ⟨cmd, printed, -, hanswered⟩ := cap_answers parsed typed raw
        ⟨fun _ _ => [], fun _ _ => []⟩ [] rfl
      obtain ⟨line, hline, hread⟩ := h _ _ _ _ cmd printed _ hanswered (congrArg (Option.map _) hn)
      rw [hanswered.prints] at hline
      rw [← List.head_eq_of_cons_eq hline, readDump_dumpLine] at hread
      have hlen := congrArg List.length (Option.some.inj hread)
      rw [load_length, load_length] at hlen
      exact hlen.symm
  | reg opts args parsed raw => exact trivial
  | obj e known opts args parsed => exact trivial

/-- A response with a 1 behind `m` zeroes. -/
def farReply (m : Nat) : List u8 := List.replicate m 0 ++ [1]

theorem overlay_farReply (m i : Nat) :
    overlay (farReply m) zeroMem i = if i = m then 1 else 0 := by
  unfold overlay farReply
  rw [List.getD_eq_getElem?_getD, List.getElem?_append, List.length_replicate,
    List.getElem?_replicate]
  rcases Nat.lt_trichotomy i m with hlt | rfl | hgt
  · simp [hlt, Nat.ne_of_lt hlt]
  · simp
  · have hone : [(1 : u8)][i - m]? = none := List.getElem?_eq_none (by simp; omega)
    rw [if_neg (Nat.lt_asymm hgt), hone, if_neg (Nat.ne_of_gt hgt)]
    rfl

/-- It differs from zeroes at its end only. -/
theorem farReply_front :
    load (overlay (farReply 272) zeroMem) 16 256 = load (overlay [] zeroMem) 16 256 := by
  refine load_congr fun k hk => ?_
  rw [overlay_farReply, if_neg (by omega)]
  rfl

theorem farReply_last {n : Nat} (hn : 256 < n) :
    load (overlay [] zeroMem) 16 n ≠ load (overlay (farReply 272) zeroMem) 16 n := by
  intro h
  have hlast := List.getElem_of_eq h (i := 256) (by rwa [load_length])
  rw [getElem_load, getElem_load, overlay_farReply, if_pos rfl] at hlast
  exact absurd hlast (show (0 : u8) ≠ 1 by decide)

/-- Where the structure is longer, two responses that differ at its end have one dump. -/
theorem Distinct.fits (h : q.Distinct counters) : q.Fits counters := by
  cases q with
  | cap opts args parsed typed raw =>
      intro n hn
      by_contra hlarge
      obtain ⟨cmd, printed, hreply, hanswered⟩ := cap_answers parsed typed raw
        ⟨fun _ _ => [], fun _ _ => []⟩ [] rfl
      obtain ⟨cmd', printed', hreply', hanswered'⟩ := cap_answers parsed typed raw
        ⟨fun _ _ => [], fun _ _ => []⟩ (farReply 272) rfl
      refine h _ _ _ _ _ _ _ cmd cmd' printed printed' _ _ hanswered hanswered'
        (congrArg (Option.map _) hn) (congrArg (Option.map _) hn) ?_ ?_
      · rw [hreply, hreply']
        exact farReply_last (Nat.not_le.mp hlarge)
      · rw [hanswered.prints, hanswered'.prints, hreply, hreply']
        exact congrArg (fun b => [dumpText (dumpLine _ b)]) farReply_front.symm
  | reg opts args parsed raw => exact trivial
  | obj e known opts args parsed => exact trivial

/-- **A raw dump is whole for every register and object, and for the capability structures of 256
    bytes.** There the bytes of -B are the structure, the words of -H are the same bytes, and
    responses with different structures have different dumps. The last of these holds for the
    smaller structures as well, and for no larger one. -/
theorem raw_dumps_iff (counters : Nat) (q : RawQuery) :
    (q.Complete counters ∧ q.Distinct counters ↔ q.Whole counters) ∧
      (q.Distinct counters ↔ q.Fits counters) := by
  have hfits : q.Whole counters → q.Fits counters := fun h =>
    fits_iff.mpr fun n hn => Nat.le_of_eq (whole_iff.mp h n hn)
  exact ⟨⟨fun h => h.1.whole, fun h => ⟨h.complete, (hfits h).distinct⟩⟩,
    fun h => h.fits, fun h => h.distinct⟩

theorem capId_7 : DevCaps.capId "7".toList = 7 := by
  have hname : DevCaps.getCapType "7".toList < 0 := by decide
  have hnumber : strtoul "7".toList = 7 := by decide
  unfold DevCaps.capId
  rw [if_pos hname, hnumber]
  decide

theorem capFlowTable_parsed : DevCaps.parseArgs idle [⟨'i', some "7".toList⟩, ⟨'B', none⟩] =
    .ret ⟨7, 1, 'B'⟩ idle := by
  show Outcome.ret (⟨DevCaps.capId "7".toList, 1, 'B'⟩ : DevCaps.CapArgs) idle = _
  rw [capId_7]

/-- `cap --id=7 -B`: the 4096 bytes of `flow_table_nic_cap`. -/
def capFlowTable : RawQuery := .cap _ _ capFlowTable_parsed (by decide) (Or.inl rfl)

/-- A response of zeroes, and one with a 1 in byte 256 of the structure, have the same dump. -/
theorem flow_table_cut :
    let pretty : Pretty := ⟨fun _ _ => [], fun _ _ => []⟩
    ∃ cmd cmd' printed,
      capFlowTable.Answered (scripted fun _ => (0, [])) pretty ⟨(0, []), []⟩ cmd printed ∧
      capFlowTable.Answered (scripted fun _ => (0, farReply 272)) pretty ⟨(0, []), []⟩ cmd'
        printed ∧
      capFlowTable.struct 0 cmd ≠ capFlowTable.struct 0 cmd' ∧
      ¬ (capFlowTable.Complete 0 ∧ capFlowTable.Distinct 0) := by
  intro pretty
  obtain ⟨cmd, printed, hreply, hanswered⟩ := cap_answers capFlowTable_parsed (by decide)
    (Or.inl rfl) pretty [] rfl
  obtain ⟨cmd', printed', hreply', hanswered'⟩ := cap_answers capFlowTable_parsed (by decide)
    (Or.inl rfl) pretty (farReply 272) rfl
  have hsame : printed' = printed := by
    rw [hanswered.prints, hanswered'.prints, hreply, hreply']
    exact congrArg (fun b => [dumpLine _ b]) farReply_front
  have hdiffer : capFlowTable.struct 0 cmd ≠ capFlowTable.struct 0 cmd' := by
    intro h
    have hload := Option.some.inj (show some (load (overlay cmd.reply zeroMem) 16 4096) =
      some (load (overlay cmd'.reply zeroMem) 16 4096) from h)
    rw [hreply, hreply'] at hload
    exact farReply_last (by decide) hload
  refine ⟨cmd, cmd', printed, hanswered, hsame ▸ hanswered', hdiffer, fun h => ?_⟩
  exact absurd (h.1.whole 4096 rfl) (by decide)

end RawQuery

end Mlx5ctl
