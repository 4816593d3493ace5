/-
  mlx5lib.c: protection domains, memory keys, and the buffer of a dump into a umem.

  A memory key is made of the index the device gives and 8 bits of the request; the index is
  taken out again for DESTROY_MKEY (`mkeyToIdx_mkey`). `eventStep` reads a journal entry as a
  step of a ledger: which PD, umem or key it creates or destroys. `Logs` gives the steps of a
  function.
-/
import Mlx5ctl.Journal
import Mlx5ctl.RscDump.Collect
import Mlx5ctl.Lib.Ledger

namespace Mlx5ctl.RscDump

open ByteMem CInt Ifc Ledger

variable {σ : Type} (K : UmemSys σ)

/-! ## Protection domains -/

/-- What `mlx5lib_alloc_pd` leaves behind. -/
structure PdResult (σ : Type) where
  err : Int
  pdn : u32
  w : World σ

/-- The mailbox of ALLOC_PD. -/
def allocPdIn (uid : BitVec 16) : Mem :=
  let inb := mlx5Set zeroMem 0 AllocPdIn.opcode MLX5_CMD_OP_ALLOC_PD
  mlx5Set inb 0 AllocPdIn.uid (uid.setWidth 32)

/-- `mlx5lib_alloc_pd(dev, &pdn, uid)` -/
def mlx5libAllocPd (w : World σ) (pdn : u32) (uid : BitVec 16) : PdResult σ :=
  let r := mlx5uCmd K.toSys w (allocPdIn uid) AllocPdIn.szBytes zeroMem AllocPdOut.szBytes
  if r.ret = 0 then ⟨r.ret, mlx5Get r.out 0 AllocPdOut.pd, r.w⟩ else ⟨r.ret, pdn, r.w⟩

/-- The mailbox of DEALLOC_PD. -/
def deallocPdIn (pdn : u32) (uid : BitVec 16) : Mem :=
  let inb := mlx5Set zeroMem 0 DeallocPdIn.opcode MLX5_CMD_OP_DEALLOC_PD
  let inb := mlx5Set inb 0 DeallocPdIn.pd pdn
  mlx5Set inb 0 DeallocPdIn.uid (uid.setWidth 32)

/-- `mlx5lib_dealloc_pd(dev, pdn, uid)` -/
def mlx5libDeallocPd (w : World σ) (pdn : u32) (uid : BitVec 16) : CmdResult σ :=
  mlx5uCmd K.toSys w (deallocPdIn pdn uid) DeallocPdIn.szBytes zeroMem DeallocPdOut.szBytes

/-! ## Memory keys -/

/-- `mlx5_mkey_to_idx(mkey)` -/
def mlx5MkeyToIdx (mkey : u32) : u32 := mkey >>> 8

/-- `mlx5_idx_to_mkey(mkey_idx)` -/
def mlx5IdxToMkey (mkeyIdx : u32) : u32 := mkeyIdx <<< 8

/-- The mailbox of CREATE_MKEY. -/
def createMkeyIn (pdn umemId : u32) (addr : u64) (len : u32) : Mem :=
  let inb := mlx5Set zeroMem 0 CreateMkeyIn.opcode MLX5_CMD_OP_CREATE_MKEY
  let mkc := CreateMkeyIn.memoryKeyMkeyEntry
  let inb := mlx5Set inb mkc Mkc.accessMode10 0x1
  let inb := mlx5Set inb mkc Mkc.umrEn 0
  let inb := mlx5Set inb mkc Mkc.pd pdn
  let inb := mlx5Set inb mkc Mkc.lr 1
  let inb := mlx5Set inb mkc Mkc.lw 1
  let inb := mlx5Set inb mkc Mkc.qpn 0xffffff
  let inb := mlx5Set64 inb mkc Mkc.startAddr addr
  let inb := mlx5Set64 inb mkc Mkc.len (len.setWidth 64)
  let inb := mlx5Set inb 0 CreateMkeyIn.mkeyUmemValid 1
  mlx5Set inb 0 CreateMkeyIn.mkeyUmemId umemId

/-- What `mlx5lib_create_umem_mkey` leaves behind. -/
structure MkeyResult (σ : Type) where
  err : Int
  mkey : u32
  w : World σ

/-- `mlx5lib_create_umem_mkey(dev, pdn, umem_id, addr, len, &mkey)` -/
def mlx5libCreateUmemMkey (w : World σ) (pdn umemId : u32) (addr : u64) (len : u32)
    (mkey : u32) : MkeyResult σ :=
  let inb := createMkeyIn pdn umemId addr len
  let r := mlx5uCmd K.toSys w inb CreateMkeyIn.szBytes zeroMem CreateMkeyOut.szBytes
  if r.ret ≠ 0 then ⟨r.ret, mkey, r.w⟩
  else
    let mkeyIdx := mlx5Get r.out 0 CreateMkeyOut.mkeyIndex
    ⟨0, mlx5Get inb 0 CreateMkeyIn.mkey70 ||| mlx5IdxToMkey mkeyIdx, r.w⟩

/-- The mailbox of DESTROY_MKEY. -/
def destroyMkeyIn (mkey : u32) : Mem :=
  let inb := mlx5Set zeroMem 0 DestroyMkeyIn.opcode MLX5_CMD_OP_DESTROY_MKEY
  mlx5Set inb 0 DestroyMkeyIn.mkeyIndex (mlx5MkeyToIdx mkey)

/-- `mlx5lib_destroy_mkey(dev, mkey)` -/
def mlx5libDestroyMkey (w : World σ) (mkey : u32) : World σ :=
  (mlx5uCmd K.toSys w (destroyMkeyIn mkey) DestroyMkeyIn.szBytes zeroMem
    DestroyMkeyOut.szBytes).w

/-! ## The buffer -/

/-- `UMEM_PAGE_SIZE` -/
def UMEM_PAGE_SIZE : Nat := 4096

/-- `ALIGN(x, a)`, on `size_t` -/
def align (x a : Nat) : Nat :=
  let mask : u64 := BitVec.ofNat 64 a - 1
  ((BitVec.ofNat 64 x + mask) &&& ~~~mask).toNat

/-- `sizeof(struct mlx5_umem_buff)` -/
def umemBuffBytes : Nat := 24

/-- `mlx5lib_alloc_umem_mkey_buff(dev, size, pdn)` -/
def mlx5libAllocUmemMkeyBuff (w : World σ) (size : Nat) (pdn : u32) :
    Option UmemBuff × World σ :=
  let r := K.malloc w.sys umemBuffBytes
  let w := { w with sys := r.2 }
  match r.1 with
  | none => (none, w.print (.errMsg "Failed to allocate umem_buff\n" []))
  | some _ =>
      let size := align size UMEM_PAGE_SIZE
      let r := K.memalign w.sys size
      let w := { w with sys := r.2 }
      match r.1 with
      | none => (none, w.print (.errMsg "memalign Failed with size %lu\n" [.int size]))
      | some (buff, _) =>
          let r := K.umemReg w.sys buff size
          let w := { w with sys := r.2 }
          if r.1 < 0 then
            (none, w.print (.errMsg "Failed to register umem buff %p, size %zu, err %d\n"
              [.int buff.toNat, .int size, .int r.1]))
          else
            let umemId : u32 := BitVec.ofInt 32 r.1
            let m := mlx5libCreateUmemMkey K w pdn umemId buff (BitVec.ofNat 32 size) 0
            if m.err ≠ 0 then
              let w := m.w.print (.errMsg "Failed to create umem mkey, err = %d\n" [.int m.err])
              (none, { w with sys := (K.umemUnreg w.sys umemId).2 })
            else (some ⟨buff, size, umemId, m.mkey⟩, m.w)

/-- `mlx5lib_free_umem_mkey_buff(dev, umem_buff)` -/
def mlx5libFreeUmemMkeyBuff (w : World σ) (umemBuff : UmemBuff) : World σ :=
  let w := mlx5libDestroyMkey K w umemBuff.umemMkey
  { w with sys := (K.umemUnreg w.sys umemBuff.umemId).2 }

/-! ## The resources in a journal -/

/-- A resource of the device, by its handle. -/
inductive Handle where
  | pd (pdn : Nat)
  | umem (umemId : u32)
  | mkey (mkeyIndex : Nat)
  deriving DecidableEq

/-- A field of the response, in a buffer that was cleared. -/
def Rpc.field (r : Rpc) (f : Field) : Nat :=
  (mlx5Get (overlay (r.reply.take r.outLen) zeroMem) 0 f).toNat

/-- What a command creates, if it succeeds, or destroys. -/
def commandStep (r : Rpc) : Option (Step Handle) :=
  if opcodeOf r.request = MLX5_CMD_OP_ALLOC_PD then
    if r.err = 0 then some (.acquire (.pd (Rpc.field r AllocPdOut.pd))) else none
  else if opcodeOf r.request = MLX5_CMD_OP_DEALLOC_PD then
    some (.release (.pd (requestField r.request 0 DeallocPdIn.pd).toNat))
  else if opcodeOf r.request = MLX5_CMD_OP_CREATE_MKEY then
    if r.err = 0 then some (.acquire (.mkey (Rpc.field r CreateMkeyOut.mkeyIndex))) else none
  else if opcodeOf r.request = MLX5_CMD_OP_DESTROY_MKEY then
    some (.release (.mkey (requestField r.request 0 DestroyMkeyIn.mkeyIndex).toNat))
  else none

/-- What an entry of the journal creates or destroys. A umem is created where `mlx5u_umem_reg`
    returns an id. -/
def eventStep : Event → Option (Step Handle)
  | .rpc r => commandStep r
  | .umemReg _ _ ret => if 0 ≤ ret then some (.acquire (.umem (BitVec.ofInt 32 ret))) else none
  | .umemUnreg umemId => some (.release (.umem umemId))
  | .malloc _ _ => none
  | .realloc _ _ => none
  | .memalign _ _ => none

/-- The steps of a journal. -/
def steps (l : List Event) : List (Step Handle) := l.filterMap eventStep

/-- From `w` to `v`, the steps of the journal are `l`. -/
def Logs (l : List (Step Handle)) (w v : World (σ × List Event)) : Prop :=
  ∃ new, events v = events w ++ new ∧ steps new = l

namespace Logs

variable {l m : List (Step Handle)} {u v w : World (σ × List Event)}

theorem of_sys (h : v.sys = w.sys) : Logs [] w v :=
  ⟨[], by unfold events; rw [h, List.append_nil], rfl⟩

theorem trans (h : Logs l u v) (h' : Logs m v w) : Logs (l ++ m) u w := by
  obtain ⟨new, hnew, rfl⟩ := h
  obtain ⟨new', hnew', rfl⟩ := h'
  exact ⟨new ++ new', by rw [hnew', hnew, List.append_assoc], List.filterMap_append⟩

/-- A function that only allocates and accesses registers has no steps. -/
theorem of_adds (h : Adds (Event.Only MLX5_CMD_OP_ACCESS_REG) w v) : Logs [] w v := by
  obtain ⟨new, hnew, honly⟩ := h
  refine ⟨new, hnew, List.filterMap_eq_nil_iff.mpr fun e he => ?_⟩
  have h := honly e he
  cases e with
  | malloc n g => rfl
  | realloc n g => rfl
  | memalign n g => rfl
  | rpc r =>
      have hopcode : opcodeOf r.request = MLX5_CMD_OP_ACCESS_REG := h
      show commandStep r = none
      unfold commandStep
      rw [hopcode]
      rfl
  | umemReg addr len ret => exact h.elim
  | umemUnreg umemId => exact h.elim

theorem one {e : Event} (h : events v = events w ++ [e]) {s : Option (Step Handle)}
    (hs : eventStep e = s) : Logs s.toList w v := by
  refine ⟨[e], h, ?_⟩
  unfold steps
  rw [List.filterMap_cons, hs]
  cases s <;> rfl

/-- Giving a umem back. -/
theorem unreg (K : UmemSys σ) (w : World (σ × List Event)) (umemId : u32) :
    Logs [.release (.umem umemId)] w { w with sys := (K.traced.umemUnreg w.sys umemId).2 } :=
  one (e := .umemUnreg umemId) (s := some (.release (.umem umemId))) rfl rfl

end Logs

/-- A set behind the opcode keeps it. -/
theorem opcode_set (p : Mem) (base : Nat) (f : Field) (v : u32) (h : 16 ≤ 8 * base + f.off) :
    mlx5Get (mlx5Set p base f v) 0 MboxIn.opcode = mlx5Get p 0 MboxIn.opcode := by
  have hopcode : 8 * 0 + MboxIn.opcode.off + MboxIn.opcode.sz = 16 := rfl
  apply BitVec.eq_of_toNat_eq
  rw [mlx5Get_num, mlx5Get_num]
  exact (mlx5Set_replaces p base f v).num_disjoint (by omega)

theorem opcode_set64 (p : Mem) (base : Nat) (d : Field64) (v : u64) (h : 16 ≤ 8 * base + d.off) :
    mlx5Get (mlx5Set64 p base d v) 0 MboxIn.opcode = mlx5Get p 0 MboxIn.opcode := by
  have hopcode : 8 * 0 + MboxIn.opcode.off + MboxIn.opcode.sz = 16 := rfl
  apply BitVec.eq_of_toNat_eq
  rw [mlx5Get_num, mlx5Get_num]
  exact (mlx5Set64_replaces p base d v).num_disjoint (by omega)

theorem opcode_allocPdIn (uid : BitVec 16) :
    mlx5Get (allocPdIn uid) 0 MboxIn.opcode = MLX5_CMD_OP_ALLOC_PD := by
  unfold allocPdIn
  rw [opcode_set _ _ _ _ (by decide)]
  decide

theorem opcode_deallocPdIn (pdn : u32) (uid : BitVec 16) :
    mlx5Get (deallocPdIn pdn uid) 0 MboxIn.opcode = MLX5_CMD_OP_DEALLOC_PD := by
  unfold deallocPdIn
  dsimp only
  rw [opcode_set _ _ _ _ (by decide), opcode_set _ _ _ _ (by decide)]
  decide

theorem opcode_createMkeyIn (pdn umemId : u32) (addr : u64) (len : u32) :
    mlx5Get (createMkeyIn pdn umemId addr len) 0 MboxIn.opcode = MLX5_CMD_OP_CREATE_MKEY := by
  unfold createMkeyIn
  dsimp only
  rw [opcode_set _ _ _ _ (by decide), opcode_set _ _ _ _ (by decide),
    opcode_set64 _ _ _ _ (by decide), opcode_set64 _ _ _ _ (by decide),
    opcode_set _ _ _ _ (by decide), opcode_set _ _ _ _ (by decide),
    opcode_set _ _ _ _ (by decide), opcode_set _ _ _ _ (by decide),
    opcode_set _ _ _ _ (by decide), opcode_set _ _ _ _ (by decide)]
  decide

theorem opcode_destroyMkeyIn (mkey : u32) :
    mlx5Get (destroyMkeyIn mkey) 0 MboxIn.opcode = MLX5_CMD_OP_DESTROY_MKEY := by
  unfold destroyMkeyIn
  dsimp only
  rw [opcode_set _ _ _ _ (by decide)]
  decide

/-! ## What each function logs -/

/-- A command with a cleared response buffer, and its entry in the journal. -/
theorem mlx5uCmd_cleared (w : World (σ × List Event)) (inb : Mem) {inlen outlen : Nat}
    (hin : inlen < 4294967296) {r : CmdResult (σ × List Event)}
    (hr : mlx5uCmd K.traced.toSys w inb inlen zeroMem outlen = r) :
    ∃ cmd : Rpc, events r.w = events w ++ [.rpc cmd] ∧ cmd.request = load inb 0 inlen ∧
      r.ret = cmd.err ∧ ∀ f, (mlx5Get r.out 0 f).toNat = Rpc.field cmd f := by
  have hlen : toU32 (inlen : Int) = inlen := toU32_natCast (by omega)
  refine ⟨rpcOf K ⟨w.sys.1, w.out⟩ inb inlen outlen, ?_, ?_, ?_, fun f => ?_⟩
  · rw [← hr]
    exact mlx5uCmd_events K w inb inlen zeroMem outlen
  · unfold rpcOf
    dsimp only
    rw [hlen]
  · rw [← hr]
    exact mlx5uCmd_err K w inb inlen (rfl : zeroMem 0 = 0) outlen
  · rw [← hr, mlx5uCmd_out]
    rfl

/-- The opcode of a request is that of its mailbox. -/
theorem opcodeOf_load (inb : Mem) {n : Nat} (hn : 2 ≤ n) :
    opcodeOf (load inb 0 n) = mlx5Get inb 0 MboxIn.opcode := by
  have hopcode : 8 * 0 + MboxIn.opcode.off + MboxIn.opcode.sz = 16 := rfl
  exact requestField_load inb (by omega)

theorem allocPd_logs (w : World (σ × List Event)) (pdn : u32) (uid : BitVec 16)
    {r : PdResult (σ × List Event)} (hr : mlx5libAllocPd K.traced w pdn uid = r) :
    Logs (if r.err = 0 then [.acquire (.pd r.pdn.toNat)] else []) w r.w ∧
      (r.err = 0 → r.pdn.toNat < 2 ^ 24) := by
  generalize hc : mlx5uCmd K.traced.toSys w (allocPdIn uid) AllocPdIn.szBytes zeroMem
    AllocPdOut.szBytes = c
  obtain ⟨cmd, hjournal, hrequest, hret, hfield⟩ := mlx5uCmd_cleared K w (allocPdIn uid)
    (show AllocPdIn.szBytes < 4294967296 by decide) hc
  have hopcode : opcodeOf cmd.request = MLX5_CMD_OP_ALLOC_PD := by
    rw [hrequest, opcodeOf_load _ (by decide), opcode_allocPdIn]
  have hstep : eventStep (.rpc cmd) =
      if cmd.err = 0 then some (.acquire (.pd (Rpc.field cmd AllocPdOut.pd))) else none := by
    show commandStep cmd = _
    unfold commandStep
    rw [if_pos hopcode]
  have hlogs := Logs.one hjournal hstep
  unfold mlx5libAllocPd at hr
  dsimp only at hr
  rw [hc] at hr
  by_cases hzero : c.ret = 0
  · rw [if_pos hzero] at hr
    subst hr
    rw [if_pos (hret.symm.trans hzero)] at hlogs
    dsimp only
    rw [if_pos hzero, hfield]
    refine ⟨hlogs, fun _ => ?_⟩
    rw [← hfield]
    exact mlx5Get_lt c.out 0 AllocPdOut.pd
  · rw [if_neg hzero] at hr
    subst hr
    rw [if_neg (fun h => hzero (hret.trans h))] at hlogs
    dsimp only
    rw [if_neg hzero]
    exact ⟨hlogs, fun h => absurd h hzero⟩

theorem deallocPd_logs (w : World (σ × List Event)) {pdn : u32} (hpdn : pdn.toNat < 2 ^ 24)
    (uid : BitVec 16) :
    Logs [.release (.pd pdn.toNat)] w (mlx5libDeallocPd K.traced w pdn uid).w := by
  obtain ⟨cmd, hjournal, hrequest, -, -⟩ := mlx5uCmd_cleared K w (deallocPdIn pdn uid)
    (show DeallocPdIn.szBytes < 4294967296 by decide)
    (rfl : mlx5uCmd _ _ _ _ _ DeallocPdOut.szBytes = _)
  have hopcode : opcodeOf cmd.request = MLX5_CMD_OP_DEALLOC_PD := by
    rw [hrequest, opcodeOf_load _ (by decide), opcode_deallocPdIn]
  have hpd : (requestField cmd.request 0 DeallocPdIn.pd).toNat = pdn.toNat := by
    have hget := mlx5Get_set_ne (mlx5Set (mlx5Set zeroMem 0 DeallocPdIn.opcode
      MLX5_CMD_OP_DEALLOC_PD) 0 DeallocPdIn.pd pdn) 0 DeallocPdIn.uid DeallocPdIn.pd
      (uid.setWidth 32) (by decide)
    rw [hrequest, requestField_load _ (by decide)]
    refine (congrArg BitVec.toNat hget).trans ((mlx5Get_set_self _ 0 DeallocPdIn.pd pdn).trans ?_)
    exact Nat.mod_eq_of_lt hpdn
  have hstep : eventStep (.rpc cmd) = some (.release (.pd pdn.toNat)) := by
    show commandStep cmd = _
    unfold commandStep
    rw [hopcode, if_neg (by decide), if_pos rfl, hpd]
  exact Logs.one hjournal hstep

/-- The index comes out of the key as it went in. -/
theorem mkeyToIdx_mkey {variant idx : u32} (hv : variant.toNat < 2 ^ 8) (hi : idx.toNat < 2 ^ 24) :
    mlx5MkeyToIdx (variant ||| mlx5IdxToMkey idx) = idx := by
  have hshift : idx.toNat <<< 8 % 2 ^ 32 = idx.toNat <<< 8 := by
    rw [Nat.shiftLeft_eq]
    omega
  apply BitVec.eq_of_toNat_eq
  unfold mlx5MkeyToIdx mlx5IdxToMkey
  rw [BitVec.toNat_ushiftRight, BitVec.toNat_or, BitVec.toNat_shiftLeft, hshift, Nat.or_comm,
    ← Nat.shiftLeft_add_eq_or_of_lt hv, Nat.shiftRight_eq_div_pow, Nat.shiftLeft_eq]
  omega

theorem createUmemMkey_logs (w : World (σ × List Event)) (pdn umemId : u32) (addr : u64)
    (len mkey : u32) {r : MkeyResult (σ × List Event)}
    (hr : mlx5libCreateUmemMkey K.traced w pdn umemId addr len mkey = r) :
    Logs (if r.err = 0 then [.acquire (.mkey (mlx5MkeyToIdx r.mkey).toNat)] else []) w r.w ∧
      (r.err = 0 → (mlx5MkeyToIdx r.mkey).toNat < 2 ^ 24) := by
  generalize hc : mlx5uCmd K.traced.toSys w (createMkeyIn pdn umemId addr len)
    CreateMkeyIn.szBytes zeroMem CreateMkeyOut.szBytes = c
  obtain ⟨cmd, hjournal, hrequest, hret, hfield⟩ := mlx5uCmd_cleared K w
    (createMkeyIn pdn umemId addr len)
    (show CreateMkeyIn.szBytes < 4294967296 by decide) hc
  have hopcode : opcodeOf cmd.request = MLX5_CMD_OP_CREATE_MKEY := by
    rw [hrequest, opcodeOf_load _ (by decide), opcode_createMkeyIn]
  have hstep : eventStep (.rpc cmd) =
      if cmd.err = 0 then some (.acquire (.mkey (Rpc.field cmd CreateMkeyOut.mkeyIndex)))
      else none := by
    show commandStep cmd = _
    unfold commandStep
    rw [hopcode, if_neg (by decide), if_neg (by decide), if_pos rfl]
  have hlogs := Logs.one hjournal hstep
  unfold mlx5libCreateUmemMkey at hr
  dsimp only at hr
  rw [hc] at hr
  by_cases hzero : c.ret = 0
  · rw [if_neg (not_not.mpr hzero)] at hr
    subst hr
    have hidx := mkeyToIdx_mkey (mlx5Get_lt (createMkeyIn pdn umemId addr len) 0
      CreateMkeyIn.mkey70) (mlx5Get_lt c.out 0 CreateMkeyOut.mkeyIndex)
    rw [if_pos (hret.symm.trans hzero), ← hfield] at hlogs
    dsimp only
    rw [if_pos rfl, hidx]
    exact ⟨hlogs, fun _ => mlx5Get_lt c.out 0 CreateMkeyOut.mkeyIndex⟩
  · rw [if_pos hzero] at hr
    subst hr
    rw [if_neg (fun h => hzero (hret.trans h))] at hlogs
    dsimp only
    rw [if_neg hzero]
    exact ⟨hlogs, fun h => absurd h hzero⟩

theorem destroyMkey_logs (w : World (σ × List Event)) {mkey : u32}
    (hmkey : (mlx5MkeyToIdx mkey).toNat < 2 ^ 24) :
    Logs [.release (.mkey (mlx5MkeyToIdx mkey).toNat)] w (mlx5libDestroyMkey K.traced w mkey) := by
  obtain ⟨cmd, hjournal, hrequest, -, -⟩ := mlx5uCmd_cleared K w (destroyMkeyIn mkey)
    (show DestroyMkeyIn.szBytes < 4294967296 by decide)
    (rfl : mlx5uCmd _ _ _ _ _ DestroyMkeyOut.szBytes = _)
  have hopcode : opcodeOf cmd.request = MLX5_CMD_OP_DESTROY_MKEY := by
    rw [hrequest, opcodeOf_load _ (by decide), opcode_destroyMkeyIn]
  have hidx : (requestField cmd.request 0 DestroyMkeyIn.mkeyIndex).toNat =
      (mlx5MkeyToIdx mkey).toNat := by
    rw [hrequest, requestField_load _ (by decide)]
    exact (mlx5Get_set_self _ 0 DestroyMkeyIn.mkeyIndex _).trans (Nat.mod_eq_of_lt hmkey)
  have hstep : eventStep (.rpc cmd) = some (.release (.mkey (mlx5MkeyToIdx mkey).toNat)) := by
    show commandStep cmd = _
    unfold commandStep
    rw [hopcode, if_neg (by decide), if_neg (by decide), if_neg (by decide), if_pos rfl, hidx]
  exact Logs.one hjournal hstep

/-- The buffer of a dump is a umem and a key for it; where it cannot be made, the umem is given
    back. -/
theorem allocUmemMkeyBuff_logs (w : World (σ × List Event)) (size : Nat) (pdn : u32) :
    ((mlx5libAllocUmemMkeyBuff K.traced w size pdn).1 = none →
      ∃ hs umemId, hs <+: [Handle.umem umemId] ∧
        Logs (bracket hs) w (mlx5libAllocUmemMkeyBuff K.traced w size pdn).2) ∧
    ∀ b, (mlx5libAllocUmemMkeyBuff K.traced w size pdn).1 = some b →
      (mlx5MkeyToIdx b.umemMkey).toNat < 2 ^ 24 ∧
      Logs [.acquire (.umem b.umemId), .acquire (.mkey (mlx5MkeyToIdx b.umemMkey).toNat)] w
        (mlx5libAllocUmemMkeyBuff K.traced w size pdn).2 := by
  unfold mlx5libAllocUmemMkeyBuff
  dsimp only
  generalize hm : K.traced.malloc w.sys umemBuffBytes = m
  have h₁ : Logs [] w ⟨m.2, w.out⟩ := by
    rw [← hm]
    exact Logs.one (s := none) rfl rfl
  cases m.1 with
  | none =>
      exact ⟨fun _ => ⟨[], 0, List.nil_prefix, h₁.trans (.of_sys rfl)⟩, fun b hb => by cases hb⟩
  | some block =>
      dsimp only
      generalize hg : K.traced.memalign m.2 (align size UMEM_PAGE_SIZE) = g
      have h₂ : Logs [] w ⟨g.2, w.out⟩ := by
        rw [← hg]
        exact h₁.trans (Logs.one (s := none) rfl rfl)
      cases g.1 with
      | none =>
          exact ⟨fun _ => ⟨[], 0, List.nil_prefix, h₂.trans (.of_sys rfl)⟩,
            fun b hb => by cases hb⟩
      | some block =>
          obtain ⟨buff, -⟩ := block
          dsimp only
          generalize hu : K.traced.umemReg g.2 buff (align size UMEM_PAGE_SIZE) = u
          have h₃ : Logs (if 0 ≤ u.1 then some (.acquire (.umem (BitVec.ofInt 32 u.1)))
              else none).toList w ⟨u.2, w.out⟩ := by
            rw [← hu]
            exact h₂.trans (Logs.one (e := .umemReg buff (align size UMEM_PAGE_SIZE)
              (K.umemReg g.2.1 buff (align size UMEM_PAGE_SIZE)).1) rfl rfl)
          by_cases hneg : u.1 < 0
          · rw [if_pos hneg]
            rw [if_neg (by omega)] at h₃
            exact ⟨fun _ => ⟨[], 0, List.nil_prefix, h₃.trans (.of_sys rfl)⟩,
              fun b hb => by cases hb⟩
          · rw [if_neg hneg]
            rw [if_pos (by omega)] at h₃
            generalize hk : mlx5libCreateUmemMkey K.traced ⟨u.2, w.out⟩ pdn (BitVec.ofInt 32 u.1)
              buff (BitVec.ofNat 32 (align size UMEM_PAGE_SIZE)) 0 = k
            obtain ⟨h₄, hidx⟩ := createUmemMkey_logs K _ _ _ _ _ _ hk
            by_cases herr : k.err = 0
            · rw [if_neg (not_not.mpr herr)]
              rw [if_pos herr] at h₄
              refine ⟨fun h => (by cases h), fun b hb => ?_⟩
              cases hb
              exact ⟨hidx herr, h₃.trans h₄⟩
            · rw [if_pos herr]
              rw [if_neg herr] at h₄
              refine ⟨fun _ => ⟨[.umem (BitVec.ofInt 32 u.1)], _, List.prefix_rfl, ?_⟩,
                fun b hb => by cases hb⟩
              exact (h₃.trans h₄).trans (Logs.unreg K (k.w.print _) _)

/-- It is given back key first. -/
theorem freeUmemMkeyBuff_logs (w : World (σ × List Event)) {b : UmemBuff}
    (hidx : (mlx5MkeyToIdx b.umemMkey).toNat < 2 ^ 24) :
    Logs [.release (.mkey (mlx5MkeyToIdx b.umemMkey).toNat), .release (.umem b.umemId)] w
      (mlx5libFreeUmemMkeyBuff K.traced w b) :=
  (destroyMkey_logs K w hidx).trans (Logs.unreg K _ _)

end Mlx5ctl.RscDump
