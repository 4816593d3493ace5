/-
  rscdump.c and mlx5lib.c: the calls of setting a umem up and taking it down.

  These are allocations, the registration of the umem, and commands on the PD and the key.
  `UmemCalls A S` says that all of these are of kind `A`, where `S` is the size of the umem; then a
  setup and a teardown make calls of kind `A` only (`setupUmem_leads`, `teardownUmem_leads`), and
  in the journal the same goes for their entries (`setupUmem_adds`, `teardownUmem_adds`).
-/
import Mlx5ctl.RscDump.MkeyHandles
import Mlx5ctl.Calls

namespace Mlx5ctl.RscDump

open ByteMem CInt Ifc Transition

variable {σ : Type} (K : UmemSys σ)

/-- The length of a key in the mailbox of CREATE_MKEY. -/
def keyLen (req : List u8) : Nat :=
  (mlx5Get64 (overlay req zeroMem) CreateMkeyIn.memoryKeyMkeyEntry Mkc.len).toNat

/-- The entries for a umem of `S` bytes are of kind `A`. -/
structure UmemKind (A : Event → Prop) (S : Nat) : Prop where
  malloc (n : Nat) (granted : Bool) : A (.malloc n granted)
  memalign (granted : Bool) : A (.memalign S granted)
  umemReg (addr : u64) (ret : Int) : A (.umemReg addr S ret)
  umemUnreg (umemId : u32) : A (.umemUnreg umemId)
  mkey (r : Rpc) : opcodeOf r.request = MLX5_CMD_OP_CREATE_MKEY →
    keyLen r.request = S % 4294967296 → A (.rpc r)
  other (r : Rpc) : opcodeOf r.request ∈ [MLX5_CMD_OP_ALLOC_PD, MLX5_CMD_OP_DEALLOC_PD,
    MLX5_CMD_OP_DESTROY_MKEY] → A (.rpc r)

/-- The calls for a umem of `S` bytes are of kind `A`. -/
structure UmemCalls (A : Call → Prop) (S : Nat) : Prop where
  malloc (n : Nat) : A (.malloc n)
  memalign : A (.memalign S)
  umemReg (addr : u64) : A (.umemReg addr S)
  umemUnreg (umemId : u32) : A (.umemUnreg umemId)
  mkey (req : List u8) (n : Nat) : opcodeOf req = MLX5_CMD_OP_CREATE_MKEY →
    keyLen req = S % 4294967296 → A (.rpc req n)
  other (req : List u8) (n : Nat) : opcodeOf req ∈ [MLX5_CMD_OP_ALLOC_PD, MLX5_CMD_OP_DEALLOC_PD,
    MLX5_CMD_OP_DESTROY_MKEY] → A (.rpc req n)

theorem UmemKind.calls {B : Event → Prop} {S : Nat} (h : UmemKind B S) :
    UmemCalls (OnCalls B) S where
  malloc n e he := by
    cases e <;> cases he
    exact h.malloc _ _
  memalign e he := by
    cases e <;> cases he
    exact h.memalign _
  umemReg addr e he := by
    cases e <;> cases he
    exact h.umemReg _ _
  umemUnreg umemId e he := by
    cases e <;> cases he
    exact h.umemUnreg _
  mkey req n hopcode hlen e he := by
    cases e <;> cases he
    exact h.mkey _ hopcode hlen
  other req n hopcode e he := by
    cases e <;> cases he
    exact h.other _ hopcode

/-- The length of the key is the `u32`. -/
theorem keyLen_createMkeyIn (pdn umemId : u32) (addr : u64) (len : u32) :
    keyLen (load (createMkeyIn pdn umemId addr len) 0 CreateMkeyIn.szBytes) = len.toNat := by
  have hlen := (createMkeyIn_creates pdn umemId addr len).keyLen
  have hfits := len.isLt
  unfold keyLen
  rw [show mlx5Get64 _ _ Mkc.len = _ from hlen, BitVec.toNat_setWidth]
  omega

variable {A : Call → Prop}

namespace UmemCalls

variable {S : Nat} (hA : UmemCalls A S)

include hA

theorem allocPd (w : World σ) (pdn : u32) (uid : BitVec 16) :
    Leads K A w (mlx5libAllocPd K w pdn uid).w := by
  have hcmd : Leads K A w (mlx5uCmd K.toSys w (allocPdIn uid) AllocPdIn.szBytes
      zeroMem AllocPdOut.szBytes).w := by
    refine .command w _ (by decide) fun n => hA.other _ n ?_
    rw [opcodeOf_load _ (by decide), opcode_allocPdIn]
    decide
  unfold mlx5libAllocPd
  dsimp only
  split_ifs <;> exact hcmd

theorem deallocPd (w : World σ) (pdn : u32) (uid : BitVec 16) :
    Leads K A w (mlx5libDeallocPd K w pdn uid).w := by
  refine .command w _ (by decide) fun n => hA.other _ n ?_
  rw [opcodeOf_load _ (by decide), opcode_deallocPdIn]
  decide

theorem destroyMkey (w : World σ) (mkey : u32) : Leads K A w (mlx5libDestroyMkey K w mkey) := by
  refine .command w _ (by decide) fun n => hA.other _ n ?_
  rw [opcodeOf_load _ (by decide), opcode_destroyMkeyIn]
  decide

theorem createUmemMkey (w : World σ) (pdn umemId : u32) (addr : u64) (mkey : u32) :
    Leads K A w (mlx5libCreateUmemMkey K w pdn umemId addr (BitVec.ofNat 32 S) mkey).w := by
  have hcmd : Leads K A w (mlx5uCmd K.toSys w
      (createMkeyIn pdn umemId addr (BitVec.ofNat 32 S)) CreateMkeyIn.szBytes zeroMem
      CreateMkeyOut.szBytes).w := by
    refine .command w _ (by decide) fun n => hA.mkey _ n ?_ ?_
    · rw [opcodeOf_load _ (by decide), opcode_createMkeyIn]
    · rw [keyLen_createMkeyIn, BitVec.toNat_ofNat]
  unfold mlx5libCreateUmemMkey
  dsimp only
  split_ifs <;> exact hcmd

theorem unreg (w : World σ) (umemId : u32) :
    Leads K A w { w with sys := (K.umemUnreg w.sys umemId).2 } :=
  Reaches.one (hA.umemUnreg umemId) w.sys

end UmemCalls

/-- The buffer of a dump. -/
theorem allocUmemMkeyBuff_leads (w : World σ) {size : Nat} (pdn : u32)
    (hA : UmemCalls A (align size UMEM_PAGE_SIZE)) :
    Leads K A w (mlx5libAllocUmemMkeyBuff K w size pdn).2 := by
  have hone (v : World σ) {c : Call} (hc : A c) (out : List Line) :
      Leads K A v ⟨K.after v.sys c, out⟩ := Reaches.one hc v.sys
  unfold mlx5libAllocUmemMkeyBuff
  dsimp only
  have hmalloc : Leads K A w ⟨(K.malloc w.sys umemBuffBytes).2, w.out⟩ :=
    .malloc hA.malloc w _ _
  generalize K.malloc w.sys umemBuffBytes = m at hmalloc ⊢
  cases m.1 with
  | none => exact hmalloc.trans (.of_sys rfl)
  | some block =>
      dsimp only
      have hmemalign : Leads K A w ⟨(K.memalign m.2 (align size UMEM_PAGE_SIZE)).2, w.out⟩ :=
        hmalloc.trans (hone ⟨m.2, w.out⟩ hA.memalign w.out)
      generalize K.memalign m.2 (align size UMEM_PAGE_SIZE) = g at hmemalign ⊢
      cases g.1 with
      | none => exact hmemalign.trans (.of_sys rfl)
      | some block =>
          obtain ⟨buff, -⟩ := block
          dsimp only
          have hreg : Leads K A w ⟨(K.umemReg g.2 buff (align size UMEM_PAGE_SIZE)).2, w.out⟩ :=
            hmemalign.trans (hone ⟨g.2, w.out⟩ (hA.umemReg buff) w.out)
          generalize K.umemReg g.2 buff (align size UMEM_PAGE_SIZE) = u at hreg ⊢
          have hkey := hA.createUmemMkey K ⟨u.2, w.out⟩ pdn (BitVec.ofInt 32 u.1) buff 0
          split_ifs
          · exact hreg.trans (.of_sys rfl)
          · exact (hreg.trans hkey).trans (hA.unreg K _ _)
          · exact hreg.trans hkey

/-- `umem_buff_size` -/
def umemBuffSize (args : Args) : Nat := toSize (toInt (args.umem * 1024))

/-- The world after the setup. -/
def Setup.w : Setup σ → World σ
  | .returned _ w => w
  | .ready _ _ w => w

theorem setupUmem_leads (u : World σ) {args : Args}
    (hA : UmemCalls A (align (umemBuffSize args) UMEM_PAGE_SIZE)) :
    Leads K A u (setupUmem K u args).w := by
  unfold setupUmem
  dsimp only
  split_ifs
  · exact hA.allocPd K u 0 0
  · have hbuff := (hA.allocPd K u 0 0).trans
      (allocUmemMkeyBuff_leads K (mlx5libAllocPd K u 0 0).w (mlx5libAllocPd K u 0 0).pdn hA)
    unfold umemBuffSize at hbuff
    split
    · exact hbuff.trans (hA.deallocPd K _ _ _)
    · exact hbuff
  · exact .refl u

theorem teardownUmem_leads (w : World σ) {S : Nat} (hA : UmemCalls A S)
    (umemBuff : Option UmemBuff) (umemPdn : u32) :
    Leads K A w (teardownUmem K w umemBuff umemPdn) := by
  cases umemBuff with
  | none => exact .refl w
  | some umem =>
      have hfree : Leads K A w (mlx5libFreeUmemMkeyBuff K w umem) :=
        (hA.destroyMkey K w umem.umemMkey).trans (hA.unreg K _ umem.umemId)
      exact hfree.trans (hA.deallocPd K _ umemPdn 0)

theorem setupUmem_adds {B : Event → Prop} (u : World (σ × List Event)) {args : Args}
    (hB : UmemKind B (align (umemBuffSize args) UMEM_PAGE_SIZE)) :
    Adds B u (setupUmem K.traced u args).w := (setupUmem_leads K.traced u hB.calls).adds_of

theorem teardownUmem_adds {B : Event → Prop} (w : World (σ × List Event)) {S : Nat}
    (hB : UmemKind B S) (umemBuff : Option UmemBuff) (umemPdn : u32) :
    Adds B w (teardownUmem K.traced w umemBuff umemPdn) :=
  (teardownUmem_leads K.traced w hB.calls umemBuff umemPdn).adds_of

end Mlx5ctl.RscDump
