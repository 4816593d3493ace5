/-
  The umem calls, and the journal of a run.

  `UmemSys` adds to the outside world what a dump into a umem needs: `memalign` and the two
  calls that register memory with the device. The latter are stubs in mlx5ctl_misc.c; here they
  may be any functions.

  `UmemSys.traced` is the same outside world with every allocation, command and registration
  written to a journal. `Adds A w v` says that the journal of `v` is that of `w` with entries of
  kind `A` behind it; it is reflexive and transitive, so it goes through loops.
-/
import Mlx5ctl.RegAccess
import Mlx5ctl.Cli

namespace Mlx5ctl

open ByteMem CInt Ifc

/-- The C library and the kernel, with umems. -/
structure UmemSys (σ : Type) extends Sys σ where
  /-- `memalign(UMEM_PAGE_SIZE, n)`: the address and the contents of the block, or `NULL`. -/
  memalign : σ → Nat → Option (u64 × Mem) × σ
  /-- `mlx5u_umem_reg(dev, addr, len)` -/
  umemReg : σ → u64 → Nat → Int × σ
  /-- `mlx5u_umem_unreg(dev, umem_id)` -/
  umemUnreg : σ → u32 → Int × σ

/-- One call to the outside world. -/
inductive Event where
  | malloc (n : Nat) (granted : Bool)
  | realloc (n : Nat) (granted : Bool)
  | memalign (n : Nat) (granted : Bool)
  | rpc (r : Rpc)
  | umemReg (addr : u64) (len : Nat) (ret : Int)
  | umemUnreg (umemId : u32)

variable {σ : Type}

/-- The same outside world, with a journal. -/
def UmemSys.traced (K : UmemSys σ) : UmemSys (σ × List Event) where
  malloc s n :=
    let r := K.malloc s.1 n
    (r.1, r.2, s.2 ++ [.malloc n r.1.isSome])
  realloc s n :=
    let r := K.realloc s.1 n
    (r.1, r.2, s.2 ++ [.realloc n r.1.isSome])
  rpc s req outLen :=
    let r := K.rpc s.1 req outLen
    (r.1, r.2.1, r.2.2, s.2 ++ [.rpc ⟨req, outLen, r.1, r.2.1⟩])
  errno s := K.errno s.1
  umem s := K.umem s.1
  malloc_limit s n h := K.malloc_limit s.1 n h
  realloc_limit s n h := K.realloc_limit s.1 n h
  memalign s n :=
    let r := K.memalign s.1 n
    (r.1, r.2, s.2 ++ [.memalign n r.1.isSome])
  umemReg s addr len :=
    let r := K.umemReg s.1 addr len
    (r.1, r.2, s.2 ++ [.umemReg addr len r.1])
  umemUnreg s umemId :=
    let r := K.umemUnreg s.1 umemId
    (r.1, r.2, s.2 ++ [.umemUnreg umemId])

/-- The journal of a world. -/
def events (w : World (σ × List Event)) : List Event := w.sys.2

/-- The journal of `v` is that of `w` and further entries, all of kind `A`. -/
def Adds (A : Event → Prop) (w v : World (σ × List Event)) : Prop :=
  ∃ new, events v = events w ++ new ∧ ∀ e ∈ new, A e

namespace Adds

variable {A : Event → Prop} {v w : World (σ × List Event)}

theorem one {e : Event} (h : events v = events w ++ [e]) (he : A e) : Adds A w v :=
  ⟨[e], h, fun d hd => by rw [List.mem_singleton.mp hd]; exact he⟩

end Adds

/-! ## Commands -/

variable (K : UmemSys σ)

/-- The entry of a command. -/
def rpcOf (w : World σ) (inb : Mem) (inlen outlen : Nat) : Rpc :=
  let r := K.rpc w.sys (load inb 0 (toU32 inlen)) (toU32 outlen)
  ⟨load inb 0 (toU32 inlen), toU32 outlen, r.1, r.2.1⟩

theorem mlx5uCmd_events (w : World (σ × List Event)) (inb : Mem) (inlen : Nat) (out : Mem)
    (outlen : Nat) :
    events (mlx5uCmd K.traced.toSys w inb inlen out outlen).w = events w ++
      [.rpc (rpcOf K ⟨w.sys.1, w.out⟩ inb inlen outlen)] := by
  unfold events
  rw [mlx5uCmd_sys]
  rfl

/-- An allocation, or a command with this opcode. -/
def Event.Only (opcode : u32) : Event → Prop
  | .malloc _ _ => True
  | .realloc _ _ => True
  | .memalign _ _ => True
  | .rpc r => opcodeOf r.request = opcode
  | .umemReg _ _ _ => False
  | .umemUnreg _ => False

/-- What `mlx5u_cmd` makes of the answer, in a buffer that was cleared: 0, the return value of the
    `ioctl`, or the status. -/
def Rpc.err (r : Rpc) : Int := cmdRet r.ret (overlay (r.reply.take r.outLen) zeroMem)

/-- A command with a cleared response buffer returns what its entry says. -/
theorem mlx5uCmd_err (w : World (σ × List Event)) (inb : Mem) (inlen : Nat) {out : Mem}
    (hout : out 0 = 0) (outlen : Nat) :
    (mlx5uCmd K.traced.toSys w inb inlen out outlen).ret =
      (rpcOf K ⟨w.sys.1, w.out⟩ inb inlen outlen).err := by
  rw [mlx5uCmd_ret]
  unfold replyIn
  refine cmdRet_congr ?_
  unfold overlay
  rw [hout]
  rfl

/-- A register access: refused, or one command that carries the register data. -/
theorem mlx5AccessReg_carried (w : World (σ × List Event)) (dataIn dataOut : Mem) {n m : Nat}
    (hn : n < 2147483632) (hm : m < 2147483632) (regId : BitVec 16) (arg write : Int) :
    let r := mlx5AccessReg K.traced.toSys w dataIn n dataOut m regId arg write
    (∃ a b g h, ¬ (g = true ∧ h = true) ∧ r.err = -enomem ∧
      events r.w = events w ++ [.malloc a g, .malloc b h]) ∨
    ∃ a b cmd, Carries dataIn n regId arg write cmd.request ∧ r.err = cmd.err ∧
      events r.w = events w ++ [.malloc a true, .malloc b true, .rpc cmd] := by
  intro r
  have hin : toSize (toInt (AccessRegisterIn.szBytes + (n : Int))) = 16 + n := accessRegSize hn
  have hout : toSize (toInt (AccessRegisterOut.szBytes + (m : Int))) = 16 + m := accessRegSize hm
  have hlen : toU32 ((16 + n : Nat) : Int) = 16 + n := toU32_natCast (by omega)
  cases hb : K.malloc w.sys.1 (16 + n) with
  | mk b s =>
      cases hc : K.malloc s (16 + m) with
      | mk c t =>
          have hb' : K.traced.toSys.malloc w.sys (16 + n) =
              (b, s, w.sys.2 ++ [.malloc (16 + n) b.isSome]) := by
            unfold UmemSys.traced
            dsimp only
            rw [hb]
          have hc' : ∀ l, K.traced.toSys.malloc (s, l) (16 + m) =
              (c, t, l ++ [.malloc (16 + m) c.isSome]) := by
            intro l
            unfold UmemSys.traced
            dsimp only
            rw [hc]
          cases b with
          | none =>
              left
              simp only [r, mlx5AccessReg, hin, hout, hb', hc']
              exact ⟨_, _, _, _, by simp, trivial, List.append_assoc _ _ _⟩
          | some b =>
              cases c with
              | none =>
                  left
                  simp only [r, mlx5AccessReg, hin, hout, hb', hc']
                  exact ⟨_, _, _, _, by simp, trivial, List.append_assoc _ _ _⟩
              | some c =>
                  right
                  have hcall : r = _ := mlx5AccessReg_allocated K.traced.toSys hn hm hb' (hc' _) dataIn
                    dataOut regId arg write rfl
                  have hcmd := mlx5uCmd_events K ⟨(t, w.sys.2 ++ [.malloc (16 + n) true] ++
                    [.malloc (16 + m) true]), w.out⟩
                    (accessRegIn b (16 + n) dataIn n regId arg write) (16 + n)
                    (memset0 c (16 + m)) (16 + m)
                  have hret := mlx5uCmd_err K ⟨(t, w.sys.2 ++ [.malloc (16 + n) true] ++
                    [.malloc (16 + m) true]), w.out⟩
                    (accessRegIn b (16 + n) dataIn n regId arg write) (16 + n)
                    (show memset0 c (16 + m) 0 = 0 from if_pos (by omega)) (16 + m)
                  refine ⟨16 + n, 16 + m, rpcOf K ⟨t, w.out⟩
                    (accessRegIn b (16 + n) dataIn n regId arg write) (16 + n) (16 + m), ?_, ?_, ?_⟩
                  · unfold rpcOf
                    dsimp only
                    rw [hlen]
                    exact accessRegIn_carries b dataIn (by omega) regId arg write
                  · rw [hcall, ← hret]
                    split_ifs <;> rfl
                  · rw [hcall]
                    refine Eq.trans ?_ (hcmd.trans ?_)
                    · split_ifs <;> rfl
                    · simp [events]

end Mlx5ctl
