/-
  The calls of a run.

  Whatever a function of the tool does to the outside world, it does by calls: `Call` is one of
  them, with its arguments. `Leads K A w v`: from `w` to `v`, the outside world was changed by calls
  of kind `A` only. The journal of a traced run has one entry for each of its calls, so the entries
  are of a kind when the calls are (`Leads.adds`).
-/
import Mlx5ctl.Journal
import Mlx5ctl.Lib.Reaches

namespace Mlx5ctl

open ByteMem CInt Ifc Transition

variable {σ : Type}

/-- A call to the outside world. -/
inductive Call where
  | malloc (n : Nat)
  | realloc (n : Nat)
  | memalign (n : Nat)
  | rpc (req : List u8) (outLen : Nat)
  | umemReg (addr : u64) (len : Nat)
  | umemUnreg (umemId : u32)

/-- The outside world after a call. -/
def UmemSys.after (K : UmemSys σ) (s : σ) : Call → σ
  | .malloc n => (K.malloc s n).2
  | .realloc n => (K.realloc s n).2
  | .memalign n => (K.memalign s n).2
  | .rpc req outLen => (K.rpc s req outLen).2.2
  | .umemReg addr len => (K.umemReg s addr len).2
  | .umemUnreg umemId => (K.umemUnreg s umemId).2

/-- The call of a journal entry. -/
def Event.call : Event → Call
  | .malloc n _ => .malloc n
  | .realloc n _ => .realloc n
  | .memalign n _ => .memalign n
  | .rpc r => .rpc r.request r.outLen
  | .umemReg addr len _ => .umemReg addr len
  | .umemUnreg umemId => .umemUnreg umemId

/-- The outside world was changed by calls of the kind only. -/
def Leads (K : UmemSys σ) (A : Call → Prop) (w v : World σ) : Prop :=
  Reaches K.after A w.sys v.sys

namespace Leads

variable {K : UmemSys σ} {A : Call → Prop} {u v w : World σ}

theorem of_sys (h : v.sys = w.sys) : Leads K A w v := by
  unfold Leads
  rw [h]
  exact .refl w.sys

theorem refl (w : World σ) : Leads K A w w := of_sys rfl

theorem trans (h : Leads K A u v) (h' : Leads K A v w) : Leads K A u w := Reaches.trans h h'

theorem malloc (hA : ∀ n, A (.malloc n)) (w : World σ) (n : Nat) (out : List Line) :
    Leads K A w ⟨(K.malloc w.sys n).2, out⟩ := Reaches.one (hA n) w.sys

/-- What goes on when a function returned. -/
theorem bind {α β : Type} {o : Outcome σ α} {f : α → World σ → Outcome σ β}
    (ho : Leads K A w o.w) (hf : ∀ a v, o = .ret a v → Leads K A v (f a v).w) :
    Leads K A w (o.bind f).w := by
  cases o with
  | ret a v => exact ho.trans (hf a v rfl)
  | exit code v => exact ho
  | segv v => exact ho

/-- A command. -/
theorem command (w : World σ) (inb : Mem) {inlen outlen : Nat} {out : Mem}
    (hlt : inlen < 4294967296) (hA : ∀ n, A (.rpc (load inb 0 inlen) n)) :
    Leads K A w (mlx5uCmd K.toSys w inb inlen out outlen).w := by
  have hlen : toU32 (inlen : Int) = inlen := toU32_natCast (by omega)
  unfold Leads
  rw [mlx5uCmd_sys, hlen]
  exact Reaches.one (hA _) w.sys

end Leads

/-- The journal of a run has the entries of its calls. -/
theorem Leads.adds {K : UmemSys σ} {A : Call → Prop} {B : Event → Prop}
    {w v : World (σ × List Event)} (hAB : ∀ e : Event, A e.call → B e)
    (h : Leads K.traced A w v) : Adds B w v := by
  have hstep (s : σ × List Event) (c : Call) (hc : A c)
      (hs : ∃ new, s.2 = w.sys.2 ++ new ∧ ∀ e ∈ new, B e) :
      ∃ new, (K.traced.after s c).2 = w.sys.2 ++ new ∧ ∀ e ∈ new, B e := by
    obtain ⟨new, hnew, hB⟩ := hs
    have hentry : ∃ e : Event, (K.traced.after s c).2 = s.2 ++ [e] ∧ e.call = c := by
      cases c <;> exact ⟨_, rfl, rfl⟩
    obtain ⟨e, he, hcall⟩ := hentry
    refine ⟨new ++ [e], by rw [he, hnew, List.append_assoc], fun d hd => ?_⟩
    rcases List.mem_append.mp hd with hd | hd
    · exact hB d hd
    · rw [List.mem_singleton.mp hd]
      exact hAB e (hcall ▸ hc)
  exact Reaches.keeps (P := fun s : σ × List Event => ∃ new, s.2 = w.sys.2 ++ new ∧ ∀ e ∈ new, B e)
    hstep h ⟨[], by simp, by simp⟩

/-- The calls whose entries are of a kind, whatever they return. -/
def OnCalls (B : Event → Prop) (c : Call) : Prop := ∀ e : Event, e.call = c → B e

theorem Leads.adds_of {K : UmemSys σ} {B : Event → Prop} {w v : World (σ × List Event)}
    (h : Leads K.traced (OnCalls B) w v) : Adds B w v := h.adds fun e he => he e rfl

/-! ## Register reads -/

/-- Allocations and reads of this register are of kind `A`. -/
structure ReadKind (A : Call → Prop) (regId : BitVec 16) : Prop where
  malloc (n : Nat) : A (.malloc n)
  realloc (n : Nat) : A (.realloc n)
  read (req : List u8) (n : Nat) : opcodeOf req = MLX5_CMD_OP_ACCESS_REG →
    requestField req 0 AccessRegisterIn.opMod = 1 →
    requestField req 0 AccessRegisterIn.registerId = regId.setWidth 32 → A (.rpc req n)

theorem readKind_only (regId : BitVec 16) :
    ReadKind (OnCalls (Event.Only MLX5_CMD_OP_ACCESS_REG)) regId where
  malloc n e he := by
    cases e <;> cases he
    trivial
  realloc n e he := by
    cases e <;> cases he
    trivial
  read req n hopcode _ _ e he := by
    cases e <;> cases he
    exact hopcode

/-- A register read: two allocations, and the command if both are granted. -/
theorem ReadKind.accessReg {K : UmemSys σ} {A : Call → Prop} {regId : BitVec 16}
    (hA : ReadKind A regId) (w : World σ) (dataIn dataOut : Mem) {n m : Nat}
    (hn : n < 2147483632) (hm : m < 2147483632) (arg : Int) :
    Leads K A w (mlx5AccessReg K.toSys w dataIn n dataOut m regId arg 0).w := by
  have hin : toSize (toInt (AccessRegisterIn.szBytes + (n : Int))) = 16 + n := accessRegSize hn
  have hout : toSize (toInt (AccessRegisterOut.szBytes + (m : Int))) = 16 + m := accessRegSize hm
  unfold mlx5AccessReg
  dsimp only
  rw [hin, hout]
  have hblocks : Leads K A w
      ⟨(K.malloc (K.malloc w.sys (16 + n)).2 (16 + m)).2, w.out⟩ :=
    (Leads.malloc hA.malloc w (16 + n) w.out).trans (.malloc hA.malloc _ _ _)
  split
  · next inBlock outBlock _ _ =>
    have hcarries := accessRegIn_carries inBlock dataIn (n := n) (by omega) regId arg 0
    have hcmd : Leads K A _ (mlx5uCmd K.toSys
        ⟨(K.malloc (K.malloc w.sys (16 + n)).2 (16 + m)).2, w.out⟩
        (accessRegIn inBlock (16 + n) dataIn n regId arg 0) (16 + n)
        (memset0 outBlock (16 + m)) (16 + m)).w :=
      .command _ _ (by omega)
        fun l => hA.read _ l hcarries.opcode hcarries.opMod hcarries.registerId
    split_ifs
    · exact hblocks.trans hcmd
    · exact hblocks.trans hcmd
  · exact hblocks

end Mlx5ctl
