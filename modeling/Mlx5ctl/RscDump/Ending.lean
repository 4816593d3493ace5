/-
  rscdump.c: when `mlx5_rsc_dump` ends.

  The sequence number of the register counts modulo 16, so the check of a round bounds nothing: a
  device that always announces more keeps a collector for ever. `Exhausts` is a device that has only
  so much to announce. Each turn of a collector that goes round again lowers what is left
  (`collectTurn_lowers`, `collectUmemTurn_lowers`), so both collectors end (`collectDump_ends`), and
  what remains is the walk over the dump (`walk_ends_iff`).
-/
import Mlx5ctl.RscDump.Modes
import Mlx5ctl.RscDump.Server
import Mlx5ctl.Calls

namespace Mlx5ctl.RscDump

open ByteMem CInt Ifc Turn Transition

variable {σ : Type} {K : UmemSys σ} {left : σ → Nat}

/-- The reply to a register access has `more_dump` set. -/
def Announces (reply : List u8) : Prop :=
  mlx5Get (shift (overlay reply zeroMem) AccessRegisterOut.registerData) 0
    ResourceDump.moreDump ≠ 0

instance (reply : List u8) : Decidable (Announces reply) := inferInstanceAs (Decidable (_ ≠ _))

/-- The device has only so much to announce: what is left goes down with every read of
    RESOURCE_DUMP that announces more, and up with no call. -/
structure Exhausts (K : UmemSys σ) (left : σ → Nat) : Prop where
  call (s : σ) (c : Call) : left (K.after s c) ≤ left s
  announced (s : σ) (req : List u8) (n : Nat) : opcodeOf req = MLX5_CMD_OP_ACCESS_REG →
    requestField req 0 AccessRegisterIn.registerId = MLX5_REG_RESOURCE_DUMP.setWidth 32 →
    (K.rpc s req n).1 = 0 → Announces (K.rpc s req n).2.1 →
    left (K.rpc s req n).2.2 < left s

theorem Exhausts.malloc (hK : Exhausts K left) (s : σ) (n : Nat) :
    left (K.malloc s n).2 ≤ left s := hK.call s (.malloc n)

theorem Exhausts.realloc (hK : Exhausts K left) (s : σ) (n : Nat) :
    left (K.realloc s n).2 ≤ left s := hK.call s (.realloc n)

/-! ## One round -/

/-- The outside world when the command of a register access is sent. -/
def allocated (K : UmemSys σ) (s : σ) : σ := (K.malloc (K.malloc s 272).2 272).2

/-- A register access whose blocks are not both granted. -/
theorem access_refused {w : World σ} {inb out : Mem} (h : (K.malloc w.sys 272).1 = none ∨
    (K.malloc (K.malloc w.sys 272).2 272).1 = none) :
    (access K.toSys w inb out).err = -enomem := by
  have hsize : toSize (toInt (AccessRegisterIn.szBytes + ((ResourceDump.szBytes : Nat) : Int))) =
      272 := accessRegSize (n := 256) (by decide)
  have hsize' : toSize (toInt (AccessRegisterOut.szBytes + ((ResourceDump.szBytes : Nat) : Int))) =
      272 := hsize
  unfold access mlx5AccessReg
  dsimp only
  rw [hsize, hsize']
  split
  · next b c hb hc =>
    rw [hb, hc] at h
    simp at h
  · rfl

/-- A register access that returned 0: the request was answered, and its output is the reply. -/
theorem access_reply {w : World σ} {inb out : Mem} (h : (access K.toSys w inb out).err = 0) :
    ∃ req, Carries inb ResourceDump.szBytes MLX5_REG_RESOURCE_DUMP 0 0 req ∧
      (K.rpc (allocated K w.sys) req 272).1 = 0 ∧
      (access K.toSys w inb out).w.sys = (K.rpc (allocated K w.sys) req 272).2.2 ∧
      ∀ k, k < ResourceDump.szBytes → (access K.toSys w inb out).dataOut k =
        shift (overlay (K.rpc (allocated K w.sys) req 272).2.1 zeroMem)
          AccessRegisterOut.registerData k := by
  have hgranted : (K.malloc w.sys 272).1 ≠ none ∧
      (K.malloc (K.malloc w.sys 272).2 272).1 ≠ none := by
    rw [← not_or]
    intro hnone
    rw [access_refused hnone] at h
    exact absurd h (by decide)
  obtain ⟨b, hb⟩ := Option.ne_none_iff_exists'.mp hgranted.1
  obtain ⟨c, hc⟩ := Option.ne_none_iff_exists'.mp hgranted.2
  have hcarries := accessRegIn_carries b inb (n := 256) (by decide) MLX5_REG_RESOURCE_DUMP 0 0
  generalize hr : mlx5uCmd K.toSys { w with sys := allocated K w.sys }
    (accessRegIn b (16 + 256) inb (256 : Nat) MLX5_REG_RESOURCE_DUMP 0 0) (16 + 256)
    (memset0 c (16 + 256)) (16 + 256) = r
  have hacc : access K.toSys w inb out = if r.ret ≠ 0 then ⟨r.ret, out, r.w⟩
      else ⟨r.ret, copy out 0 256 (shift r.out AccessRegisterOut.registerData), r.w⟩ :=
    mlx5AccessReg_allocated K.toSys (n := 256) (m := 256) (by decide) (by decide)
      (Prod.ext hb rfl) (Prod.ext hc rfl) inb out MLX5_REG_RESOURCE_DUMP 0 0 hr
  have hret : r.ret = 0 := by
    by_contra hne
    rw [hacc, if_pos hne] at h
    exact hne h
  rw [hacc, if_neg (not_not.mpr hret)]
  refine ⟨_, hcarries, ?_, ?_, fun k hk => ?_⟩
  · have hcmd := mlx5uCmd_ret K.toSys { w with sys := allocated K w.sys }
      (accessRegIn b (16 + 256) inb (256 : Nat) MLX5_REG_RESOURCE_DUMP 0 0) (16 + 256)
      (memset0 c (16 + 256)) (16 + 256)
    rw [hr, hret] at hcmd
    by_contra hne
    exact hne (((if_pos hne).symm.trans hcmd.symm))
  · dsimp only
    rw [← hr, mlx5uCmd_sys]
    rfl
  · have hcopy := copy_inside out 0 256 (shift r.out AccessRegisterOut.registerData) hk
    rw [Nat.zero_add] at hcopy
    dsimp only
    rw [hcopy, ← hr, mlx5uCmd_out]
    exact overlay_memset0 _ c (Nat.add_lt_add_left hk 16)

/-- A reply that announces more lowers what is left. -/
theorem access_lowers (hK : Exhausts K left) {w : World σ} {inb out : Mem}
    (h : (access K.toSys w inb out).err = 0)
    (hmore : mlx5Get (access K.toSys w inb out).dataOut 0 ResourceDump.moreDump ≠ 0) :
    left (access K.toSys w inb out).w.sys < left w.sys := by
  obtain ⟨req, hcarries, hret, hsys, hreply⟩ := access_reply h
  rw [register_field hreply (by decide)] at hmore
  have hlow := hK.announced (allocated K w.sys) req 272 hcarries.opcode hcarries.registerId hret
    hmore
  have hblocks := (hK.malloc (K.malloc w.sys 272).2 272).trans (hK.malloc w.sys 272)
  rw [hsys]
  exact Nat.lt_of_lt_of_le hlow hblocks

/-- A round that asks for more lowers what is left. -/
theorem iter_lowers (hK : Exhausts K left) {w : World σ} {inb out : Mem}
    (h : 0 < (mlx5RscDumpIter K.toSys w inb out).err) :
    left (mlx5RscDumpIter K.toSys w inb out).w.sys < left w.sys := by
  obtain ⟨hacc, -, hmore⟩ := (iter_more_iff K.toSys w inb out).mp h
  rw [iter_sys]
  exact access_lowers hK hacc hmore

/-! ## The collectors -/

theorem makeRoom_left (hK : Exhausts K left) {c c' : Collect σ} {n : Int}
    (h : makeRoom K.toSys c n = .again c') : left c'.w.sys ≤ left c.w.sys := by
  have hcall := hK.realloc c.w.sys (toSize (toInt (c.size * 2)))
  unfold makeRoom at h
  dsimp only at h
  split_ifs at h
  · split at h
    · cases h
    · cases h
      exact hcall
  · cases h
    exact Nat.le_refl _

theorem collectTurn_lowers (hK : Exhausts K left) {c c' : Collect σ}
    (h : collectTurn K.toSys c = .again c') : left c'.w.sys < left c.w.sys := by
  by_cases herr : (mlx5RscDumpIter K.toSys c.w c.inb c.out).err < 0
  · obtain ⟨r, hturn, -⟩ := collectTurn_failed K.toSys herr
    rw [hturn] at h
    cases h
  · rw [collectTurn_accepted K.toSys (Int.not_lt.mp herr)] at h
    obtain ⟨c₁, hroom, hc'⟩ := bind_eq_again h
    split_ifs at hc' with hgt
    cases hc'
    have hle : left c₁.w.sys ≤ left (mlx5RscDumpIter K.toSys c.w c.inb c.out).w.sys :=
      makeRoom_left hK hroom
    exact Nat.lt_of_le_of_lt hle (iter_lowers hK hgt)

theorem collectUmemTurn_lowers (hK : Exhausts K left) {umem : UmemBuff} {c c' : CollectUmem σ}
    (h : collectUmemTurn K.toSys umem c = .again c') : left c'.w.sys < left c.w.sys := by
  have hgoes : 0 < (mlx5RscDumpIter K.toSys c.w c.inb c.out).err ∧
      c'.w.sys = (mlx5RscDumpIter K.toSys c.w c.inb c.out).w.sys := by
    unfold collectUmemTurn at h
    dsimp only at h
    split_ifs at h <;> cases h <;> exact ⟨by assumption, rfl⟩
  rw [hgoes.2]
  exact iter_lowers hK hgoes.1

/-- More turns change nothing once the dump is collected. -/
theorem collectDump_mono {w : World σ} {args : Args} {umemBuff : Option UmemBuff} {m n : Nat}
    {d : Dumped σ} (h : collectDump K.toSys w args umemBuff m = some d) (hmn : m ≤ n) :
    collectDump K.toSys w args umemBuff n = some d := by
  cases umemBuff with
  | none =>
      unfold collectDump at h ⊢
      dsimp only at h ⊢
      cases hr : rscdumpCollect K.toSys w args 0 m with
      | exit r =>
          rw [hr] at h
          rw [show rscdumpCollect K.toSys w args 0 n = .exit r from bind_run_exit_mono hr hmn]
          exact h
      | again c =>
          rw [hr] at h
          cases h
  | some umem =>
      unfold collectDump at h ⊢
      dsimp only at h ⊢
      cases hr : rscdumpCollectUmem K.toSys w args umem m with
      | exit r =>
          rw [hr] at h
          rw [show rscdumpCollectUmem K.toSys w args umem n = .exit r from
            bind_run_exit_mono hr hmn]
          exact h
      | again c =>
          rw [hr] at h
          cases h

/-- **The collectors end**, both of them, within as many rounds as the device can announce and
    one more. -/
theorem collectDump_ends (hK : Exhausts K left) (w : World σ) (args : Args)
    (umemBuff : Option UmemBuff) :
    ∃ d, collectDump K.toSys w args umemBuff (left w.sys + 1) = some d := by
  cases umemBuff with
  | none =>
      have hmalloc := hK.malloc w.sys (toSize 4069)
      have hend : ∃ r, rscdumpCollect K.toSys w args 0 (left w.sys + 1) = .exit r := by
        unfold rscdumpCollect
        cases hs : collectStart K.toSys w args 0 with
        | exit r => exact ⟨r, rfl⟩
        | again c =>
            have hleft : left c.w.sys ≤ left w.sys := by
              unfold collectStart at hs
              dsimp only at hs
              split at hs
              · cases hs
              · cases hs
                exact hmalloc
            obtain ⟨r, hr⟩ := ends_of_measure (fun c : Collect σ => left c.w.sys)
              (P := fun _ => True) (fun _ _ _ h => ⟨trivial, collectTurn_lowers hK h⟩) c trivial
            exact ⟨r, run_exit_mono hr (by omega)⟩
      obtain ⟨r, hr⟩ := hend
      unfold collectDump
      dsimp only
      rw [hr]
      exact ⟨_, rfl⟩
  | some umem =>
      have hmalloc := hK.malloc w.sys tempBufferBytes
      have hend : ∃ r, rscdumpCollectUmem K.toSys w args umem (left w.sys + 1) = .exit r := by
        unfold rscdumpCollectUmem
        cases hs : collectUmemStart K.toSys w args umem with
        | exit r => exact ⟨r, rfl⟩
        | again c =>
            have hleft : left c.w.sys ≤ left w.sys := by
              unfold collectUmemStart at hs
              dsimp only at hs
              split at hs
              · cases hs
              · cases hs
                exact hmalloc
            obtain ⟨r, hr⟩ := ends_of_measure (fun c : CollectUmem σ => left c.w.sys)
              (P := fun _ => True) (fun _ _ _ h => ⟨trivial, collectUmemTurn_lowers hK h⟩) c trivial
            exact ⟨r, run_exit_mono hr (by omega)⟩
      obtain ⟨r, hr⟩ := hend
      unfold collectDump
      dsimp only
      rw [hr]
      exact ⟨_, rfl⟩

/-! ## The whole dump -/

/-- More turns change nothing once `mlx5_rsc_dump` is through. -/
theorem mlx5RscDump_mono {w v : World σ} {args : Args} {umemBuff : Option UmemBuff} {m n : Nat}
    (h : mlx5RscDump K.toSys w args umemBuff m = some v) (hmn : m ≤ n) :
    mlx5RscDump K.toSys w args umemBuff n = some v := by
  unfold mlx5RscDump at h ⊢
  obtain ⟨d, hd, hparse⟩ := Option.bind_eq_some_iff.mp h
  rw [collectDump_mono hd hmn, Option.bind_some]
  cases hdata : d.data with
  | none =>
      rw [hdata] at hparse
      exact hparse
  | some p =>
      rw [hdata] at hparse
      dsimp only at hparse ⊢
      cases hwalk : parseResourceDump p d.size m with
      | exit s =>
          rw [hwalk] at hparse
          rw [show parseResourceDump p d.size n = .exit s from bind_run_exit_mono hwalk hmn]
          exact hparse
      | again s =>
          rw [hwalk] at hparse
          cases hparse

/-- The parser gets `size` bytes at `p`. -/
def Handed (K : UmemSys σ) (w : World σ) (args : Args) (umemBuff : Option UmemBuff) (p : Mem)
    (size : Int) : Prop :=
  ∃ n d, collectDump K.toSys w args umemBuff n = some d ∧ d.data = some p ∧ d.size = size

/-- `mlx5_rsc_dump` ends exactly when what the parser gets has no segment of length 0. -/
theorem mlx5RscDump_ends_iff (hK : Exhausts K left) (w : World σ) (args : Args)
    (umemBuff : Option UmemBuff) : (∃ n v, mlx5RscDump K.toSys w args umemBuff n = some v) ↔
      ∀ p size, Handed K w args umemBuff p size → NoZeroLength p size := by
  constructor
  · rintro ⟨m, v, hv⟩ p size ⟨n, d, hd, hp, rfl⟩
    have hmax := mlx5RscDump_mono hv (Nat.le_max_left m n)
    unfold mlx5RscDump at hmax
    rw [collectDump_mono hd (Nat.le_max_right m n), Option.bind_some, hp] at hmax
    by_contra hzero
    obtain ⟨s, hs⟩ := (walk_ends_iff p d.size).2 hzero (max m n)
    dsimp only at hmax
    rw [hs] at hmax
    cases hmax
  · intro h
    obtain ⟨d, hd⟩ := collectDump_ends hK w args umemBuff
    cases hp : d.data with
    | none =>
        refine ⟨left w.sys + 1, d.w, ?_⟩
        unfold mlx5RscDump
        rw [hd, Option.bind_some, hp]
    | some p =>
        obtain ⟨s, hs⟩ := walk_ends p d.size (h p d.size ⟨_, d, hd, hp, rfl⟩)
        have hwalk : parseResourceDump p d.size (max (left w.sys + 1) (d.size.toNat / 4 + 1)) =
            .exit s := bind_run_exit_mono hs (Nat.le_max_right _ _)
        refine ⟨max (left w.sys + 1) (d.size.toNat / 4 + 1), d.w.prints s.trace.lines, ?_⟩
        unfold mlx5RscDump
        rw [collectDump_mono hd (Nat.le_max_left _ _), Option.bind_some, hp]
        dsimp only
        rw [hwalk]

end Mlx5ctl.RscDump
