/-
  rscdump.c: the RESOURCE_DUMP requests in the journal of a run.

  A setup and a teardown send none (`setupUmem_quiet`, `teardownUmem_quiet`). A collector begins
  with the request its arguments were put in: `FirstIs A w v` says that the first request from `w`
  to `v`, if there is one, satisfies `A`. The invariant of both loops is `Begins`: the request has
  been sent, or none has and it is still in `in`.
-/
import Mlx5ctl.RscDump.SetupEvents

namespace Mlx5ctl.RscDump

open ByteMem CInt CString Ifc Turn

variable {σ : Type} (K : UmemSys σ)

/-- The register of a request. -/
def registerOf (req : List u8) : u32 := requestField req 0 AccessRegisterIn.registerId

/-- A request of RESOURCE_DUMP. -/
def dumpRequest : Event → Option (List u8)
  | .rpc r =>
      if opcodeOf r.request = MLX5_CMD_OP_ACCESS_REG ∧
          registerOf r.request = MLX5_REG_RESOURCE_DUMP.setWidth 32 then some r.request
      else none
  | .malloc _ _ => none
  | .realloc _ _ => none
  | .memalign _ _ => none
  | .umemReg _ _ _ => none
  | .umemUnreg _ => none

/-- The requests of RESOURCE_DUMP, in order. -/
def dumpRequests (l : List Event) : List (List u8) := l.filterMap dumpRequest

/-- From `w` to `v`, the requests of RESOURCE_DUMP are `reqs`. -/
def Sends (reqs : List (List u8)) (w v : World (σ × List Event)) : Prop :=
  ∃ new, events v = events w ++ new ∧ dumpRequests new = reqs

namespace Sends

variable {l m : List (List u8)} {u v w : World (σ × List Event)}

theorem of_sys (h : v.sys = w.sys) : Sends [] w v :=
  ⟨[], by unfold events; rw [h, List.append_nil], rfl⟩

theorem trans (h : Sends l u v) (h' : Sends m v w) : Sends (l ++ m) u w := by
  obtain ⟨new, hnew, rfl⟩ := h
  obtain ⟨new', hnew', rfl⟩ := h'
  exact ⟨new ++ new', by rw [hnew', hnew, List.append_assoc], List.filterMap_append⟩

theorem of_adds {A : Event → Prop} (h : Adds A w v) : ∃ reqs, Sends reqs w v := by
  obtain ⟨new, hnew, -⟩ := h
  exact ⟨dumpRequests new, new, hnew, rfl⟩

/-- Entries that are no such requests. -/
theorem of_quiet (h : Adds (fun e => dumpRequest e = none) w v) : Sends [] w v := by
  obtain ⟨new, hnew, hnone⟩ := h
  exact ⟨new, hnew, List.filterMap_eq_nil_iff.mpr hnone⟩

end Sends

/-! ## The first request -/

/-- The first request from `w` to `v`, if there is one, satisfies `A`. -/
def FirstIs (A : List u8 → Prop) (w v : World (σ × List Event)) : Prop :=
  ∃ reqs, Sends reqs w v ∧ ∀ req ∈ reqs.head?, A req

/-- There is a first request from `w` to `v`, and it satisfies `A`. -/
def Begun (A : List u8 → Prop) (w v : World (σ × List Event)) : Prop :=
  ∃ req reqs, Sends (req :: reqs) w v ∧ A req

section

variable {A : List u8 → Prop} {u v w : World (σ × List Event)}

theorem FirstIs.of_none (h : Sends [] w v) : FirstIs A w v :=
  ⟨[], h, fun req hreq => by cases hreq⟩

theorem Begun.firstIs (h : Begun A w v) : FirstIs A w v := by
  obtain ⟨req, reqs, hsends, hA⟩ := h
  refine ⟨req :: reqs, hsends, fun r hr => ?_⟩
  cases hr
  exact hA

/-- Whatever is sent later. -/
theorem Begun.trans {reqs : List (List u8)} (h : Begun A u v) (h' : Sends reqs v w) :
    Begun A u w := by
  obtain ⟨req, first, hsends, hA⟩ := h
  exact ⟨req, first ++ reqs, hsends.trans h', hA⟩

theorem Begun.trans_adds {B : Event → Prop} (h : Begun A u v) (h' : Adds B v w) : Begun A u w := by
  obtain ⟨reqs, hreqs⟩ := Sends.of_adds h'
  exact h.trans hreqs

theorem Sends.trans_begun (h : Sends [] u v) (h' : Begun A v w) : Begun A u w := by
  obtain ⟨req, reqs, hsends, hA⟩ := h'
  exact ⟨req, reqs, h.trans hsends, hA⟩

theorem Sends.trans_firstIs (h : Sends [] u v) (h' : FirstIs A v w) : FirstIs A u w := by
  obtain ⟨reqs, hsends, hA⟩ := h'
  exact ⟨reqs, h.trans hsends, hA⟩

theorem FirstIs.trans_none (h : FirstIs A u v) (h' : Sends [] v w) : FirstIs A u w := by
  obtain ⟨reqs, hsends, hA⟩ := h
  refine ⟨reqs, ?_, hA⟩
  have hall := hsends.trans h'
  rwa [List.append_nil] at hall

end

/-! ## Where none is sent -/

/-- The entries of a setup are no such requests. -/
theorem umemKind_quiet (S : Nat) : UmemKind (fun e => dumpRequest e = none) S where
  malloc _ _ := rfl
  memalign _ := rfl
  umemReg _ _ := rfl
  umemUnreg _ := rfl
  mkey r hopcode _ := by
    have hne : ¬(MLX5_CMD_OP_CREATE_MKEY = MLX5_CMD_OP_ACCESS_REG) := by decide
    exact if_neg fun h => hne (hopcode.symm.trans h.1)
  other r hopcode := by
    have hne : MLX5_CMD_OP_ACCESS_REG ∉
        [MLX5_CMD_OP_ALLOC_PD, MLX5_CMD_OP_DEALLOC_PD, MLX5_CMD_OP_DESTROY_MKEY] := by decide
    refine if_neg fun h => ?_
    rw [h.1] at hopcode
    exact hne hopcode

theorem setupUmem_quiet (u : World (σ × List Event)) (args : Args) :
    Sends [] u (setupUmem K.traced u args).w :=
  .of_quiet (setupUmem_adds K u (umemKind_quiet _))

theorem teardownUmem_quiet (w : World (σ × List Event)) (umemBuff : Option UmemBuff)
    (umemPdn : u32) : Sends [] w (teardownUmem K.traced w umemBuff umemPdn) :=
  .of_quiet (teardownUmem_adds K w (umemKind_quiet 0) umemBuff umemPdn)

/-- A register access: refused, or one request of this register. -/
theorem accessReg_sends (w : World (σ × List Event)) (dataIn dataOut : Mem) {n m : Nat}
    (hn : n < 2147483632) (hm : m < 2147483632) (regId : BitVec 16) :
    let r := mlx5AccessReg K.traced.toSys w dataIn n dataOut m regId 0 0
    (Sends [] w r.w ∧ r.err ≠ 0) ∨
    ∃ req, Carries dataIn n regId 0 0 req ∧
      Sends (if regId.setWidth 32 = MLX5_REG_RESOURCE_DUMP.setWidth 32 then [req] else []) w r.w := by
  intro r
  rcases mlx5AccessReg_carried K w dataIn dataOut hn hm regId 0 0 with
    ⟨a, b, g, h, -, herr, hjournal⟩ | ⟨a, b, cmd, hcarries, -, hjournal⟩
  · refine Or.inl ⟨⟨_, hjournal, rfl⟩, ?_⟩
    rw [herr]
    decide
  · refine Or.inr ⟨cmd.request, hcarries, _, hjournal, ?_⟩
    have hregister : registerOf cmd.request = regId.setWidth 32 := hcarries.registerId
    have hentry : dumpRequest (.rpc cmd) =
        if regId.setWidth 32 = MLX5_REG_RESOURCE_DUMP.setWidth 32 then some cmd.request
        else none := by
      simp [dumpRequest, hcarries.opcode, hregister]
    have hall : dumpRequests [.malloc a true, .malloc b true, .rpc cmd] =
        (dumpRequest (.rpc cmd)).toList := by
      unfold dumpRequests
      rw [List.filterMap_cons_none rfl, List.filterMap_cons_none rfl, List.filterMap_cons]
      cases dumpRequest (.rpc cmd) <;> rfl
    rw [hall, hentry]
    split_ifs <;> rfl

/-- A core dump sends none. -/
theorem mlx5CoreDump_quiet (w : World (σ × List Event)) (umemBuff : Option UmemBuff) :
    Sends [] w (mlx5CoreDump K.traced w umemBuff) := by
  unfold mlx5CoreDump
  cases umemBuff with
  | none => exact .of_sys rfl
  | some umem =>
      have hreg : Sends [] w (mlx5AccessReg K.traced.toSys w (coreDumpIn umem)
          CoreDumpReg.szBytes zeroMem CoreDumpReg.szBytes MLX5_REG_CORE_DUMP 0 0).w := by
        rcases accessReg_sends K w (coreDumpIn umem) zeroMem (n := 64) (m := 64) (by decide)
          (by decide) MLX5_REG_CORE_DUMP with ⟨hnone, -⟩ | ⟨req, -, hsent⟩
        · exact hnone
        · rwa [if_neg (by decide)] at hsent
      dsimp only
      split_ifs
      · exact hreg.trans (.of_sys rfl)
      · exact hreg.trans (.of_sys rfl)

/-! ## The collectors -/

/-- A request that carries `p` satisfies `A`. -/
def Puts (A : List u8 → Prop) (p : Mem) : Prop :=
  ∀ req, Carries p ResourceDump.szBytes MLX5_REG_RESOURCE_DUMP 0 0 req → A req

/-- A round sends its request, or fails. -/
theorem iter_begun {A : List u8 → Prop} (w : World (σ × List Event)) {inb : Mem} (out : Mem)
    (hA : Puts A inb) :
    (Sends [] w (mlx5RscDumpIter K.traced.toSys w inb out).w ∧
      (mlx5RscDumpIter K.traced.toSys w inb out).err < 0) ∨
    Begun A w (mlx5RscDumpIter K.traced.toSys w inb out).w := by
  have hsys : Sends [] (access K.traced.toSys w inb out).w
      (mlx5RscDumpIter K.traced.toSys w inb out).w :=
    .of_sys (iter_sys K.traced.toSys w inb out)
  rcases accessReg_sends K w inb out (n := ResourceDump.szBytes) (m := ResourceDump.szBytes)
    (by decide) (by decide) MLX5_REG_RESOURCE_DUMP with ⟨hnone, herr⟩ | ⟨req, hcarries, hsent⟩
  · refine Or.inl ⟨hnone.trans hsys, ?_⟩
    have haccepted := iter_accepted_iff K.traced.toSys w inb out
    by_contra hpos
    exact herr (haccepted.mp (Int.not_lt.mp hpos)).1
  · rw [if_pos rfl] at hsent
    exact Or.inr ⟨req, [], hsent.trans hsys, hA req hcarries⟩

/-- The request has been sent, or none has and it is still in `in`. -/
def Begins (A : List u8 → Prop) (w : World (σ × List Event)) (inb : Mem)
    (v : World (σ × List Event)) : Prop :=
  Begun A w v ∨ (Sends [] w v ∧ Puts A inb)

theorem Begins.firstIs {A : List u8 → Prop} {w v : World (σ × List Event)} {inb : Mem}
    (h : Begins A w inb v) : FirstIs A w v :=
  h.elim Begun.firstIs fun h => .of_none h.1

/-- The first turn of the inline collector. -/
theorem collectTurn_begun {A : List u8 → Prop} (c : Collect (σ × List Event))
    (hA : Puts A c.inb) :
    Post (fun c' => Begun A c.w c'.w) (fun r => FirstIs A c.w r.w)
      (collectTurn K.traced.toSys c) := by
  have hroom := makeRoom_accesses K (c.iterate K.traced.toSys)
    (c.iterate K.traced.toSys).iterSize
  unfold collectTurn
  dsimp only
  rcases iter_begun K c.w c.out hA with ⟨hnone, herr⟩ | hbegun
  · rw [if_pos herr]
    exact .of_none (hnone.trans (.of_sys rfl))
  · by_cases herr : (mlx5RscDumpIter K.traced.toSys c.w c.inb c.out).err < 0
    · rw [if_pos herr]
      exact (hbegun.trans (.of_sys rfl)).firstIs
    · rw [if_neg herr]
      cases hm : makeRoom K.traced.toSys (c.iterate K.traced.toSys)
          (c.iterate K.traced.toSys).iterSize with
      | exit r =>
          rw [hm] at hroom
          exact (hbegun.trans_adds hroom).firstIs
      | again c' =>
          rw [hm] at hroom
          rw [bind_again]
          split_ifs
          · exact hbegun.trans_adds hroom
          · exact (hbegun.trans_adds hroom).firstIs

/-- The first turn of the umem collector. -/
theorem collectUmemTurn_begun {A : List u8 → Prop} (umem : UmemBuff)
    (c : CollectUmem (σ × List Event)) (hA : Puts A c.inb) :
    Post (fun c' => Begun A c.w c'.w) (fun r => FirstIs A c.w r.w)
      (collectUmemTurn K.traced.toSys umem c) := by
  unfold collectUmemTurn
  dsimp only
  rcases iter_begun K c.w c.out hA with ⟨hnone, herr⟩ | hbegun
  · rw [if_pos herr]
    exact .of_none (hnone.trans (.of_sys rfl))
  · -- leaving the loop or going round, nothing more is sent
    split_ifs
    all_goals first
      | exact (hbegun.trans (.of_sys rfl)).firstIs
      | exact hbegun.trans (.of_sys rfl)

/-- One turn of a collector keeps `Begins`, when whatever it sends first is what its `in` puts. -/
theorem begins_turn {A : List u8 → Prop} {γ ρ : Type} {world : γ → World (σ × List Event)}
    {inb : γ → Mem} {result : ρ → World (σ × List Event)} {turn : γ → Turn γ ρ}
    {w : World (σ × List Event)} {c : γ}
    (accesses : Post (fun c' => Accesses (world c) (world c'))
      (fun r => Accesses (world c) (result r)) (turn c))
    (begun : Puts A (inb c) → Post (fun c' => Begun A (world c) (world c'))
      (fun r => FirstIs A (world c) (result r)) (turn c))
    (hc : Begins A w (inb c) (world c)) :
    Post (fun c' => Begins A w (inb c') (world c')) (fun r => FirstIs A w (result r)) (turn c) := by
  rcases hc with hbegun | ⟨hnone, hput⟩
  · exact accesses.mono (fun _ h => Or.inl (hbegun.trans_adds h))
      (fun _ h => (hbegun.trans_adds h).firstIs)
  · exact (begun hput).mono (fun _ h => Or.inl (hnone.trans_begun h))
      (fun _ h => hnone.trans_firstIs h)

theorem malloc_quiet (w : World (σ × List Event)) (size : Nat) (out : List Line) :
    Sends [] w ⟨(K.traced.malloc w.sys size).2, out⟩ :=
  .of_quiet (.one (e := .malloc size (K.malloc w.sys.1 size).1.isSome) rfl rfl)

theorem rscdumpCollect_firstIs {A : List u8 → Prop} (w : World (σ × List Event)) {args : Args}
    (hA : Puts A (inlineRequest args)) (n : Nat) :
    Post (fun c => FirstIs A w c.w) (fun r => FirstIs A w r.w)
      (rscdumpCollect K.traced.toSys w args 0 n) := by
  have hstart : Post (fun c => Begins A w c.inb c.w) (fun r => FirstIs A w r.w)
      (collectStart K.traced.toSys w args 0) := by
    unfold collectStart
    dsimp only
    split
    · exact .of_none (malloc_quiet K w _ _)
    · exact Or.inr ⟨malloc_quiet K w _ _, hA⟩
  exact (bind_run_invariant hstart (fun _ c _ hc =>
    begins_turn (collectTurn_accesses K c) (collectTurn_begun K c) hc) n).mono
    (fun _ hc => hc.firstIs) (fun _ hr => hr)

theorem rscdumpCollectUmem_firstIs {A : List u8 → Prop} (w : World (σ × List Event)) {args : Args}
    {umem : UmemBuff} (hA : Puts A (umemRequest args umem)) (n : Nat) :
    Post (fun c => FirstIs A w c.w) (fun r => FirstIs A w r.w)
      (rscdumpCollectUmem K.traced.toSys w args umem n) := by
  have hstart : Post (fun c => Begins A w c.inb c.w) (fun r => FirstIs A w r.w)
      (collectUmemStart K.traced.toSys w args umem) := by
    unfold collectUmemStart
    dsimp only
    split
    · exact .of_none (malloc_quiet K w _ _)
    · exact Or.inr ⟨malloc_quiet K w _ _, hA⟩
  exact (bind_run_invariant hstart (fun _ c _ hc =>
    begins_turn (collectUmemTurn_accesses K umem c) (collectUmemTurn_begun K umem c) hc) n).mono
    (fun _ hc => hc.firstIs) (fun _ hr => hr)

end Mlx5ctl.RscDump
