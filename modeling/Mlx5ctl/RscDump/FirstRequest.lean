/-
  rscdump.c: the arguments in the first RESOURCE_DUMP request.

  `--type=`, `--idx1=` and `--idx2=` are scanned as hexadecimal numbers behind a "0x",
  `--vhcaid=` is decimal. A type that is no such number is looked up by name, which is not
  implemented: the dump is that of the menu. An index that is none is left out. The fields of the
  request hold the low bits (`FirstRequest`).
-/
import Mlx5ctl.RscDump.Options
import Mlx5ctl.RscDump.DumpRequests

namespace Mlx5ctl.RscDump

open ByteMem CInt CString Ifc Turn

variable {σ : Type} (K : UmemSys σ)

/-! ## The request -/

/-- A field of the register data in a request. -/
def dumpField (req : List u8) (f : Field) : Nat :=
  (requestField (req.drop AccessRegisterIn.registerData) 0 f).toNat

/-- The segment type for `--type=s`. -/
def typeField (s : CStr) : Nat :=
  match scan0xHex s with
  | some type => if type < 2147483648 then type % 65536 else MLX5_RSC_SGMT_TYPE_MENU
  | none => if scanWord s ≠ [] then MLX5_RSC_SGMT_TYPE_MENU else 0

/-- What the first request carries of the arguments behind `argv[0]`. -/
structure FirstRequest (rest : List CStr) (req : List u8) : Prop where
  registerId : requestField req 0 AccessRegisterIn.registerId = MLX5_REG_RESOURCE_DUMP.setWidth 32
  segmentType : dumpField req ResourceDump.segmentType =
    lastOf MLX5_RSC_SGMT_TYPE_MENU ((optionValues "--type=" rest).map typeField)
  index1 : dumpField req ResourceDump.index1 =
    lastOf 0 ((optionValues "--idx1=" rest).filterMap scan0xHex)
  index2 : dumpField req ResourceDump.index2 =
    lastOf 0 ((optionValues "--idx2=" rest).filterMap scan0xHex)
  vhcaId : (dumpField req ResourceDump.vhcaId : Int) =
    lastOf 0 ((optionValues "--vhcaid=" rest).map atoi) % 65536

/-- A field of the register data, as the request carries it. -/
theorem carried_field {p : Mem} {n : Nat} {regId : BitVec 16} {arg write : Int} {req : List u8}
    (h : Carries p n regId arg write req) {f : Field} (hf : f.off + f.sz ≤ 8 * n) :
    dumpField req f = (mlx5Get p 0 f).toNat := by
  unfold dumpField
  rw [h.registerData, requestField_load _ (by omega)]

/-! ## The fields of the arguments -/

/-- The fields that `setArgs` sets. -/
def argFields : List Field :=
  [ResourceDump.segmentType, ResourceDump.index1, ResourceDump.index2, ResourceDump.vhcaId]

/-- Both hold the same arguments. -/
def SameArgs (p q : Mem) : Prop := ∀ f ∈ argFields, mlx5Get q 0 f = mlx5Get p 0 f

theorem sameArgs_set (p : Mem) (g : Field) (v : u32)
    (h : ∀ f ∈ argFields, f.off + f.sz ≤ g.off ∨ g.off + g.sz ≤ f.off) :
    SameArgs p (mlx5Set p 0 g v) :=
  fun f hf => mlx5Get_set_ne p 0 g f v (h f hf)

theorem sameArgs_set64 (p : Mem) (d : Field64) (v : u64)
    (h : ∀ f ∈ argFields, f.off + f.sz ≤ d.off ∨ d.off + 64 ≤ f.off) :
    SameArgs p (mlx5Set64 p 0 d v) := by
  intro f hf
  have hapart := h f hf
  apply BitVec.eq_of_toNat_eq
  rw [mlx5Get_num, mlx5Get_num]
  exact (mlx5Set64_replaces p 0 d v).num_disjoint (by omega)

theorem SameArgs.trans {p q r : Mem} (h : SameArgs p q) (h' : SameArgs q r) : SameArgs p r :=
  fun f hf => (h' f hf).trans (h f hf)

theorem inlineRequest_args (args : Args) : SameArgs (setArgs zeroMem args) (inlineRequest args) :=
  sameArgs_set _ ResourceDump.inlineDump _ (by decide)

theorem umemRequest_args (args : Args) (umem : UmemBuff) :
    SameArgs (setArgs zeroMem args) (umemRequest args umem) :=
  (sameArgs_set _ ResourceDump.inlineDump 0 (by decide)).trans
    ((sameArgs_set _ ResourceDump.mkey umem.umemMkey (by decide)).trans
      ((sameArgs_set64 _ ResourceDump.address umem.buff (by decide)).trans
        (sameArgs_set _ ResourceDump.size _ (by decide))))

/-- What `setArgs` sets: the low bits of the arguments. -/
theorem setArgs_fields (p : Mem) (args : Args) :
    (mlx5Get (setArgs p args) 0 ResourceDump.segmentType).toNat =
        (BitVec.ofInt 32 args.type).toNat % 65536 ∧
      (mlx5Get (setArgs p args) 0 ResourceDump.index1).toNat =
        (BitVec.ofInt 32 args.index1).toNat ∧
      (mlx5Get (setArgs p args) 0 ResourceDump.index2).toNat =
        (BitVec.ofInt 32 args.index2).toNat ∧
      (mlx5Get (setArgs p args) 0 ResourceDump.vhcaId).toNat =
        (BitVec.ofInt 32 args.vhcaId).toNat % 65536 := by
  have hwidth (v : u32) : v.toNat % 2 ^ 32 = v.toNat := Nat.mod_eq_of_lt v.isLt
  unfold setArgs
  dsimp only
  refine ⟨?_, ?_, ?_, ?_⟩
  · rw [mlx5Get_set_ne _ _ _ _ _ (by decide), mlx5Get_set_ne _ _ _ _ _ (by decide),
      mlx5Get_set_ne _ _ _ _ _ (by decide), mlx5Get_set_self]
    rfl
  · rw [mlx5Get_set_ne _ _ _ _ _ (by decide), mlx5Get_set_ne _ _ _ _ _ (by decide),
      mlx5Get_set_self]
    exact hwidth _
  · rw [mlx5Get_set_ne _ _ _ _ _ (by decide), mlx5Get_set_self]
    exact hwidth _
  · rw [mlx5Get_set_self]
    rfl

/-! ## The numbers -/

theorem ofInt_toInt {v : Nat} (h : v < 4294967296) : (BitVec.ofInt 32 (toInt v)).toNat = v := by
  rw [BitVec.toNat_ofInt]
  unfold toInt
  omega

theorem lastOf_map {α β : Type} (f : α → β) (old : α) (l : List α) :
    lastOf (f old) (l.map f) = f (lastOf old l) := by
  unfold lastOf
  rw [List.getLast?_map]
  cases l.getLast? <;> rfl

theorem lastOf_mem {α : Type} (old : α) (l : List α) : lastOf old l = old ∨ lastOf old l ∈ l := by
  unfold lastOf
  cases h : l.getLast? with
  | none => exact Or.inl rfl
  | some a => exact Or.inr (List.mem_of_getLast? h)

/-- The index of an option, as it is sent. -/
theorem index_sent (opt : String) (rest : List CStr) :
    (BitVec.ofInt 32 (lastOf 0 (scanned opt rest))).toNat =
      lastOf 0 ((optionValues opt rest).filterMap scan0xHex) := by
  have hscanned : scanned opt rest =
      ((optionValues opt rest).filterMap scan0xHex).map fun v : Nat => toInt v :=
    (List.map_filterMap).symm
  have hlast := lastOf_map (fun v : Nat => toInt v) 0 ((optionValues opt rest).filterMap scan0xHex)
  rw [show toInt ((0 : Nat) : Int) = 0 by decide] at hlast
  rw [hscanned, hlast, ofInt_toInt]
  rcases lastOf_mem 0 ((optionValues opt rest).filterMap scan0xHex) with hzero | hmem
  · rw [hzero]
    decide
  · obtain ⟨s, -, hs⟩ := List.mem_filterMap.mp hmem
    exact scan0xHex_lt hs

/-- The segment type that is sent for the type `parse_args` holds. -/
def sentType (type : Int) : Nat :=
  (BitVec.ofInt 32 (if type < 0 then (MLX5_RSC_SGMT_TYPE_MENU : Int) else type)).toNat % 65536

theorem sentType_menu {type : Int} (h : type < 0) : sentType type = MLX5_RSC_SGMT_TYPE_MENU := by
  unfold sentType
  rw [if_pos h]
  decide

theorem sentType_toInt {v : Nat} (h : v < 4294967296) :
    sentType (toInt v) = if v < 2147483648 then v % 65536 else MLX5_RSC_SGMT_TYPE_MENU := by
  by_cases hv : v < 2147483648
  · have hpos : ¬toInt v < 0 := by
      unfold toInt
      omega
    unfold sentType
    rw [if_neg hpos, if_pos hv, ofInt_toInt h]
  · rw [if_neg hv]
    apply sentType_menu
    unfold toInt
    omega

/-- One `--type=`, as it is sent. -/
theorem sentType_word (s : CStr) : sentType (parseRscDumpTypeArg s) = typeField s := by
  unfold parseRscDumpTypeArg typeField
  cases hs : scan0xHex s with
  | some v => exact sentType_toInt (scan0xHex_lt hs)
  | none =>
      dsimp only
      split_ifs with hword
      · exact sentType_menu (show (-1 : Int) < 0 by decide)
      · decide

/-- The type of the last `--type=`, as it is sent. -/
theorem type_sent {args : Args} {l : List CStr}
    (h : args.type = lastOf (-1) (l.map parseRscDumpTypeArg)) :
    (BitVec.ofInt 32 args.withType.type).toNat % 65536 =
      lastOf MLX5_RSC_SGMT_TYPE_MENU (l.map typeField) := by
  have hwith : (BitVec.ofInt 32 args.withType.type).toNat % 65536 = sentType args.type := by
    unfold Args.withType sentType
    split_ifs <;> rfl
  have hlast := lastOf_map sentType (-1) (l.map parseRscDumpTypeArg)
  rw [sentType_menu (by decide), List.map_map] at hlast
  rw [hwith, h, ← hlast]
  congr 2
  funext s
  exact sentType_word s

/-- The vhca id, as it is sent. -/
theorem vhcaId_sent (vhcaId : Int) :
    (((BitVec.ofInt 32 vhcaId).toNat % 65536 : Nat) : Int) = vhcaId % 65536 := by
  rw [BitVec.toNat_ofInt]
  omega

/-! ## The first request -/

/-- A request with these arguments in it is a first request. -/
theorem puts_first {w v : World σ} {argv : List CStr} {args : Args}
    (hargs : parseArgs w argv = .ret args v) {p : Mem}
    (hp : SameArgs (setArgs zeroMem args.withType) p) : Puts (FirstRequest argv.tail) p := by
  intro req hreq
  obtain ⟨-, htype, hindex1, hindex2, hvhcaId⟩ := (parseArgs_fields hargs).1
  have hkeep : args.withType.index1 = args.index1 ∧ args.withType.index2 = args.index2 ∧
      args.withType.vhcaId = args.vhcaId := by
    unfold Args.withType
    split_ifs <;> exact ⟨rfl, rfl, rfl⟩
  obtain ⟨hsetType, hset1, hset2, hsetId⟩ := setArgs_fields zeroMem args.withType
  have hfield (f : Field) (hf : f ∈ argFields) (hend : f.off + f.sz ≤ 8 * ResourceDump.szBytes) :
      dumpField req f = (mlx5Get (setArgs zeroMem args.withType) 0 f).toNat := by
    rw [carried_field hreq hend, hp f hf]
  constructor
  · exact hreq.registerId
  · rw [hfield _ (by simp [argFields]) (by decide), hsetType]
    exact type_sent htype
  · rw [hfield _ (by simp [argFields]) (by decide), hset1, hkeep.1, hindex1]
    exact index_sent _ _
  · rw [hfield _ (by simp [argFields]) (by decide), hset2, hkeep.2.1, hindex2]
    exact index_sent _ _
  · rw [hfield _ (by simp [argFields]) (by decide), hsetId, hkeep.2.2, hvhcaId]
    exact vhcaId_sent _

/-- The dump by the name of the command. -/
theorem dumpCommand_firstIs {A : List u8 → Prop} {w v : World (σ × List Event)} {cmd : CStr}
    {args : Args} {umemBuff : Option UmemBuff} {n : Nat}
    (hinline : Puts A (inlineRequest args)) (humem : ∀ umem, Puts A (umemRequest args umem))
    (h : dumpCommand K.traced w cmd args umemBuff n = some v) : FirstIs A w v := by
  unfold dumpCommand at h
  split_ifs at h
  · obtain ⟨d, hd, hv⟩ := Option.bind_eq_some_iff.mp h
    have hcollect : FirstIs A w d.w := by
      unfold collectDump at hd
      cases umemBuff with
      | none =>
          have hrun := rscdumpCollect_firstIs K w hinline n
          dsimp only at hd
          split at hd
          · rename_i r hr
            rw [hr] at hrun
            cases hd
            exact hrun
          · cases hd
      | some umem =>
          have hrun := rscdumpCollectUmem_firstIs K w (humem umem) n
          dsimp only at hd
          split at hd
          · rename_i r hr
            rw [hr] at hrun
            cases hd
            exact hrun
          · cases hd
    split at hv
    · cases hv
      exact hcollect
    · split at hv
      · cases hv
        exact hcollect.trans_none (.of_sys rfl)
      · cases hv
  · cases h
    exact .of_none (mlx5CoreDump_quiet K w umemBuff)
  · cases h
    exact .of_none (.of_sys rfl)

/-- **The first request.** Where `parse_args` accepts the arguments, the first RESOURCE_DUMP
    request, of a collector in any number of turns and of a command that returns, carries them as
    `FirstRequest` says; and a name of less than 64 characters is written within `byname`. -/
theorem first_request {w v : World (σ × List Event)} {argv : List CStr} {args : Args}
    (hargs : parseArgs w argv = .ret args v) :
    (∀ u n, Post (fun c => FirstIs (FirstRequest argv.tail) u c.w)
      (fun r => FirstIs (FirstRequest argv.tail) u r.w)
      (rscdumpCollect K.traced.toSys u args.withType 0 n)) ∧
    (∀ u umem n, Post (fun c => FirstIs (FirstRequest argv.tail) u c.w)
      (fun r => FirstIs (FirstRequest argv.tail) u r.w)
      (rscdumpCollectUmem K.traced.toSys u args.withType umem n)) ∧
    (∀ n ret v', doRscdump K.traced w argv n = some (.ret ret v') →
      FirstIs (FirstRequest argv.tail) w v') ∧
    ∀ s ∈ optionValues "--type=" argv.tail, (scanWord s).length < bynameBytes →
      bynameWritten s ≤ bynameBytes := by
  have hinline := puts_first hargs (inlineRequest_args args.withType)
  have humem (umem : UmemBuff) := puts_first hargs (umemRequest_args args.withType umem)
  refine ⟨fun u n => rscdumpCollect_firstIs K u hinline n,
    fun u umem n => rscdumpCollectUmem_firstIs K u (humem umem) n, fun n ret v' h => ?_,
    fun s _ hlen => ?_⟩
  · unfold doRscdump at h
    rw [hargs] at h
    dsimp only at h
    generalize hu : v.print _ = u at h
    have hstart : Sends [] w u := by
      refine .of_sys ?_
      rw [← hu, ← (parseArgs_fields hargs).2]
      rfl
    have hsetup := setupUmem_quiet K u args.withType
    cases hset : setupUmem K.traced u args.withType with
    | returned ret v₁ =>
        rw [hset] at h hsetup
        cases h
        exact .of_none (hstart.trans hsetup)
    | ready umemBuff umemPdn v₁ =>
        rw [hset] at h hsetup
        obtain ⟨v₂, hdump, hret⟩ := Option.map_eq_some_iff.mp h
        cases hret
        have hfirst := dumpCommand_firstIs K hinline humem hdump
        exact (hstart.trans hsetup).trans_firstIs
          (hfirst.trans_none (teardownUmem_quiet K v₂ umemBuff umemPdn))
  · unfold bynameWritten
    split_ifs
    · exact hlen
    · exact Nat.zero_le _

/-- `rscdump --type=0x1000 --idx1=0x5` sends one request. -/
theorem first_request_0x1000 : ∃ v req, doRscdump granting.traced ⟨(0, []), []⟩
      ["rscdump".toList, "--type=0x1000".toList, "--idx1=0x5".toList] 1 = some (.ret 0 v) ∧
    dumpRequests (events v) = [req] ∧ dumpField req ResourceDump.segmentType = 0x1000 ∧
    dumpField req ResourceDump.index1 = 5 := by
  obtain ⟨args, hargs⟩ : ∃ args, parseArgs (⟨(0, []), []⟩ : World (Nat × List Event))
      ["rscdump".toList, "--type=0x1000".toList, "--idx1=0x5".toList] =
        .ret args ⟨(0, []), []⟩ := ⟨_, rfl⟩
  obtain ⟨v, req, hv, hsent⟩ : ∃ v req, doRscdump granting.traced ⟨(0, []), []⟩
      ["rscdump".toList, "--type=0x1000".toList, "--idx1=0x5".toList] 1 = some (.ret 0 v) ∧
      dumpRequests (events v) = [req] := ⟨_, _, rfl, rfl⟩
  obtain ⟨reqs, ⟨new, hnew, hreqs⟩, hfirst⟩ := (first_request granting hargs).2.2.1 1 0 v hv
  have hnew : events v = new := hnew
  rw [← hnew, hsent] at hreqs
  have hreq := hfirst req (by rw [← hreqs]; rfl)
  refine ⟨v, req, hv, hsent, ?_, ?_⟩
  · rw [hreq.segmentType]
    decide
  · rw [hreq.index1]
    decide

/-- The fields of the requests from the start of a journal. -/
def sentFields (v : World (σ × List Event)) : List (Nat × Nat × Nat × Nat) :=
  (dumpRequests (events v)).map fun req =>
    (dumpField req ResourceDump.segmentType, dumpField req ResourceDump.index1,
      dumpField req ResourceDump.index2, dumpField req ResourceDump.vhcaId)

/-- A decimal type is the menu, a decimal index is left out, a hexadecimal vhca id is 0, a type or
    vhca id above 16 bits is cut, and 64 characters overflow `byname`. -/
theorem arguments_misread :
    (∃ v, doRscdump granting.traced ⟨(0, []), []⟩ ["rscdump".toList, "--type=4096".toList] 1 =
      some (.ret 0 v) ∧ sentFields v = [(0xffff, 0, 0, 0)]) ∧
    (∃ v, doRscdump granting.traced ⟨(0, []), []⟩ ["rscdump".toList, "--idx1=5".toList] 1 =
      some (.ret 0 v) ∧ sentFields v = [(0xffff, 0, 0, 0)]) ∧
    (∃ v, doRscdump granting.traced ⟨(0, []), []⟩ ["rscdump".toList, "--vhcaid=0x10".toList] 1 =
      some (.ret 0 v) ∧ sentFields v = [(0xffff, 0, 0, 0)]) ∧
    (∃ v, doRscdump granting.traced ⟨(0, []), []⟩
      ["rscdump".toList, "--type=0x11000".toList, "--vhcaid=65537".toList] 1 = some (.ret 0 v) ∧
      sentFields v = [(0x1000, 0, 0, 1)]) ∧
    bynameBytes < bynameWritten (List.replicate 64 'a') :=
  ⟨⟨_, rfl, rfl⟩, ⟨_, rfl, rfl⟩, ⟨_, rfl, rfl⟩, ⟨_, rfl, rfl⟩, by decide⟩

end Mlx5ctl.RscDump
