/-
  query_obj.c: the object queries.

  Every `QUERY_FUNC` sets the opcode, the fields that name the object and op_mod in the zeroed
  buffer; it differs from the others in its sizes, its opcode and these fields. `Asks` says what
  a query is for: the opcode of the object type that was named, its id, and nothing else.
-/
import Mlx5ctl.Cli

namespace Mlx5ctl.QueryObj

open ByteMem CInt CString Ifc

variable {σ : Type} (K : Sys σ)

/-- What a `QUERY_FUNC` is made of: `*in_sz`, `*out_sz`, the opcode, and the fields that name the
    object with what `obj_id` puts there. -/
structure QueryFunc where
  inSz : Nat
  outSz : Nat
  opcode : u32
  object : List (Field × (u32 → u32))

/-- The body of a `QUERY_FUNC`. Every `query_*_in` has its opcode and its op_mod where `mbox_in`
    has them. -/
def QueryFunc.run (f : QueryFunc) (inb : Mem) (objId opMod : u32) : Mem :=
  let inb := mlx5Set inb 0 MboxIn.opcode f.opcode
  let inb := f.object.foldl (fun inb (fld, v) => mlx5Set inb 0 fld (v objId)) inb
  mlx5Set inb 0 MboxIn.opMod opMod

/-- `QUERY_FUNC(eq)`: `eq_number` -/
def queryEq : QueryFunc := ⟨16, 272, MLX5_CMD_OP_QUERY_EQ, [(QueryIn.eqNumber, id)]⟩

/-- `QUERY_FUNC(cq)`: `cqn` -/
def queryCq : QueryFunc := ⟨16, 272, MLX5_CMD_OP_QUERY_CQ, [(QueryIn.cqn, id)]⟩

/-- `QUERY_FUNC(qp)`: `qpn` -/
def queryQp : QueryFunc := ⟨16, 272, MLX5_CMD_OP_QUERY_QP, [(QueryIn.qpn, id)]⟩

/-- `QUERY_FUNC(sq)`: `sqn` -/
def querySq : QueryFunc := ⟨16, 272, MLX5_CMD_OP_QUERY_SQ, [(QueryIn.sqn, id)]⟩

/-- `QUERY_FUNC(rq)`: `rqn` -/
def queryRq : QueryFunc := ⟨16, 272, MLX5_CMD_OP_QUERY_RQ, [(QueryIn.rqn, id)]⟩

/-- `QUERY_FUNC(tis)`: `tisn` -/
def queryTis : QueryFunc := ⟨16, 176, MLX5_CMD_OP_QUERY_TIS, [(QueryIn.tisn, id)]⟩

/-- `QUERY_FUNC(tir)`: `tirn` -/
def queryTir : QueryFunc := ⟨16, 272, MLX5_CMD_OP_QUERY_TIR, [(QueryIn.tirn, id)]⟩

/-- `QUERY_FUNC(rqt)`: `rqtn` -/
def queryRqt : QueryFunc := ⟨16, 272, MLX5_CMD_OP_QUERY_RQT, [(QueryIn.rqtn, id)]⟩

/-- `QUERY_FUNC(rmp)`: `rmpn` -/
def queryRmp : QueryFunc := ⟨16, 272, MLX5_CMD_OP_QUERY_RMP, [(QueryIn.rmpn, id)]⟩

/-- `QUERY_FUNC(dct)`: `dctn` -/
def queryDct : QueryFunc := ⟨16, 128, MLX5_CMD_OP_QUERY_DCT, [(QueryIn.dctn, id)]⟩

/-- `QUERY_FUNC(srq)`: `srqn` -/
def querySrq : QueryFunc := ⟨16, 272, MLX5_CMD_OP_QUERY_SRQ, [(QueryIn.srqn, id)]⟩

/-- `QUERY_FUNC(xrq)`: `xrqn` -/
def queryXrq : QueryFunc := ⟨16, 336, MLX5_CMD_OP_QUERY_XRC_SRQ, [(QueryIn.xrqn, id)]⟩

/-- `QUERY_FUNC(xrc_srq)`: `xrc_srqn` -/
def queryXrcSrq : QueryFunc := ⟨16, 272, MLX5_CMD_OP_QUERY_XRC_SRQ, [(QueryIn.xrcSrqn, id)]⟩

/-- `QUERY_FUNC(q_counter)`: `counter_set_id` -/
def queryQCounter : QueryFunc :=
  ⟨32, 256, MLX5_CMD_OP_QUERY_Q_COUNTER, [(QueryIn.counterSetId, id)]⟩

/-- `QUERY_FUNC(mkey)`: `mkey_index` -/
def queryMkey : QueryFunc := ⟨16, 304, MLX5_CMD_OP_QUERY_MKEY, [(QueryIn.mkeyIndex, id)]⟩

/-- `QUERY_FUNC(pages)`: `function_id` -/
def queryPages : QueryFunc := ⟨16, 16, MLX5_CMD_OP_QUERY_PAGES, [(QueryIn.functionId, id)]⟩

/-- `QUERY_FUNC(l2_table_entry)`: `table_index` -/
def queryL2TableEntry : QueryFunc :=
  ⟨64, 64, MLX5_CMD_OP_QUERY_L2_TABLE_ENTRY, [(QueryIn.tableIndex, id)]⟩

/-- `QUERY_FUNC(issi)` -/
def queryIssi : QueryFunc := ⟨16, 112, MLX5_CMD_OP_QUERY_ISSI, []⟩

/-- `QUERY_FUNC(vport_state)`: `vport_number`, `other_vport` -/
def queryVportState : QueryFunc :=
  ⟨16, 16, MLX5_CMD_OP_QUERY_VPORT_STATE,
    [(QueryIn.vportNumber, id), (QueryIn.otherVport, fun _ => 1)]⟩

/-- `QUERY_FUNC(esw_vport_context)`: `vport_number`, `other_vport` -/
def queryEswVportContext : QueryFunc :=
  ⟨16, 272, MLX5_CMD_OP_QUERY_ESW_VPORT_CONTEXT,
    [(QueryIn.vportNumber, id), (QueryIn.otherVport, fun _ => 1)]⟩

/-- `QUERY_FUNC(vport_counter)`: `vport_number`, `other_vport` -/
def queryVportCounter : QueryFunc :=
  ⟨32, 528, MLX5_CMD_OP_QUERY_VPORT_COUNTER,
    [(QueryIn.vportNumber, id), (QueryIn.otherVport, fun _ => 1)]⟩

/-- `QUERY_FUNC(vnic_env)` -/
def queryVnicEnv : QueryFunc := ⟨16, 528, MLX5_CMD_OP_QUERY_VNIC_ENV, []⟩

/-- `QUERY_FUNC(packet_reformat_context)`: `packet_reformat_id` -/
def queryPacketReformatContext : QueryFunc :=
  ⟨32, 28, MLX5_CMD_OP_QUERY_PACKET_REFORMAT_CONTEXT, [(QueryIn.packetReformatId, id)]⟩

/-- `QUERY_FUNC(special_contexts)` -/
def querySpecialContexts : QueryFunc := ⟨16, 32, MLX5_CMD_OP_QUERY_SPECIAL_CONTEXTS, []⟩

/-- `QUERY_FUNC(mad_demux)` -/
def queryMadDemux : QueryFunc := ⟨16, 20, MLX5_CMD_OP_QUERY_MAD_DEMUX, []⟩

/-- `QUERY_FUNC(cong_statistics)` -/
def queryCongStatistics : QueryFunc := ⟨16, 272, MLX5_CMD_OP_QUERY_CONG_STATISTICS, []⟩

/-- `QUERY_FUNC(cong_params)`: `cong_protocol` -/
def queryCongParams : QueryFunc :=
  ⟨16, 272, MLX5_CMD_OP_QUERY_CONG_PARAMS, [(QueryIn.congProtocol, id)]⟩

/-- `QUERY_FUNC(cong_status)`: `priority`, `cong_protocol` -/
def queryCongStatus : QueryFunc :=
  ⟨16, 16, MLX5_CMD_OP_QUERY_CONG_STATUS,
    [(QueryIn.priority, fun objId => (objId >>> 4) &&& 0xf),
      (QueryIn.congProtocol, fun objId => objId &&& 0xf)]⟩

/-- `QUERY_FUNC(adapter)` -/
def queryAdapter : QueryFunc := ⟨16, 272, MLX5_CMD_OP_QUERY_ADAPTER, []⟩

/-- `QUERY_FUNC(wol_rol)` -/
def queryWolRol : QueryFunc := ⟨16, 16, MLX5_CMD_OP_QUERY_WOL_ROL, []⟩

/-- `QUERY_FUNC(lag)` -/
def queryLag : QueryFunc := ⟨16, 16, MLX5_CMD_OP_QUERY_LAG, []⟩

/-- `QUERY_FUNC(esw_functions)` -/
def queryEswFunctions : QueryFunc := ⟨16, 128, MLX5_CMD_OP_QUERY_ESW_FUNCTIONS, []⟩

/-- `QUERY_FUNC(vhca_migration_state)`: `vhca_id` -/
def queryVhcaMigrationState : QueryFunc :=
  ⟨16, 64, MLX5_CMD_OP_QUERY_VHCA_MIGRATION_STATE, [(QueryIn.vhcaId, id)]⟩

/-- `struct obj_name_func` -/
structure ObjNameFunc where
  objName : String
  objFunc : QueryFunc
  help : String

/-- `query_funcs` -/
def queryFuncs : List ObjNameFunc :=
  [⟨"eq", queryEq, "--id=eqn"⟩,
    ⟨"cq", queryCq, "--id=cqn"⟩,
    ⟨"qp", queryQp, "--id=qpn"⟩,
    ⟨"sq", querySq, "--id=sqn"⟩,
    ⟨"rq", queryRq, "--id=rqn"⟩,
    ⟨"tis", queryTis, "--id=tisn"⟩,
    ⟨"tir", queryTir, "--id=tirn"⟩,
    ⟨"rqt", queryRqt, "--id=rqtn"⟩,
    ⟨"rmp", queryRmp, "--id=rmpn"⟩,
    ⟨"dct", queryDct, "--id=dctn"⟩,
    ⟨"srq", querySrq, "--id=srqn"⟩,
    ⟨"xrq", queryXrq, "--id=xrqn"⟩,
    ⟨"xrc_srq", queryXrcSrq, "--id=xrc_srqn"⟩,
    ⟨"q_counter", queryQCounter, "--id=counter_set_id"⟩,
    ⟨"mkey", queryMkey, "--id=mkey_index"⟩,
    ⟨"pages", queryPages, "--id=function_id"⟩,
    ⟨"l2_table_entry", queryL2TableEntry, "--id=table_index"⟩,
    ⟨"issi", queryIssi, "--op_mod=op_mod"⟩,
    ⟨"vport_state", queryVportState, "--id=vport_number (other_vport=1)"⟩,
    ⟨"esw_vport_context", queryEswVportContext, "--id=vport_number (other_vport=1)"⟩,
    ⟨"vport_counter", queryVportCounter, "--id=vport_number (other_vport=1)"⟩,
    ⟨"vnic_env", queryVnicEnv, "--op_mod=op_mod"⟩,
    ⟨"packet_reformat_context", queryPacketReformatContext, "--id=packet_reformat_id"⟩,
    ⟨"special_contexts", querySpecialContexts, "--op_mod=op_mod"⟩,
    ⟨"mad_demux", queryMadDemux, "--op_mod=op_mod"⟩,
    ⟨"cong_statistics", queryCongStatistics, "--op_mod=op_mod"⟩,
    ⟨"cong_params", queryCongParams, "--id=cong_protocol"⟩,
    ⟨"cong_status", queryCongStatus, "--id=priority:cong_protocol"⟩,
    ⟨"adapter", queryAdapter, "--op_mod=op_mod"⟩,
    ⟨"wol_rol", queryWolRol, "--op_mod=op_mod"⟩,
    ⟨"lag", queryLag, "--op_mod=op_mod"⟩,
    ⟨"esw_functions", queryEswFunctions, "--op_mod=op_mod"⟩,
    ⟨"vhca_migration_state", queryVhcaMigrationState, "--id=vhca_id"⟩]

/-- `get_query_func(obj_name)` -/
def getQueryFunc (objName : Option CStr) : Option QueryFunc :=
  match objName with
  | none => none
  | some objName =>
      (queryFuncs.find? fun e => objName = e.objName.toList).map ObjNameFunc.objFunc

/-! ## The command -/

/-- The values of the options. -/
structure ObjArgs where
  objId : u32 := 0
  opMod : u32 := 0
  binFormat : Bool := false

/-- `print_query_funcs()` -/
def printQueryFuncs : List Line :=
  queryFuncs.map fun e => .printf "\t%s %s, dump PRM name: query_%s_out\n"
    [.text e.objName, .text e.help, .text e.objName]

/-- `help()` -/
def help : List Line :=
  [.printf "Usage: mlx5ctl <device> obj <obj_name> --id=<obj_id> [--op_mod=op_mod] [--bin]\n" [],
    .printf "executes PRM command query_<obj_name>_in\n" [],
    .printf "hex dumps query_<obj_name>_out, unless [--bin|-B], then binary dump\n" [],
    .printf "Supported obj_names:\n" []] ++ printQueryFuncs

/-- One turn of the option loop of `parse_args`. -/
def parseOption (w : World σ) (args : ObjArgs) (o : Opt) : Outcome σ ObjArgs :=
  match o.c, o.optarg with
  | 'i', none => .segv w
  | 'i', some s => .ret { args with objId := BitVec.ofNat 32 (strtoul s) } w
  | 'o', none => .segv w
  | 'o', some s => .ret { args with opMod := BitVec.ofNat 32 (strtoul s) } w
  | 'B', _ => .ret { args with binFormat := true } w
  | 'h', _ => .exit 0 (w.prints help)
  | c, _ => .exit 1 (w.print (.eprintf "Invalid option %c\n" [textArg [c]]))

/-- `parse_args(argc, argv)`, with `argv[1]`. -/
def parseArgs (w : World σ) (objName : Option CStr) (opts : List Opt) : Outcome σ ObjArgs :=
  match objName with
  | none => .exit 1 ((w.print (.eprintf "Missing obj name\n" [])).prints help)
  | some _ => optionLoop parseOption w {} opts

/-- `query_obj(dev, argc, argv)`, with `argv[1]`. -/
def queryObj (w : World σ) (objName : Option CStr) (opts : List Opt) : Outcome σ Int :=
  let func := getQueryFunc objName
  (parseArgs w objName opts).bind fun args w =>
    let name := textArg (objName.getD [])
    match func with
    | none => .ret 1 (w.print (.eprintf "Invalid obj name %s\n" [name]))
    | some func =>
        let inb := func.run zeroMem args.objId args.opMod
        let m := K.malloc w.sys func.outSz
        let w := { w with sys := m.2 }
        match m.1 with
        | none => .ret 1 (w.print (.eprintf "Failed to allocate %d bytes\n" [.int func.outSz]))
        | some block =>
            let r := mlx5uCmd K w inb func.inSz (memset0 block func.outSz) func.outSz
            let named := [name, .int (toInt args.objId.toNat), .int args.opMod.toNat, .int r.ret]
            if r.ret < 0 then
              .ret 1 (r.w.print
                (.eprintf "Failed to query %s id=%d op_mod=0x%x err(%d)\n" named))
            else
              let w :=
                if 0 < r.ret then
                  r.w.print (.eprintf "Warning: %s id=%d op_mod=0x%x returned %d\n" named)
                else r.w
              let out := load r.out 0 func.outSz
              .ret 0 (w.print (if args.binFormat then .fwrite out else .hexdump out))

/-! ## What a query is for -/

/-- The opcode of the query of an object type, by the name of the type. -/
def cmdOpQuery (name : String) : u32 :=
  match name with
  | "eq" => MLX5_CMD_OP_QUERY_EQ
  | "cq" => MLX5_CMD_OP_QUERY_CQ
  | "qp" => MLX5_CMD_OP_QUERY_QP
  | "sq" => MLX5_CMD_OP_QUERY_SQ
  | "rq" => MLX5_CMD_OP_QUERY_RQ
  | "tis" => MLX5_CMD_OP_QUERY_TIS
  | "tir" => MLX5_CMD_OP_QUERY_TIR
  | "rqt" => MLX5_CMD_OP_QUERY_RQT
  | "rmp" => MLX5_CMD_OP_QUERY_RMP
  | "dct" => MLX5_CMD_OP_QUERY_DCT
  | "srq" => MLX5_CMD_OP_QUERY_SRQ
  | "xrq" => MLX5_CMD_OP_QUERY_XRQ
  | "xrc_srq" => MLX5_CMD_OP_QUERY_XRC_SRQ
  | "q_counter" => MLX5_CMD_OP_QUERY_Q_COUNTER
  | "mkey" => MLX5_CMD_OP_QUERY_MKEY
  | "pages" => MLX5_CMD_OP_QUERY_PAGES
  | "l2_table_entry" => MLX5_CMD_OP_QUERY_L2_TABLE_ENTRY
  | "issi" => MLX5_CMD_OP_QUERY_ISSI
  | "vport_state" => MLX5_CMD_OP_QUERY_VPORT_STATE
  | "esw_vport_context" => MLX5_CMD_OP_QUERY_ESW_VPORT_CONTEXT
  | "vport_counter" => MLX5_CMD_OP_QUERY_VPORT_COUNTER
  | "vnic_env" => MLX5_CMD_OP_QUERY_VNIC_ENV
  | "packet_reformat_context" => MLX5_CMD_OP_QUERY_PACKET_REFORMAT_CONTEXT
  | "special_contexts" => MLX5_CMD_OP_QUERY_SPECIAL_CONTEXTS
  | "mad_demux" => MLX5_CMD_OP_QUERY_MAD_DEMUX
  | "cong_statistics" => MLX5_CMD_OP_QUERY_CONG_STATISTICS
  | "cong_params" => MLX5_CMD_OP_QUERY_CONG_PARAMS
  | "cong_status" => MLX5_CMD_OP_QUERY_CONG_STATUS
  | "adapter" => MLX5_CMD_OP_QUERY_ADAPTER
  | "wol_rol" => MLX5_CMD_OP_QUERY_WOL_ROL
  | "lag" => MLX5_CMD_OP_QUERY_LAG
  | "esw_functions" => MLX5_CMD_OP_QUERY_ESW_FUNCTIONS
  | "vhca_migration_state" => MLX5_CMD_OP_QUERY_VHCA_MIGRATION_STATE
  | _ => 0

/-- The fields of `query_<name>_in` that name an object, with what they hold for an id. The 24-bit
    numbers are all where `cqn` is. -/
def objectFields (name : String) (objId : Nat) : List (Field × Nat) :=
  match name with
  | "eq" => [(QueryIn.eqNumber, objId % 2 ^ 8)]
  | "cq" | "qp" | "sq" | "rq" | "tis" | "tir" | "rqt" | "rmp" | "dct" | "srq" | "xrq" | "xrc_srq"
  | "mkey" => [(QueryIn.cqn, objId % 2 ^ 24)]
  | "q_counter" => [(QueryIn.counterSetId, objId % 2 ^ 8)]
  | "pages" | "vhca_migration_state" => [(QueryIn.functionId, objId % 2 ^ 16)]
  | "l2_table_entry" => [(QueryIn.tableIndex, objId % 2 ^ 24)]
  | "vport_state" | "esw_vport_context" | "vport_counter" =>
      [(QueryIn.vportNumber, objId % 2 ^ 16), (QueryIn.otherVport, 1)]
  | "packet_reformat_context" => [(QueryIn.packetReformatId, objId % 2 ^ 32)]
  | "cong_params" => [(QueryIn.congProtocol, objId % 2 ^ 4)]
  | "cong_status" =>
      [(QueryIn.priority, objId / 16 % 16), (QueryIn.congProtocol, objId % 16)]
  | _ => []

/-- The request asks for the object that was named: the opcode of its type, op_mod and the id
    modulo the widths of their fields, and no other bit. -/
structure Asks (name : String) (objId opMod : u32) (req : List u8) : Prop where
  opcode : opcodeOf req = cmdOpQuery name
  opMod : (requestField req 0 MboxIn.opMod).toNat = opMod.toNat % 2 ^ 16
  object : ∀ fv ∈ objectFields name objId.toNat, (requestField req 0 fv.1).toNat = fv.2
  zero : ∀ i, i < 8 * req.length →
    (∀ f ∈ MboxIn.opcode :: MboxIn.opMod :: (objectFields name objId.toNat).map Prod.fst,
      i < f.off ∨ f.off + f.sz ≤ i) → requestBit req i = false

/-! ## The builders -/

/-- Two fields have no bit in common. -/
def Apart (f g : Field) : Prop := f.off + f.sz ≤ g.off ∨ g.off + g.sz ≤ f.off

instance (f g : Field) : Decidable (Apart f g) := inferInstanceAs (Decidable (_ ∨ _))

namespace QueryFunc

variable (f : QueryFunc) (objId opMod : u32)

/-- The fields a builder sets. -/
def fields : List Field := MboxIn.opcode :: f.object.map Prod.fst ++ [MboxIn.opMod]

/-- No field is set twice, and all are in the mailbox. -/
def WellPlaced : Prop :=
  f.fields.Pairwise Apart ∧ ∀ g ∈ f.fields, g.off + g.sz ≤ 8 * f.inSz

instance : Decidable f.WellPlaced := inferInstanceAs (Decidable (_ ∧ _))

/-- The sets of a builder. -/
def writes : List Write :=
  ⟨0, MboxIn.opcode, f.opcode⟩ :: f.object.map (fun (fld, v) => ⟨0, fld, v objId⟩) ++
    [⟨0, MboxIn.opMod, opMod⟩]

theorem run_sets (inb : Mem) : f.run inb objId opMod = sets inb (f.writes objId opMod) := by
  unfold run writes
  rw [sets_append, sets_cons, sets_cons, sets_nil]
  unfold sets
  rw [List.foldl_map]

theorem writes_fields : (f.writes objId opMod).map Write.field = f.fields := by
  unfold writes fields
  rw [List.map_append, List.map_cons, List.map_map]
  rfl

theorem writes_base {w : Write} (hw : w ∈ f.writes objId opMod) : w.base = 0 := by
  unfold writes at hw
  simp only [List.cons_append, List.mem_cons, List.mem_append, List.mem_map, List.not_mem_nil,
    or_false] at hw
  rcases hw with rfl | ⟨_, _, rfl⟩ | rfl <;> rfl

variable {f}

theorem writes_apart (h : f.WellPlaced) :
    (patches (f.writes objId opMod)).Pairwise Patch.Apart := by
  have hfields := h.1
  rw [← writes_fields f objId opMod, List.pairwise_map] at hfields
  unfold patches
  rw [List.pairwise_map]
  refine hfields.imp_of_mem fun {w v} hw hv ha => ?_
  have hw0 := writes_base f objId opMod hw
  have hv0 := writes_base f objId opMod hv
  unfold Apart at ha
  unfold Patch.Apart Write.patch
  dsimp only
  omega

/-- The request of a builder. -/
def request (f : QueryFunc) (objId opMod : u32) : List u8 :=
  load (f.run zeroMem objId opMod) 0 f.inSz

/-- A field that is set is read back from the request. -/
theorem request_field (h : f.WellPlaced) {w : Write} (hw : w ∈ f.writes objId opMod) :
    (requestField (f.request objId opMod) 0 w.field).toNat = w.value.toNat % 2 ^ w.field.sz := by
  have hfield : w.field ∈ f.fields := by
    rw [← writes_fields f objId opMod]
    exact List.mem_map_of_mem hw
  have hin := h.2 w.field hfield
  have hread := mlx5Get_sets (p := zeroMem) (writes_apart objId opMod h) hw
  rw [writes_base f objId opMod hw] at hread
  unfold request
  rw [requestField_load _ (by omega), run_sets]
  exact hread

/-- A bit of the request in no field that is set is zero. -/
theorem request_zero {i : Nat} (hi : i < 8 * f.inSz)
    (hout : ∀ g ∈ f.fields, i < g.off ∨ g.off + g.sz ≤ i) :
    requestBit (f.request objId opMod) i = false := by
  have hc : ¬ Covered (patches (f.writes objId opMod)) i := by
    rintro ⟨p, hp, h1, h2⟩
    obtain ⟨w, hw, rfl⟩ := List.mem_map.mp hp
    have hbase := writes_base f objId opMod hw
    have hfield : w.field ∈ f.fields := by
      rw [← writes_fields f objId opMod]
      exact List.mem_map_of_mem hw
    have := hout w.field hfield
    unfold Write.patch at h1 h2
    dsimp only at h1 h2
    omega
  unfold request
  rw [requestBit_load _ hi, run_sets, bit_sets hc]
  exact BitVec.getMsbD_zero

end QueryFunc

/-! ## The table -/

theorem queryFuncs_nodup : (queryFuncs.map fun e => e.objName.toList).Nodup := by decide

theorem queryFuncs_placed : ∀ e ∈ queryFuncs, e.objFunc.WellPlaced := by decide

/-- Every builder but that of xrq sets the opcode of its type. -/
theorem queryFuncs_opcode : ∀ e ∈ queryFuncs,
    (e.objFunc.opcode = cmdOpQuery e.objName ↔ e.objName ≠ "xrq") ∧
      e.objFunc.opcode.toNat < 65536 := by decide

/-- Two builders share an opcode when they are those of xrq and xrc_srq. -/
theorem queryFuncs_share : ∀ d ∈ queryFuncs, ∀ e ∈ queryFuncs,
    (d.objFunc.opcode = e.objFunc.opcode ↔ d.objName = e.objName ∨
      d.objName ∈ ["xrq", "xrc_srq"] ∧ e.objName ∈ ["xrq", "xrc_srq"]) := by decide

/-- What the builders put in the fields that name the object. -/
theorem queryFuncs_object : ∀ e ∈ queryFuncs, ∀ objId : u32,
    e.objFunc.object.map (fun (f, v) => (f, (v objId).toNat % 2 ^ f.sz)) =
      objectFields e.objName objId.toNat := by
  have hcong : ∀ objId : u32, queryCongStatus.object.map
      (fun (f, v) => (f, (v objId).toNat % 2 ^ f.sz)) =
        objectFields "cong_status" objId.toNat := by
    intro objId
    have hhigh : ((objId >>> 4) &&& 0xf).toNat = objId.toNat / 16 % 16 := by
      rw [BitVec.toNat_and, BitVec.toNat_ushiftRight, Nat.shiftRight_eq_div_pow]
      exact Nat.and_two_pow_sub_one_eq_mod _ 4
    have hlow : (objId &&& 0xf).toNat = objId.toNat % 16 := by
      rw [BitVec.toNat_and]
      exact Nat.and_two_pow_sub_one_eq_mod _ 4
    simp only [queryCongStatus, List.map_cons, List.map_nil, hhigh, hlow]
    simp only [objectFields, QueryIn.priority, QueryIn.congProtocol, fld, List.cons.injEq,
      Prod.mk.injEq, true_and, and_true]
    omega
  intro e he objId
  simp only [queryFuncs, List.mem_cons, List.not_mem_nil, or_false] at he
  rcases he with rfl | rfl | rfl | rfl | rfl | rfl | rfl | rfl | rfl | rfl | rfl | rfl | rfl | rfl |
    rfl | rfl | rfl | rfl | rfl | rfl | rfl | rfl | rfl | rfl | rfl | rfl | rfl | rfl | rfl | rfl |
    rfl | rfl | rfl
  all_goals first | rfl | exact hcong objId

theorem getQueryFunc_mem {e : ObjNameFunc} (he : e ∈ queryFuncs) :
    getQueryFunc (some e.objName.toList) = some e.objFunc := by
  have hfind := Table.find?_of_nodup queryFuncs_nodup he
  unfold getQueryFunc
  dsimp only
  rw [show (fun d : ObjNameFunc => decide (e.objName.toList = d.objName.toList)) =
    fun d => decide (d.objName.toList = e.objName.toList) from
    funext fun d => decide_eq_decide.mpr eq_comm, hfind]
  rfl

/-! ## What is sent -/

theorem request_opcode {e : ObjNameFunc} (he : e ∈ queryFuncs) (objId opMod : u32) :
    opcodeOf (e.objFunc.request objId opMod) = e.objFunc.opcode := by
  have hmem : (⟨0, MboxIn.opcode, e.objFunc.opcode⟩ : Write) ∈ e.objFunc.writes objId opMod := by
    unfold QueryFunc.writes
    exact List.mem_append_left _ List.mem_cons_self
  have hlt := (queryFuncs_opcode e he).2
  apply BitVec.eq_of_toNat_eq
  exact (QueryFunc.request_field objId opMod (queryFuncs_placed e he) hmem).trans
    (Nat.mod_eq_of_lt hlt)

/-- The fields that name the object hold the id, modulo their widths. -/
theorem request_object {e : ObjNameFunc} (he : e ∈ queryFuncs) (objId opMod : u32) :
    ∀ fv ∈ objectFields e.objName objId.toNat,
      (requestField (e.objFunc.request objId opMod) 0 fv.1).toNat = fv.2 := by
  rw [← queryFuncs_object e he objId]
  intro fv hfv
  obtain ⟨⟨f, v⟩, hf, rfl⟩ := List.mem_map.mp hfv
  have hmem : (⟨0, f, v objId⟩ : Write) ∈ e.objFunc.writes objId opMod :=
    List.mem_append_left _ (List.mem_cons_of_mem _ (List.mem_map.mpr ⟨(f, v), hf, rfl⟩))
  have hread := QueryFunc.request_field objId opMod (queryFuncs_placed e he) hmem
  exact hread

/-- The query asks for what was named, but for an xrq. -/
theorem request_asks_iff {e : ObjNameFunc} (he : e ∈ queryFuncs) (objId opMod : u32) :
    Asks e.objName objId opMod (e.objFunc.request objId opMod) ↔ e.objName ≠ "xrq" := by
  have hplaced := queryFuncs_placed e he
  have hobject := queryFuncs_object e he objId
  have hopcode := queryFuncs_opcode e he
  constructor
  · intro h
    exact hopcode.1.mp ((request_opcode he objId opMod).symm.trans h.opcode)
  · intro hname
    refine ⟨(request_opcode he objId opMod).trans (hopcode.1.mpr hname), ?_, ?_, ?_⟩
    · have hmem : (⟨0, MboxIn.opMod, opMod⟩ : Write) ∈ e.objFunc.writes objId opMod :=
        List.mem_append_right _ List.mem_cons_self
      have hread := QueryFunc.request_field objId opMod hplaced hmem
      exact hread
    · exact request_object he objId opMod
    · rw [← hobject]
      intro i hi hout
      have hlen : (e.objFunc.request objId opMod).length = e.objFunc.inSz := load_length _ _ _
      refine QueryFunc.request_zero objId opMod (hlen ▸ hi) fun g hg => hout g ?_
      simp only [QueryFunc.fields, List.cons_append, List.mem_cons, List.mem_append, List.mem_map,
        List.not_mem_nil, or_false] at hg
      simp only [List.map_map, List.mem_cons, List.mem_map, Function.comp]
      rcases hg with rfl | hg | rfl
      · exact Or.inl rfl
      · exact Or.inr (Or.inr hg)
      · exact Or.inr (Or.inl rfl)

theorem parseOption_sys (w : World σ) (args : ObjArgs) (o : Opt) :
    (parseOption w args o).w.sys = w.sys := by
  unfold parseOption
  split <;> rfl

theorem parseArgs_sys (w : World σ) (objName : Option CStr) (opts : List Opt) :
    (parseArgs w objName opts).w.sys = w.sys := by
  cases objName with
  | none => rfl
  | some name => exact optionLoop_sys parseOption_sys w {} opts

theorem queryFuncs_inSz : ∀ e ∈ queryFuncs, toU32 e.objFunc.inSz = e.objFunc.inSz := by decide

/-- `query_obj` sends one request, that of the builder of the named object. -/
theorem queryObj_requests {e : ObjNameFunc} (he : e ∈ queryFuncs) {w v : World (σ × List Rpc)}
    {opts : List Opt} {args : ObjArgs} {block : Mem}
    (hargs : parseArgs w (some e.objName.toList) opts = .ret args v)
    (hm : (K.malloc w.sys.1 e.objFunc.outSz).1 = some block) :
    requests (queryObj K.recorded w (some e.objName.toList) opts).w =
      requests w ++ [e.objFunc.request args.objId args.opMod] := by
  have hsys : v.sys = w.sys := by
    have h := parseArgs_sys w (some e.objName.toList) opts
    rwa [hargs] at h
  have hm' : (K.recorded.malloc v.sys e.objFunc.outSz).1 = some block := by
    rw [hsys]
    exact hm
  have hcmd := mlx5uCmd_requests K { v with sys := (K.recorded.malloc v.sys e.objFunc.outSz).2 }
    (e.objFunc.run zeroMem args.objId args.opMod) e.objFunc.inSz
    (memset0 block e.objFunc.outSz) e.objFunc.outSz
  have hlog : requests { v with sys := (K.recorded.malloc v.sys e.objFunc.outSz).2 } =
      requests w := by
    unfold requests
    rw [hsys]
    rfl
  rw [hlog, queryFuncs_inSz e he] at hcmd
  unfold queryObj
  rw [getQueryFunc_mem he, hargs, Outcome.bind_ret]
  dsimp only
  rw [hm']
  dsimp only
  split_ifs <;> exact hcmd

theorem parseOption_id (w : World σ) (a : ObjArgs) (o : Opt) (b : ObjArgs) (v : World σ)
    (h : parseOption w a o = .ret b v) :
    if o.c = 'i' then ∃ s, o.optarg = some s ∧ b.objId = BitVec.ofNat 32 (strtoul s)
    else b.objId = a.objId := by
  unfold parseOption at h
  split at h
  case h_2 s hc hs =>
    cases h
    rw [if_pos hc]
    exact ⟨s, hs, rfl⟩
  case h_4 s hc _ | h_5 hc =>
    cases h
    rw [if_neg (by rw [hc]; decide)]
  all_goals cases h

/-- The id after the options. -/
theorem parseArgs_id {w v : World σ} {name : CStr} {opts : List Opt} {args : ObjArgs}
    (h : parseArgs w (some name) opts = .ret args v) :
    args.objId = (lastId opts).elim 0 fun s => BitVec.ofNat 32 (strtoul s) :=
  optionLoop_lastId (g := ObjArgs.objId) parseOption_id h

theorem foldl_object_congr {objId objId' : u32} (os : List (Field × (u32 → u32))) (p : Mem)
    (h : os.map (fun (f, v) => (f, (v objId).toNat % 2 ^ f.sz)) =
      os.map (fun (f, v) => (f, (v objId').toNat % 2 ^ f.sz))) :
    os.foldl (fun inb (f, v) => mlx5Set inb 0 f (v objId)) p =
      os.foldl (fun inb (f, v) => mlx5Set inb 0 f (v objId')) p := by
  induction os generalizing p with
  | nil => rfl
  | cons o os ih =>
      obtain ⟨f, v⟩ := o
      simp only [List.map_cons, List.cons.injEq, Prod.mk.injEq, true_and] at h
      show os.foldl _ (mlx5Set p 0 f (v objId)) = os.foldl _ (mlx5Set p 0 f (v objId'))
      rw [mlx5Set_congr p 0 h.1]
      exact ih _ h.2

/-- Two ids make the same request when they agree modulo the widths of the fields. -/
theorem request_eq_iff {e : ObjNameFunc} (he : e ∈ queryFuncs) (objId objId' opMod : u32) :
    e.objFunc.request objId opMod = e.objFunc.request objId' opMod ↔
      objectFields e.objName objId.toNat = objectFields e.objName objId'.toNat := by
  have hfields := queryFuncs_object e he
  constructor
  · intro heq
    have hread := request_object he objId opMod
    rw [heq] at hread
    have hread' := request_object he objId' opMod
    rw [← hfields objId] at hread ⊢
    rw [← hfields objId'] at hread' ⊢
    refine List.map_congr_left fun fv hfv => ?_
    have h := hread _ (List.mem_map_of_mem hfv)
    have h' := hread' _ (List.mem_map_of_mem hfv)
    rw [Prod.mk.injEq]
    exact ⟨rfl, h.symm.trans h'⟩
  · intro heq
    rw [← hfields objId, ← hfields objId'] at heq
    unfold QueryFunc.request QueryFunc.run
    dsimp only
    rw [foldl_object_congr _ _ heq]

/-- **Every object query asks for the object that was named, but for an xrq.** For every name in
    the table and every `obj_id` and `op_mod`, the request decodes to the opcode of that object
    type, to op_mod and the id modulo the widths of their fields, and to zero elsewhere, exactly
    when the name is not xrq; and two names share an opcode only when they are xrq and xrc_srq. -/
theorem query_asks_iff {e : ObjNameFunc} (he : e ∈ queryFuncs) {w v : World (σ × List Rpc)}
    {opts : List Opt} {args : ObjArgs} {block : Mem}
    (hargs : parseArgs w (some e.objName.toList) opts = .ret args v)
    (hm : (K.malloc w.sys.1 e.objFunc.outSz).1 = some block) :
    ∃ req, requests (queryObj K.recorded w (some e.objName.toList) opts).w =
        requests w ++ [req] ∧
      (Asks e.objName args.objId args.opMod req ↔ e.objName ≠ "xrq") ∧
      ∀ d ∈ queryFuncs, ∀ objId opMod, opcodeOf (d.objFunc.request objId opMod) = opcodeOf req ↔
        d.objName = e.objName ∨
          d.objName ∈ ["xrq", "xrc_srq"] ∧ e.objName ∈ ["xrq", "xrc_srq"] := by
  refine ⟨_, queryObj_requests K he hargs hm, request_asks_iff he _ _, fun d hd objId opMod => ?_⟩
  rw [request_opcode hd, request_opcode he]
  exact queryFuncs_share d hd e he

/-- A device that accepts every command. -/
def accepting : Sys Nat := scripted fun _ => (0, [])

theorem accepting_malloc (s : Nat) {n : Nat} (h : n ≤ ptrdiffMax) :
    (accepting.malloc s n).1 = some zeroMem := congrArg Prod.fst (scripted_malloc _ s h)

/-- The world a run starts in. -/
def fresh : World (Nat × List Rpc) := ⟨(0, []), []⟩

theorem cq_asked :
    ∃ req, requests (queryObj accepting.recorded fresh (some "cq".toList)
        [⟨'i', some "0x1000005".toList⟩]).w = [req] ∧ Asks "cq" 0x1000005 0 req := by
  have hmem : (⟨"cq", queryCq, "--id=cqn"⟩ : ObjNameFunc) ∈ queryFuncs :=
    List.mem_of_getElem? (i := 1) rfl
  have hargs : parseArgs fresh (some "cq".toList) [⟨'i', some "0x1000005".toList⟩] =
      .ret ⟨0x1000005, 0, false⟩ fresh := rfl
  obtain ⟨req, hreq, hasks, _⟩ :=
    query_asks_iff accepting hmem hargs (accepting_malloc _ (by decide))
  exact ⟨req, hreq, hasks.mpr (by decide)⟩

/-- The request of an xrq is that of an xrc_srq. -/
theorem xrq_request (objId opMod : u32) :
    queryXrq.request objId opMod = queryXrcSrq.request objId opMod := by
  unfold QueryFunc.request QueryFunc.run queryXrq queryXrcSrq
  rfl

/-- `obj xrq --id=1`: the request is the query of xrc_srq 1. -/
theorem xrq_asks_xrc_srq :
    requests (queryObj accepting.recorded fresh (some "xrq".toList)
        [⟨'i', some "1".toList⟩]).w = [queryXrcSrq.request 1 0] ∧
    ¬ Asks "xrq" 1 0 (queryXrcSrq.request 1 0) := by
  have hmem : (⟨"xrq", queryXrq, "--id=xrqn"⟩ : ObjNameFunc) ∈ queryFuncs :=
    List.mem_of_getElem? (i := 11) rfl
  have hargs : parseArgs fresh (some "xrq".toList) [⟨'i', some "1".toList⟩] =
      .ret ⟨1, 0, false⟩ fresh := rfl
  rw [← xrq_request]
  have hsent := queryObj_requests accepting hmem hargs (accepting_malloc _ (by decide))
  have hasks := request_asks_iff hmem 1 0
  exact ⟨hsent, fun h => hasks.mp h rfl⟩

end Mlx5ctl.QueryObj
