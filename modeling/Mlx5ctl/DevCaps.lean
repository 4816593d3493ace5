/-
  devcaps.c: the cap command.

  `op_mod` of QUERY_HCA_CAP is a `u16` with the cap type above its lowest bit, the mode
  (`opMod_toNat`). The seven pretty printers are a parameter here; `CapPretty` has those of the
  source.
-/
import Mlx5ctl.Reg
import Mlx5ctl.Cli

namespace Mlx5ctl.DevCaps

open ByteMem CInt CString Ifc

/-- The pretty printers. -/
inductive Printcap where
  | hcaCaps
  | ethCaps
  | roceCap
  | hcaCaps2
  | portSelectionCaps
  | virtioEmulationCap
  | debugCaps
  deriving DecidableEq

variable {σ : Type} (K : Sys σ) (pretty : Printcap → List u8 → List Line)

/-- `struct cap_info` -/
structure CapInfo where
  type : Nat
  name : String
  print : Option Printcap

/-- `caps` -/
def caps : List CapInfo :=
  [⟨0x0, "GENERAL", some .hcaCaps⟩,
    ⟨0x1, "ETHERNET_OFFLOADS", some .ethCaps⟩,
    ⟨0x4, "ROCE", some .roceCap⟩,
    ⟨0x20, "GENERAL_2", some .hcaCaps2⟩,
    ⟨0x25, "PORT_SELECTION", some .portSelectionCaps⟩,
    ⟨0x26, "ADV_VIRTUALIZATION", some .virtioEmulationCap⟩,
    ⟨0xd, "DEBUG", some .debugCaps⟩,
    ⟨0x2, "ODP", none⟩,
    ⟨0x3, "ATOMIC", none⟩,
    ⟨0x5, "IPOIB_OFFLOADS", none⟩,
    ⟨0x6, "IPOIB_ENHANCED_OFFLOADS", none⟩,
    ⟨0x7, "FLOW_TABLE", none⟩,
    ⟨0x8, "ESWITCH_FLOW_TABLE", none⟩,
    ⟨0x9, "ESWITCH", none⟩,
    ⟨0xc, "QOS", none⟩,
    ⟨0xf, "DEV_MEM", none⟩,
    ⟨0x11, "TLS", none⟩,
    ⟨0x13, "VDPA_EMULATION", none⟩,
    ⟨0x14, "DEV_EVENT", none⟩,
    ⟨0x15, "IPSEC", none⟩,
    ⟨0x1a, "CRYPTO", none⟩,
    ⟨0x1f, "MACSEC", none⟩]

/-- `get_cap_type(name)`, a `char`. -/
def getCapType (name : CStr) : Int :=
  match caps.find? fun c => c.name.toList = name with
  | some c => toChar c.type
  | none => toChar (-1)

/-- `get_cap_print(cap_type)` -/
def getCapPrint (capType : Int) : Option Printcap :=
  (caps.find? fun c => (c.type : Int) = capType).bind CapInfo.print

/-- The static variables of the file. -/
structure CapArgs where
  capType : Int := -1
  capMode : Nat := 1
  prFormat : Char := 'H'

/-- `print_cap_types()` -/
def printCapTypes : List Line :=
  .printf "Supported cap types:\n" [] ::
    caps.map fun c => .printf "\t%s type=0x%x\n" [.text c.name, .int c.type]

/-- `help()` -/
def help : List Line :=
  [.printf "mlx5ctl <device> cap --id=<cap_type> --mode=[cur|max] -[B|H|P]\n" [],
    .printf "Query device capabilities, outputs PRM struct of the specific cap type\n" [],
    .printf "\t--id=<cap_type> - cap type id or name\n" [],
    .printf "\t--mode=[cur|max] - cap mode\n" [],
    .printf "\t-B - binary output\n" [],
    .printf "\t-H - hex output\n" [],
    .printf "\t-P - pretty output\n" [],
    .printf "\t-h - help\n" []] ++ printCapTypes

/-- The cap type that `--id=s` stands for, an `int`. -/
def capId (s : CStr) : Int := if getCapType s < 0 then toInt (strtoul s) else getCapType s

/-- One turn of the option loop of `parse_args`. -/
def parseOption (w : World σ) (args : CapArgs) (o : Opt) : Outcome σ CapArgs :=
  match o.c, o.optarg with
  | 'i', none => .segv w
  | 'i', some s => .ret { args with capType := capId s } w
  | 'm', none => .segv w
  | 'm', some s =>
      if s = "max".toList then .ret { args with capMode := 0 } w
      else if s = "cur".toList then .ret { args with capMode := 1 } w
      else .exit 1 ((w.print (.eprintf "Invalid cap mode %s\n" [textArg s])).prints help)
  | 'B', _ => .ret { args with prFormat := 'B' } w
  | 'H', _ => .ret { args with prFormat := 'H' } w
  | 'P', _ => .ret { args with prFormat := 'P' } w
  | 'h', _ => .exit 0 (w.prints help)
  | c, _ => .exit 1 (w.print (.eprintf "Invalid option %c\n" [textArg [c]]))

/-- `parse_args(argc, argv)` -/
def parseArgs (w : World σ) (opts : List Opt) : Outcome σ CapArgs :=
  optionLoop parseOption w {} opts

/-! ## The queries -/

/-- The mailbox of `query_caps`. -/
def queryCapsIn (opmod : BitVec 16) : Mem :=
  let inb := mlx5Set zeroMem 0 QueryHcaCapIn.opcode MLX5_CMD_OP_QUERY_HCA_CAP
  mlx5Set inb 0 QueryHcaCapIn.opMod (opmod.setWidth 32)

/-- What `query_caps` leaves behind: whether it returns a capability, and the buffer. -/
structure CapsResult (σ : Type) where
  found : Bool
  out : Mem
  w : World σ

/-- `query_caps(dev, opmod, out)` -/
def queryCaps (w : World σ) (opmod : BitVec 16) (out : Mem) : CapsResult σ :=
  let inb := queryCapsIn opmod
  let r := mlx5uCmd K w inb QueryHcaCapIn.szBytes out QueryHcaCapOut.szBytes
  let status := mlx5Get r.out 0 MboxOut.status
  if r.ret ≠ 0 ∨ status ≠ 0 then
    let opcode := (mlx5Get inb 0 MboxIn.opcode).toNat
    let opMod := (mlx5Get inb 0 MboxIn.opMod).toNat
    ⟨false, r.out, r.w.prints
      [.eprintf "query cap (0x%x) failed opcode 0x%x opmod 0x%x\n"
        [.int (opMod / 2 : Nat), .int opcode, .int opMod],
        .eprintf "status: 0x%x\n" [.int status.toNat],
        .eprintf "syndrome: 0x%x\n" [.int (mlx5Get r.out 0 MboxOut.syndrome).toNat]]⟩
  else ⟨true, r.out, r.w⟩

/-- `op_mod`, a `u16`. -/
def opMod (capType : Nat) (capMode : Nat) : BitVec 16 :=
  BitVec.ofNat 16 ((capType <<< 1) ||| (capMode &&& 0x01))

/-- `MLX5_ST_SZ_BYTES(cmd_hca_cap)` -/
def capBytes : Nat := 256

/-- The capability in the buffer. -/
def capability (out : Mem) (n : Nat) : List u8 := load out QueryHcaCapOut.capability n

/-- What is printed of the capability that was asked for, and the value returned. -/
def showCap (args : CapArgs) (r : CapsResult σ) : Int × World σ :=
  let hex := .hexdump (capability r.out capBytes)
  if args.prFormat = 'P' then
    match getCapPrint args.capType with
    | some print => (0, r.w.prints (pretty print (capability r.out 4096)))
    | none => (0, (r.w.print (.eprintf "No pretty print function for cap type %d\n"
        [.int args.capType])).print hex)
  else if args.prFormat = 'H' then (0, r.w.print hex)
  else if args.prFormat = 'B' then (0, r.w.print (.fwrite (capability r.out capBytes)))
  else (1, r.w.print (.eprintf "Invalid print format %c\n" [textArg [args.prFormat]]))

/-- One turn of the loop over all caps, on the buffer and the world. -/
def sweepTurn (capMode : Nat) (s : Mem × World σ) (c : CapInfo) : Mem × World σ :=
  match c.print with
  | none => s
  | some print =>
      let r := queryCaps K s.2 (opMod c.type capMode) s.1
      if r.found then
        (r.out, (r.w.print (.printf "MLX5_CAP_%s: (0x%x) (%s)\n"
          [.text c.name, .int c.type, .text (if capMode ≠ 0 then "cur" else "max")])).prints
            (pretty print (capability r.out 4096)))
      else (r.out, r.w)

/-- `do_devcap(dev, argc, argv)` -/
def doDevcap (w : World σ) (opts : List Opt) : Outcome σ Int :=
  let m := K.malloc w.sys QueryHcaCapOut.szBytes
  let w := { w with sys := m.2 }
  match m.1 with
  | none => .ret enomem w
  | some block =>
      let out := memset0 block QueryHcaCapOut.szBytes
      (parseArgs w opts).bind fun args w =>
        if 0 ≤ args.capType then
          let r := queryCaps K w (opMod args.capType.toNat args.capMode) out
          if r.found then
            let shown := showCap pretty args r
            .ret shown.1 shown.2
          else .ret 1 r.w
        else .ret 0 (caps.foldl (sweepTurn K pretty args.capMode) (out, w)).2

/-! ## The options -/

theorem parseOption_id (w : World σ) (a : CapArgs) (o : Opt) (b : CapArgs) (v : World σ)
    (h : parseOption w a o = .ret b v) :
    if o.c = 'i' then ∃ s, o.optarg = some s ∧ b.capType = capId s else b.capType = a.capType := by
  unfold parseOption at h
  split at h
  case h_2 s hc hs =>
    cases h
    rw [if_pos hc]
    exact ⟨s, hs, rfl⟩
  case h_4 s hc _ =>
    rw [if_neg (by rw [hc]; decide)]
    split_ifs at h <;> cases h <;> rfl
  case h_5 hc | h_6 hc | h_7 hc =>
    cases h
    rw [if_neg (by rw [hc]; decide)]
  all_goals cases h

theorem parseOption_mode (w : World σ) (a : CapArgs) (o : Opt) (b : CapArgs) (v : World σ)
    (ha : a.capMode < 2) (h : parseOption w a o = .ret b v) : b.capMode < 2 := by
  unfold parseOption at h
  split at h
  case h_4 =>
    split_ifs at h <;> cases h
    · exact Nat.zero_lt_two
    · exact Nat.one_lt_two
  all_goals
    cases h
    try exact ha

/-- The cap type and the mode after the options. -/
theorem parseArgs_id {w v : World σ} {opts : List Opt} {args : CapArgs}
    (h : parseArgs w opts = .ret args v) :
    args.capType = (lastId opts).elim (-1) capId ∧ args.capMode < 2 :=
  ⟨optionLoop_lastId (g := CapArgs.capType) parseOption_id h,
    optionLoop_ret (R := fun (a : CapArgs) (_ : Unit) => a.capMode < 2) (f := fun _ _ => ())
      (fun w a _ o b v ha ho => parseOption_mode w a o b v ha ho) (c := ()) Nat.one_lt_two h⟩

theorem parseOption_sys (w : World σ) (args : CapArgs) (o : Opt) :
    (parseOption w args o).w.sys = w.sys := by
  unfold parseOption
  split
  case h_4 => split_ifs <;> rfl
  all_goals rfl

theorem parseArgs_sys (w : World σ) (opts : List Opt) : (parseArgs w opts).w.sys = w.sys :=
  optionLoop_sys parseOption_sys w {} opts

/-! ## The requests -/

/-- The request of `query_caps` for a cap type and a mode. -/
def capRequest (capType capMode : Nat) : List u8 :=
  load (queryCapsIn (opMod capType capMode)) 0 QueryHcaCapIn.szBytes

theorem opMod_toNat (capType : Nat) {capMode : Nat} (h : capMode < 2) :
    (opMod capType capMode).toNat = (2 * capType + capMode) % 2 ^ 16 := by
  have hmode : capMode &&& 0x01 = capMode := by
    rw [show (0x01 : Nat) = 2 ^ 1 - 1 from rfl, Nat.and_two_pow_sub_one_eq_mod]
    exact Nat.mod_eq_of_lt h
  unfold opMod
  rw [hmode, BitVec.toNat_ofNat, ← Nat.shiftLeft_add_eq_or_of_lt (by omega), Nat.shiftLeft_eq,
    Nat.pow_one, Nat.mul_comm]

/-- The request decodes to the cap type modulo 2 ^ 15 and the mode. -/
theorem capRequest_decodes (capType : Nat) {capMode : Nat} (h : capMode < 2) :
    opcodeOf (capRequest capType capMode) = MLX5_CMD_OP_QUERY_HCA_CAP ∧
    (requestField (capRequest capType capMode) 0 MboxIn.opMod).toNat =
      2 * (capType % 2 ^ 15) + capMode := by
  have hopMod : (requestField (capRequest capType capMode) 0 MboxIn.opMod).toNat =
      ((opMod capType capMode).setWidth 32).toNat % 2 ^ 16 := by
    unfold capRequest queryCapsIn
    rw [requestField_load _ (by decide)]
    exact mlx5Get_set_self _ 0 QueryHcaCapIn.opMod _
  have hopcode : (opcodeOf (capRequest capType capMode)).toNat =
      MLX5_CMD_OP_QUERY_HCA_CAP.toNat % 2 ^ 16 := by
    unfold capRequest queryCapsIn opcodeOf
    rw [requestField_load _ (by decide)]
    have hkeep := mlx5Get_set_ne (mlx5Set zeroMem 0 QueryHcaCapIn.opcode MLX5_CMD_OP_QUERY_HCA_CAP)
      0 QueryHcaCapIn.opMod QueryHcaCapIn.opcode ((opMod capType capMode).setWidth 32) (by decide)
    exact (congrArg BitVec.toNat hkeep).trans (mlx5Get_set_self _ 0 QueryHcaCapIn.opcode _)
  refine ⟨BitVec.eq_of_toNat_eq hopcode, ?_⟩
  rw [hopMod, BitVec.toNat_setWidth, opMod_toNat capType h]
  omega

/-- Two requests are the same when the types agree modulo 2 ^ 15 and the modes agree. -/
theorem capRequest_eq_iff (t t' : Nat) {m m' : Nat} (h : m < 2) (h' : m' < 2) :
    capRequest t m = capRequest t' m' ↔ t % 2 ^ 15 = t' % 2 ^ 15 ∧ m = m' := by
  constructor
  · intro heq
    have hd := (capRequest_decodes t h).2
    rw [heq, (capRequest_decodes t' h').2] at hd
    omega
  · rintro ⟨ht, rfl⟩
    have hmod : opMod t m = opMod t' m := by
      apply BitVec.eq_of_toNat_eq
      rw [opMod_toNat t h, opMod_toNat t' h]
      omega
    unfold capRequest
    rw [hmod]

theorem queryCaps_requests (w : World (σ × List Rpc)) (capType capMode : Nat) (out : Mem) :
    requests (queryCaps K.recorded w (opMod capType capMode) out).w =
      requests w ++ [capRequest capType capMode] := by
  have hcmd := mlx5uCmd_requests K w (queryCapsIn (opMod capType capMode)) QueryHcaCapIn.szBytes
    out QueryHcaCapOut.szBytes
  unfold queryCaps
  dsimp only
  split_ifs <;> exact hcmd

/-- A query that finds its capability prints nothing. -/
theorem queryCaps_silent {w : World σ} {opmod : BitVec 16} {out : Mem}
    (h : (queryCaps K w opmod out).found = true) : (queryCaps K w opmod out).w.out = w.out := by
  unfold queryCaps at h ⊢
  dsimp only at h ⊢
  split_ifs at h ⊢ with hfail
  exact (mlx5uCmd_zero K (not_not.mp (not_or.mp hfail).1)).2

/-- The requests of the loop over all caps. -/
def sweepRequests (capMode : Nat) : List (List u8) :=
  (caps.filter fun c => c.print.isSome).map fun c => capRequest c.type capMode

theorem sweep_requests (capMode : Nat) (cs : List CapInfo) (s : Mem × World (σ × List Rpc)) :
    requests (cs.foldl (sweepTurn K.recorded pretty capMode) s).2 =
      requests s.2 ++ (cs.filter fun c => c.print.isSome).map fun c =>
        capRequest c.type capMode := by
  induction cs generalizing s with
  | nil => simp
  | cons c cs ih =>
      rw [List.foldl_cons, ih]
      cases hp : c.print with
      | none =>
          rw [List.filter_cons_of_neg (by rw [hp]; simp)]
          unfold sweepTurn
          rw [hp]
      | some print =>
          rw [List.filter_cons_of_pos (by rw [hp]; rfl), List.map_cons]
          have hq := queryCaps_requests K s.2 c.type capMode s.1
          have hturn : requests (sweepTurn K.recorded pretty capMode s c).2 =
              requests (queryCaps K.recorded s.2 (opMod c.type capMode) s.1).w := by
            unfold sweepTurn
            rw [hp]
            dsimp only
            split_ifs <;> rfl
          rw [hturn, hq, List.append_assoc]
          rfl

theorem showCap_sys (args : CapArgs) (r : CapsResult σ) :
    (showCap pretty args r).2.sys = r.w.sys := by
  unfold showCap
  dsimp only
  split_ifs
  · split <;> rfl
  · rfl
  · rfl
  · rfl

/-- What `do_devcap` sends: the request of the cap type, or those of all caps. -/
theorem doDevcap_requests {w v : World (σ × List Rpc)} {opts : List Opt} {args : CapArgs}
    {block : Mem} {s : σ} (hm : K.malloc w.sys.1 QueryHcaCapOut.szBytes = (some block, s))
    (hargs : parseArgs { w with sys := (s, w.sys.2) } opts = .ret args v) :
    requests (doDevcap K.recorded pretty w opts).w = requests w ++
      if 0 ≤ args.capType then [capRequest args.capType.toNat args.capMode]
      else sweepRequests args.capMode := by
  have hm' : K.recorded.malloc w.sys QueryHcaCapOut.szBytes = (some block, s, w.sys.2) := by
    unfold Sys.recorded
    dsimp only
    rw [hm]
  have hlog : requests v = requests w := by
    have h := parseArgs_sys { w with sys := (s, w.sys.2) } opts
    rw [hargs] at h
    unfold requests
    rw [show v.sys = (s, w.sys.2) from h]
  have hq := queryCaps_requests K v args.capType.toNat args.capMode
    (memset0 block QueryHcaCapOut.szBytes)
  have hsweep := sweep_requests K pretty args.capMode caps
    (memset0 block QueryHcaCapOut.szBytes, v)
  rw [hlog] at hq hsweep
  simp only [doDevcap, hm', hargs, Outcome.bind_ret]
  split_ifs with hpos
  · rw [← hq]
    exact congrArg (fun s : σ × List Rpc => s.2.map Rpc.request) (showCap_sys pretty args _)
  · exact hq
  · exact hsweep

end Mlx5ctl.DevCaps
