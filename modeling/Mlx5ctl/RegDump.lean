/-
  reg.c: the reg command.

  The register id is an `int` after the options and a `u16` in the request; the name, the size
  and the pretty printer are looked up by the wide value. The five pretty printers are a
  parameter here; `RegPretty` has those of the source.
-/
import Mlx5ctl.RegAccess
import Mlx5ctl.Cli

namespace Mlx5ctl.RegDump

open ByteMem CInt CString Ifc

/-- The pretty printers. -/
inductive PrintReg where
  | ptys
  | dtor
  | rcr
  | mcam
  | nodeDesc
  deriving DecidableEq

variable {σ : Type} (K : Sys σ) (pretty : PrintReg → List u8 → List Line)

/-- `struct reg_info` -/
structure RegInfo where
  regId : Nat
  str : String
  size : Nat
  ppfun : Option PrintReg

/-- `MLX5_UN_SZ_BYTES(ports_control_registers_document)` -/
def documentBytes : Nat := 3100

/-- `regs` -/
def regs : List RegInfo :=
  [⟨0x5004, "PTYS", 64, some .ptys⟩,
    ⟨0xc00e, "DTOR", 64, some .dtor⟩,
    ⟨0xc00f, "RCR", 48, some .rcr⟩,
    ⟨0x907f, "MCAM", 72, some .mcam⟩,
    ⟨0x6001, "NODE_DESC", 3100, some .nodeDesc⟩,
    ⟨0x4002, "QPTS", 8, none⟩,
    ⟨0x400a, "QTCT", 8, none⟩,
    ⟨0x4013, "QPDPM", 132, none⟩,
    ⟨0x4019, "QCAM", 72, none⟩,
    ⟨0x402e, "CORE_DUMP", 64, none⟩,
    ⟨0x5001, "PCAP", 20, none⟩,
    ⟨0x5003, "PMTU", 16, none⟩,
    ⟨0x5006, "PAOS", 16, none⟩,
    ⟨0x5007, "PFCC", 32, none⟩,
    ⟨0x5008, "PPCNT", 256, none⟩,
    ⟨0x500b, "PPTB", 12, none⟩,
    ⟨0x500c, "PBMC", 108, none⟩,
    ⟨0x5012, "PMAOS", 16, none⟩,
    ⟨0x5009, "PUDE", 16, none⟩,
    ⟨0x5010, "PMPE", 16, none⟩,
    ⟨0x500e, "PELC", 56, none⟩,
    ⟨0x500f, "PVLC", 16, none⟩,
    ⟨0x5041, "PCMR", 12, none⟩,
    ⟨0x5031, "PDDR", 256, none⟩,
    ⟨0x5002, "PMLP", 64, none⟩,
    ⟨0x5023, "PPLM", 80, none⟩,
    ⟨0x507f, "PCAM", 80, none⟩,
    ⟨0x9014, "MCIA", 64, none⟩,
    ⟨0x9028, "MFRL", 8, none⟩,
    ⟨0x902b, "MLCR", 12, none⟩,
    ⟨0x902d, "MRTC", 16, none⟩,
    ⟨0x9050, "MPEIN", 48, none⟩,
    ⟨0x9051, "MPCNT", 256, none⟩,
    ⟨0x9055, "MTUTC", 28, none⟩,
    ⟨0x9056, "MPEGC", 44, none⟩,
    ⟨0x9060, "MCQS", 16, none⟩,
    ⟨0x9061, "MCQI", 24, none⟩,
    ⟨0x9062, "MCC", 32, none⟩,
    ⟨0x9063, "MCDA", 16, none⟩,
    ⟨0x9162, "MIRC", 8, none⟩,
    ⟨0xb01f, "SBCAM", 76, none⟩,
    ⟨0x4020, "DCBX_PARAM", 64, none⟩,
    ⟨0xb001, "SBPR", 3100, none⟩,
    ⟨0xb002, "SBCM", 3100, none⟩,
    ⟨0x4005, "QETCR", 3100, none⟩,
    ⟨0x4021, "DCBX_APP", 3100, none⟩,
    ⟨0x4022, "FPGA_CAP", 3100, none⟩,
    ⟨0x4023, "FPGA_CTRL", 3100, none⟩,
    ⟨0x7004, "HOST_ENDIANNESS", 3100, none⟩,
    ⟨0x9009, "MTCAP", 3100, none⟩,
    ⟨0x900a, "MTMP", 3100, none⟩,
    ⟨0x9040, "MTRC_CAP", 3100, none⟩,
    ⟨0x9041, "MTRC_CONF", 3100, none⟩,
    ⟨0x9042, "MTRC_STDB", 3100, none⟩,
    ⟨0x9043, "MTRC_CTRL", 3100, none⟩,
    ⟨0x9053, "MTPPS", 3100, none⟩,
    ⟨0x9054, "MTPPSE", 3100, none⟩,
    ⟨0xc000, "RESOURCE_DUMP", 3100, none⟩,
    ⟨0x4024, "FPGA_ACCESS_REG", 3100, none⟩]

/-- The first entry of a register. -/
def findReg (regId : Nat) : Option RegInfo := regs.find? fun r => r.regId = regId

/-- `reg2str(reg_id)` -/
def reg2str (regId : Nat) : String := ((findReg regId).map RegInfo.str).getD "UNKNOWN_REG_STR"

/-- `get_reg_size(reg_id)` -/
def getRegSize (regId : Nat) : Nat := ((findReg regId).map RegInfo.size).getD documentBytes

/-- `get_print_func_for_reg(reg_id)` -/
def getPrintFuncForReg (regId : Nat) : Option PrintReg := (findReg regId).bind RegInfo.ppfun

/-- `MLX5_REG_IDS_FIRST` -/
def MLX5_REG_IDS_FIRST : Nat := 0x4002

/-- `MLX5_REG_LAST_ENUM` -/
def MLX5_REG_LAST_ENUM : Nat := 0xc010

/-- `get_reg_id_from_str(reg_name)` -/
def getRegIdFromStr (regName : CStr) : Int :=
  match (List.range' MLX5_REG_IDS_FIRST (MLX5_REG_LAST_ENUM + 1 - MLX5_REG_IDS_FIRST)).find?
    fun i => (reg2str i).toList = regName with
  | some i => i
  | none => -1

/-! ## Options -/

/-- The static variables of the file. -/
structure RegArgs where
  regId : Int := -1
  port : Int := 0
  argument : Int := 0
  prFormat : Char := 'H'

/-- `print_reg_names_ids()` -/
def printRegNamesIds : List Line :=
  regs.map fun r => .printf "\t%s 0x%x%s, dump PRM name: %s_reg\n"
    [.text r.str, .int r.regId, .text (if r.ppfun.isSome then " (pretty print) " else " "),
      .text r.str.toLower]

/-- `help()` -/
def help : List Line :=
  [.printf "mlx5ctl <device> reg --id=<reg_id> [--port=port] [--argument=argument]\n" [],
    .printf "\t--id=<reg_id> - register id in hex or decimal\n" [],
    .printf "\t--port=<port> - port number, default 1\n" [],
    .printf "\t--argument=<argument> - register argument, default 0\n" [],
    .printf "\t--bin - print register in binary format\n" [],
    .printf "\t--hex - print register in hex format\n" [],
    .printf "\t--pretty - print register in pretty format\n" [],
    .printf "\t--help - print this help\n" [],
    .printf "Known Registers:\n" []] ++ printRegNamesIds

/-- The register id that `--id=s` stands for, an `int`. -/
def regIdOf (s : CStr) : Int :=
  if getRegIdFromStr s < 0 then toInt (strtoul s) else getRegIdFromStr s

/-- One turn of the option loop of `parse_args`. -/
def parseOption (w : World σ) (args : RegArgs) (o : Opt) : Outcome σ RegArgs :=
  match o.c, o.optarg with
  | 'i', none => .segv w
  | 'i', some s => .ret { args with regId := regIdOf s } w
  | 'p', none => .segv w
  | 'p', some s => .ret { args with port := toInt (strtoul s) } w
  | 'a', none => .segv w
  | 'a', some s => .ret { args with argument := toInt (strtoul s) } w
  | 'B', _ => .ret { args with prFormat := 'B' } w
  | 'H', _ => .ret { args with prFormat := 'H' } w
  | 'P', _ => .ret { args with prFormat := 'P' } w
  | 'h', _ => .exit 0 (w.prints help)
  | c, _ => .exit 1 (w.print (.eprintf "Invalid option %c\n" [textArg [c]]))

/-- `parse_args(argc, argv)` -/
def parseArgs (w : World σ) (opts : List Opt) : Outcome σ RegArgs :=
  (optionLoop parseOption w {} opts).bind fun args w =>
    if args.regId < 0 then
      .exit 1 ((w.print (.eprintf "Missing register id\n" [])).prints help)
    else .ret args w

/-! ## The command -/

/-- The register data sent: zero but for the port. -/
def regDumpData (port : u32) : Mem := mlx5Set zeroMem 0 LocalPortReg.localPort port

/-- What is printed of a register. -/
def showReg (w : World σ) (prFormat : Char) (regId : Nat) (out : Mem) : World σ :=
  let size := getRegSize regId
  let named : List Arg := [.text (reg2str regId), .int regId]
  if prFormat = 'P' then
    let w := w.print (.infoMsg "%s 0x%x register fields:\n" named)
    match getPrintFuncForReg regId with
    | some print => (w.print (.infoMsg "\n%s 0x%x fields:\n" named)).prints
        (pretty print (load out 0 documentBytes))
    | none => (w.print (.errMsg "No pretty print function for register %s 0x%x\n" named)).print
        (.hexdump (load out 0 size))
  else if prFormat = 'H' then w.print (.hexdump (load out 0 size))
  else if prFormat = 'B' then w.print (.fwrite (load out 0 size))
  else w

/-- `mlx5_reg_dump(dev, reg_id, port, argument)`, with the format. -/
def mlx5RegDump (w : World σ) (prFormat : Char) (regId port argument : u32) : Int × World σ :=
  let r := mlx5AccessReg K w (regDumpData port) documentBytes zeroMem documentBytes
    (regId.setWidth 16) (toInt argument.toNat) 0
  if r.err ≠ 0 then
    (r.err, r.w.print (.errMsg "Failed to access register, err %d errno(%d)\n"
      [.int r.err, .int (K.errno r.w.sys)]))
  else (0, showReg pretty r.w prFormat regId.toNat r.dataOut)

/-- `do_reg(dev, argc, argv)` -/
def doReg (w : World σ) (opts : List Opt) : Outcome σ Int :=
  (parseArgs w opts).bind fun args w =>
    let r := mlx5RegDump K pretty w args.prFormat (BitVec.ofInt 32 args.regId)
      (BitVec.ofInt 32 args.port) (BitVec.ofInt 32 args.argument)
    .ret r.1 r.2

/-! ## The options -/

theorem parseOption_id (w : World σ) (a : RegArgs) (o : Opt) (b : RegArgs) (v : World σ)
    (h : parseOption w a o = .ret b v) :
    if o.c = 'i' then ∃ s, o.optarg = some s ∧ b.regId = regIdOf s else b.regId = a.regId := by
  unfold parseOption at h
  split at h
  case h_2 s hc hs =>
    cases h
    rw [if_pos hc]
    exact ⟨s, hs, rfl⟩
  case h_4 s hc _ | h_6 s hc _ =>
    cases h
    rw [if_neg (by rw [hc]; decide)]
  case h_7 hc | h_8 hc | h_9 hc =>
    cases h
    rw [if_neg (by rw [hc]; decide)]
  all_goals cases h

theorem parseOption_sys (w : World σ) (args : RegArgs) (o : Opt) :
    (parseOption w args o).w.sys = w.sys := by
  unfold parseOption
  split <;> rfl

theorem parseArgs_sys (w : World σ) (opts : List Opt) : (parseArgs w opts).w.sys = w.sys := by
  have h := optionLoop_sys parseOption_sys w {} opts
  unfold parseArgs
  cases hloop : optionLoop parseOption w {} opts with
  | ret args v =>
      rw [hloop] at h
      rw [Outcome.bind_ret]
      split_ifs
      · exact h
      · exact h
  | exit code v =>
      rw [hloop] at h
      exact h
  | segv v =>
      rw [hloop] at h
      exact h

/-- The register after the options: that of the last `--id`, and not negative. -/
theorem parseArgs_id {w v : World σ} {opts : List Opt} {args : RegArgs}
    (h : parseArgs w opts = .ret args v) :
    args.regId = (lastId opts).elim (-1) regIdOf ∧ 0 ≤ args.regId := by
  unfold parseArgs at h
  cases hloop : optionLoop parseOption w {} opts with
  | ret a u =>
      rw [hloop, Outcome.bind_ret] at h
      split_ifs at h with hneg
      cases h
      exact ⟨optionLoop_lastId (g := RegArgs.regId) parseOption_id hloop, Int.not_lt.mp hneg⟩
  | exit code u =>
      rw [hloop] at h
      cases h
  | segv u =>
      rw [hloop] at h
      cases h

/-! ## The request -/

theorem showReg_sys (w : World σ) (prFormat : Char) (regId : Nat) (out : Mem) :
    (showReg pretty w prFormat regId out).sys = w.sys := by
  unfold showReg
  dsimp only
  split_ifs
  · split <;> rfl
  · rfl
  · rfl
  · rfl

/-- What `do_reg` sends: the read of the register, modulo 2 ^ 16. -/
theorem doReg_requests {w v : World (σ × List Rpc)} {opts : List Opt} {args : RegArgs} {b c : Mem}
    {s t : σ} (hb : K.malloc w.sys.1 (16 + documentBytes) = (some b, s))
    (hc : K.malloc s (16 + documentBytes) = (some c, t))
    (hargs : parseArgs w opts = .ret args v) :
    ∃ req, requests (doReg K.recorded pretty w opts).w = requests w ++ [req] ∧
      Carries (regDumpData (BitVec.ofInt 32 args.port)) documentBytes
        ((BitVec.ofInt 32 args.regId).setWidth 16) (toInt (BitVec.ofInt 32 args.argument).toNat) 0
        req := by
  have hsys : v.sys = w.sys := by
    have h := parseArgs_sys w opts
    rwa [hargs] at h
  rw [← hsys] at hb
  obtain ⟨req, ret, reply, hsent, hcarries, _⟩ := accessReg_handed K v
    (regDumpData (BitVec.ofInt 32 args.port)) zeroMem (by decide) (by decide) hb hc
    ((BitVec.ofInt 32 args.regId).setWidth 16) (toInt (BitVec.ofInt 32 args.argument).toNat) 0 rfl
  refine ⟨req, ?_, hcarries⟩
  have hout : (doReg K.recorded pretty w opts).w.sys = (mlx5AccessReg K.recorded v
      (regDumpData (BitVec.ofInt 32 args.port)) documentBytes zeroMem documentBytes
      ((BitVec.ofInt 32 args.regId).setWidth 16)
      (toInt (BitVec.ofInt 32 args.argument).toNat) 0).w.sys := by
    unfold doReg
    rw [hargs, Outcome.bind_ret]
    unfold mlx5RegDump
    dsimp only
    split_ifs
    · rfl
    · exact showReg_sys pretty _ _ _ _
  unfold requests
  rw [hout, hsent, List.map_append, hsys]
  rfl

end Mlx5ctl.RegDump
