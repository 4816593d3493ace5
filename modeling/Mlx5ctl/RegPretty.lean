/-
  reg.c: the pretty printers of registers.

  Each prints only of the bytes that the hex dump of its register shows (`printReg_congr`). The
  lines below the mask of RCR are the severities whose bit is set. NODE_DESC is printed as a string;
  a description without a NUL in the whole buffer, which runs off its end, is printed as far as the
  buffer goes.
-/
import Mlx5ctl.Pretty
import Mlx5ctl.RegDump
import Mlx5ctl.RscDump.Parse

namespace Mlx5ctl.RegDump

open ByteMem CInt Ifc

/-- A field of a register. -/
def regFld (off sz : Nat) (h : 0 < sz ∧ off % 32 + sz ≤ 32 := by decide) : Field :=
  ⟨off, sz, h.1, h.2⟩

/-- `print_reg_field(out, reg, field)` -/
def printRegField (name : String) (f : Field) : FieldLine := ⟨"\t%s: %x\n", [name], [.get f]⟩

/-- `dtor_reg_field(out, reg, field)`, with `to_value` and `to_multiplier` of the timeout. -/
def dtorRegField (name : String) (toValue toMultiplier : Field) : FieldLine :=
  ⟨"\t%s: val %d mult %d\n", [name], [.get toValue, .get toMultiplier]⟩

/-- `print_fld(fld)` -/
def printFld (name : String) (f : Field) : FieldLine := ⟨"\t%s %d\n", [name], [.get f]⟩

/-- `print_reg_ptys`, of `ptys_reg` -/
def printRegPtys : List FieldLine :=
  [printRegField "proto_mask" (regFld 0x1d 0x3),
    printRegField "eth_proto_capability" (regFld 0x60 0x20),
    printRegField "eth_proto_admin" (regFld 0xc0 0x20),
    printRegField "eth_proto_oper" (regFld 0x120 0x20),
    printRegField "eth_proto_lp_advertise" (regFld 0x180 0x20),
    printRegField "connector_type" (regFld 0x17c 0x4),
    printRegField "data_rate_oper" (regFld 0x30 0x10),
    printRegField "an_status" (regFld 0x20 0x4)]

/-- `print_reg_dtor`, of `dtor_reg` -/
def printRegDtor : List FieldLine :=
  [dtorRegField "pcie_toggle_to" (regFld 0x2c 0x14) (regFld 0x20 0x3),
    dtorRegField "full_crdump_to" (regFld 0xcc 0x14) (regFld 0xc0 0x3),
    dtorRegField "fw_reset_to" (regFld 0xec 0x14) (regFld 0xe0 0x3),
    dtorRegField "flush_on_err_to" (regFld 0x10c 0x14) (regFld 0x100 0x3),
    dtorRegField "pci_sync_update_to" (regFld 0x12c 0x14) (regFld 0x120 0x3),
    dtorRegField "tear_down_to" (regFld 0x14c 0x14) (regFld 0x140 0x3),
    dtorRegField "fsm_reactivate_to" (regFld 0x16c 0x14) (regFld 0x160 0x3),
    dtorRegField "reclaim_pages_to" (regFld 0x18c 0x14) (regFld 0x180 0x3),
    dtorRegField "reclaim_vfs_pages_to" (regFld 0x1ac 0x14) (regFld 0x1a0 0x3)]

/-- `print_reg_mcam`, of `mcam_reg` -/
def printRegMcam : List FieldLine :=
  [printFld "feature_group" (regFld 0x8 0x8),
    printFld "access_reg_group" (regFld 0x18 0x8),
    printFld "mng_access_reg_cap_mask.access_regs.mcqs" (regFld 0x5f 0x1),
    printFld "mng_access_reg_cap_mask.access_regs.mcqi" (regFld 0x5e 0x1),
    printFld "mng_access_reg_cap_mask.access_regs.mcc" (regFld 0x5d 0x1),
    printFld "mng_access_reg_cap_mask.access_regs.mcda" (regFld 0x5c 0x1),
    printFld "mng_access_reg_cap_mask.access_regs.mpegc" (regFld 0x69 0x1),
    printFld "mng_access_reg_cap_mask.access_regs.mtutc" (regFld 0x6a 0x1),
    printFld "mng_access_reg_cap_mask.access_regs.mrtc" (regFld 0x92 0x1),
    printFld "mng_access_reg_cap_mask.access_regs.tracer_registers" (regFld 0x7c 0x4),
    printFld "mng_feature_cap_mask.enhanced_features.mcia_32dwords" (regFld 0x19d 0x1),
    printFld "mng_feature_cap_mask.enhanced_features.out_pulse_duration_ns" (regFld 0x19e 0x1),
    printFld "mng_feature_cap_mask.enhanced_features.npps_period" (regFld 0x19f 0x1),
    printFld "mng_feature_cap_mask.enhanced_features.reset_state" (regFld 0x1aa 0x1),
    printFld "mng_feature_cap_mask.enhanced_features.ptpcyc2realtime_modify" (regFld 0x1ab 0x1),
    printFld "mng_feature_cap_mask.enhanced_features.pci_status_and_power" (regFld 0x1ae 0x1),
    printFld "mng_feature_cap_mask.enhanced_features.mark_tx_action_cnp" (regFld 0x1b4 0x1),
    printFld "mng_feature_cap_mask.enhanced_features.mark_tx_action_cqe" (regFld 0x1b5 0x1),
    printFld "mng_feature_cap_mask.enhanced_features.dynamic_tx_overflow" (regFld 0x1b6 0x1),
    printFld "mng_feature_cap_mask.enhanced_features.pcie_outbound_stalled" (regFld 0x1bb 0x1),
    printFld "mng_feature_cap_mask.enhanced_features.tx_overflow_buffer_pkt" (regFld 0x1bc 0x1),
    printFld "mng_feature_cap_mask.enhanced_features.mtpps_enh_out_per_adj" (regFld 0x1bd 0x1),
    printFld "mng_feature_cap_mask.enhanced_features.mtpps_fs" (regFld 0x1be 0x1),
    printFld "mng_feature_cap_mask.enhanced_features.pcie_performance_group" (regFld 0x1bf 0x1)]

/-! ## RCR -/

/-- The first line of RCR: `health_severity_bitmask` and its valid bit. -/
def severityMask : FieldLine :=
  ⟨"Health severity bitmask: 0x%x valid %d\n", [], [.get (regFld 0x38 0x8), .get (regFld 0x1f 0x1)]⟩

/-- The severities, by the mask of their bit. -/
def severities : List (u8 × String) :=
  [(0x1, "\t\tEmergency: system is unusable\n"),
    (0x2, "\t\tAlert: action must be taken immediately\n"),
    (0x4, "\t\tCritical: critical conditions\n"),
    (0x8, "\t\tError: error conditions\n"),
    (0x10, "\t\tWarning: warning conditions\n"),
    (0x20, "\t\tNotice: normal but significant condition\n"),
    (0x40, "\t\tInformational: informational messages\n"),
    (0x80, "\t\tDebug: debug-level messages\n")]

/-- The lines of the severities in a mask. -/
def severityLines (mask : u8) : List Line :=
  (severities.filter fun s => mask &&& s.1 ≠ 0).map fun s => .printf s.2 []

/-- `print_reg_rcr`, of `rcr_reg` -/
def printRegRcr (p : Mem) : List Line :=
  severityMask.line p :: severityLines ((mlx5Get p 0 (regFld 0x38 0x8)).setWidth 8)

theorem printRegRcr_congr {p q : Mem} (h : ∀ s ∈ severityMask.values, s.value p = s.value q) :
    printRegRcr p = printRegRcr q := by
  have hmask : mlx5Get p 0 (regFld 0x38 0x8) = mlx5Get q 0 (regFld 0x38 0x8) :=
    BitVec.eq_of_toNat_eq (h (.get (regFld 0x38 0x8)) (List.mem_cons_self ..))
  unfold printRegRcr
  rw [hmask, (line_eq_iff severityMask p q).mpr h]

theorem severityLines_printf (mask : u8) :
    ∀ l ∈ severityLines mask, ∃ fmt args, l = .printf fmt args := by
  intro l hl
  obtain ⟨s, -, rfl⟩ := List.mem_map.mp hl
  exact ⟨_, _, rfl⟩

/-! ## The printers -/

/-- The five pretty printers, on the bytes of the buffer. -/
def printReg (print : PrintReg) (bytes : List u8) : List Line :=
  let p := overlay bytes zeroMem
  match print with
  | .ptys => printLines printRegPtys p
  | .dtor => printLines printRegDtor p
  | .rcr => printRegRcr p
  | .mcam => printLines printRegMcam p
  | .nodeDesc => [.printf "Node description: %s\n" [RscDump.cString bytes]]

/-- They print with `printf` only. -/
theorem printReg_printf (print : PrintReg) (bytes : List u8) :
    ∀ l ∈ printReg print bytes, ∃ fmt args, l = .printf fmt args := by
  intro l hl
  cases print with
  | rcr =>
      rcases List.mem_cons.mp hl with rfl | hl
      · exact ⟨_, _, rfl⟩
      · exact severityLines_printf _ l hl
  | nodeDesc => exact ⟨_, _, List.mem_singleton.mp hl⟩
  | _ => exact printLines_printf _ _ l hl

/-- The printer prints of the first `n` bytes only. -/
def PrintsIn (n : Nat) : PrintReg → Prop
  | .ptys => FieldsIn printRegPtys n
  | .dtor => FieldsIn printRegDtor n
  | .rcr => FieldsIn [severityMask] n
  | .mcam => FieldsIn printRegMcam n
  | .nodeDesc => documentBytes ≤ n

instance (n : Nat) (print : PrintReg) : Decidable (PrintsIn n print) := by
  cases print <;> unfold PrintsIn <;> infer_instance

/-- The size of every register with a printer covers what is printed of it. -/
theorem regs_printed : ∀ r ∈ regs, r.size ≤ documentBytes ∧ ∀ print ∈ r.ppfun,
    PrintsIn r.size print := by decide +kernel

theorem printed_size {regId : Nat} {print : PrintReg}
    (h : getPrintFuncForReg regId = some print) :
    getRegSize regId ≤ documentBytes ∧ PrintsIn (getRegSize regId) print := by
  obtain ⟨r, hr, hprint⟩ := Option.bind_eq_some_iff.mp h
  have hsize : getRegSize regId = r.size := by
    unfold getRegSize
    rw [hr]
    rfl
  obtain ⟨hle, hin⟩ := regs_printed r (List.mem_of_find?_eq_some hr)
  rw [hsize]
  exact ⟨hle, hin print hprint⟩

/-- A printer prints of the bytes in the hex dump only. -/
theorem printReg_congr {regId : Nat} {print : PrintReg}
    (h : getPrintFuncForReg regId = some print) {p q : Mem}
    (hpq : load p 0 (getRegSize regId) = load q 0 (getRegSize regId)) :
    printReg print (load p 0 documentBytes) = printReg print (load q 0 documentBytes) := by
  obtain ⟨hle, hin⟩ := printed_size h
  have hload (r : Mem) := load_overlay_load r zeroMem 0 hle
  have hdump := (hload p).trans (hpq.trans (hload q).symm)
  cases print with
  | nodeDesc =>
      have hsize : getRegSize regId = documentBytes := Nat.le_antisymm hle hin
      rw [hsize] at hpq
      rw [hpq]
  | rcr => exact printRegRcr_congr ((printLines_eq_iff _ _ _).mp (printLines_congr hin hdump) _
      (List.mem_singleton_self _))
  | ptys => exact printLines_congr hin hdump
  | dtor => exact printLines_congr hin hdump
  | mcam => exact printLines_congr hin hdump

end Mlx5ctl.RegDump
