/-
  mlx5_ifc.h: the layouts the model uses. A field is its offset and its width in bits, in the
  order of the struct; the name of a reserved field is its offset.
-/
import Mlx5ctl.Ifcutil

namespace Mlx5ctl.Ifc

/-- A field at a bit offset, with a width. -/
def fld (off sz : Nat) (pos : 0 < sz := by exact Nat.le_of_ble_eq_true rfl)
    (fits : off % 32 + sz ≤ 32 := by exact Nat.le_of_ble_eq_true rfl) : Field :=
  ⟨off, sz, pos, fits⟩

/-- A 64-bit field at a bit offset. -/
def fld64 (off : Nat) (aligned : off % 64 = 0 := by rfl) : Field64 := ⟨off, aligned⟩

/-! ## Commands -/

def MLX5_CMD_OP_QUERY_HCA_CAP : u32 := 0x100
def MLX5_CMD_OP_ACCESS_REG : u32 := 0x805
def MLX5_CMD_OP_QUERY_DIAGNOSTIC_PARAMS : u32 := 0x819
def MLX5_CMD_OP_SET_DIAGNOSTIC_PARAMS : u32 := 0x820
def MLX5_CMD_OP_QUERY_DIAGNOSTIC_COUNTERS : u32 := 0x821

def MLX5_CMD_OP_CREATE_MKEY : u32 := 0x200
def MLX5_CMD_OP_DESTROY_MKEY : u32 := 0x202
def MLX5_CMD_OP_ALLOC_PD : u32 := 0x800
def MLX5_CMD_OP_DEALLOC_PD : u32 := 0x801

/-! The queries of objects. -/

def MLX5_CMD_OP_QUERY_ADAPTER : u32 := 0x101
def MLX5_CMD_OP_QUERY_PAGES : u32 := 0x107
def MLX5_CMD_OP_QUERY_ISSI : u32 := 0x10a
def MLX5_CMD_OP_QUERY_VHCA_MIGRATION_STATE : u32 := 0x117
def MLX5_CMD_OP_QUERY_MKEY : u32 := 0x201
def MLX5_CMD_OP_QUERY_SPECIAL_CONTEXTS : u32 := 0x203
def MLX5_CMD_OP_QUERY_EQ : u32 := 0x303
def MLX5_CMD_OP_QUERY_CQ : u32 := 0x402
def MLX5_CMD_OP_QUERY_QP : u32 := 0x50b
def MLX5_CMD_OP_QUERY_SRQ : u32 := 0x702
def MLX5_CMD_OP_QUERY_XRC_SRQ : u32 := 0x707
def MLX5_CMD_OP_QUERY_DCT : u32 := 0x713
def MLX5_CMD_OP_QUERY_XRQ : u32 := 0x719
def MLX5_CMD_OP_QUERY_ESW_FUNCTIONS : u32 := 0x740
def MLX5_CMD_OP_QUERY_VPORT_STATE : u32 := 0x750
def MLX5_CMD_OP_QUERY_ESW_VPORT_CONTEXT : u32 := 0x752
def MLX5_CMD_OP_QUERY_VNIC_ENV : u32 := 0x76f
def MLX5_CMD_OP_QUERY_VPORT_COUNTER : u32 := 0x770
def MLX5_CMD_OP_QUERY_Q_COUNTER : u32 := 0x773
def MLX5_CMD_OP_QUERY_MAD_DEMUX : u32 := 0x80b
def MLX5_CMD_OP_QUERY_CONG_STATUS : u32 := 0x822
def MLX5_CMD_OP_QUERY_CONG_PARAMS : u32 := 0x824
def MLX5_CMD_OP_QUERY_CONG_STATISTICS : u32 := 0x826
def MLX5_CMD_OP_QUERY_L2_TABLE_ENTRY : u32 := 0x82a
def MLX5_CMD_OP_QUERY_WOL_ROL : u32 := 0x831
def MLX5_CMD_OP_QUERY_LAG : u32 := 0x842
def MLX5_CMD_OP_QUERY_TIR : u32 := 0x903
def MLX5_CMD_OP_QUERY_SQ : u32 := 0x907
def MLX5_CMD_OP_QUERY_RQ : u32 := 0x90b
def MLX5_CMD_OP_QUERY_RMP : u32 := 0x90f
def MLX5_CMD_OP_QUERY_TIS : u32 := 0x915
def MLX5_CMD_OP_QUERY_RQT : u32 := 0x919
def MLX5_CMD_OP_QUERY_PACKET_REFORMAT_CONTEXT : u32 := 0x93f

namespace MboxOut
def status := fld 0x0 0x8
def syndrome := fld 0x20 0x20
end MboxOut

namespace MboxIn
def opcode := fld 0x0 0x10
def opMod := fld 0x30 0x10
end MboxIn

/-! ## ACCESS_REGISTER -/

namespace AccessRegisterIn
def opcode := fld 0x0 0x10
def reservedAt10 := fld 0x10 0x10
def vhcaTunnelId := fld 0x20 0x10
def opMod := fld 0x30 0x10
def reservedAt40 := fld 0x40 0x10
def registerId := fld 0x50 0x10
def argument := fld 0x60 0x20
/-- `MLX5_BYTE_OFF(access_register_in, register_data)` -/
def registerData : Nat := 16
/-- `MLX5_ST_SZ_BYTES(access_register_in)` -/
def szBytes : Nat := 16
end AccessRegisterIn

namespace AccessRegisterOut
/-- `MLX5_BYTE_OFF(access_register_out, register_data)` -/
def registerData : Nat := 16
/-- `MLX5_ST_SZ_BYTES(access_register_out)` -/
def szBytes : Nat := 16
end AccessRegisterOut

/-! ## Protection domains and memory keys -/

namespace AllocPdIn
def opcode := fld 0x0 0x10
def uid := fld 0x10 0x10
/-- `MLX5_ST_SZ_BYTES(alloc_pd_in)` -/
def szBytes : Nat := 16
end AllocPdIn

namespace AllocPdOut
def pd := fld 0x48 0x18
/-- `MLX5_ST_SZ_BYTES(alloc_pd_out)` -/
def szBytes : Nat := 16
end AllocPdOut

namespace DeallocPdIn
def opcode := fld 0x0 0x10
def uid := fld 0x10 0x10
def pd := fld 0x48 0x18
/-- `MLX5_ST_SZ_BYTES(dealloc_pd_in)` -/
def szBytes : Nat := 16
end DeallocPdIn

namespace DeallocPdOut
/-- `MLX5_ST_SZ_BYTES(dealloc_pd_out)` -/
def szBytes : Nat := 16
end DeallocPdOut

namespace CreateMkeyIn
def opcode := fld 0x0 0x10
def mkeyUmemValid := fld 0x61 0x1
/-- `memory_key_mkey_entry.mkey_7_0` -/
def mkey70 := fld 0xb8 0x8
def mkeyUmemId := fld 0x320 0x20
/-- `MLX5_BYTE_OFF(create_mkey_in, memory_key_mkey_entry)` -/
def memoryKeyMkeyEntry : Nat := 16
/-- `MLX5_ST_SZ_BYTES(create_mkey_in)` -/
def szBytes : Nat := 272
end CreateMkeyIn

namespace CreateMkeyOut
def mkeyIndex := fld 0x48 0x18
/-- `MLX5_ST_SZ_BYTES(create_mkey_out)` -/
def szBytes : Nat := 16
end CreateMkeyOut

namespace DestroyMkeyIn
def opcode := fld 0x0 0x10
def mkeyIndex := fld 0x48 0x18
/-- `MLX5_ST_SZ_BYTES(destroy_mkey_in)` -/
def szBytes : Nat := 16
end DestroyMkeyIn

namespace DestroyMkeyOut
/-- `MLX5_ST_SZ_BYTES(destroy_mkey_out)` -/
def szBytes : Nat := 16
end DestroyMkeyOut

namespace Mkc
def umrEn := fld 0x10 0x1
def lw := fld 0x14 0x1
def lr := fld 0x15 0x1
def accessMode10 := fld 0x16 0x2
def qpn := fld 0x20 0x18
def pd := fld 0x68 0x18
def startAddr := fld64 0x80
def len := fld64 0xc0
end Mkc

namespace LocalPortReg
def localPort := fld 0x8 0x8
end LocalPortReg

/-! ## CORE_DUMP register -/

namespace CoreDumpReg
def moreDump := fld 0x0 0x1
def coreDumpType := fld 0x18 0x8
def mkey := fld 0x80 0x20
def size := fld 0xa0 0x20
def address := fld64 0xc0
def cookie := fld64 0x100
/-- `MLX5_ST_SZ_BYTES(core_dump_reg)` -/
def szBytes : Nat := 64
end CoreDumpReg

/-! ## RESOURCE_DUMP register -/

namespace ResourceDump
def moreDump := fld 0x0 0x1
def inlineDump := fld 0x1 0x1
def reservedAt2 := fld 0x2 0xa
def seqNum := fld 0xc 0x4
def segmentType := fld 0x10 0x10
def reservedAt20 := fld 0x20 0x10
def vhcaId := fld 0x30 0x10
def index1 := fld 0x40 0x20
def index2 := fld 0x60 0x20
def numOfObj1 := fld 0x80 0x10
def numOfObj2 := fld 0x90 0x10
def reservedAtA0 := fld 0xa0 0x20
def deviceOpaque := fld64 0xc0
def mkey := fld 0x100 0x20
def size := fld 0x120 0x20
def address := fld64 0x140
/-- `MLX5_BYTE_OFF(resource_dump, inline_data)` -/
def inlineData : Nat := 48
/-- `MLX5_FLD_SZ_BYTES(resource_dump, inline_data)` -/
def inlineDataBytes : Nat := 208
/-- `MLX5_ST_SZ_BYTES(resource_dump)` -/
def szBytes : Nat := 256
end ResourceDump

/-! ## Segments of a resource dump -/

namespace SegmentHeader
def lengthDw := fld 0x0 0x10
def segmentType := fld 0x10 0x10
end SegmentHeader

namespace InfoSegment
def dumpVersion := fld 0x38 0x8
def hwVersion := fld 0x40 0x20
def fwVersion := fld 0x60 0x20
end InfoSegment

namespace CommandSegment
def segmentCalled := fld 0x20 0x10
def vhcaId := fld 0x30 0x10
def index1 := fld 0x40 0x20
def index2 := fld 0x60 0x20
def numOfObj1 := fld 0x80 0x10
def numOfObj2 := fld 0x90 0x10
end CommandSegment

namespace ErrorSegment
def syndromeId := fld 0x30 0x10
/-- `MLX5_BYTE_OFF(resource_dump_error_segment, error)` -/
def error : Nat := 16
/-- `MLX5_FLD_SZ_BYTES(resource_dump_error_segment, error)` -/
def errorBytes : Nat := 32
end ErrorSegment

namespace NoticeSegment
def syndromeId := fld 0x30 0x10
/-- `MLX5_BYTE_OFF(resource_dump_notice_segment, notice)` -/
def notice : Nat := 16
/-- `MLX5_FLD_SZ_BYTES(resource_dump_notice_segment, notice)` -/
def noticeBytes : Nat := 32
end NoticeSegment

namespace ReferenceSegment
def referenceSegment := fld 0x30 0x10
def index1 := fld 0x40 0x20
def index2 := fld 0x60 0x20
def numOfObj1 := fld 0x80 0x10
def numOfObj2 := fld 0x90 0x10
end ReferenceSegment

namespace ResourceSegment
def index1 := fld 0x40 0x20
def index2 := fld 0x60 0x20
/-- `MLX5_BYTE_OFF(resource_dump_resource_segment, payload)` -/
def payload : Nat := 16
/-- `MLX5_ST_SZ_BYTES(resource_dump_resource_segment)` -/
def szBytes : Nat := 16
end ResourceSegment

namespace MenuSegment
def numOfRecords := fld 0x30 0x10
/-- `MLX5_BYTE_OFF(resource_dump_menu_segment, record[0])` -/
def record : Nat := 8
end MenuSegment

namespace MenuRecord
def numOfObj2SupportsActive := fld 0x4 0x1
def numOfObj2SupportsAll := fld 0x5 0x1
def mustHaveNumOfObj2 := fld 0x6 0x1
def supportNumOfObj2 := fld 0x7 0x1
def numOfObj1SupportsActive := fld 0x8 0x1
def numOfObj1SupportsAll := fld 0x9 0x1
def mustHaveNumOfObj1 := fld 0xa 0x1
def supportNumOfObj1 := fld 0xb 0x1
def mustHaveIndex2 := fld 0xc 0x1
def supportIndex2 := fld 0xd 0x1
def mustHaveIndex1 := fld 0xe 0x1
def supportIndex1 := fld 0xf 0x1
def segmentType := fld 0x10 0x10
/-- `MLX5_BYTE_OFF(resource_dump_menu_record, segment_name[0])` -/
def segmentName : Nat := 4
/-- `MLX5_BYTE_OFF(resource_dump_menu_record, index1_name[0])` -/
def index1Name : Nat := 20
/-- `MLX5_BYTE_OFF(resource_dump_menu_record, index2_name[0])` -/
def index2Name : Nat := 36
/-- `MLX5_ST_SZ_BYTES(resource_dump_menu_record)` -/
def szBytes : Nat := 52
end MenuRecord

namespace TerminateSegment
/-- `MLX5_ST_SZ_BYTES(resource_dump_terminate_segment)` -/
def szBytes : Nat := 4
end TerminateSegment

namespace Response
/-- `MLX5_BYTE_OFF(resource_dump_response, info)` -/
def info : Nat := 0
/-- `MLX5_BYTE_OFF(resource_dump_response, cmd)` -/
def cmd : Nat := 16
/-- `MLX5_BYTE_OFF(resource_dump_response, segment[0])` -/
def segment : Nat := 36
/-- `MLX5_ST_SZ_BYTES(resource_dump_response)` -/
def szBytes : Nat := 36
end Response

/-! ## The fields of the `query_*_in` that name an object -/

namespace QueryIn
def eqNumber := fld 0x58 0x8
def cqn := fld 0x48 0x18
def qpn := fld 0x48 0x18
def sqn := fld 0x48 0x18
def rqn := fld 0x48 0x18
def tisn := fld 0x48 0x18
def tirn := fld 0x48 0x18
def rqtn := fld 0x48 0x18
def rmpn := fld 0x48 0x18
def dctn := fld 0x48 0x18
def srqn := fld 0x48 0x18
def xrqn := fld 0x48 0x18
def xrcSrqn := fld 0x48 0x18
def counterSetId := fld 0xf8 0x8
def mkeyIndex := fld 0x48 0x18
def functionId := fld 0x50 0x10
def tableIndex := fld 0xa8 0x18
def vportNumber := fld 0x50 0x10
def otherVport := fld 0x40 0x1
def packetReformatId := fld 0x40 0x20
def priority := fld 0x58 0x4
def congProtocol := fld 0x5c 0x4
def vhcaId := fld 0x50 0x10
end QueryIn

/-! ## Capabilities -/

namespace QueryHcaCapIn
def opcode := fld 0x0 0x10
def opMod := fld 0x30 0x10
/-- `MLX5_ST_SZ_BYTES(query_hca_cap_in)` -/
def szBytes : Nat := 16
end QueryHcaCapIn

namespace QueryHcaCapOut
/-- `MLX5_BYTE_OFF(query_hca_cap_out, capability)` -/
def capability : Nat := 16
/-- `MLX5_ST_SZ_BYTES(query_hca_cap_out)` -/
def szBytes : Nat := 4112
end QueryHcaCapOut

namespace CmdHcaCap
def debug := fld 0x183 0x1
def numOfDiagnosticCounters := fld 0x280 0x10
def deviceFrequencyKhz := fld 0x4e0 0x20
end CmdHcaCap

namespace DebugCapX
def logMaxSamples := fld 0x18 0x8
def single := fld 0x20 0x1
def repetitive := fld 0x21 0x1
def logMinSamplePeriod := fld 0x38 0x8
/-- `MLX5_BYTE_OFF(debug_capX, diagnostic_counter[0])` -/
def diagnosticCounter : Nat := 64
end DebugCapX

namespace DiagnosticCntrLayout
def sync := fld 0x0 0x1
def counterId := fld 0x10 0x10
/-- `MLX5_ST_SZ_BYTES(diagnostic_cntr_layout)` -/
def szBytes : Nat := 4
end DiagnosticCntrLayout

/-! ## Diagnostic counters -/

namespace DiagnosticParamsContext
def numOfCounters := fld 0x0 0x10
def logNumOfSamples := fld 0x18 0x8
def single := fld 0x20 0x1
def repetitive := fld 0x21 0x1
def sync := fld 0x22 0x1
def clear := fld 0x23 0x1
def onDemand := fld 0x24 0x1
def enable := fld 0x25 0x1
def logSamplePeriod := fld 0x38 0x8
/-- `MLX5_BYTE_OFF(diagnostic_params_context, counter_id[0])` -/
def counterId : Nat := 24
end DiagnosticParamsContext

namespace CounterId
def counterId := fld 0x10 0x10
/-- `MLX5_ST_SZ_BYTES(counter_id)` -/
def szBytes : Nat := 4
end CounterId

namespace QueryDiagnosticParamsIn
def opcode := fld 0x0 0x10
/-- `MLX5_ST_SZ_BYTES(query_diagnostic_params_in)` -/
def szBytes : Nat := 16
end QueryDiagnosticParamsIn

namespace QueryDiagnosticParamsOut
/-- `MLX5_BYTE_OFF(query_diagnostic_params_out, diagnostic_params_context)` -/
def diagnosticParamsContext : Nat := 8
/-- `MLX5_ST_SZ_BYTES(query_diagnostic_params_out)` -/
def szBytes : Nat := 32
end QueryDiagnosticParamsOut

namespace SetDiagnosticParamsIn
def opcode := fld 0x0 0x10
/-- `MLX5_BYTE_OFF(set_diagnostic_params_in, diagnostic_params_context)` -/
def diagnosticParamsContext : Nat := 8
/-- `MLX5_ST_SZ_BYTES(set_diagnostic_params_in)` -/
def szBytes : Nat := 32
end SetDiagnosticParamsIn

namespace SetDiagnosticParamsOut
/-- `MLX5_ST_SZ_BYTES(set_diagnostic_params_out)` -/
def szBytes : Nat := 16
end SetDiagnosticParamsOut

namespace QueryDiagnosticCntrsIn
def opcode := fld 0x0 0x10
def numOfSamples := fld 0x40 0x10
def sampleIndex := fld 0x50 0x10
/-- `MLX5_ST_SZ_BYTES(query_diagnostic_cntrs_in)` -/
def szBytes : Nat := 16
end QueryDiagnosticCntrsIn

namespace QueryDiagnosticCntrsOut
/-- `MLX5_BYTE_OFF(query_diagnostic_cntrs_out, diag_counter[0])` -/
def diagCounter : Nat := 16
/-- `MLX5_ST_SZ_BYTES(query_diagnostic_cntrs_out)` -/
def szBytes : Nat := 16
end QueryDiagnosticCntrsOut

namespace DiagnosticCntrStruct
def counterId := fld 0x0 0x10
def sampleId := fld 0x10 0x10
def timeStamp310 := fld 0x20 0x20
def counterValueH := fld 0x40 0x20
def counterValueL := fld 0x60 0x20
/-- `MLX5_ST_SZ_BYTES(diagnostic_cntr_struct)` -/
def szBytes : Nat := 16
end DiagnosticCntrStruct

end Mlx5ctl.Ifc
