/-
  rscdump.c: `parse_resource_dump` and the functions it calls, on a buffer of collected bytes.

  The buffer is the memory from `data` on; nothing in these functions knows where it ends. Each
  function gives its `Trace`: what it prints, and what it reads of the buffer. The walk is a
  loop on the offset of the current segment, which keeps the offsets it has visited.
-/
import Mlx5ctl.Sys
import Mlx5ctl.Ifc
import Mlx5ctl.Lib.Loop

namespace Mlx5ctl.RscDump

open ByteMem CInt Ifc

/-- What a function prints, and what it reads. -/
structure Trace where
  lines : List Line
  reads : List Access

instance : Append Trace := ⟨fun a b => ⟨a.lines ++ b.lines, a.reads ++ b.reads⟩⟩

@[simp] theorem Trace.lines_append (a b : Trace) : (a ++ b).lines = a.lines ++ b.lines := rfl

@[simp] theorem Trace.reads_append (a b : Trace) : (a ++ b).reads = a.reads ++ b.reads := rfl

/-! ## Segment types -/

def MLX5_RSC_SGMT_TYPE_DEVICE_DUMP : Nat := 0x1000
def MLX5_RSC_SGMT_TYPE_NOTICE : Nat := 0xfff9
def MLX5_RSC_SGMT_TYPE_CMD : Nat := 0xfffa
def MLX5_RSC_SGMT_TYPE_TERMINATE : Nat := 0xfffb
def MLX5_RSC_SGMT_TYPE_ERROR : Nat := 0xfffc
def MLX5_RSC_SGMT_TYPE_REFERENCE : Nat := 0xfffd
def MLX5_RSC_SGMT_TYPE_INFO : Nat := 0xfffe
def MLX5_RSC_SGMT_TYPE_MENU : Nat := 0xffff

/-- `sgmt_type2str` -/
def sgmtType2str (sgmtType : Nat) : String :=
  if sgmtType = MLX5_RSC_SGMT_TYPE_DEVICE_DUMP then "Device dump"
  else if sgmtType = MLX5_RSC_SGMT_TYPE_NOTICE then "Notice"
  else if sgmtType = MLX5_RSC_SGMT_TYPE_CMD then "Command"
  else if sgmtType = MLX5_RSC_SGMT_TYPE_TERMINATE then "Terminate"
  else if sgmtType = MLX5_RSC_SGMT_TYPE_ERROR then "Error"
  else if sgmtType = MLX5_RSC_SGMT_TYPE_REFERENCE then "Reference"
  else if sgmtType = MLX5_RSC_SGMT_TYPE_INFO then "Info"
  else if sgmtType = MLX5_RSC_SGMT_TYPE_MENU then "Menu"
  else if sgmtType ≤ 0xfeff then "A Resource"
  else "Unknown"

/-! ## Segments -/

/-- The value `MLX5_GET` prints. -/
def getArg (p : Mem) (base : Nat) (f : Field) : Arg := .int (mlx5Get p base f).toNat

/-- The `print_fld` lines of a menu record. -/
def menuRecordFields : List (String × Field) :=
  [("support_index1", MenuRecord.supportIndex1),
    ("must_have_index1", MenuRecord.mustHaveIndex1),
    ("support_index2", MenuRecord.supportIndex2),
    ("must_have_index2", MenuRecord.mustHaveIndex2),
    ("support_num_of_obj1", MenuRecord.supportNumOfObj1),
    ("must_have_num_of_obj1", MenuRecord.mustHaveNumOfObj1),
    ("support_num_of_obj2", MenuRecord.supportNumOfObj2),
    ("must_have_num_of_obj2", MenuRecord.mustHaveNumOfObj2),
    ("num_of_obj1_supports_all", MenuRecord.numOfObj1SupportsAll),
    ("num_of_obj1_supports_active", MenuRecord.numOfObj1SupportsActive),
    ("num_of_obj2_supports_all", MenuRecord.numOfObj2SupportsAll),
    ("num_of_obj2_supports_active", MenuRecord.numOfObj2SupportsActive)]

/-- `print_menu_record(record)` -/
def printMenuRecord (p : Mem) (record : Nat) : Trace where
  lines :=
    let segType := (mlx5Get p record MenuRecord.segmentType).toNat
    [.printf "\tsegment_type: 0x%x (%s)\n" [.int segType, .text (sgmtType2str segType)]] ++
    menuRecordFields.map (fun (name, f) =>
      .printf "\t%s: %d\n" [.text name, getArg p record f]) ++
    [.printf "\tsegment_name: %s\n" [.cstr (record + MenuRecord.segmentName)],
      .printf "\tindex1_name: %s\n" [.cstr (record + MenuRecord.index1Name)],
      .printf "\tindex2_name: %s\n" [.cstr (record + MenuRecord.index2Name)]]
  reads :=
    [MenuRecord.segmentType.dword record] ++
    menuRecordFields.map (fun (_, f) => f.dword record) ++
    [.cstr (record + MenuRecord.segmentName), .cstr (record + MenuRecord.index1Name),
      .cstr (record + MenuRecord.index2Name)]

/-- The loop of `parse_menu_segment` from record `i` on, `n` records. -/
def parseMenuRecords (p : Mem) (records : Nat) (i : Nat) : Nat → Trace
  | 0 => ⟨[], []⟩
  | n + 1 =>
      ⟨[.printf "Menu Record %d\n" [.int i]], []⟩ ++
      printMenuRecord p (records + i * MenuRecord.szBytes) ++
      parseMenuRecords p records (i + 1) n

/-- `parse_menu_segment(menu)` -/
def parseMenuSegment (p : Mem) (menu : Nat) : Trace :=
  let numRecords := (mlx5Get p menu MenuSegment.numOfRecords).toNat
  ⟨[.infoMsg "Resource dump menu size %d num of records %d\n" [.int 0, .int numRecords]],
    [MenuSegment.numOfRecords.dword menu]⟩ ++
  parseMenuRecords p (menu + MenuSegment.record) 0 numRecords

/-- `struct sgmnt_hdr` -/
structure SgmntHdr where
  segmentType : Nat
  len : Nat

/-- `get_sgmnt_hdr(sgmnt, sgmnt_hdr)` -/
def getSgmntHdr (p : Mem) (sgmnt : Nat) : SgmntHdr where
  segmentType := (mlx5Get p sgmnt SegmentHeader.segmentType).toNat
  len := toU32 ((mlx5Get p sgmnt SegmentHeader.lengthDw).toNat * 4)

/-- The reads of `get_sgmnt_hdr`. -/
def sgmntHdrReads (sgmnt : Nat) : List Access :=
  [SegmentHeader.segmentType.dword sgmnt, SegmentHeader.lengthDw.dword sgmnt]

/-- A `char` array printed with `%s`: the bytes before the first NUL. -/
def cString (bytes : List u8) : Arg := .bytes (bytes.takeWhile (· ≠ 0))

/-- `parse_err_segment(segment)` -/
def parseErrSegment (p : Mem) (segment : Nat) : Trace where
  lines := [.printf "\terror: syndrome 0x%x, %s\n" [getArg p segment ErrorSegment.syndromeId,
    cString (load p (segment + ErrorSegment.error) ErrorSegment.errorBytes)]]
  reads := [.bytes (segment + ErrorSegment.error) ErrorSegment.errorBytes,
    ErrorSegment.syndromeId.dword segment]

/-- `parse_notice_segment(segment)` -/
def parseNoticeSegment (p : Mem) (segment : Nat) : Trace where
  lines := [.printf "\tnotice: syndrome 0x%x, %s\n" [getArg p segment NoticeSegment.syndromeId,
    cString (load p (segment + NoticeSegment.notice) NoticeSegment.noticeBytes)]]
  reads := [.bytes (segment + NoticeSegment.notice) NoticeSegment.noticeBytes,
    NoticeSegment.syndromeId.dword segment]

/-- A `printf` of some fields. -/
def printFields (p : Mem) (base : Nat) (fmt : String) (fields : List Field) : Trace where
  lines := [.printf fmt (fields.map (getArg p base))]
  reads := fields.map (·.dword base)

/-- `parse_reference_segment(segment)` -/
def parseReferenceSegment (p : Mem) (segment : Nat) : Trace :=
  printFields p segment
    "\treference_segment: 0x%x, index1 0x%x, index2 0x%x, num_of_obj1 %d, num_of_obj2 %d\n"
    [ReferenceSegment.referenceSegment, ReferenceSegment.index1, ReferenceSegment.index2,
      ReferenceSegment.numOfObj1, ReferenceSegment.numOfObj2]

/-- `print_sgmt_header(hdr)` -/
def printSgmtHeader (p : Mem) (hdr : Nat) : Trace where
  lines := [.infoMsg "%s Segment: type 0x%x, length %d\n"
    [.text (sgmtType2str (getSgmntHdr p hdr).segmentType),
      .int (getSgmntHdr p hdr).segmentType, .int (getSgmntHdr p hdr).len]]
  reads := sgmntHdrReads hdr

/-- `hexdump(data, size)` -/
def hexdump (p : Mem) (data : Nat) (size : Int) : Trace where
  lines := [.hexdump (load p data size.toNat)]
  reads := [.bytes data size.toNat]

/-- The body of a resource segment, in `parse_segment`. -/
def parseResource (p : Mem) (segment : Nat) : Trace :=
  ⟨[.infoMsg "\tindex1 0x%x, index2 0x%x\n"
      [getArg p segment ResourceSegment.index1, getArg p segment ResourceSegment.index2]],
    [ResourceSegment.index1.dword segment, ResourceSegment.index2.dword segment]⟩ ++
  hexdump p (segment + ResourceSegment.payload)
    (toInt (toSize ((getSgmntHdr p segment).len - ResourceSegment.szBytes)))

/-- The branch of `parse_segment` by the type of the segment. -/
def parseBody (p : Mem) (segment : Nat) : Trace :=
  let segmentType := (getSgmntHdr p segment).segmentType
  if segmentType = MLX5_RSC_SGMT_TYPE_TERMINATE then
    ⟨[.infoMsg "end: %s\n" [.text (sgmtType2str segmentType)]], []⟩
  else if segmentType = MLX5_RSC_SGMT_TYPE_ERROR then parseErrSegment p segment
  else if segmentType = MLX5_RSC_SGMT_TYPE_NOTICE then parseNoticeSegment p segment
  else if segmentType = MLX5_RSC_SGMT_TYPE_REFERENCE then parseReferenceSegment p segment
  else if segmentType = MLX5_RSC_SGMT_TYPE_MENU then parseMenuSegment p segment
  else if segmentType > 0xfeff then ⟨[], []⟩
  else parseResource p segment

/-- `parse_segment(segment)`: what it prints and reads, and what it returns. -/
def parseSegment (p : Mem) (segment : Nat) : Trace × Int :=
  let segmentType := (getSgmntHdr p segment).segmentType
  (⟨[], sgmntHdrReads segment⟩ ++ printSgmtHeader p segment ++ parseBody p segment,
    if segmentType = MLX5_RSC_SGMT_TYPE_TERMINATE ∨ segmentType = MLX5_RSC_SGMT_TYPE_ERROR
    then 1 else 0)

/-! ## The walk -/

/-- The state of the walk: `segment - data`, the segments visited, and the trace. -/
structure Walk where
  off : Nat
  visited : List Nat
  trace : Trace

/-- One turn of the loop of `parse_resource_dump`. -/
def walkTurn (p : Mem) (size : Int) (s : Walk) : Turn Walk Walk :=
  let r := parseSegment p s.off
  let visited := s.visited ++ [s.off]
  if r.2 ≠ 0 then .exit ⟨s.off, visited, s.trace ++ r.1⟩
  else
    let off := s.off + toU32 ((mlx5Get p s.off SegmentHeader.lengthDw).toNat * 4)
    let trace := s.trace ++ r.1 ++ ⟨[], [SegmentHeader.lengthDw.dword s.off]⟩
    if (off : Int) ≥ size then
      .exit ⟨off, visited, trace ++
        ⟨[.errMsg "Segment overflow %ld, data size %d\n" [.int off, .int size]], []⟩⟩
    else .again ⟨off, visited, trace⟩

/-- What is printed of the info and command segments. -/
def parsePrefix (p : Mem) (size : Int) : Trace :=
  ⟨[.infoMsg "Resource dump size %d\n" [.int size]], []⟩ ++
  printSgmtHeader p Response.info ++
  printFields p Response.info "\tdump_version %d, hw_version %d, fw_version 0%x\n"
    [InfoSegment.dumpVersion, InfoSegment.hwVersion, InfoSegment.fwVersion] ++
  printSgmtHeader p Response.cmd ++
  printFields p Response.cmd
    "\tsegment_called 0x%x, vhca_id 0x%x, index1 0x%x, index2 0x%x, num_of_obj1 %d, num_of_obj2 %d\n"
    [CommandSegment.segmentCalled, CommandSegment.vhcaId, CommandSegment.index1,
      CommandSegment.index2, CommandSegment.numOfObj1, CommandSegment.numOfObj2]

/-- Up to the loop. The `int` is compared with a `size_t`. -/
def walkStart (p : Mem) (size : Int) : Turn Walk Walk :=
  if toSize size < Response.szBytes + TerminateSegment.szBytes then
    .exit ⟨0, [], parsePrefix p size⟩
  else .again ⟨Response.segment, [], parsePrefix p size⟩

/-- At most `n` turns of `parse_resource_dump(data, size)`. -/
def parseResourceDump (p : Mem) (size : Int) (n : Nat) : Turn Walk Walk :=
  (walkStart p size).bind (Turn.run (walkTurn p size) n)

end Mlx5ctl.RscDump
