/-
  The format of a resource dump, and what its segments say.

  A segment is a list of big-endian dwords: a header with its length and type, and a body laid
  out by its type. `Segment.words` serialises it, `Segment.lines` is what a reader should be
  told about it. The layout is stated here on its own; the texts of the lines, the names of the
  flags and of the segment types and the end of a string are those of the parser.
-/
import Mlx5ctl.RscDump.Parse
import Mlx5ctl.Lib.Words

namespace Mlx5ctl.RscDump

open ByteMem Ifc

/-- A fixed number of dwords. -/
structure Dwords (n : Nat) where
  words : List u32
  length_eq : words.length = n

/-- A segment header. -/
def header (length : Nat) (type : BitVec 16) : u32 := BitVec.ofNat 16 length ++ type

/-! ## Menus -/

/-- A record of a menu. -/
structure MenuEntry where
  flags : BitVec 16
  type : BitVec 16
  segmentName : Dwords 4
  index1Name : Dwords 4
  index2Name : Dwords 4

namespace MenuEntry

def words (e : MenuEntry) : List u32 :=
  (e.flags ++ e.type) :: (e.segmentName.words ++ e.index1Name.words ++ e.index2Name.words)

/-- The flag with this name. -/
def flagLine (e : MenuEntry) (nf : String × Field) : Line :=
  .printf "\t%s: %d\n" [.text nf.1, .int (e.flags.getMsbD nf.2.off).toNat]

/-- What is said of the record at this offset. The names are the strings at theirs. -/
def lines (e : MenuEntry) (record : Nat) : List Line :=
  [.printf "\tsegment_type: 0x%x (%s)\n" [.int e.type.toNat, .text (sgmtType2str e.type.toNat)]] ++
  menuRecordFields.map e.flagLine ++
  [.printf "\tsegment_name: %s\n" [.cstr (record + 4)],
    .printf "\tindex1_name: %s\n" [.cstr (record + 20)],
    .printf "\tindex2_name: %s\n" [.cstr (record + 36)]]

theorem words_length (e : MenuEntry) : e.words.length = 13 := by
  unfold words
  rw [List.length_cons, List.length_append, List.length_append, e.segmentName.length_eq,
    e.index1Name.length_eq, e.index2Name.length_eq]

end MenuEntry

/-- What is said of the records from number `i` on, the first at this offset. -/
def menuLines (record i : Nat) : List MenuEntry → List Line
  | [] => []
  | e :: es =>
      .printf "Menu Record %d\n" [.int i] :: e.lines record ++ menuLines (record + 52) (i + 1) es

/-! ## Segments -/

/-- A segment that does not end the dump. -/
inductive Segment where
  | resource (type : BitVec 16) (isResource : type.toNat ≤ 0xfeff) (reserved index1 index2 : u32)
      (payload : List u32) (fits : payload.length + 4 < 65536)
  | notice (reserved20 syndrome : BitVec 16) (reserved40 : Dwords 2) (text : Dwords 8)
  | reference (reserved20 segment : BitVec 16) (index1 index2 : u32)
      (numOfObj1 numOfObj2 : BitVec 16)
  | menu (reserved20 : BitVec 16) (records : List MenuEntry)
      (fits : 13 * records.length + 2 < 65536)
  | unknown (type : BitVec 16) (noResource : 0xfeff < type.toNat)
      (noKnown : type.toNat ∉ [MLX5_RSC_SGMT_TYPE_NOTICE, MLX5_RSC_SGMT_TYPE_TERMINATE,
        MLX5_RSC_SGMT_TYPE_ERROR, MLX5_RSC_SGMT_TYPE_REFERENCE, MLX5_RSC_SGMT_TYPE_MENU])
      (body : List u32) (fits : body.length + 1 < 65536)

namespace Segment

def type : Segment → BitVec 16
  | resource type .. | unknown type .. => type
  | notice .. => BitVec.ofNat 16 MLX5_RSC_SGMT_TYPE_NOTICE
  | reference .. => BitVec.ofNat 16 MLX5_RSC_SGMT_TYPE_REFERENCE
  | menu .. => BitVec.ofNat 16 MLX5_RSC_SGMT_TYPE_MENU

/-- The dwords behind the header. -/
def body : Segment → List u32
  | resource _ _ reserved index1 index2 payload _ => reserved :: index1 :: index2 :: payload
  | notice reserved20 syndrome reserved40 text =>
      (reserved20 ++ syndrome) :: (reserved40.words ++ text.words)
  | reference reserved20 segment index1 index2 numOfObj1 numOfObj2 =>
      [reserved20 ++ segment, index1, index2, numOfObj1 ++ numOfObj2]
  | menu reserved20 records _ =>
      (reserved20 ++ BitVec.ofNat 16 records.length) :: records.flatMap MenuEntry.words
  | unknown _ _ _ body _ => body

/-- The length in dwords, with the header. -/
def length (s : Segment) : Nat := s.body.length + 1

def words (s : Segment) : List u32 := header s.length s.type :: s.body

/-- What is said of the body of the segment at this offset. -/
def bodyLines (off : Nat) : Segment → List Line
  | resource _ _ _ index1 index2 payload _ =>
      [.infoMsg "\tindex1 0x%x, index2 0x%x\n" [.int index1.toNat, .int index2.toNat],
        .hexdump (bytesOf payload)]
  | notice _ syndrome _ text =>
      [.printf "\tnotice: syndrome 0x%x, %s\n" [.int syndrome.toNat, cString (bytesOf text.words)]]
  | reference _ segment index1 index2 numOfObj1 numOfObj2 =>
      [.printf
        "\treference_segment: 0x%x, index1 0x%x, index2 0x%x, num_of_obj1 %d, num_of_obj2 %d\n"
        [.int segment.toNat, .int index1.toNat, .int index2.toNat, .int numOfObj1.toNat,
          .int numOfObj2.toNat]]
  | menu _ records _ =>
      .infoMsg "Resource dump menu size %d num of records %d\n" [.int 0, .int records.length] ::
        menuLines (off + 8) 0 records
  | unknown .. => []

end Segment

/-- What is said of a header: the type, and the length in bytes. -/
def headerLine (length : Nat) (type : BitVec 16) : Line :=
  .infoMsg "%s Segment: type 0x%x, length %d\n"
    [.text (sgmtType2str type.toNat), .int type.toNat, .int (4 * length : Nat)]

/-- What is said of the segment at this offset. -/
def Segment.lines (off : Nat) (s : Segment) : List Line :=
  headerLine s.length s.type :: s.bodyLines off

/-- The segment that ends a dump. -/
inductive Final where
  | terminate
  | error (reserved20 syndrome : BitVec 16) (reserved40 : Dwords 2) (text : Dwords 8)

namespace Final

def type : Final → BitVec 16
  | terminate => BitVec.ofNat 16 MLX5_RSC_SGMT_TYPE_TERMINATE
  | error .. => BitVec.ofNat 16 MLX5_RSC_SGMT_TYPE_ERROR

def body : Final → List u32
  | terminate => []
  | error reserved20 syndrome reserved40 text =>
      (reserved20 ++ syndrome) :: (reserved40.words ++ text.words)

def length (f : Final) : Nat := f.body.length + 1

def words (f : Final) : List u32 := header f.length f.type :: f.body

def lines (f : Final) : List Line :=
  headerLine f.length f.type ::
    match f with
    | terminate => [.infoMsg "end: %s\n" [.text "Terminate"]]
    | error _ syndrome _ text =>
        [.printf "\terror: syndrome 0x%x, %s\n" [.int syndrome.toNat, cString (bytesOf text.words)]]

end Final

/-! ## Dumps -/

/-- The info segment. -/
structure Info where
  reserved : BitVec 24
  dumpVersion : BitVec 8
  hwVersion : u32
  fwVersion : u32

/-- The command segment. -/
structure Cmd where
  segmentCalled : BitVec 16
  vhcaId : BitVec 16
  index1 : u32
  index2 : u32
  numOfObj1 : BitVec 16
  numOfObj2 : BitVec 16

def Info.words (i : Info) : List u32 :=
  [header 4 (BitVec.ofNat 16 MLX5_RSC_SGMT_TYPE_INFO), i.reserved ++ i.dumpVersion, i.hwVersion,
    i.fwVersion]

def Cmd.words (c : Cmd) : List u32 :=
  [header 5 (BitVec.ofNat 16 MLX5_RSC_SGMT_TYPE_CMD), c.segmentCalled ++ c.vhcaId, c.index1,
    c.index2, c.numOfObj1 ++ c.numOfObj2]

/-- A dump: the info and command segments, the segments, and the segment that ends it. -/
structure Dump where
  info : Info
  cmd : Cmd
  segments : List Segment
  final : Final

namespace Dump

def words (d : Dump) : List u32 :=
  d.info.words ++ (d.cmd.words ++ (d.segments.flatMap Segment.words ++ d.final.words))

/-- What is said of the info and command segments of a dump of this size. -/
def prefixLines (d : Dump) (size : Nat) : List Line :=
  [.infoMsg "Resource dump size %d\n" [.int size],
    headerLine 4 (BitVec.ofNat 16 MLX5_RSC_SGMT_TYPE_INFO),
    .printf "\tdump_version %d, hw_version %d, fw_version 0%x\n"
      [.int d.info.dumpVersion.toNat, .int d.info.hwVersion.toNat, .int d.info.fwVersion.toNat],
    headerLine 5 (BitVec.ofNat 16 MLX5_RSC_SGMT_TYPE_CMD),
    .printf
      "\tsegment_called 0x%x, vhca_id 0x%x, index1 0x%x, index2 0x%x, num_of_obj1 %d, num_of_obj2 %d\n"
      [.int d.cmd.segmentCalled.toNat, .int d.cmd.vhcaId.toNat, .int d.cmd.index1.toNat,
        .int d.cmd.index2.toNat, .int d.cmd.numOfObj1.toNat, .int d.cmd.numOfObj2.toNat]]

end Dump

/-- The offsets of the segments from `off` on, with that of the segment that ends the dump. -/
def offsets (off : Nat) : List Segment → List Nat
  | [] => [off]
  | s :: ss => off :: offsets (off + 4 * s.length) ss

/-- What is said of the segments from `off` on. -/
def segmentLines (off : Nat) : List Segment → List Line
  | [] => []
  | s :: ss => s.lines off ++ segmentLines (off + 4 * s.length) ss

/-! ## No errors -/

/-- The lines report no error. -/
def NoErrMsg (lines : List Line) : Prop := ∀ fmt args, .errMsg fmt args ∉ lines

theorem noErrMsg_append {xs ys : List Line} (hx : NoErrMsg xs) (hy : NoErrMsg ys) :
    NoErrMsg (xs ++ ys) := by
  intro fmt args h
  rcases List.mem_append.mp h with h | h
  · exact hx fmt args h
  · exact hy fmt args h

theorem MenuEntry.noErrMsg (e : MenuEntry) (record : Nat) : NoErrMsg (e.lines record) := by
  intro fmt args h
  simp [MenuEntry.lines, MenuEntry.flagLine] at h

theorem menuLines_noErrMsg (record i : Nat) (es : List MenuEntry) :
    NoErrMsg (menuLines record i es) := by
  induction es generalizing record i with
  | nil => exact fun _ _ h => absurd h List.not_mem_nil
  | cons e es ih =>
      unfold menuLines
      refine noErrMsg_append (fun fmt args h => ?_) (ih _ _)
      rcases List.mem_cons.mp h with h | h
      · cases h
      · exact e.noErrMsg record fmt args h

theorem Segment.noErrMsg (s : Segment) (off : Nat) : NoErrMsg (s.lines off) := by
  intro fmt args h
  rcases List.mem_cons.mp h with h | h
  · cases h
  · cases s with
    | menu reserved20 records fits =>
        rcases List.mem_cons.mp h with h | h
        · cases h
        · exact menuLines_noErrMsg _ _ _ fmt args h
    | _ => simp [Segment.bodyLines] at h

theorem segmentLines_noErrMsg (off : Nat) (ss : List Segment) : NoErrMsg (segmentLines off ss) := by
  induction ss generalizing off with
  | nil => exact fun _ _ h => absurd h List.not_mem_nil
  | cons s ss ih => exact noErrMsg_append (s.noErrMsg off) (ih _)

theorem Final.noErrMsg (f : Final) : NoErrMsg f.lines := by
  intro fmt args h
  cases f <;> simp [Final.lines, headerLine] at h

theorem Dump.prefix_noErrMsg (d : Dump) (size : Nat) : NoErrMsg (d.prefixLines size) := by
  intro fmt args h
  simp [Dump.prefixLines, headerLine] at h

end Mlx5ctl.RscDump
