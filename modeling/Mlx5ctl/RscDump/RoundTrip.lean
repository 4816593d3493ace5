/-
  The walk decodes what a well-formed dump encodes.

  `Words p off ws` carries the argument: the words of a segment stand at its offset, so each
  function of the parser says what the format says of it (`segmentTrace_lines`), and behind them
  stand the words of the next. `run_decodes` is the walk over a list of segments, by induction
  on the list with the offset as the state.
-/
import Mlx5ctl.RscDump.Format
import Mlx5ctl.RscDump.Walk

namespace Mlx5ctl.RscDump

open ByteMem CInt Ifc Turn

variable {p : Mem} {off : Nat}

/-! ## Fields -/

theorem getArg_high {base : Nat} {f : Field} {h l : BitVec 16}
    (hw : word32 p (base + 4 * f.dwOff) = h ++ l) (hsz : f.sz = 16) (hoff : f.off % 32 = 0) :
    getArg p base f = .int h.toNat := by
  unfold getArg
  rw [mlx5Get_high hw hsz hoff]

theorem getArg_low {base : Nat} {f : Field} {h l : BitVec 16}
    (hw : word32 p (base + 4 * f.dwOff) = h ++ l) (hsz : f.sz = 16) (hoff : f.off % 32 = 16) :
    getArg p base f = .int l.toNat := by
  unfold getArg
  rw [mlx5Get_low hw hsz hoff]

theorem getArg_whole {base : Nat} {f : Field} {x : u32}
    (hw : word32 p (base + 4 * f.dwOff) = x) (hsz : f.sz = 32) :
    getArg p base f = .int x.toNat := by
  unfold getArg
  rw [mlx5Get_whole hw hsz]

/-- A one-bit field in the high half of its dword. -/
theorem getArg_flag {base : Nat} {f : Field} {h l : BitVec 16} (hw : word32 p base = h ++ l)
    (hsz : f.sz = 1) (hoff : f.off < 16) : getArg p base f = .int (h.getMsbD f.off).toNat := by
  have hbit : bit p (8 * base + f.off) = h.getMsbD f.off := by
    rw [← getMsbD_word32 p base f.off (by omega), hw]
    have happ : (h ++ l : BitVec (16 + 16)).getMsbD f.off = h.getMsbD f.off := by
      rw [BitVec.getMsbD_append, if_neg (by omega)]
    exact happ
  unfold getArg
  rw [mlx5Get_num, hsz, num_succ, num_zero, Nat.add_zero, hbit, Nat.mul_zero, Nat.zero_add]

/-! ## Headers -/

section Header

variable {length : Nat} {type : BitVec 16} {ws : List u32}

theorem lengthDw_header (h : Words p off (header length type :: ws)) (hlen : length < 65536) :
    lengthDw p off = length := by
  obtain ⟨hw, -⟩ := words_cons h
  unfold lengthDw
  rw [mlx5Get_high (f := SegmentHeader.lengthDw) hw rfl rfl, BitVec.toNat_ofNat]
  omega

theorem segmentType_header (h : Words p off (header length type :: ws)) :
    segmentType p off = type.toNat := by
  obtain ⟨hw, -⟩ := words_cons h
  unfold segmentType getSgmntHdr
  exact mlx5Get_low (f := SegmentHeader.segmentType) hw rfl rfl

theorem hdrLen_header (h : Words p off (header length type :: ws)) (hlen : length < 65536) :
    (getSgmntHdr p off).len = 4 * length := by
  have hl := lengthDw_header h hlen
  unfold getSgmntHdr
  dsimp only
  unfold lengthDw at hl
  rw [hl]
  unfold toU32
  omega

theorem printSgmtHeader_lines (h : Words p off (header length type :: ws))
    (hlen : length < 65536) : (printSgmtHeader p off).lines = [headerLine length type] := by
  have htype : (getSgmntHdr p off).segmentType = type.toNat := segmentType_header h
  unfold printSgmtHeader headerLine
  dsimp only
  rw [htype, hdrLen_header h hlen]

end Header

/-! ## Menus -/

theorem menuRecordFields_flag : ∀ nf ∈ menuRecordFields, nf.2.sz = 1 ∧ nf.2.off < 16 := by decide

theorem printMenuRecord_lines {e : MenuEntry} (h : Words p off e.words) :
    (printMenuRecord p off).lines = e.lines off := by
  obtain ⟨hw, -⟩ := words_cons h
  have htype : (mlx5Get p off MenuRecord.segmentType).toNat = e.type.toNat :=
    mlx5Get_low hw rfl rfl
  have hflags : menuRecordFields.map (fun nf =>
      Line.printf "\t%s: %d\n" [.text nf.1, getArg p off nf.2]) =
      menuRecordFields.map e.flagLine := by
    refine List.map_congr_left fun nf hnf => ?_
    obtain ⟨hsz, hoff⟩ := menuRecordFields_flag nf hnf
    rw [getArg_flag hw hsz hoff]
    rfl
  unfold printMenuRecord MenuEntry.lines
  dsimp only
  rw [htype, ← hflags]
  rfl

theorem parseMenuRecords_lines {records : Nat} {es : List MenuEntry} (i : Nat)
    (h : Words p (records + i * MenuRecord.szBytes) (es.flatMap MenuEntry.words)) :
    (parseMenuRecords p records i es.length).lines =
      menuLines (records + i * MenuRecord.szBytes) i es := by
  induction es generalizing i with
  | nil => rfl
  | cons e es ih =>
      rw [List.flatMap_cons, words_append, e.words_length] at h
      have hnext : records + i * MenuRecord.szBytes + 52 =
          records + (i + 1) * MenuRecord.szBytes := by
        unfold MenuRecord.szBytes
        omega
      rw [show 4 * 13 = 52 from rfl, hnext] at h
      unfold menuLines
      rw [List.length_cons, parseMenuRecords, Trace.lines_append, Trace.lines_append,
        printMenuRecord_lines h.1, ih (i + 1) h.2, hnext]
      rfl

/-! ## Segments -/

theorem flatMap_words_length (es : List MenuEntry) :
    (es.flatMap MenuEntry.words).length = 13 * es.length := by
  induction es with
  | nil => rfl
  | cons e es ih =>
      rw [List.flatMap_cons, List.length_append, e.words_length, ih, List.length_cons]
      omega

theorem Segment.length_lt (s : Segment) : s.length < 65536 := by
  unfold Segment.length
  cases s with
  | resource type isResource reserved index1 index2 payload fits => exact fits
  | notice reserved20 syndrome reserved40 text =>
      rw [Segment.body, List.length_cons, List.length_append, reserved40.length_eq, text.length_eq]
      decide
  | reference reserved20 segment index1 index2 numOfObj1 numOfObj2 =>
      show 4 + 1 < 65536
      decide
  | menu reserved20 records fits =>
      rw [Segment.body, List.length_cons, flatMap_words_length]
      exact fits
  | unknown type noResource noKnown body fits => exact fits

theorem parseResource_lines {length : Nat} {type : BitVec 16} {reserved index1 index2 : u32}
    {payload : List u32} (hlength : length = payload.length + 4) (hfits : length < 65536)
    (h : Words p off (header length type :: reserved :: index1 :: index2 :: payload)) :
    (parseResource p off).lines =
      [.infoMsg "\tindex1 0x%x, index2 0x%x\n" [.int index1.toNat, .int index2.toNat],
        .hexdump (bytesOf payload)] := by
  have hlen := hdrLen_header h hfits
  obtain ⟨-, h1⟩ := words_cons h
  obtain ⟨-, h2⟩ := words_cons h1
  obtain ⟨hi1, h3⟩ := words_cons h2
  obtain ⟨hi2, hpayload⟩ := words_cons h3
  -- `len - 16`, through `size_t` and `int`, is the length of the payload
  have hsize : (toInt (toSize ((getSgmntHdr p off).len - ResourceSegment.szBytes))).toNat =
      4 * payload.length := by
    rw [hlen]
    unfold ResourceSegment.szBytes toInt toSize
    omega
  unfold parseResource hexdump
  rw [Trace.lines_append]
  dsimp only
  rw [getArg_whole (f := ResourceSegment.index1) hi1 rfl,
    getArg_whole (f := ResourceSegment.index2) hi2 rfl, hsize]
  exact congrArg (fun b => _ :: [Line.hexdump b]) hpayload

/-- The body that notices and errors share. -/
theorem text_words {length : Nat} {type : BitVec 16} {reserved20 syndrome : BitVec 16}
    {reserved40 : Dwords 2} {text : Dwords 8}
    (h : Words p off (header length type :: (reserved20 ++ syndrome) ::
      (reserved40.words ++ text.words))) :
    word32 p (off + 4) = reserved20 ++ syndrome ∧ load p (off + 16) 32 = bytesOf text.words := by
  obtain ⟨-, h1⟩ := words_cons h
  obtain ⟨hsyn, h2⟩ := words_cons h1
  obtain ⟨-, htext⟩ := words_append.mp h2
  unfold Words at htext
  rw [reserved40.length_eq, text.length_eq] at htext
  exact ⟨hsyn, htext⟩

theorem parseReferenceSegment_lines {length : Nat} {type reserved20 segment : BitVec 16}
    {index1 index2 : u32} {numOfObj1 numOfObj2 : BitVec 16}
    (h : Words p off (header length type :: [reserved20 ++ segment, index1, index2,
      numOfObj1 ++ numOfObj2])) :
    (parseReferenceSegment p off).lines = [.printf
      "\treference_segment: 0x%x, index1 0x%x, index2 0x%x, num_of_obj1 %d, num_of_obj2 %d\n"
      [.int segment.toNat, .int index1.toNat, .int index2.toNat, .int numOfObj1.toNat,
        .int numOfObj2.toNat]] := by
  obtain ⟨-, h1⟩ := words_cons h
  obtain ⟨hseg, h2⟩ := words_cons h1
  obtain ⟨hi1, h3⟩ := words_cons h2
  obtain ⟨hi2, h4⟩ := words_cons h3
  obtain ⟨hobj, -⟩ := words_cons h4
  unfold parseReferenceSegment printFields
  dsimp only [List.map]
  rw [getArg_low (f := ReferenceSegment.referenceSegment) hseg rfl rfl,
    getArg_whole (f := ReferenceSegment.index1) hi1 rfl,
    getArg_whole (f := ReferenceSegment.index2) hi2 rfl,
    getArg_high (f := ReferenceSegment.numOfObj1) hobj rfl rfl,
    getArg_low (f := ReferenceSegment.numOfObj2) hobj rfl rfl]

theorem parseMenuSegment_lines {length : Nat} {type reserved20 : BitVec 16}
    {records : List MenuEntry} (hfits : records.length < 65536)
    (h : Words p off (header length type :: (reserved20 ++ BitVec.ofNat 16 records.length) ::
      records.flatMap MenuEntry.words)) :
    (parseMenuSegment p off).lines =
      .infoMsg "Resource dump menu size %d num of records %d\n" [.int 0, .int records.length] ::
        menuLines (off + 8) 0 records := by
  obtain ⟨-, h1⟩ := words_cons h
  obtain ⟨hnum, hrecords⟩ := words_cons h1
  have hcount : (mlx5Get p off MenuSegment.numOfRecords).toNat = records.length := by
    rw [mlx5Get_low (f := MenuSegment.numOfRecords) hnum rfl rfl, BitVec.toNat_ofNat]
    omega
  have hbase : off + MenuSegment.record + 0 * MenuRecord.szBytes = off + 8 := by
    rw [Nat.zero_mul]
    rfl
  rw [show off + 4 + 4 = off + MenuSegment.record + 0 * MenuRecord.szBytes from hbase.symm]
    at hrecords
  have hlines := parseMenuRecords_lines 0 hrecords
  rw [hbase] at hlines
  unfold parseMenuSegment
  dsimp only
  rw [Trace.lines_append, hcount, hlines]
  rfl

theorem parseBody_lines {s : Segment} (h : Words p off s.words) :
    (parseBody p off).lines = s.bodyLines off := by
  have htype : (getSgmntHdr p off).segmentType = s.type.toNat := segmentType_header h
  have hlt := s.length_lt
  unfold parseBody
  dsimp only
  rw [htype]
  cases s with
  | resource type isResource reserved index1 index2 payload fits =>
      have hne : ∀ n, 0xfeff < n → type.toNat ≠ n := fun n hn he => by omega
      rw [Segment.type, if_neg (hne _ (by decide)), if_neg (hne _ (by decide)),
        if_neg (hne _ (by decide)), if_neg (hne _ (by decide)), if_neg (hne _ (by decide)),
        if_neg (Nat.not_lt.mpr isResource)]
      exact parseResource_lines rfl hlt h
  | notice reserved20 syndrome reserved40 text =>
      obtain ⟨hsyn, htext⟩ := text_words h
      rw [Segment.type, if_neg (by decide), if_neg (by decide), if_pos (by decide)]
      unfold parseNoticeSegment
      dsimp only
      rw [getArg_low (f := NoticeSegment.syndromeId) hsyn rfl rfl]
      exact congrArg (fun b => [Line.printf _ [_, cString b]]) htext
  | reference reserved20 segment index1 index2 numOfObj1 numOfObj2 =>
      rw [Segment.type, if_neg (by decide), if_neg (by decide), if_neg (by decide),
        if_pos (by decide)]
      exact parseReferenceSegment_lines h
  | menu reserved20 records fits =>
      rw [Segment.type, if_neg (by decide), if_neg (by decide), if_neg (by decide),
        if_neg (by decide), if_pos (by decide)]
      exact parseMenuSegment_lines (by omega) h
  | unknown type noResource noKnown body fits =>
      simp only [List.mem_cons, List.not_mem_nil, or_false, not_or] at noKnown
      obtain ⟨hnotice, hterminate, herror, hreference, hmenu⟩ := noKnown
      rw [Segment.type, if_neg hterminate, if_neg herror, if_neg hnotice, if_neg hreference,
        if_neg hmenu, if_pos noResource]
      rfl

/-- The words of a segment are decoded to what the format says of it. -/
theorem segmentTrace_lines {s : Segment} (h : Words p off s.words) :
    (segmentTrace p off).lines = s.lines off := by
  unfold segmentTrace parseSegment
  dsimp only
  rw [Trace.lines_append, Trace.lines_append, printSgmtHeader_lines h s.length_lt,
    parseBody_lines h]
  rfl

theorem segment_not_last {s : Segment} (h : Words p off s.words) : ¬ Last p off := by
  unfold Last
  rw [segmentType_header h]
  cases s with
  | resource type isResource reserved index1 index2 payload fits =>
      have hne : ∀ n, 0xfeff < n → type.toNat ≠ n := fun n hn he => by omega
      exact fun hl => hl.elim (hne _ (by decide)) (hne _ (by decide))
  | notice reserved20 syndrome reserved40 text =>
      rw [Segment.type]
      decide
  | reference reserved20 segment index1 index2 numOfObj1 numOfObj2 =>
      rw [Segment.type]
      decide
  | menu reserved20 records fits =>
      rw [Segment.type]
      decide
  | unknown type noResource noKnown body fits =>
      simp only [List.mem_cons, List.not_mem_nil, or_false, not_or] at noKnown
      exact fun hl => hl.elim noKnown.2.1 noKnown.2.2.1

theorem segment_nextOff {s : Segment} (h : Words p off s.words) :
    nextOff p off = off + 4 * s.length := by
  unfold nextOff
  rw [lengthDw_header h s.length_lt]

theorem final_last {f : Final} (h : Words p off f.words) : Last p off := by
  unfold Last
  rw [segmentType_header h]
  cases f with
  | terminate => exact Or.inl rfl
  | error reserved20 syndrome reserved40 text => exact Or.inr rfl

theorem finalTrace_lines {f : Final} (h : Words p off f.words) :
    (segmentTrace p off).lines = f.lines := by
  have hlen : f.length < 65536 := by
    cases f with
    | terminate => decide
    | error reserved20 syndrome reserved40 text =>
        rw [Final.length, Final.body, List.length_cons, List.length_append, reserved40.length_eq,
          text.length_eq]
        decide
  have htype : (getSgmntHdr p off).segmentType = f.type.toNat := segmentType_header h
  unfold segmentTrace parseSegment
  dsimp only
  rw [Trace.lines_append, Trace.lines_append, printSgmtHeader_lines h hlen]
  unfold parseBody
  dsimp only
  rw [htype]
  cases f with
  | terminate => rfl
  | error reserved20 syndrome reserved40 text =>
      obtain ⟨hsyn, htext⟩ := text_words h
      rw [Final.type, if_neg (by decide), if_pos (by decide)]
      unfold parseErrSegment Final.lines
      dsimp only
      rw [getArg_low (f := ErrorSegment.syndromeId) hsyn rfl rfl]
      exact congrArg (fun b => [_, Line.printf _ [_, cString b]]) htext

/-! ## The walk -/

/-- The walk over the segments from its offset on, to the one that ends the dump. -/
theorem run_decodes (size : Int) (segs : List Segment) (final : Final) (w : Walk)
    (h : Words p w.off (segs.flatMap Segment.words ++ final.words))
    (hsize : ((w.off + 4 * (segs.flatMap Segment.words ++ final.words).length : Nat) : Int) ≤
      size) :
    ∃ r, run (walkTurn p size) (segs.length + 1) w = .exit r ∧
      r.visited = w.visited ++ offsets w.off segs ∧
      r.trace.lines = w.trace.lines ++ segmentLines w.off segs ++ final.lines := by
  induction segs generalizing w with
  | nil =>
      refine ⟨⟨w.off, w.visited ++ [w.off], w.trace ++ segmentTrace p w.off⟩, ?_, rfl, ?_⟩
      · rw [List.length_nil, Nat.zero_add, run_succ, walkTurn_last p size (final_last h)]
        rfl
      · dsimp only
        rw [Trace.lines_append, finalTrace_lines h, segmentLines, List.append_nil]
  | cons s ss ih =>
      rw [List.flatMap_cons, List.append_assoc] at h hsize
      obtain ⟨hseg, hrest⟩ := words_append.mp h
      have hnext := segment_nextOff hseg
      have hlen : s.words.length = s.length := rfl
      rw [List.length_append, hlen] at hsize
      rw [hlen, ← hnext] at hrest
      have hpos : 0 < (ss.flatMap Segment.words ++ final.words).length := by
        rw [List.length_append]
        exact Nat.add_pos_right _ (Nat.succ_pos _)
      obtain ⟨r, hr, hvisited, hlines⟩ := ih
        ⟨nextOff p w.off, w.visited ++ [w.off], w.trace ++ segmentTrace p w.off ++ lengthRead w.off⟩
        hrest (by dsimp only; rw [hnext]; omega)
      refine ⟨r, ?_, ?_, ?_⟩
      · rw [List.length_cons, run_succ, walkTurn_next p size (segment_not_last hseg)
          (by rw [hnext]; omega), bind_again, hr]
      · rw [hvisited, offsets, hnext, List.append_assoc]
        rfl
      · rw [hlines, segmentLines, Trace.lines_append, Trace.lines_append, segmentTrace_lines hseg,
          hnext]
        simp [lengthRead]

theorem infoFields_lines {i : Info} (h : Words p off i.words) :
    (printFields p off "\tdump_version %d, hw_version %d, fw_version 0%x\n"
      [InfoSegment.dumpVersion, InfoSegment.hwVersion, InfoSegment.fwVersion]).lines =
      [.printf "\tdump_version %d, hw_version %d, fw_version 0%x\n"
        [.int i.dumpVersion.toNat, .int i.hwVersion.toNat, .int i.fwVersion.toNat]] := by
  obtain ⟨-, h1⟩ := words_cons h
  obtain ⟨hversion, h2⟩ := words_cons h1
  obtain ⟨hhw, h3⟩ := words_cons h2
  obtain ⟨hfw, -⟩ := words_cons h3
  have hdump : getArg p off InfoSegment.dumpVersion = .int i.dumpVersion.toNat := by
    have happ : (i.reserved ++ i.dumpVersion : u32).toNat =
        i.reserved.toNat * 2 ^ 8 + i.dumpVersion.toNat := toNat_append _ _
    have hlow := i.dumpVersion.isLt
    unfold getArg
    rw [mlx5Get_word, show off + 4 * InfoSegment.dumpVersion.dwOff = off + 4 from rfl, hversion,
      Field.toNat_of, happ,
      show 32 - InfoSegment.dumpVersion.sz - InfoSegment.dumpVersion.off % 32 = 0 from rfl,
      show InfoSegment.dumpVersion.sz = 8 from rfl]
    congr 1
    omega
  unfold printFields
  dsimp only [List.map]
  rw [hdump, getArg_whole (f := InfoSegment.hwVersion) hhw rfl,
    getArg_whole (f := InfoSegment.fwVersion) hfw rfl]

theorem cmdFields_lines {c : Cmd} (h : Words p off c.words) (fmt : String) :
    (printFields p off fmt
      [CommandSegment.segmentCalled, CommandSegment.vhcaId, CommandSegment.index1,
        CommandSegment.index2, CommandSegment.numOfObj1, CommandSegment.numOfObj2]).lines =
      [.printf fmt [.int c.segmentCalled.toNat, .int c.vhcaId.toNat, .int c.index1.toNat,
        .int c.index2.toNat, .int c.numOfObj1.toNat, .int c.numOfObj2.toNat]] := by
  obtain ⟨-, h1⟩ := words_cons h
  obtain ⟨hcalled, h2⟩ := words_cons h1
  obtain ⟨hi1, h3⟩ := words_cons h2
  obtain ⟨hi2, h4⟩ := words_cons h3
  obtain ⟨hobj, -⟩ := words_cons h4
  unfold printFields
  dsimp only [List.map]
  rw [getArg_high (f := CommandSegment.segmentCalled) hcalled rfl rfl,
    getArg_low (f := CommandSegment.vhcaId) hcalled rfl rfl,
    getArg_whole (f := CommandSegment.index1) hi1 rfl,
    getArg_whole (f := CommandSegment.index2) hi2 rfl,
    getArg_high (f := CommandSegment.numOfObj1) hobj rfl rfl,
    getArg_low (f := CommandSegment.numOfObj2) hobj rfl rfl]

theorem parsePrefix_lines {d : Dump} {size : Nat} (hinfo : Words p 0 d.info.words)
    (hcmd : Words p 16 d.cmd.words) : (parsePrefix p size).lines = d.prefixLines size := by
  unfold parsePrefix Response.info Response.cmd
  simp only [Trace.lines_append]
  rw [printSgmtHeader_lines hinfo (by decide), printSgmtHeader_lines hcmd (by decide),
    infoFields_lines hinfo, cmdFields_lines hcmd]
  rfl

theorem Dump.words_length (d : Dump) :
    d.words.length = 9 + (d.segments.flatMap Segment.words ++ d.final.words).length := by
  unfold Dump.words
  rw [List.length_append, List.length_append]
  show 4 + (5 + _) = _
  omega

/-- The walk over a buffer that starts with the words of a dump. -/
theorem dump_decoded {d : Dump} {size : Nat} (hwords : Words p 0 d.words)
    (hlen : 4 * d.words.length ≤ size) (hsize : size < 2147483648) :
    ∃ r, parseResourceDump p size (d.segments.length + 1) = .exit r ∧
      r.visited = offsets 36 d.segments ∧
      r.trace.lines = d.prefixLines size ++ segmentLines 36 d.segments ++ d.final.lines := by
  obtain ⟨hinfo, hbehind⟩ := words_append.mp hwords
  obtain ⟨hcmd, hsegs⟩ := words_append.mp hbehind
  have hfinal : 0 < (d.segments.flatMap Segment.words ++ d.final.words).length := by
    rw [List.length_append]
    exact Nat.add_pos_right _ (Nat.succ_pos _)
  rw [d.words_length] at hlen
  have hstart : Response.szBytes + TerminateSegment.szBytes ≤ toSize (size : Int) := by
    unfold Response.szBytes TerminateSegment.szBytes toSize
    omega
  obtain ⟨r, hr, hvisited, hlines⟩ := run_decodes size d.segments d.final
    ⟨Response.segment, [], parsePrefix p size⟩ hsegs (by
      show ((36 + _ : Nat) : Int) ≤ size
      omega)
  refine ⟨r, ?_, hvisited, ?_⟩
  · unfold parseResourceDump
    rw [walkStart_of_le p size hstart, bind_again, hr]
  · rw [hlines, parsePrefix_lines hinfo hcmd]
    rfl

/-- **The walk decodes what a dump encodes.** For every dump, serialised and followed by any
    bytes, with a size below 2^31, `parse_resource_dump` visits each segment once, in order, up
    to and with the one that ends the dump, says of each what the format says, and reports no
    overflow. -/
theorem parse_decodes (d : Dump) (trailing : List u8) (rest : Mem)
    (hsize : (bytesOf d.words ++ trailing).length < 2147483648) :
    ∃ r, parseResourceDump (overlay (bytesOf d.words ++ trailing) rest)
        (bytesOf d.words ++ trailing).length (d.segments.length + 1) = .exit r ∧
      r.visited = offsets 36 d.segments ∧
      r.trace.lines = d.prefixLines (bytesOf d.words ++ trailing).length ++
        segmentLines 36 d.segments ++ d.final.lines ∧
      NoErrMsg r.trace.lines := by
  have hlen : 4 * d.words.length ≤ (bytesOf d.words ++ trailing).length := by
    rw [List.length_append, bytesOf_length]
    exact Nat.le_add_right _ _
  obtain ⟨r, hr, hvisited, hlines⟩ :=
    dump_decoded (words_overlay d.words trailing rest) hlen hsize
  refine ⟨r, hr, hvisited, hlines, ?_⟩
  rw [hlines]
  exact noErrMsg_append (noErrMsg_append (d.prefix_noErrMsg _)
    (segmentLines_noErrMsg 36 d.segments)) d.final.noErrMsg

/-- A dump with one resource. -/
def oneResource : Dump where
  info := ⟨0, 1, 2, 3⟩
  cmd := ⟨0x1000, 0, 0, 0, 0, 0⟩
  segments := [.resource 0x1000 (by decide) 0 5 6 [0x11223344] (by decide)]
  final := .terminate

theorem oneResource_decoded : ∃ r,
    parseResourceDump (overlay (bytesOf oneResource.words ++ [0xff]) zeroMem) 61 2 = .exit r ∧
      r.visited = [36, 56] ∧ .hexdump [0x11, 0x22, 0x33, 0x44] ∈ r.trace.lines := by
  obtain ⟨r, hr, hvisited, hlines, -⟩ := parse_decodes oneResource [0xff] zeroMem (by decide)
  exact ⟨r, hr, hvisited, by rw [hlines]; decide⟩

end Mlx5ctl.RscDump
