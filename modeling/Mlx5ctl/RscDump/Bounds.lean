/-
  What the segment walk reads.

  The parser checks that a segment starts inside the data, not that it ends there, and it trusts
  the record count of a menu and the length of a resource. `SegmentFits` is what the segment at
  an offset needs to be read inside the data, by its type; `segmentTrace_within` shows that it
  is exactly that, and `walk_within_iff` puts it together over the chain of segments. Where it
  reads inside the data, the walk depends on nothing else (`Agree.walk`).
-/
import Mlx5ctl.RscDump.Walk

namespace Mlx5ctl.RscDump

open ByteMem CInt Ifc Turn

variable (p : Mem) (size : Int)

/-! ## Traces -/

/-- The trace reads inside the data only. -/
def Trace.Within (t : Trace) : Prop := ∀ a ∈ t.reads, a.Within p size

theorem Trace.within_append (a b : Trace) :
    (a ++ b).Within p size ↔ a.Within p size ∧ b.Within p size := by
  unfold Trace.Within
  rw [Trace.reads_append]
  exact List.forall_mem_append

theorem Trace.within_nil (lines : List Line) : (⟨lines, []⟩ : Trace).Within p size :=
  fun _ ha => absurd ha List.not_mem_nil

theorem hdr_within (off : Nat) :
    (printSgmtHeader p off).Within p size ↔ ((off + 4 : Nat) : Int) ≤ size := by
  unfold Trace.Within printSgmtHeader sgmntHdrReads
  dsimp only
  rw [List.forall_mem_cons, List.forall_mem_singleton, dword_within, dword_within]
  have htype : SegmentHeader.segmentType.dwOff = 0 := rfl
  have hlen : SegmentHeader.lengthDw.dwOff = 0 := rfl
  rw [htype, hlen]
  omega

theorem printFields_within (base : Nat) (fmt : String) (fields : List Field) :
    (printFields p base fmt fields).Within p size ↔
      ∀ f ∈ fields, ((base + 4 * f.dwOff + 4 : Nat) : Int) ≤ size := by
  unfold Trace.Within printFields
  dsimp only
  rw [List.forall_mem_map]
  exact forall₂_congr fun f _ => dword_within p size

/-! ## Menus -/

/-- A string at `off` ends inside the data. -/
def EndsInside (off : Nat) : Prop := ∃ k, off ≤ k ∧ (k : Int) < size ∧ p k = 0

/-- The flags of the record are inside the data, and its three names end there. -/
def RecordFits (record : Nat) : Prop :=
  ((record + 4 : Nat) : Int) ≤ size ∧
  EndsInside p size (record + MenuRecord.segmentName) ∧
  EndsInside p size (record + MenuRecord.index1Name) ∧
  EndsInside p size (record + MenuRecord.index2Name)

theorem menuRecordFields_dwOff : ∀ nf ∈ menuRecordFields, nf.2.dwOff = 0 := by decide

theorem printMenuRecord_within (record : Nat) :
    (printMenuRecord p record).Within p size ↔ RecordFits p size record := by
  have htype : MenuRecord.segmentType.dwOff = 0 := rfl
  unfold Trace.Within printMenuRecord RecordFits EndsInside
  dsimp only
  rw [List.forall_mem_append, List.forall_mem_append, List.forall_mem_singleton, dword_within,
    htype, List.forall_mem_cons, List.forall_mem_cons, List.forall_mem_singleton,
    Access.within_cstr, Access.within_cstr, Access.within_cstr]
  constructor
  · rintro ⟨⟨hflags, -⟩, hnames⟩
    exact ⟨hflags, hnames⟩
  · rintro ⟨hflags, hnames⟩
    refine ⟨⟨hflags, ?_⟩, hnames⟩
    rw [List.forall_mem_map]
    intro nf hnf
    rw [dword_within, menuRecordFields_dwOff nf hnf]
    exact hflags

theorem parseMenuRecords_within (records i n : Nat) :
    (parseMenuRecords p records i n).Within p size ↔
      ∀ j, i ≤ j → j < i + n → RecordFits p size (records + j * MenuRecord.szBytes) := by
  induction n generalizing i with
  | zero => exact iff_of_true (Trace.within_nil p size []) (fun j h h' => by omega)
  | succ n ih =>
      unfold parseMenuRecords
      rw [Trace.within_append, Trace.within_append, printMenuRecord_within, ih]
      constructor
      · rintro ⟨⟨-, hfirst⟩, hrest⟩ j hij hjn
        rcases Nat.eq_or_lt_of_le hij with rfl | hlt
        · exact hfirst
        · exact hrest j hlt (by omega)
      · intro h
        exact ⟨⟨Trace.within_nil p size _, h i (Nat.le_refl i) (by omega)⟩,
          fun j hij hjn => h j (by omega) (by omega)⟩

/-- The record count and every record it announces are inside the data. -/
def MenuFits (off : Nat) : Prop :=
  ((off + 8 : Nat) : Int) ≤ size ∧
  ∀ i < (mlx5Get p off MenuSegment.numOfRecords).toNat,
    RecordFits p size (off + MenuSegment.record + i * MenuRecord.szBytes)

theorem parseMenuSegment_within (off : Nat) :
    (parseMenuSegment p off).Within p size ↔ MenuFits p size off := by
  have hnum : MenuSegment.numOfRecords.dwOff = 1 := rfl
  unfold parseMenuSegment MenuFits
  dsimp only
  rw [Trace.within_append, parseMenuRecords_within]
  unfold Trace.Within
  rw [List.forall_mem_singleton, dword_within, hnum, Nat.zero_add]
  exact and_congr_right fun _ =>
    ⟨fun h i hi => h i (Nat.zero_le i) hi, fun h i _ hi => h i hi⟩

/-! ## Segments -/

/-- The header of the segment and what its type reads are inside the data. -/
def SegmentFits (off : Nat) : Prop :=
  ((off + 4 : Nat) : Int) ≤ size ∧
  if segmentType p off = MLX5_RSC_SGMT_TYPE_TERMINATE then True
  else if segmentType p off = MLX5_RSC_SGMT_TYPE_ERROR then ((off + 48 : Nat) : Int) ≤ size
  else if segmentType p off = MLX5_RSC_SGMT_TYPE_NOTICE then ((off + 48 : Nat) : Int) ≤ size
  else if segmentType p off = MLX5_RSC_SGMT_TYPE_REFERENCE then ((off + 20 : Nat) : Int) ≤ size
  else if segmentType p off = MLX5_RSC_SGMT_TYPE_MENU then MenuFits p size off
  else if segmentType p off > 0xfeff then True
  else ((off + 16 : Nat) : Int) ≤ size ∧ (nextOff p off : Int) ≤ size

theorem parseErrSegment_within (off : Nat) :
    (parseErrSegment p off).Within p size ↔ ((off + 48 : Nat) : Int) ≤ size := by
  have hsyn : ErrorSegment.syndromeId.dwOff = 1 := rfl
  unfold Trace.Within parseErrSegment
  dsimp only
  rw [List.forall_mem_cons, List.forall_mem_singleton, dword_within, Access.within_bytes, hsyn]
  unfold ErrorSegment.error ErrorSegment.errorBytes
  omega

theorem parseNoticeSegment_within (off : Nat) :
    (parseNoticeSegment p off).Within p size ↔ ((off + 48 : Nat) : Int) ≤ size := by
  have hsyn : NoticeSegment.syndromeId.dwOff = 1 := rfl
  unfold Trace.Within parseNoticeSegment
  dsimp only
  rw [List.forall_mem_cons, List.forall_mem_singleton, dword_within, Access.within_bytes, hsyn]
  unfold NoticeSegment.notice NoticeSegment.noticeBytes
  omega

theorem parseReferenceSegment_within (off : Nat) :
    (parseReferenceSegment p off).Within p size ↔ ((off + 20 : Nat) : Int) ≤ size := by
  have h1 : ReferenceSegment.referenceSegment.dwOff = 1 := rfl
  have h2 : ReferenceSegment.index1.dwOff = 2 := rfl
  have h3 : ReferenceSegment.index2.dwOff = 3 := rfl
  have h4 : ReferenceSegment.numOfObj1.dwOff = 4 := rfl
  have h5 : ReferenceSegment.numOfObj2.dwOff = 4 := rfl
  unfold parseReferenceSegment
  rw [printFields_within]
  simp only [List.forall_mem_cons, List.not_mem_nil, IsEmpty.forall_iff, implies_true, and_true,
    h1, h2, h3, h4, h5]
  omega

/-- The payload that is dumped ends where the segment does. -/
theorem payload_size (off : Nat) :
    (toInt (toSize ((getSgmntHdr p off).len - ResourceSegment.szBytes))).toNat =
      4 * lengthDw p off - 16 := by
  have hlt := lengthDw_lt p off
  have hlen : (getSgmntHdr p off).len = toU32 (lengthDw p off * 4) := rfl
  rw [hlen]
  unfold ResourceSegment.szBytes toU32 toInt toSize
  omega

theorem parseResource_within (off : Nat) :
    (parseResource p off).Within p size ↔
      ((off + 16 : Nat) : Int) ≤ size ∧ (nextOff p off : Int) ≤ size := by
  have h1 : ResourceSegment.index1.dwOff = 2 := rfl
  have h2 : ResourceSegment.index2.dwOff = 3 := rfl
  unfold parseResource
  rw [Trace.within_append, hexdump]
  unfold Trace.Within
  dsimp only
  rw [List.forall_mem_cons, List.forall_mem_singleton, List.forall_mem_singleton, dword_within,
    dword_within, Access.within_bytes, h1, h2, payload_size]
  unfold ResourceSegment.payload nextOff
  omega

theorem segmentTrace_within (off : Nat) :
    (segmentTrace p off).Within p size ↔ SegmentFits p size off := by
  have hreads : (⟨[], sgmntHdrReads off⟩ : Trace).Within p size ↔ ((off + 4 : Nat) : Int) ≤ size :=
    hdr_within p size off
  unfold segmentTrace parseSegment SegmentFits
  dsimp only
  rw [Trace.within_append, Trace.within_append, hreads, hdr_within, and_self]
  refine and_congr_right fun _ => ?_
  unfold parseBody
  dsimp only
  rw [show (getSgmntHdr p off).segmentType = segmentType p off from rfl]
  split_ifs
  · exact iff_of_true (Trace.within_nil p size _) trivial
  · exact parseErrSegment_within p size off
  · exact parseNoticeSegment_within p size off
  · exact parseReferenceSegment_within p size off
  · exact parseMenuSegment_within p size off
  · exact iff_of_true (Trace.within_nil p size _) trivial
  · exact parseResource_within p size off

/-! ## The walk -/

theorem parsePrefix_within : (parsePrefix p size).Within p size ↔ 36 ≤ size := by
  have h1 : InfoSegment.dumpVersion.dwOff = 1 := rfl
  have h2 : InfoSegment.hwVersion.dwOff = 2 := rfl
  have h3 : InfoSegment.fwVersion.dwOff = 3 := rfl
  have h4 : CommandSegment.segmentCalled.dwOff = 1 := rfl
  have h5 : CommandSegment.vhcaId.dwOff = 1 := rfl
  have h6 : CommandSegment.index1.dwOff = 2 := rfl
  have h7 : CommandSegment.index2.dwOff = 3 := rfl
  have h8 : CommandSegment.numOfObj1.dwOff = 4 := rfl
  have h9 : CommandSegment.numOfObj2.dwOff = 4 := rfl
  unfold parsePrefix Response.info Response.cmd
  simp only [Trace.within_append, Trace.within_nil, hdr_within, printFields_within,
    List.forall_mem_cons, List.not_mem_nil, IsEmpty.forall_iff, implies_true, and_true, true_and,
    h1, h2, h3, h4, h5, h6, h7, h8, h9]
  omega

/-- What the walk has read so far is inside the data. -/
def ReadsWithin : Turn Walk Walk → Prop :=
  Post (fun s => s.trace.Within p size) (fun s => s.trace.Within p size)

/-- The turn at an offset reads what the segment there needs. -/
theorem walkTurn_within {s : Walk} (h : s.trace.Within p size) :
    ReadsWithin p size (walkTurn p size s) ↔ SegmentFits p size s.off := by
  have hlen : (lengthRead s.off).Within p size ↔ ((s.off + 4 : Nat) : Int) ≤ size := by
    unfold lengthRead Trace.Within
    rw [List.forall_mem_singleton, dword_within, show SegmentHeader.lengthDw.dwOff = 0 from rfl,
      Nat.mul_zero, Nat.add_zero]
  have hmsg : (overflowMsg size (nextOff p s.off)).Within p size := Trace.within_nil p size _
  have hhdr : SegmentFits p size s.off → ((s.off + 4 : Nat) : Int) ≤ size := And.left
  unfold ReadsWithin
  by_cases hlast : Last p s.off
  · rw [walkTurn_last p size hlast]
    simp only [Post, Trace.within_append, segmentTrace_within, h, true_and]
  · rcases Decidable.em ((nextOff p s.off : Int) < size) with hlt | hge
    · rw [walkTurn_next p size hlast hlt]
      simp only [Post, Trace.within_append, segmentTrace_within, hlen, h, true_and]
      exact ⟨And.left, fun hfits => ⟨hfits, hhdr hfits⟩⟩
    · rw [walkTurn_overflow p size hlast (Int.not_lt.mp hge)]
      simp only [Post, Trace.within_append, segmentTrace_within, hlen, hmsg, h, true_and, and_true]
      exact ⟨And.left, fun hfits => ⟨hfits, hhdr hfits⟩⟩

theorem walkStart_within : ReadsWithin p size (walkStart p size) ↔ 36 ≤ size := by
  unfold walkStart ReadsWithin
  split_ifs
  · exact parsePrefix_within p size
  · exact parsePrefix_within p size

theorem parsePrefix_run_within :
    ReadsWithin p size (parseResourceDump p size 0) ↔ 36 ≤ size := by
  rw [← walkStart_within p]
  unfold parseResourceDump
  cases walkStart p size with
  | exit r => exact Iff.rfl
  | again s => exact Iff.rfl

/-- **Reads of the walk.** For every buffer and every size, `parse_resource_dump` reads inside
    the data exactly when the data has the info and command segments and everything the segments
    of the chain need by their type. -/
theorem walk_within_iff :
    (∀ n, ReadsWithin p size (parseResourceDump p size n)) ↔
      36 ≤ size ∧ ∀ off, Reached p size off → SegmentFits p size off := by
  constructor
  · intro h
    refine ⟨(parsePrefix_run_within p size).mp (h 0), fun off hoff => ?_⟩
    obtain ⟨n, s, hs, rfl⟩ := reached_walk p size hoff
    have hn := h n
    have hturn := h (n + 1)
    rw [hs] at hn
    rw [parseResourceDump_succ, hs, bind_again] at hturn
    exact (walkTurn_within p size hn).mp hturn
  · rintro ⟨hsize, hfits⟩ n
    induction n with
    | zero => exact (parsePrefix_run_within p size).mpr hsize
    | succ n ih =>
        rw [parseResourceDump_succ]
        cases hs : parseResourceDump p size n with
        | exit r => rwa [hs] at ih
        | again s =>
            rw [hs] at ih
            exact (walkTurn_within p size ih).mpr (hfits s.off (walk_reached p size hs))

/-! ## Two buffers with the same data -/

variable {p size} {q : Mem}

/-- The buffers have the same data. -/
def Agree (p q : Mem) (size : Int) : Prop := ∀ k : Nat, (k : Int) < size → p k = q k

theorem Agree.of_load (h : load p 0 size.toNat = load q 0 size.toNat) : Agree p q size := by
  intro k hk
  have hbyte := List.map_inj_left.mp h k (List.mem_range.mpr (by omega))
  simpa using hbyte

theorem Agree.get (h : Agree p q size) {f : Field} {base : Nat}
    (hf : ((base + 4 * f.dwOff + 4 : Nat) : Int) ≤ size) : mlx5Get p base f = mlx5Get q base f := by
  rw [mlx5Get_word, mlx5Get_word]
  congr 1
  unfold word32
  rw [h _ (by omega), h _ (by omega), h _ (by omega), h _ (by omega)]

theorem Agree.arg (h : Agree p q size) {f : Field} {base : Nat}
    (hf : ((base + 4 * f.dwOff + 4 : Nat) : Int) ≤ size) : getArg p base f = getArg q base f := by
  unfold getArg
  rw [h.get hf]

theorem Agree.bytes (h : Agree p q size) {a n : Nat} (hn : n = 0 ∨ ((a + n : Nat) : Int) ≤ size) :
    load p a n = load q a n :=
  load_congr fun k hk => h _ (by omega)

theorem Agree.header (h : Agree p q size) {off : Nat} (hoff : ((off + 4 : Nat) : Int) ≤ size) :
    getSgmntHdr p off = getSgmntHdr q off := by
  have htype : SegmentHeader.segmentType.dwOff = 0 := rfl
  have hlen : SegmentHeader.lengthDw.dwOff = 0 := rfl
  unfold getSgmntHdr
  rw [h.get (by rw [htype]; omega), h.get (f := SegmentHeader.lengthDw) (by rw [hlen]; omega)]

theorem Agree.fields (h : Agree p q size) {base : Nat} {fmt : String} {fields : List Field}
    (hf : ∀ f ∈ fields, ((base + 4 * f.dwOff + 4 : Nat) : Int) ≤ size) :
    printFields p base fmt fields = printFields q base fmt fields := by
  unfold printFields
  rw [List.map_congr_left fun f hmem => h.arg (hf f hmem)]

theorem Agree.record (h : Agree p q size) {record : Nat}
    (hr : ((record + 4 : Nat) : Int) ≤ size) :
    printMenuRecord p record = printMenuRecord q record := by
  have htype : MenuRecord.segmentType.dwOff = 0 := rfl
  unfold printMenuRecord
  have hfields : menuRecordFields.map (fun nf : String × Field =>
        Line.printf "\t%s: %d\n" [.text nf.1, getArg p record nf.2]) =
      menuRecordFields.map (fun nf : String × Field =>
        Line.printf "\t%s: %d\n" [.text nf.1, getArg q record nf.2]) := by
    refine List.map_congr_left fun nf hnf => ?_
    rw [h.arg (by rw [menuRecordFields_dwOff nf hnf]; omega)]
  rw [hfields, h.get (by rw [htype]; omega)]

theorem Agree.records (h : Agree p q size) {records : Nat} (i n : Nat)
    (hr : ∀ j, i ≤ j → j < i + n → RecordFits p size (records + j * MenuRecord.szBytes)) :
    parseMenuRecords p records i n = parseMenuRecords q records i n := by
  induction n generalizing i with
  | zero => rfl
  | succ n ih =>
      unfold parseMenuRecords
      rw [h.record (hr i (Nat.le_refl i) (by omega)).1,
        ih (i + 1) fun j hij hjn => hr j (by omega) (by omega)]

theorem Agree.menu (h : Agree p q size) {off : Nat} (hm : MenuFits p size off) :
    parseMenuSegment p off = parseMenuSegment q off := by
  have hnum : MenuSegment.numOfRecords.dwOff = 1 := rfl
  have hcount : mlx5Get p off MenuSegment.numOfRecords = mlx5Get q off MenuSegment.numOfRecords :=
    h.get (by rw [hnum]; exact hm.1)
  unfold parseMenuSegment
  dsimp only
  rw [← hcount, h.records 0 _ fun j _ hj => hm.2 j (by omega)]

theorem Agree.resource (h : Agree p q size) {off : Nat} (hoff : ((off + 16 : Nat) : Int) ≤ size)
    (hend : (nextOff p off : Int) ≤ size) : parseResource p off = parseResource q off := by
  have h1 : ResourceSegment.index1.dwOff = 2 := rfl
  have h2 : ResourceSegment.index2.dwOff = 3 := rfl
  unfold parseResource hexdump
  have hheader : getSgmntHdr p off = getSgmntHdr q off := h.header (by omega)
  rw [← hheader, h.arg (by rw [h1]; omega),
    h.arg (f := ResourceSegment.index2) (by rw [h2]; omega), payload_size,
    h.bytes (a := off + ResourceSegment.payload) (n := 4 * lengthDw p off - 16)]
  unfold nextOff at hend
  unfold ResourceSegment.payload
  omega

/-- A segment that fits is printed and read the same way. -/
theorem Agree.segment (h : Agree p q size) {off : Nat} (hs : SegmentFits p size off) :
    parseSegment p off = parseSegment q off := by
  obtain ⟨hoff, hbody⟩ := hs
  have hheader := h.header hoff
  have htype : segmentType p off = (getSgmntHdr p off).segmentType := rfl
  have hsyn : ErrorSegment.syndromeId.dwOff = 1 := rfl
  have hsyn' : NoticeSegment.syndromeId.dwOff = 1 := rfl
  have hparse : parseBody p off = parseBody q off := by
    unfold parseBody
    rw [htype] at hbody
    dsimp only
    rw [← hheader]
    split_ifs at hbody ⊢
    · rfl
    · unfold parseErrSegment
      rw [h.arg (by rw [hsyn]; omega), h.bytes (a := off + ErrorSegment.error)]
      unfold ErrorSegment.error ErrorSegment.errorBytes
      omega
    · unfold parseNoticeSegment
      rw [h.arg (by rw [hsyn']; omega), h.bytes (a := off + NoticeSegment.notice)]
      unfold NoticeSegment.notice NoticeSegment.noticeBytes
      omega
    · unfold parseReferenceSegment
      refine h.fields fun f hf => ?_
      have hdw : f.dwOff ≤ 4 := by
        revert f
        decide
      omega
    · exact h.menu hbody
    · rfl
    · exact h.resource hbody.1 hbody.2
  unfold parseSegment printSgmtHeader
  rw [hheader, hparse]

/-- A turn at a segment that fits is the same. -/
theorem Agree.turn (h : Agree p q size) {s : Walk} (hs : SegmentFits p size s.off) :
    walkTurn p size s = walkTurn q size s := by
  have hlen : SegmentHeader.lengthDw.dwOff = 0 := rfl
  unfold walkTurn
  rw [h.segment hs, h.get (f := SegmentHeader.lengthDw) (by rw [hlen]; have := hs.1; omega)]

theorem Agree.start (h : Agree p q size) (hsize : 36 ≤ size) :
    walkStart p size = walkStart q size := by
  have hinfo : ∀ f ∈ [InfoSegment.dumpVersion, InfoSegment.hwVersion, InfoSegment.fwVersion],
      f.dwOff ≤ 3 := by decide
  have hcmd : ∀ f ∈ [CommandSegment.segmentCalled, CommandSegment.vhcaId, CommandSegment.index1,
      CommandSegment.index2, CommandSegment.numOfObj1, CommandSegment.numOfObj2],
      f.dwOff ≤ 4 := by decide
  have hinfoAt : Response.info = 0 := rfl
  have hcmdAt : Response.cmd = 16 := rfl
  have hinit : parsePrefix p size = parsePrefix q size := by
    unfold parsePrefix printSgmtHeader
    rw [show getSgmntHdr p Response.info = getSgmntHdr q Response.info from h.header (by omega),
      show getSgmntHdr p Response.cmd = getSgmntHdr q Response.cmd from h.header (by omega),
      h.fields fun f hf => by
        have := hinfo f hf
        omega,
      h.fields fun f hf => by
        have := hcmd f hf
        omega]
  unfold walkStart
  rw [hinit]

/-- **The walk depends on the data only**, where it reads inside them. -/
theorem Agree.walk (h : Agree p q size)
    (hp : ∀ n, ReadsWithin p size (parseResourceDump p size n)) (n : Nat) :
    parseResourceDump p size n = parseResourceDump q size n := by
  obtain ⟨hsize, hfits⟩ := (walk_within_iff p size).mp hp
  induction n with
  | zero =>
      unfold parseResourceDump
      rw [h.start hsize]
      cases walkStart q size with
      | exit r => rw [bind_exit, bind_exit]
      | again s => rw [bind_again, bind_again, run_zero, run_zero]
  | succ n ih =>
      rw [parseResourceDump_succ, parseResourceDump_succ, ← ih]
      cases hs : parseResourceDump p size n with
      | exit r => rw [bind_exit, bind_exit]
      | again s =>
          rw [bind_again, bind_again]
          exact h.turn (hfits s.off (walk_reached p size hs))

/-- A dump of 40 bytes that ends behind the header of a notice. -/
def cutNotice : Mem := overlay (List.replicate 36 0 ++ [0x00, 0x01, 0xff, 0xf9]) zeroMem

/-- The text of the notice is read from behind the data. -/
theorem cutNotice_overread : ¬ ∀ (p : Mem) (size : Int) (n : Nat), 0 ≤ size →
    ReadsWithin p size (parseResourceDump p size n) := by
  intro h
  have hfits := ((walkTurn_within cutNotice 40 (s := ⟨36, [], parsePrefix cutNotice 40⟩)
    ((parsePrefix_within cutNotice 40).mpr (by decide))).mp (h cutNotice 40 1 (by decide))).2
  rw [if_neg (by decide +kernel), if_neg (by decide +kernel), if_pos (by decide +kernel)] at hfits
  exact absurd hfits (by decide)

end Mlx5ctl.RscDump
