/-
  The dump of diagnostic samples, `query_diag_counters`.

  A sample is four dwords in the response, and should be shown as four numbers. What is shown of
  it is the same in text and in binary (`Sample.emitted`), and it is the sample exactly when the
  high half of the counter is 0: the code shifts that half by 31 instead of 32, and in 32 bits.
-/
import Mlx5ctl.DiagCnt.Query
import Mlx5ctl.Lib.Words

namespace Mlx5ctl.DiagCnt

open ByteMem CInt Ifc

variable {σ : Type} (K : Sys σ)

/-! ## Samples -/

/-- A sample of the device. -/
structure Sample where
  counterId : BitVec 16
  sampleId : BitVec 16
  timeStamp : u32
  counterValueH : u32
  counterValueL : u32

/-- Four numbers. -/
structure Record where
  counterId : u64
  sampleId : u64
  timeStamp : u64
  counterValue : u64
  deriving DecidableEq

/-- The record as it is printed. -/
def Record.line (r : Record) (binOutput : Bool) : Line :=
  if binOutput then .fwrite (printoutBytes [r.counterId, r.sampleId, r.timeStamp, r.counterValue])
  else .printf "counter_id: 0x%04x, sample_id: %010d, time_stamp: %010u counter_value: %lu\n"
    [.int r.counterId.toNat, .int r.sampleId.toNat, .int r.timeStamp.toNat,
      .int r.counterValue.toNat]

namespace Sample

/-- The sample in the response. -/
def words (s : Sample) : List u32 :=
  [s.counterId ++ s.sampleId, s.timeStamp, s.counterValueH, s.counterValueL]

/-- The numbers of the sample, the counter as `h * 2^32 + l`. -/
def record (s : Sample) : Record where
  counterId := s.counterId.setWidth 64
  sampleId := s.sampleId.setWidth 64
  timeStamp := s.timeStamp.setWidth 64
  counterValue := BitVec.ofNat 64 (s.counterValueH.toNat * 2 ^ 32 + s.counterValueL.toNat)

/-- The numbers the code shows. -/
def emitted (s : Sample) : Record :=
  { s.record with counterValue := DiagCnt.counterValue s.counterValueH s.counterValueL }

end Sample

/-- The 32-bit value is the counter exactly when the high half is 0. -/
theorem counterValue_eq_iff (h l : u32) :
    counterValue h l = BitVec.ofNat 64 (h.toNat * 2 ^ 32 + l.toNat) ↔ h = 0 := by
  have hh := h.isLt
  have hl := l.isLt
  have hval : (counterValue h l).toNat < 2 ^ 32 := by
    unfold counterValue
    rw [BitVec.toNat_setWidth]
    have := ((h <<< 31) ||| l).isLt
    omega
  constructor
  · intro heq
    rw [heq, BitVec.toNat_ofNat] at hval
    apply BitVec.eq_of_toNat_eq
    show h.toNat = 0
    omega
  · rintro rfl
    apply BitVec.eq_of_toNat_eq
    have hzero : (0 : u32) <<< 31 ||| l = l := by simp
    unfold counterValue
    rw [hzero, BitVec.toNat_setWidth, BitVec.toNat_ofNat]
    show l.toNat % 2 ^ 64 = (0 * 2 ^ 32 + l.toNat) % 2 ^ 64
    rw [Nat.zero_mul, Nat.zero_add]

theorem emitted_eq_iff (s : Sample) : s.emitted = s.record ↔ s.counterValueH = 0 := by
  rw [← counterValue_eq_iff s.counterValueH s.counterValueL]
  unfold Sample.emitted Sample.record
  simp

/-- Records are shown by different lines. -/
theorem Record.line_inj {r r' : Record} (h : r.line false = r'.line false) : r = r' := by
  unfold Record.line at h
  simp only [Bool.false_eq_true, if_false, Line.printf.injEq, List.cons.injEq, Arg.int.injEq,
    and_true, true_and] at h
  obtain ⟨h1, h2, h3, h4⟩ := h
  cases r
  cases r'
  congr 1
  · exact BitVec.eq_of_toNat_eq (Int.ofNat_inj.mp h1)
  · exact BitVec.eq_of_toNat_eq (Int.ofNat_inj.mp h2)
  · exact BitVec.eq_of_toNat_eq (Int.ofNat_inj.mp h3)
  · exact BitVec.eq_of_toNat_eq (Int.ofNat_inj.mp h4)

/-! ## The loop -/

variable {p : Mem}

theorem setWidth_congr {m n : Nat} {x : BitVec m} {y : BitVec n} (h : x.toNat = y.toNat) :
    x.setWidth 64 = y.setWidth 64 := by
  apply BitVec.eq_of_toNat_eq
  rw [BitVec.toNat_setWidth, BitVec.toNat_setWidth, h]

theorem toNat_widened (x : u32) : (x.setWidth 64).toNat = x.toNat := by
  rw [BitVec.toNat_setWidth]
  omega

/-- One turn shows the four numbers it reads, in either output. -/
theorem sampleLine_record (p : Mem) (binOutput : Bool) (off : Nat) :
    sampleLine p binOutput off = Record.line
      ⟨(mlx5Get p off DiagnosticCntrStruct.counterId).setWidth 64,
        (mlx5Get p off DiagnosticCntrStruct.sampleId).setWidth 64,
        (mlx5Get p off DiagnosticCntrStruct.timeStamp310).setWidth 64,
        counterValue (mlx5Get p off DiagnosticCntrStruct.counterValueH)
          (mlx5Get p off DiagnosticCntrStruct.counterValueL)⟩ binOutput := by
  unfold sampleLine Record.line
  dsimp only
  rw [toNat_widened, toNat_widened, toNat_widened]

/-- One turn shows what the code makes of the sample at its place. -/
theorem sampleLine_emitted {off : Nat} {s : Sample} (h : Words p off s.words) (binOutput : Bool) :
    sampleLine p binOutput off = s.emitted.line binOutput := by
  obtain ⟨hids, h1⟩ := words_cons h
  obtain ⟨hts, h2⟩ := words_cons h1
  obtain ⟨hh, h3⟩ := words_cons h2
  obtain ⟨hl, -⟩ := words_cons h3
  have hcid := mlx5Get_high (f := DiagnosticCntrStruct.counterId) hids rfl rfl
  have hsid := mlx5Get_low (f := DiagnosticCntrStruct.sampleId) hids rfl rfl
  have hwhole : ∀ {f : Field} {x : u32}, word32 p (off + 4 * f.dwOff) = x → f.sz = 32 →
      mlx5Get p off f = x := fun hw hsz => BitVec.eq_of_toNat_eq (mlx5Get_whole hw hsz)
  rw [sampleLine_record, setWidth_congr hcid, setWidth_congr hsid,
    hwhole (f := DiagnosticCntrStruct.timeStamp310) hts rfl,
    hwhole (f := DiagnosticCntrStruct.counterValueH) hh rfl,
    hwhole (f := DiagnosticCntrStruct.counterValueL) hl rfl]
  rfl

/-- The loop shows the samples in order. -/
theorem sampleLines_emitted {samples : List Sample} (i : Nat)
    (h : Words p (diagCounter i) (samples.flatMap Sample.words)) (binOutput : Bool) :
    ((List.range' i samples.length).map diagCounter).map (sampleLine p binOutput) =
      samples.map fun s => s.emitted.line binOutput := by
  induction samples generalizing i with
  | nil => rfl
  | cons s ss ih =>
      rw [List.flatMap_cons, words_append] at h
      have hnext : diagCounter i + 4 * s.words.length = diagCounter (i + 1) := by
        show diagCounter i + 16 = _
        unfold diagCounter DiagnosticCntrStruct.szBytes
        omega
      rw [hnext] at h
      rw [List.length_cons, List.range'_succ, List.map_cons, List.map_cons, List.map_cons,
        sampleLine_emitted h.1, ih (i + 1) h.2]

/-! ## The query -/

/-- What the kernel returns for a query of `n` samples. -/
def samplesReply (w : World σ) (sampleIndex : Int) (n : Nat) : Int × List u8 × σ :=
  K.rpc (K.malloc w.sys (16 + 16 * n)).2 (load (samplesRequest n sampleIndex) 0 16) (16 + 16 * n)

/-- The device answers the query with these samples, behind a header with status 0. -/
structure Delivers (w : World σ) (sampleIndex : Int) (samples : List Sample) : Prop where
  fits : samples.length ≤ 4094
  block : (K.malloc w.sys (16 + 16 * samples.length)).1 ≠ none
  ret : (samplesReply K w sampleIndex samples.length).1 = 0
  reply : ∃ (reserved : BitVec 24) (syndrome r₁ r₂ : u32) (tail : List u8),
    (samplesReply K w sampleIndex samples.length).2.1 =
      bytesOf ((0#8 ++ reserved) :: syndrome :: r₁ :: r₂ :: samples.flatMap Sample.words) ++ tail

theorem flatMap_words_length (samples : List Sample) :
    (samples.flatMap Sample.words).length = 4 * samples.length := by
  induction samples with
  | nil => rfl
  | cons s ss ih =>
      rw [List.flatMap_cons, List.length_append, ih, List.length_cons]
      show 4 + 4 * ss.length = _
      omega

theorem samplesOutSz_of_fits {n : Nat} (h : n ≤ 4094) : samplesOutSz n = 16 + 16 * n := by
  unfold samplesOutSz QueryDiagnosticCntrsOut.szBytes DiagnosticCntrStruct.szBytes toU16
  omega

/-- A status of 0 in the first byte. -/
theorem status_zero {reserved : BitVec 24} (h : word32 p 0 = 0#8 ++ reserved) :
    mlx5Get p 0 MboxOut.status = 0 := by
  have happ : (0#8 ++ reserved : u32).toNat = 0 * 2 ^ 24 + reserved.toNat := toNat_append _ _
  have hlow := reserved.isLt
  apply BitVec.eq_of_toNat_eq
  rw [mlx5Get_word, show 0 + 4 * MboxOut.status.dwOff = 0 from rfl, h, Field.toNat_of, happ,
    show 32 - MboxOut.status.sz - MboxOut.status.off % 32 = 24 from rfl]
  show (0 * 2 ^ 24 + reserved.toNat) / 2 ^ 24 % 2 ^ 8 = 0
  omega

/-- The response buffer after the kernel copied exactly the header and the samples. -/
def samplesResponse (w : World σ) (sampleIndex : Int) (n : Nat) (block : Mem) : Mem :=
  replyIn K { w with sys := (K.malloc w.sys (16 + 16 * n)).2 } (samplesRequest n sampleIndex)
    QueryDiagnosticCntrsIn.szBytes block (16 + 16 * n)

theorem samplesResponse_words {w : World σ} {sampleIndex : Int} {samples : List Sample}
    (h : Delivers K w sampleIndex samples) (block : Mem) :
    mlx5Get (samplesResponse K w sampleIndex samples.length block) 0 MboxOut.status = 0 ∧
    Words (samplesResponse K w sampleIndex samples.length block) (diagCounter 0)
      (samples.flatMap Sample.words) := by
  have hn := h.fits
  obtain ⟨reserved, syndrome, r₁, r₂, tail, hreply⟩ := h.reply
  generalize hws : (0#8 ++ reserved : u32) :: syndrome :: r₁ :: r₂ ::
    samples.flatMap Sample.words = ws at hreply
  have hlen : (bytesOf ws).length = 16 + 16 * samples.length := by
    have hsum := flatMap_words_length samples
    rw [bytesOf_length, ← hws]
    show 4 * ((samples.flatMap Sample.words).length + 4) = _
    omega
  have hout : toU32 ((16 + 16 * samples.length : Nat) : Int) = 16 + 16 * samples.length :=
    toU32_natCast (by omega)
  -- what follows the samples in the reply is cut off
  have hmem : samplesResponse K w sampleIndex samples.length block =
      overlay (bytesOf ws ++ []) block := by
    unfold samplesReply at hreply
    unfold samplesResponse replyIn
    rw [show toU32 (QueryDiagnosticCntrsIn.szBytes : Nat) = 16 from rfl, hout, hreply,
      List.take_append_of_le_length (Nat.le_of_eq hlen.symm),
      List.take_of_length_le (Nat.le_of_eq hlen), List.append_nil]
  have hwords := words_overlay ws [] block
  rw [← hmem, ← hws] at hwords
  obtain ⟨hstatus, h1⟩ := words_cons hwords
  obtain ⟨-, h2⟩ := words_cons h1
  obtain ⟨-, h3⟩ := words_cons h2
  obtain ⟨-, hsamples⟩ := words_cons h3
  exact ⟨status_zero hstatus, hsamples⟩

/-- The query shows what the code makes of the samples, in order. -/
theorem query_emitted {w : World σ} {sampleIndex : Int} {samples : List Sample}
    (h : Delivers K w sampleIndex samples) (binOutput : Bool) :
    (queryDiagCounters K w samples.length sampleIndex binOutput).w.out =
      w.out ++ samples.map fun s => s.emitted.line binOutput := by
  have hn := h.fits
  obtain ⟨block, hblock⟩ := Option.ne_none_iff_exists'.mp h.block
  obtain ⟨hstatus, hsamples⟩ := samplesResponse_words K h block
  have hout : toU32 ((16 + 16 * samples.length : Nat) : Int) = 16 + 16 * samples.length :=
    toU32_natCast (by omega)
  have hret := h.ret
  unfold samplesReply at hret
  obtain ⟨hcret, hcout, -, hcw⟩ := mlx5uCmd_ok K (by
    rw [show toU32 (QueryDiagnosticCntrsIn.szBytes : Nat) = 16 from rfl, hout]
    exact hret) hstatus
  have hlines := sampleLines_emitted 0 hsamples binOutput
  rw [← List.range_eq_range'] at hlines
  unfold queryDiagCounters
  dsimp only
  rw [samplesOutSz_of_fits hn, hblock]
  dsimp only
  rw [if_neg (not_not.mpr hcret)]
  dsimp only
  rw [hcout, hcw, Int.toNat_natCast]
  exact congrArg (w.out ++ ·) hlines

/-- **Samples are shown as they are when no counter has a high half.** For every device that
    delivers a list of samples, the text and the binary output show exactly these samples, in
    order, if and only if the high half of every counter is 0. They show the same numbers
    always. -/
theorem samples_shown_iff (w : World σ) (sampleIndex : Int) (samples : List Sample)
    (h : Delivers K w sampleIndex samples) :
    ((∀ binOutput, (queryDiagCounters K w samples.length sampleIndex binOutput).w.out =
        w.out ++ samples.map fun s => s.record.line binOutput) ↔
      ∀ s ∈ samples, s.counterValueH = 0) ∧
    ∃ records : List Record, records.length = samples.length ∧ ∀ binOutput,
      (queryDiagCounters K w samples.length sampleIndex binOutput).w.out =
        w.out ++ records.map fun r => r.line binOutput := by
  refine ⟨⟨fun hall s hs => ?_, fun hall binOutput => ?_⟩, samples.map Sample.emitted, ?_, ?_⟩
  · have hmap := List.append_cancel_left ((query_emitted K h false).symm.trans (hall false))
    exact (emitted_eq_iff s).mp (Record.line_inj (List.map_inj_left.mp hmap s hs))
  · rw [query_emitted K h binOutput]
    congr 1
    refine List.map_congr_left fun s hs => ?_
    rw [(emitted_eq_iff s).mpr (hall s hs)]
  · rw [List.length_map]
  · intro binOutput
    rw [query_emitted K h binOutput, List.map_map]
    rfl

/-- A device with these samples. -/
def delivering (samples : List Sample) : Sys Nat :=
  scripted fun _ => (0, bytesOf (0 :: 0 :: 0 :: 0 :: samples.flatMap Sample.words))

theorem delivering_delivers {samples : List Sample} (h : samples.length ≤ 4094) :
    Delivers (delivering samples) ⟨0, []⟩ 0 samples where
  fits := h
  block := scripted_malloc_ne _ 0 (show 16 + 16 * samples.length ≤ ptrdiffMax by
    unfold ptrdiffMax
    omega)
  ret := rfl
  reply := ⟨0, 0, 0, 0, [], (List.append_nil _).symm⟩

/-- Two samples, of one counter. -/
def smallSamples : List Sample := [⟨0x401, 5, 7, 0, 9⟩, ⟨0x401, 6, 8, 0, 0xffffffff⟩]

theorem small_counters_shown :
    (queryDiagCounters (delivering smallSamples) ⟨0, []⟩ 2 0 false).w.out =
      [.printf "counter_id: 0x%04x, sample_id: %010d, time_stamp: %010u counter_value: %lu\n"
        [.int 0x401, .int 5, .int 7, .int 9],
      .printf "counter_id: 0x%04x, sample_id: %010d, time_stamp: %010u counter_value: %lu\n"
        [.int 0x401, .int 6, .int 8, .int 0xffffffff]] :=
  ((samples_shown_iff (delivering smallSamples) ⟨0, []⟩ 0 smallSamples
    (delivering_delivers (by decide))).1.mpr (by decide)) false

/-- A counter of 2^32 is shown as 2^31. -/
theorem large_counter_wrong : ¬ ∀ (σ : Type) (K : Sys σ) (w : World σ) (sampleIndex : Int)
    (samples : List Sample), Delivers K w sampleIndex samples → ∀ binOutput,
    (queryDiagCounters K w samples.length sampleIndex binOutput).w.out =
      w.out ++ samples.map fun s => s.record.line binOutput := by
  intro h
  exact absurd (h Nat (delivering [⟨0x401, 5, 7, 1, 0⟩]) ⟨0, []⟩ 0 [⟨0x401, 5, 7, 1, 0⟩]
    (delivering_delivers (by decide)) false) (by decide +kernel)

end Mlx5ctl.DiagCnt
