/-
  rscdump.c: `mlx5_rsc_dump`, which collects a dump inline or through a umem and hands it to
  the parser.

  The umem mode is lossless as the inline mode is: `UmemHolds` relates its loop to the bytes
  collected so far, and the copies put them in `temp_buffer` in order. But the inline mode tells
  the parser how many bytes it collected, the umem mode how large the umem is. So both hand it
  the same bytes exactly when the dump fills the umem (`modes_agree_iff`).
-/
import Mlx5ctl.RscDump.Lossless
import Mlx5ctl.RscDump.Umem
import Mlx5ctl.RscDump.Bounds
import Mlx5ctl.Cli

namespace Mlx5ctl.RscDump

open ByteMem CInt Ifc Turn

variable {σ : Type} (K : Sys σ)

/-! ## `mlx5_rsc_dump` -/

/-- What `mlx5_rsc_dump` has before it parses: the data or `NULL`, and `size`. -/
structure Dumped (σ : Type) where
  data : Option Mem
  size : Int
  w : World σ

/-- `mlx5_rsc_dump(dev, args)` up to the parser, with at most `n` turns of the collector; `none`
    where that is still at work. -/
def collectDump (w : World σ) (args : Args) (umemBuff : Option UmemBuff) (n : Nat) :
    Option (Dumped σ) :=
  match umemBuff with
  | none =>
      match rscdumpCollect K w args 0 n with
      | .exit r => some ⟨r.data, r.total, r.w⟩
      | .again _ => none
  | some umem =>
      match rscdumpCollectUmem K w args umem n with
      | .exit r => some ⟨r.data, toInt umem.size, r.w⟩
      | .again _ => none

/-- `mlx5_rsc_dump(dev, args)`, with at most `n` turns of each loop. -/
def mlx5RscDump (w : World σ) (args : Args) (umemBuff : Option UmemBuff) (n : Nat) :
    Option (World σ) :=
  (collectDump K w args umemBuff n).bind fun d =>
    match d.data with
    | none => some d.w
    | some data =>
        match parseResourceDump data d.size n with
        | .exit s => some (d.w.prints s.trace.lines)
        | .again _ => none

/-! ## Dump into a umem -/

/-- The device answers request `k + 1` with these bytes in the umem. -/
@[mk_iff umemAnswers_iff]
structure UmemAnswers (c : CollectUmem σ) (k : Nat) (chunk : List u8) (more : Bool) : Prop where
  acc : (access K c.w c.inb c.out).err = 0
  size : c.replySize K = chunk.length
  data : load (K.umem (access K c.w c.inb c.out).w.sys) 0 chunk.length = chunk
  seq : seqNum (access K c.w c.inb c.out).dataOut = (k + 1) % 16
  more : mlx5Get (access K c.w c.inb c.out).dataOut 0 ResourceDump.moreDump ≠ 0 ↔ more = true

instance (c : CollectUmem σ) (k : Nat) (chunk : List u8) (more : Bool) :
    Decidable (UmemAnswers K c k chunk more) :=
  decidable_of_iff _ (umemAnswers_iff K c k chunk more).symm

/-- The loop stands for the bytes `acc` of `k` replies, with something left in the umem. -/
structure UmemHolds (c : CollectUmem σ) (acc : List u8) (k : Nat) : Prop where
  total : c.total = acc.length
  data : load c.temp 0 acc.length = acc
  seq : seqNum c.inb = k % 16
  left : c.remain ≠ 0
  fits : -2147483648 ≤ c.remain ∧ c.remain < 2147483648

/-- A reply with the number the check wants is accepted. -/
theorem umemAnswers_accepted {c : CollectUmem σ} {k : Nat} {chunk : List u8} {more : Bool}
    (hseq : seqNum c.inb = k % 16) (ha : UmemAnswers K c k chunk more) : c.Accepted K := by
  refine ⟨ha.acc, ?_⟩
  rw [seqOk_seqNum, ha.seq, hseq]
  omega

/-- No chunk uses up what is left. -/
theorem remainAfter_ne_zero {c : CollectUmem σ} {acc : List u8} {k : Nat} {chunk : List u8}
    {more : Bool} (h : UmemHolds c acc k) (ha : UmemAnswers K c k chunk more)
    (hlen : chunk.length < 2147483648) :
    c.remainAfter K ≠ 0 ∧ -2147483648 ≤ c.remainAfter K ∧ c.remainAfter K < 2147483648 := by
  have hleft := h.left
  have hfits := h.fits
  unfold CollectUmem.remainAfter
  rw [ha.size, toInt_of_fits (by omega) (by omega)]
  split_ifs with hless
  · rw [toInt_of_fits (by omega) (by omega)]
    omega
  · exact ⟨hleft, hfits⟩

/-- An accepted chunk is appended in `temp_buffer`. -/
theorem umemTurn_appends (umem : UmemBuff) {c : CollectUmem σ} {acc : List u8} {k : Nat}
    {chunk : List u8} {more : Bool} (h : UmemHolds c acc k) (ha : UmemAnswers K c k chunk more)
    (hlen : (acc ++ chunk).length < 2147483648) :
    ∃ c' : CollectUmem σ, c'.total = (acc ++ chunk).length ∧
      load c'.temp 0 (acc ++ chunk).length = acc ++ chunk ∧
      c'.remain ≠ 0 ∧ (-2147483648 ≤ c'.remain ∧ c'.remain < 2147483648) ∧
      collectUmemTurn K umem c = if more then .again c' else .exit (c'.leave (some c'.temp)) := by
  have hacc := umemAnswers_accepted K h.seq ha
  have hsum : (acc ++ chunk).length = acc.length + chunk.length := List.length_append
  obtain ⟨c', hremain, htotal, -, htemp, hturn⟩ := collectUmemTurn_accepted K umem hacc
  obtain ⟨hne, hfits⟩ := remainAfter_ne_zero K h ha (by omega)
  rw [← hremain] at hne hfits
  have hint : toInt (chunk.length : Int) = chunk.length := toInt_of_fits (by omega) (by omega)
  have hsize : toSize (chunk.length : Int) = chunk.length := toSize_natCast (by omega)
  rw [ha.size, hint, h.total, toInt_of_fits (by omega) (by omega)] at htotal
  rw [ha.size, hint, hsize, h.total, copyAt_of_nonneg] at htemp
  refine ⟨c', by omega, ?_, hne, hfits, ?_⟩
  · have hold : load (copy c.temp acc.length chunk.length
        (K.umem (access K c.w c.inb c.out).w.sys)) 0 acc.length = acc := by
      refine Eq.trans (load_congr fun k hk => ?_) h.data
      rw [copy_outside _ _ _ _ (by omega)]
    rw [htemp, hsum, load_add, Nat.zero_add, load_copy_self, ha.data, hold]
  · rw [hturn, if_neg hne]
    have hiff := iter_more_iff K c.w c.inb c.out
    have hmore : (mlx5RscDumpIter K c.w c.inb c.out).err > 0 ↔ more = true :=
      ⟨fun hpos => ha.more.mp (hiff.mp hpos).2.2,
        fun hm => hiff.mpr ⟨hacc.1, hacc.2, ha.more.mpr hm⟩⟩
    by_cases hm : more = true
    · rw [if_pos (hmore.mpr hm), if_pos hm]
    · rw [if_neg fun hpos => hm (hmore.mp hpos), if_neg hm]

/-- With more to come, the loop goes on. -/
theorem umemTurn_more (umem : UmemBuff) {c : CollectUmem σ} {acc : List u8} {k : Nat}
    {chunk : List u8} (h : UmemHolds c acc k) (ha : UmemAnswers K c k chunk true)
    (hlen : (acc ++ chunk).length < 2147483648) :
    ∃ c', collectUmemTurn K umem c = .again c' ∧ UmemHolds c' (acc ++ chunk) (k + 1) := by
  obtain ⟨c', htotal, hdata, hleft, hfits, hturn⟩ := umemTurn_appends K umem h ha hlen
  rw [if_pos rfl] at hturn
  have hseq := (umemSession K umem).seqNum_next hturn
  exact ⟨c', hturn, htotal, hdata, hseq.trans ha.seq, hleft, hfits⟩

theorem rscdumpCollectUmem_succ (w : World σ) (args : Args) (umem : UmemBuff) (n : Nat) :
    rscdumpCollectUmem K w args umem (n + 1) =
      (rscdumpCollectUmem K w args umem n).bind (collectUmemTurn K umem) := by
  unfold rscdumpCollectUmem
  rw [bind_assoc]
  congr 1
  funext c
  exact run_succ' n c

theorem collectUmemStart_granted {w : World σ} (args : Args) (umem : UmemBuff)
    (hm : (K.malloc w.sys tempBufferBytes).1 ≠ none) :
    ∃ c, collectUmemStart K w args umem = .again c := by
  cases hs : collectUmemStart K w args umem with
  | exit r => exact absurd (collectUmemStart_exit K hs).1 hm
  | again c => exact ⟨c, rfl⟩

theorem flatten_take_succ (chunks : List (List u8)) {k : Nat} (hk : k < chunks.length) :
    (chunks.take (k + 1)).flatten = (chunks.take k).flatten ++ chunks[k] := by
  rw [List.take_add_one, List.getElem?_eq_getElem hk, List.flatten_append]
  simp

theorem flatten_take_le (chunks : List (List u8)) (k : Nat) :
    (chunks.take k).flatten.length ≤ chunks.flatten.length := by
  have h := congrArg (fun l => l.flatten.length) (List.take_append_drop k chunks)
  simp only [List.flatten_append, List.length_append] at h
  omega

/-- The run up to reply `k`, when every reply before has more to come. -/
theorem umem_prefix {w : World σ} {args : Args} {umem : UmemBuff} {chunks : List (List u8)}
    {k : Nat} (hm : (K.malloc w.sys tempBufferBytes).1 ≠ none) (hsize : toInt umem.size ≠ 0)
    (hlen : chunks.flatten.length < 2147483648) (hk : k ≤ chunks.length)
    (hdev : ∀ i (hi : i < chunks.length), i < k →
      Post (fun c => UmemAnswers K c i chunks[i] true) (fun _ => True)
        (rscdumpCollectUmem K w args umem i)) :
    ∃ c, rscdumpCollectUmem K w args umem k = .again c ∧
      UmemHolds c (chunks.take k).flatten k := by
  induction k with
  | zero =>
      obtain ⟨c, hc⟩ := collectUmemStart_granted K args umem hm
      obtain ⟨-, hremain, htotal, -⟩ := collectUmemStart_again K hc
      refine ⟨c, by unfold rscdumpCollectUmem; rw [hc]; rfl, htotal, rfl, ?_, hremain ▸ hsize, ?_⟩
      · rw [collectUmemStart_inb K hc]
        exact seqNum_umemRequest args umem
      · rw [hremain]
        unfold toInt
        omega
  | succ k ih =>
      obtain ⟨c, hc, hholds⟩ := ih (by omega) fun i hi hik => hdev i hi (by omega)
      have ha := hdev k (by omega) (by omega)
      rw [hc] at ha
      have hle := flatten_take_le chunks (k + 1)
      rw [flatten_take_succ chunks (by omega)] at hle ⊢
      obtain ⟨c', hturn, hholds'⟩ := umemTurn_more K umem hholds ha (by omega)
      exact ⟨c', by rw [rscdumpCollectUmem_succ, hc, bind_again, hturn], hholds'⟩

/-- A umem whose size is 0 as an `int` ends the loop with the first accepted reply. -/
theorem umemTurn_empty (umem : UmemBuff) {c : CollectUmem σ} {k : Nat} {chunk : List u8}
    {more : Bool} (hseq : seqNum c.inb = k % 16) (ha : UmemAnswers K c k chunk more)
    (hlen : chunk.length < 2147483648) (hremain : c.remain = 0) :
    ∃ r temp, collectUmemTurn K umem c = .exit r ∧ r.data = some temp := by
  have hacc := umemAnswers_accepted K hseq ha
  obtain ⟨c', hafter, -, -, -, hturn⟩ := collectUmemTurn_accepted K umem hacc
  have hzero : c.remainAfter K = 0 := by
    unfold CollectUmem.remainAfter
    rw [ha.size, hremain, toInt_of_fits (by omega) (by omega), if_neg (by omega)]
  rw [hafter, hzero, if_pos rfl] at hturn
  exact ⟨_, _, hturn, rfl⟩

/-- **The umem mode collects the dump.** With a device that answers request `k` with chunk `k`,
    `rscdump_collect_umem` returns a buffer that starts with the chunks in order, unless the size
    of the umem is 0 as an `int`. -/
theorem umem_lossless {w : World σ} {args : Args} {umem : UmemBuff} {chunks : List (List u8)}
    (hm : (K.malloc w.sys tempBufferBytes).1 ≠ none) (hne : chunks ≠ [])
    (hlen : chunks.flatten.length < 2147483648)
    (hdev : ∀ k (hk : k < chunks.length),
      Post (fun c => UmemAnswers K c k chunks[k] (k + 1 < chunks.length)) (fun _ => True)
        (rscdumpCollectUmem K w args umem k)) :
    ∃ r temp, rscdumpCollectUmem K w args umem chunks.length = .exit r ∧ r.data = some temp ∧
      (toInt umem.size ≠ 0 → load temp 0 chunks.flatten.length = chunks.flatten) := by
  obtain ⟨k, hk⟩ := Nat.exists_eq_succ_of_ne_zero (List.length_pos_iff.mpr hne).ne'
  by_cases hsize : toInt umem.size = 0
  · obtain ⟨c, hc⟩ := collectUmemStart_granted K args umem hm
    obtain ⟨-, hremain, -, -⟩ := collectUmemStart_again K hc
    have hstart : rscdumpCollectUmem K w args umem 0 = .again c := by
      unfold rscdumpCollectUmem
      rw [hc]
      rfl
    have ha := hdev 0 (by omega)
    rw [hstart] at ha
    have hfirst : chunks[0].length ≤ chunks.flatten.length :=
      (List.sublist_flatten_of_mem (List.getElem_mem (by omega))).length_le
    obtain ⟨r, temp, hturn, hdata⟩ := umemTurn_empty K umem
      (by rw [collectUmemStart_inb K hc]; exact seqNum_umemRequest args umem) ha (by omega)
      (hremain.trans hsize)
    have hexit : rscdumpCollectUmem K w args umem 1 = .exit r := by
      rw [rscdumpCollectUmem_succ, hstart, bind_again, hturn]
    refine ⟨r, temp, ?_, hdata, fun h => absurd hsize h⟩
    unfold rscdumpCollectUmem at hexit ⊢
    rw [hc] at hexit ⊢
    exact run_exit_mono hexit (by omega)
  · obtain ⟨c, hc, hholds⟩ := umem_prefix K (k := k) hm hsize hlen (by omega) fun i hi hik => by
      have := hdev i hi
      rwa [decide_eq_true (by omega : i + 1 < chunks.length)] at this
    have ha := hdev k (by omega)
    rw [hc, decide_eq_false (by omega : ¬ k + 1 < chunks.length)] at ha
    have hall : (chunks.take k).flatten ++ chunks[k] = chunks.flatten := by
      rw [← flatten_take_succ chunks (by omega), List.take_of_length_le (by omega)]
    obtain ⟨c', -, hdata, -, -, hturn⟩ :=
      umemTurn_appends K umem hholds ha (by rw [hall]; exact hlen)
    rw [hall] at hdata
    refine ⟨c'.leave (some c'.temp), c'.temp, ?_, rfl, fun _ => hdata⟩
    rw [hk, Nat.succ_eq_add_one, rscdumpCollectUmem_succ, hc, bind_again, hturn]
    rfl

/-! ## The two modes -/

/-- The parser is called with the same bytes and the same size. -/
def SameCall {τ : Type} (d : Dumped σ) (d' : Dumped τ) : Prop :=
  ∃ p p', d.data = some p ∧ d'.data = some p' ∧ d.size = d'.size ∧
    load p 0 d.size.toNat = load p' 0 d'.size.toNat

/-- The inline mode hands the parser the dump and its length. -/
theorem inline_dumped {w : World σ} {args : Args} {chunks : List Chunk}
    (hm : (K.malloc w.sys 4069).1 ≠ none) (hre : ReallocGrants K) (hne : chunks ≠ [])
    (hlen : (dumpBytes chunks).length < 1073741824)
    (hdev : ∀ k (hk : k < chunks.length),
      Post (fun c => Answers K c k chunks[k] (k + 1 < chunks.length)) (fun _ => True)
        (rscdumpCollect K w args 0 k)) :
    ∃ d p, collectDump K w args none chunks.length = some d ∧ d.data = some p ∧
      d.size = (dumpBytes chunks).length ∧
      load p 0 (dumpBytes chunks).length = dumpBytes chunks := by
  obtain ⟨r, hrun, htotal, data, hdata, hload⟩ := collect_complete K hm hre hne hlen hdev
  refine ⟨⟨r.data, r.total, r.w⟩, data, ?_, hdata, htotal, hload⟩
  unfold collectDump
  dsimp only
  rw [hrun]

/-- The umem mode hands it the size of the umem. -/
theorem umem_dumped {w : World σ} {args : Args} {umem : UmemBuff} {chunks : List (List u8)}
    (hm : (K.malloc w.sys tempBufferBytes).1 ≠ none) (hne : chunks ≠ [])
    (hlen : chunks.flatten.length < 2147483648)
    (hdev : ∀ k (hk : k < chunks.length),
      Post (fun c => UmemAnswers K c k chunks[k] (k + 1 < chunks.length)) (fun _ => True)
        (rscdumpCollectUmem K w args umem k)) :
    ∃ d p, collectDump K w args (some umem) chunks.length = some d ∧ d.data = some p ∧
      d.size = toInt umem.size ∧
      (toInt umem.size ≠ 0 → load p 0 chunks.flatten.length = chunks.flatten) := by
  obtain ⟨r, temp, hrun, hdata, hload⟩ := umem_lossless K hm hne hlen hdev
  refine ⟨⟨r.data, toInt umem.size, r.w⟩, temp, ?_, hdata, rfl, hload⟩
  unfold collectDump
  dsimp only
  rw [hrun]

/-- **Inline mode and umem mode show the same dump exactly when it fills the umem.** For two
    devices that return the same bytes in any chunks, at most 1 MiB and no more than the umem has,
    both modes call the parser; with the same bytes and the same size exactly when the size of the
    umem is, modulo 2 ^ 32, the number of the bytes. Where the parser then reads inside these
    bytes, it does the same in both. -/
theorem modes_agree_iff {τ : Type} (K' : Sys τ) {w : World σ} {w' : World τ} {args args' : Args}
    {umem : UmemBuff} {bytes : List u8} {inline : List Chunk} {chunks : List (List u8)}
    (hinline : dumpBytes inline = bytes) (hchunks : chunks.flatten = bytes)
    (hlen : bytes.length ≤ min tempBufferBytes umem.size)
    (hne : inline ≠ []) (hne' : chunks ≠ [])
    (hm : (K.malloc w.sys 4069).1 ≠ none) (hre : ReallocGrants K)
    (hm' : (K'.malloc w'.sys tempBufferBytes).1 ≠ none)
    (hdev : ∀ k (hk : k < inline.length),
      Post (fun c => Answers K c k inline[k] (k + 1 < inline.length)) (fun _ => True)
        (rscdumpCollect K w args 0 k))
    (hdev' : ∀ k (hk : k < chunks.length),
      Post (fun c => UmemAnswers K' c k chunks[k] (k + 1 < chunks.length)) (fun _ => True)
        (rscdumpCollectUmem K' w' args' umem k)) :
    ∃ d d' p p', collectDump K w args none inline.length = some d ∧
      collectDump K' w' args' (some umem) chunks.length = some d' ∧
      d.data = some p ∧ d'.data = some p' ∧
      (SameCall d d' ↔ umem.size % 2 ^ 32 = bytes.length) ∧
      (SameCall d d' → (∀ n, ReadsWithin p d.size (parseResourceDump p d.size n)) →
        ∀ n, parseResourceDump p d.size n = parseResourceDump p' d'.size n) := by
  have hbytes : tempBufferBytes = 1048576 := rfl
  rw [← hinline] at hlen
  obtain ⟨d, p, hd, hp, hsize, hload⟩ := inline_dumped K hm hre hne (by omega) hdev
  obtain ⟨d', p', hd', hp', hsize', hload'⟩ :=
    umem_dumped K' hm' hne' (by rw [hchunks, ← hinline]; omega) hdev'
  rw [hinline] at hlen hsize hload
  rw [hchunks] at hload'
  have hsame : d.size = d'.size ↔ umem.size % 2 ^ 32 = bytes.length := by
    rw [hsize, hsize']
    unfold toInt
    omega
  refine ⟨d, d', p, p', hd, hd', hp, hp', ?_, ?_⟩
  · rw [← hsame]
    constructor
    · rintro ⟨_, _, -, -, h, -⟩
      exact h
    · intro h
      refine ⟨p, p', hp, hp', h, ?_⟩
      rw [← h, hsize, Int.toNat_natCast, hload]
      by_cases hzero : toInt umem.size = 0
      · have hnil : bytes = [] := List.length_eq_zero_iff.mp (by omega)
        rw [hnil]
        rfl
      · exact (hload' hzero).symm
  · rintro ⟨q, q', hq, hq', h, hsameload⟩ hwithin n
    rw [hp] at hq
    rw [hp'] at hq'
    cases hq
    cases hq'
    rw [← h] at hsameload ⊢
    exact (Agree.of_load hsameload).walk hwithin n

/-! ## Runs of the two modes -/

/-- A device that puts the two chunks of `twoReplies` into the umem. -/
def twoUmemReplies : Sys Nat :=
  { twoReplies with
    umem := fun k => if k = 1 then overlay [1, 2, 3] zeroMem else overlay [4, 5] zeroMem }

theorem twoReplies_realloc : ReallocGrants twoReplies := by
  intro _ n hn
  have hle : n ≤ ptrdiffMax := by
    unfold ptrdiffMax
    omega
  simp [twoReplies, scripted, hle]

theorem twoReplies_answers (k : Nat) (hk : k < twoChunks.length) :
    Post (fun c => Answers twoReplies c k twoChunks[k] (k + 1 < twoChunks.length)) (fun _ => True)
      (rscdumpCollect twoReplies ⟨0, []⟩ ⟨0, 0, 0, 0, 0⟩ 0 k) := by
  revert k
  decide +kernel

theorem twoUmemReplies_answers (size : Nat) (hsize : size ∈ [5, 4096]) (k : Nat) (hk : k < 2) :
    Post (fun c => UmemAnswers twoUmemReplies c k ([[1, 2, 3], [4, 5]] : List (List u8))[k]
        (k + 1 < 2)) (fun _ => True)
      (rscdumpCollectUmem twoUmemReplies ⟨0, []⟩ ⟨4, 0, 0, 0, 0⟩ ⟨0, size, 0, 0⟩ k) := by
  revert size k
  decide +kernel

/-- A umem of the five bytes of the dump. -/
theorem fiveBytes_agree : ∃ d d',
    collectDump twoReplies ⟨0, []⟩ ⟨0, 0, 0, 0, 0⟩ none 2 = some d ∧
    collectDump twoUmemReplies ⟨0, []⟩ ⟨4, 0, 0, 0, 0⟩ (some ⟨0, 5, 0, 0⟩) 2 = some d' ∧
    SameCall d d' := by
  obtain ⟨d, d', p, p', hd, hd', -, -, hsame, -⟩ := modes_agree_iff twoReplies twoUmemReplies
    (show dumpBytes twoChunks = [1, 2, 3, 4, 5] from rfl)
    (show [[1, 2, 3], [4, 5]].flatten = [1, 2, 3, 4, 5] from rfl) (by decide) (by decide)
    (by decide) (by decide) twoReplies_realloc (by decide) twoReplies_answers
    (twoUmemReplies_answers 5 (by decide))
  exact ⟨d, d', hd, hd', hsame.mpr (by decide)⟩

/-- A umem of one page: both buffers start with the five bytes of the dump, and the parser is told
    that they are 4096. -/
theorem page_disagrees : ∃ d d' p p',
    collectDump twoReplies ⟨0, []⟩ ⟨0, 0, 0, 0, 0⟩ none 2 = some d ∧
    collectDump twoUmemReplies ⟨0, []⟩ ⟨4, 0, 0, 0, 0⟩ (some ⟨0, 4096, 0, 0⟩) 2 = some d' ∧
    d.data = some p ∧ load p 0 5 = [1, 2, 3, 4, 5] ∧ d.size = 5 ∧
    d'.data = some p' ∧ load p' 0 5 = [1, 2, 3, 4, 5] ∧ d'.size = 4096 ∧ ¬ SameCall d d' := by
  obtain ⟨d, p, hd, hp, hsize, hload⟩ := inline_dumped twoReplies
    (show (twoReplies.malloc (⟨0, []⟩ : World Nat).sys 4069).1 ≠ none by decide)
    twoReplies_realloc (by decide) (by decide) twoReplies_answers
  obtain ⟨d', p', hd', hp', hsize', hload'⟩ := umem_dumped twoUmemReplies
    (show (twoUmemReplies.malloc (⟨0, []⟩ : World Nat).sys tempBufferBytes).1 ≠ none by decide)
    (show [[1, 2, 3], [4, 5]] ≠ [] by decide) (by decide)
    (twoUmemReplies_answers 4096 (by decide))
  have h5 : d.size = 5 := hsize
  have h4096 : d'.size = 4096 := hsize'
  refine ⟨d, d', p, p', hd, hd', hp, hload, h5, hp', hload' (by decide), h4096, ?_⟩
  rintro ⟨_, _, -, -, h, -⟩
  rw [h5, h4096] at h
  exact absurd h (by decide)

end Mlx5ctl.RscDump
