/-
  `rscdump_collect` puts a dump together without loss.

  A dump is a list of chunks. `Holds` relates the loop to the list of bytes collected so far:
  the buffer starts with them, `*total` counts them, and the next request carries the number of
  replies modulo 16. `collectTurn_more`: a turn whose reply carries a chunk appends it, through
  a growth of the buffer if need be. `collect_prefix` is the run up to any reply, and the two
  ways a run ends are one more turn from there.
-/
import Mlx5ctl.RscDump.Protocol
import Mlx5ctl.RscDump.Safety

namespace Mlx5ctl.RscDump

open ByteMem CInt Ifc Turn

variable {σ : Type} (K : Sys σ)

/-! ## Chunks and replies -/

/-- The bytes of one reply. -/
structure Chunk where
  bytes : List u8
  fits : bytes.length ≤ ResourceDump.inlineDataBytes

/-- The bytes of a list of chunks, in order. -/
def dumpBytes (chunks : List Chunk) : List u8 := chunks.flatMap Chunk.bytes

/-- The device answers request `k + 1` with this chunk. -/
@[mk_iff answers_iff]
structure Answers (c : Collect σ) (k : Nat) (chunk : Chunk) (more : Bool) : Prop where
  acc : (access K c.w c.inb c.out).err = 0
  size : (mlx5Get (access K c.w c.inb c.out).dataOut 0 ResourceDump.size).toNat =
    chunk.bytes.length
  data : load (access K c.w c.inb c.out).dataOut ResourceDump.inlineData chunk.bytes.length =
    chunk.bytes
  seq : seqNum (access K c.w c.inb c.out).dataOut = (k + 1) % 16
  more : mlx5Get (access K c.w c.inb c.out).dataOut 0 ResourceDump.moreDump ≠ 0 ↔ more = true

instance (c : Collect σ) (k : Nat) (chunk : Chunk) (more : Bool) :
    Decidable (Answers K c k chunk more) := decidable_of_iff _ (answers_iff K c k chunk more).symm

/-! ## One turn -/

/-- The data buffer holds the bytes `acc`. -/
structure Buffered (c : Collect σ) (acc : List u8) : Prop where
  inv : Inv c
  total : c.total = acc.length
  data : load c.data 0 acc.length = acc

/-- The loop stands for the bytes `acc` of `k` replies. -/
structure Holds (c : Collect σ) (acc : List u8) (k : Nat) : Prop extends Buffered c acc where
  seq : seqNum c.inb = k % 16

/-- `realloc` grants every block an `int` can ask for. -/
def ReallocGrants : Prop := ∀ s n, n < 2147483648 → (K.realloc s n).1 ≠ none

theorem makeRoom_grants {c : Collect σ} {n : Int} (hre : ReallocGrants K) (h : Inv c)
    (hn : 0 ≤ n) (htotal : c.total + n < 1073741824) : ∃ c', makeRoom K c n = .again c' := by
  obtain ⟨hlow, hhigh⟩ := h.size.bounds
  have h0 := h.safe.1
  rcases makeRoom_room K c n with ⟨-, eq⟩ | ⟨w, full, none, -⟩ | ⟨w, tail, -, -, eq⟩
  · exact ⟨_, eq⟩
  · rw [toInt_of_fits (by omega) (by omega)] at full
    have hdbl : toInt (c.size * 2) = c.size * 2 := toInt_of_fits (by omega) (by omega)
    have hsize : (toSize (c.size * 2) : Int) = c.size * 2 := toSize_of_nonneg (by omega) (by omega)
    rw [hdbl] at none
    exact absurd none (hre _ _ (by omega))
  · exact ⟨_, eq⟩

/-- Growing the buffer keeps what it held. -/
theorem makeRoom_data {c c' : Collect σ} {n : Int} {m : Nat} (hm : makeRoom K c n = .again c')
    (hcap : m ≤ c.cap) : load c'.data 0 m = load c.data 0 m := by
  rcases makeRoom_room K c n with ⟨-, eq⟩ | ⟨w, -, -, eq⟩ | ⟨w, tail, -, -, eq⟩
  · rw [eq] at hm
    cases hm
    rfl
  · rw [eq] at hm
    cases hm
  · rw [eq] at hm
    cases hm
    refine load_congr fun k hk => ?_
    exact if_pos (by omega)

/-- Appending a chunk behind the bytes held. -/
theorem load_append {c : Collect σ} {acc chunk : List u8} (htotal : c.total = acc.length)
    (hdata : load c.data 0 acc.length = acc)
    (hout : load c.out ResourceDump.inlineData chunk.length = chunk)
    (hn : chunk.length < 2147483648) :
    load (append c chunk.length).data 0 (acc ++ chunk).length = acc ++ chunk := by
  have hsize : toSize (chunk.length : Int) = chunk.length := toSize_natCast (by omega)
  unfold append
  dsimp only
  rw [htotal, hsize, copyAt_of_nonneg, List.length_append, load_add]
  congr 1
  · refine Eq.trans (load_congr fun k hk => ?_) hdata
    rw [copy_outside _ _ _ _ (by omega)]
  · rw [Nat.zero_add, load_copy_self, load_shift, Nat.add_zero, hout]

/-- Room is made for the chunk of an accepted reply, and it is appended. -/
theorem append_buffered {c : Collect σ} {acc : List u8} {k : Nat} {chunk : Chunk} {more : Bool}
    (hre : ReallocGrants K) (h : Buffered c acc) (ha : Answers K c k chunk more)
    (hlen : (acc ++ chunk.bytes).length < 1073741824) :
    ∃ c', makeRoom K (c.iterate K) (c.iterate K).iterSize = .again c' ∧
      c'.inb = (c.iterate K).inb ∧
      Buffered (append c' (c.iterate K).iterSize) (acc ++ chunk.bytes) := by
  have hfits : chunk.bytes.length ≤ 208 := chunk.fits
  have hsum : (acc ++ chunk.bytes).length = acc.length + chunk.bytes.length := List.length_append
  have hit : Inv (c.iterate K) := ⟨h.inv.cap, h.inv.size, h.inv.safe⟩
  have htotal : (c.iterate K).total = acc.length := h.total
  have hsize : (c.iterate K).iterSize = chunk.bytes.length := by
    unfold Collect.iterSize
    rw [iterate_out, ha.size, toInt_of_fits (by omega) (by omega)]
  rw [hsize]
  obtain ⟨c', hroom⟩ := makeRoom_grants K (n := chunk.bytes.length) hre hit (by omega) (by omega)
  obtain ⟨hinv, hle, htotal'⟩ := makeRoom_inv K hit (by omega) (by omega) hroom
  obtain ⟨hin, hout, -, -⟩ := makeRoom_frame K hroom
  have hacc : acc.length ≤ (c.iterate K).cap := by
    have : (c.iterate K).total ≤ (c.iterate K).cap := hit.safe.2.1
    omega
  refine ⟨c', hroom, hin, append_inv hinv (by omega) (by omega) hle, ?_, ?_⟩
  · show toInt (c'.total + chunk.bytes.length) = _
    rw [htotal', htotal, toInt_of_fits (by omega) (by omega)]
    omega
  · refine load_append (htotal'.trans htotal) ?_ ?_ (by omega)
    · rw [makeRoom_data K hroom hacc]
      exact h.data
    · rw [hout, iterate_out]
      exact ha.data

/-- The reply carries the number the check wants. -/
theorem answers_accepted {c : Collect σ} {acc : List u8} {k : Nat} {chunk : Chunk} {more : Bool}
    (h : Holds c acc k) (ha : Answers K c k chunk more) :
    SeqOk c.inb (access K c.w c.inb c.out).dataOut := by
  rw [seqOk_seqNum, ha.seq, h.seq]
  omega

/-- A reply with more to come: its chunk is appended and the loop goes on. -/
theorem collectTurn_more {c : Collect σ} {acc : List u8} {k : Nat} {chunk : Chunk}
    (hre : ReallocGrants K) (h : Holds c acc k) (ha : Answers K c k chunk true)
    (hlen : (acc ++ chunk.bytes).length < 1073741824) :
    ∃ c', collectTurn K c = .again c' ∧ Holds c' (acc ++ chunk.bytes) (k + 1) := by
  have hseq := answers_accepted K h ha
  have herr := (iter_accepted_iff K c.w c.inb c.out).mpr ⟨ha.acc, hseq⟩
  obtain ⟨c', hroom, hin, hbuf⟩ := append_buffered K hre h.toBuffered ha hlen
  have hmore : (mlx5RscDumpIter K c.w c.inb c.out).err > 0 :=
    (iter_more_iff K c.w c.inb c.out).mpr ⟨ha.acc, hseq, ha.more.mpr rfl⟩
  have hturn : collectTurn K c = .again (append c' (c.iterate K).iterSize) := by
    rw [collectTurn_accepted K herr, hroom, bind_again, if_pos hmore]
  refine ⟨_, hturn, hbuf, ?_⟩
  exact ((inlineSession K).seqNum_next hturn).trans ha.seq

/-! ## What is returned -/

/-- A buffer that starts with these bytes. -/
def Collected.Returns (r : Collected σ) (bytes : List u8) : Prop :=
  r.total = bytes.length ∧ ∃ data, r.data = some data ∧ load data 0 bytes.length = bytes

/-- The same, or `NULL` when there are none. -/
def Collected.Stops (r : Collected σ) (bytes : List u8) : Prop :=
  if bytes = [] then r.total = 0 ∧ r.data = none else r.Returns bytes

/-- The last reply: its chunk is appended and the buffer is returned. -/
theorem collectTurn_last {c : Collect σ} {acc : List u8} {k : Nat} {chunk : Chunk}
    (hre : ReallocGrants K) (h : Holds c acc k) (ha : Answers K c k chunk false)
    (hlen : (acc ++ chunk.bytes).length < 1073741824) :
    ∃ r, collectTurn K c = .exit r ∧ r.Returns (acc ++ chunk.bytes) := by
  have hseq := answers_accepted K h ha
  have herr := (iter_accepted_iff K c.w c.inb c.out).mpr ⟨ha.acc, hseq⟩
  obtain ⟨c', hroom, -, hbuf⟩ := append_buffered K hre h.toBuffered ha hlen
  have hmore : ¬ (mlx5RscDumpIter K c.w c.inb c.out).err > 0 := by
    intro hgt
    exact absurd (ha.more.mp ((iter_more_iff K c.w c.inb c.out).mp hgt).2.2) (by decide)
  refine ⟨(append c' (c.iterate K).iterSize).leave _, ?_, hbuf.total, _, rfl, hbuf.data⟩
  rw [collectTurn_accepted K herr, hroom, bind_again, if_neg hmore]

/-- A failed access or a rejected reply: what was collected before is returned. -/
theorem collectTurn_stop {c : Collect σ} {acc : List u8} {k : Nat} (h : Holds c acc k)
    (hstop : (access K c.w c.inb c.out).err ≠ 0 ∨
      ¬ SeqOk c.inb (access K c.w c.inb c.out).dataOut) :
    ∃ r, collectTurn K c = .exit r ∧ r.Stops acc := by
  have herr : (mlx5RscDumpIter K c.w c.inb c.out).err < 0 := by
    by_contra hno
    obtain ⟨hacc, hseq⟩ := (iter_accepted_iff K c.w c.inb c.out).mp (Int.not_lt.mp hno)
    exact hstop.elim (fun h => h hacc) (fun h => h hseq)
  obtain ⟨r, hturn, htotal, -, -, hdata⟩ := collectTurn_failed K herr
  refine ⟨r, hturn, ?_⟩
  rw [h.total] at htotal hdata
  unfold Collected.Stops
  split_ifs with hnil
  · subst hnil
    exact ⟨htotal, hdata⟩
  · have hpos : (acc.length : Int) ≠ 0 := by
      have := List.length_pos_iff.mpr hnil
      omega
    rw [if_pos hpos] at hdata
    exact ⟨htotal, c.data, hdata, h.data⟩

/-! ## The run -/

theorem collectStart_holds {w : World σ} (args : Args) (hm : (K.malloc w.sys 4069).1 ≠ none) :
    ∃ c, collectStart K w args 0 = .again c ∧ Holds c [] 0 := by
  obtain ⟨block, hblock⟩ := Option.ne_none_iff_exists'.mp hm
  have hsize : toSize 4069 = 4069 := by decide
  have hstart : ∃ c, collectStart K w args 0 = .again c ∧ c.total = 0 := by
    unfold collectStart
    simp only [ne_eq, not_true_eq_false, if_false, hsize, hblock]
    exact ⟨_, rfl, rfl⟩
  obtain ⟨c, hc, htotal⟩ := hstart
  have hinv : Inv c := by have := collectStart_inv K w args; rwa [hc] at this
  refine ⟨c, hc, ⟨hinv, htotal, rfl⟩, ?_⟩
  rw [collectStart_inb K hc]
  exact seqNum_inlineRequest args

theorem dumpBytes_take_succ (chunks : List Chunk) {k : Nat} (hk : k < chunks.length) :
    dumpBytes (chunks.take (k + 1)) = dumpBytes (chunks.take k) ++ chunks[k].bytes := by
  unfold dumpBytes
  rw [List.take_add_one, List.getElem?_eq_getElem hk, List.flatMap_append]
  simp

theorem dumpBytes_take_le (chunks : List Chunk) (k : Nat) :
    (dumpBytes (chunks.take k)).length ≤ (dumpBytes chunks).length := by
  have := congrArg (fun l => (dumpBytes l).length) (List.take_append_drop k chunks)
  simp only [dumpBytes, List.flatMap_append, List.length_append] at this
  unfold dumpBytes
  omega

/-- The run up to reply `k`, when every reply before has more to come. -/
theorem collect_prefix {w : World σ} {args : Args} {chunks : List Chunk} {k : Nat}
    (hm : (K.malloc w.sys 4069).1 ≠ none) (hre : ReallocGrants K)
    (hlen : (dumpBytes chunks).length < 1073741824) (hk : k ≤ chunks.length)
    (hdev : ∀ i (hi : i < chunks.length), i < k →
      Post (fun c => Answers K c i chunks[i] true) (fun _ => True) (rscdumpCollect K w args 0 i)) :
    ∃ c, rscdumpCollect K w args 0 k = .again c ∧ Holds c (dumpBytes (chunks.take k)) k := by
  induction k with
  | zero =>
      obtain ⟨c, hc, hholds⟩ := collectStart_holds K args hm
      refine ⟨c, ?_, hholds⟩
      unfold rscdumpCollect
      rw [hc]
      rfl
  | succ k ih =>
      obtain ⟨c, hc, hholds⟩ := ih (by omega) fun i hi hik => hdev i hi (by omega)
      have ha := hdev k (by omega) (by omega)
      rw [hc] at ha
      have hle := dumpBytes_take_le chunks (k + 1)
      rw [dumpBytes_take_succ chunks (by omega)] at hle ⊢
      obtain ⟨c', hturn, hholds'⟩ := collectTurn_more K hre hholds ha (by omega)
      exact ⟨c', by rw [rscdumpCollect_succ, hc, bind_again, hturn], hholds'⟩

/-- The run to the end, when the device answers with every chunk. -/
theorem collect_complete {w : World σ} {args : Args} {chunks : List Chunk}
    (hm : (K.malloc w.sys 4069).1 ≠ none) (hre : ReallocGrants K) (hne : chunks ≠ [])
    (hlen : (dumpBytes chunks).length < 1073741824)
    (hdev : ∀ k (hk : k < chunks.length),
      Post (fun c => Answers K c k chunks[k] (k + 1 < chunks.length)) (fun _ => True)
        (rscdumpCollect K w args 0 k)) :
    ∃ r, rscdumpCollect K w args 0 chunks.length = .exit r ∧ r.Returns (dumpBytes chunks) := by
  obtain ⟨k, hk⟩ := Nat.exists_eq_succ_of_ne_zero (List.length_pos_iff.mpr hne).ne'
  have hall : dumpBytes (chunks.take (k + 1)) = dumpBytes chunks := by
    rw [List.take_of_length_le (by omega)]
  rw [dumpBytes_take_succ chunks (by omega)] at hall
  obtain ⟨c, hc, hholds⟩ := collect_prefix K (k := k) hm hre hlen (by omega) fun i hi hik => by
    have := hdev i hi
    rwa [decide_eq_true (by omega : i + 1 < chunks.length)] at this
  have ha := hdev k (by omega)
  rw [hc, decide_eq_false (by omega : ¬ k + 1 < chunks.length)] at ha
  obtain ⟨r, hturn, hret⟩ := collectTurn_last K hre hholds ha (by rw [hall]; exact hlen)
  rw [hall] at hret
  exact ⟨r, by rw [hk, Nat.succ_eq_add_one, rscdumpCollect_succ, hc, bind_again, hturn], hret⟩

/-- **Reassembly is lossless.** With a device that answers request `k` with chunk `k`, numbered
    modulo 16 and with more to come up to the last, `rscdump_collect` returns the chunks in
    order, no more and no less. When reply `k` fails or is rejected instead, it returns the
    chunks before it, or `NULL` when they are empty. -/
theorem collect_lossless (w : World σ) (args : Args) (chunks : List Chunk)
    (hm : (K.malloc w.sys 4069).1 ≠ none) (hre : ReallocGrants K) (hne : chunks ≠ [])
    (hlen : (dumpBytes chunks).length < 1073741824) :
    ((∀ k (hk : k < chunks.length),
        Post (fun c => Answers K c k chunks[k] (k + 1 < chunks.length)) (fun _ => True)
          (rscdumpCollect K w args 0 k)) →
      ∃ r, rscdumpCollect K w args 0 chunks.length = .exit r ∧ r.Returns (dumpBytes chunks)) ∧
    ∀ k < chunks.length,
      (∀ i (hi : i < chunks.length), i < k →
        Post (fun c => Answers K c i chunks[i] (i + 1 < chunks.length)) (fun _ => True)
          (rscdumpCollect K w args 0 i)) →
      Post (fun c => (access K c.w c.inb c.out).err ≠ 0 ∨
          (mlx5RscDumpIter K c.w c.inb c.out).err = -eremoteio) (fun _ => True)
        (rscdumpCollect K w args 0 k) →
      ∃ r, rscdumpCollect K w args 0 (k + 1) = .exit r ∧ r.Stops (dumpBytes (chunks.take k)) := by
  refine ⟨fun hdev => ?_, fun k hk hdev hstop => ?_⟩
  · exact collect_complete K hm hre hne hlen hdev
  · obtain ⟨c, hc, hholds⟩ := collect_prefix K hm hre hlen hk.le fun i hi hik => by
      have := hdev i hi hik
      rwa [decide_eq_true (by omega : i + 1 < chunks.length)] at this
    rw [hc] at hstop
    obtain ⟨r, hturn, hret⟩ := collectTurn_stop K hholds <| hstop.imp_right fun hrej =>
      (rejected_iff K (x := ⟨c.w, c.inb, c.out⟩) (rejected_answered K hrej)).mp hrej
    exact ⟨r, by rw [rscdumpCollect_succ, hc, bind_again, hturn], hret⟩

/-- A dump of two chunks. -/
def twoChunks : List Chunk := [⟨[1, 2, 3], by decide⟩, ⟨[4, 5], by decide⟩]

/-- A device that answers with them. -/
def twoReplies : Sys Nat := scripted fun k => (0, List.replicate 16 0 ++
  (if k = 0 then [0x80, 0x01] else [0x00, 0x02]) ++ List.replicate 36 0 ++
  (if k = 0 then [0, 3] else [0, 2]) ++ List.replicate 8 0 ++
  (if k = 0 then [1, 2, 3] else [4, 5]) ++ List.replicate 205 0)

theorem twoReplies_collected : ∃ r,
    rscdumpCollect twoReplies ⟨0, []⟩ ⟨0, 0, 0, 0, 0⟩ 0 2 = .exit r ∧ r.Returns [1, 2, 3, 4, 5] :=
  (collect_lossless twoReplies ⟨0, []⟩ ⟨0, 0, 0, 0, 0⟩ twoChunks (by decide)
    (fun _ n hn => by
      have hle : n ≤ ptrdiffMax := by unfold ptrdiffMax; omega
      simp [twoReplies, scripted, hle])
    (by decide) (by decide)).1 (by decide +kernel)

end Mlx5ctl.RscDump
