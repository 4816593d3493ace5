/-
  rscdump.c: `rscdump_collect` and `rscdump_collect_umem`, the two loops that put a dump
  together from the replies of the device.

  One turn of a loop is a function on its variables (`collectTurn`, `collectUmemTurn`), run by
  `Turn.run`. Two things in the loop state are not variables of the source: `cap`, the bytes
  the data buffer really has, and `copies`, every `memcpy` made so far with its destination,
  source and length. C gives a run no meaning past a `memcpy` that leaves its buffers; the
  model goes on as in flat memory, so what is shown of the requests holds there too.

  Every statement of the loop bodies is in the order of the source, `int` arithmetic wraps as
  two's complement, and `memcpy` and `realloc` get the `size_t` the `int` converts to.
-/
import Mlx5ctl.RscDump.Iter
import Mlx5ctl.Lib.Loop

namespace Mlx5ctl.RscDump

open ByteMem CInt Ifc

variable {σ : Type} (K : Sys σ)

/-- `Args` -/
structure Args where
  umem : Int
  type : Int
  index1 : Int
  index2 : Int
  vhcaId : Int

/-- One `memcpy`: offset in the destination, offset in the source, length, and the bytes the
    destination has. -/
structure Memcpy where
  dst : Int
  src : Nat
  n : Nat
  cap : Nat

/-- `memcpy(dst + d, src, n)` with a signed offset. -/
def copyAt (dst : Mem) (d : Int) (n : Nat) (src : Mem) : Mem :=
  fun i => if d ≤ i ∧ (i : Int) < d + n then src ((i : Int) - d).toNat else dst i

theorem copyAt_of_nonneg (dst : Mem) (d n : Nat) (src : Mem) :
    copyAt dst (d : Int) n src = copy dst d n src := by
  funext i
  unfold copyAt copy
  by_cases h : d ≤ i ∧ i < d + n
  · rw [if_pos h, if_pos (by omega)]
    congr 1
    omega
  · rw [if_neg h, if_neg (by omega)]

/-- The `resource_dump` fields both collectors set from the arguments. -/
def setArgs (inb : Mem) (args : Args) : Mem :=
  let inb := mlx5Set inb 0 ResourceDump.segmentType (BitVec.ofInt 32 args.type)
  let inb := mlx5Set inb 0 ResourceDump.index1 (BitVec.ofInt 32 args.index1)
  let inb := mlx5Set inb 0 ResourceDump.index2 (BitVec.ofInt 32 args.index2)
  mlx5Set inb 0 ResourceDump.vhcaId (BitVec.ofInt 32 args.vhcaId)

/-! ## Inline dump -/

/-- The variables of `rscdump_collect`. -/
structure Collect (σ : Type) where
  inb : Mem
  out : Mem
  data : Mem
  cap : Nat
  size : Int
  total : Int
  copies : List Memcpy
  w : World σ

/-- What `rscdump_collect` returns: the buffer or `NULL`, and `*total`. -/
structure Collected (σ : Type) where
  data : Option Mem
  total : Int
  cap : Nat
  copies : List Memcpy
  w : World σ

/-- Leave the loop with a pointer. -/
def Collect.leave (c : Collect σ) (data : Option Mem) : Collected σ :=
  ⟨data, c.total, c.cap, c.copies, c.w⟩

/-- The loop variables after `mlx5_rsc_dump_iter`. -/
def Collect.iterate (c : Collect σ) : Collect σ :=
  let it := mlx5RscDumpIter K c.w c.inb c.out
  { c with inb := it.inb, out := it.out, w := it.w }

theorem iterate_out (c : Collect σ) : (c.iterate K).out = (access K c.w c.inb c.out).dataOut :=
  iter_out K c.w c.inb c.out

/-- `iter_size`: the reply's size field, read into an `int`. -/
def Collect.iterSize (c : Collect σ) : Int := toInt (mlx5Get c.out 0 ResourceDump.size).toNat

/-- `if (*total + iter_size > size) { ... realloc ... }` -/
def makeRoom (c : Collect σ) (iterSize : Int) : Turn (Collect σ) (Collected σ) :=
  if toInt (c.total + iterSize) > c.size then
    let r := K.realloc c.w.sys (toSize (toInt (c.size * 2)))
    let w := { c.w with sys := r.2 }
    match r.1 with
    | none =>
        let msg := .errMsg "Failed to re-allocate memory size %d\n" [.int (toInt (c.size * 2))]
        .exit ({ c with w := w.print msg }.leave (some c.data))
    | some tail => .again { c with
        data := fun i => if i < c.cap then c.data i else tail i
        cap := toSize (toInt (c.size * 2))
        size := toInt (c.size * 2)
        w := w }
  else .again c

/-- `memcpy(data + *total, iter_data, iter_size); *total += iter_size;` -/
def append (c : Collect σ) (iterSize : Int) : Collect σ :=
  { c with
    data := copyAt c.data c.total (toSize iterSize) (shift c.out ResourceDump.inlineData)
    total := toInt (c.total + iterSize)
    copies := c.copies ++ [⟨c.total, ResourceDump.inlineData, toSize iterSize, c.cap⟩] }

/-- One turn of the loop. -/
def collectTurn (c : Collect σ) : Turn (Collect σ) (Collected σ) :=
  let err := (mlx5RscDumpIter K c.w c.inb c.out).err
  let c := c.iterate K
  if err < 0 then
    let msg := .errMsg "Resource dump: Failed to access err %d\n" [.int err]
    .exit ({ c with w := c.w.print msg }.leave (if c.total ≠ 0 then some c.data else none))
  else
    (makeRoom K c c.iterSize).bind fun c' =>
      let c := append c' c.iterSize
      if err > 0 then .again c else .exit (c.leave (some c.data))

/-- What `makeRoom` comes to. -/
inductive Room (c : Collect σ) (n : Int) : Prop where
  | enough (fits : toInt (c.total + n) ≤ c.size) (eq : makeRoom K c n = .again c)
  | refused (w : World σ) (full : c.size < toInt (c.total + n))
      (none : (K.realloc c.w.sys (toSize (toInt (c.size * 2)))).1 = none)
      (eq : makeRoom K c n = .exit ({ c with w := w }.leave (some c.data)))
  | grown (w : World σ) (tail : Mem) (full : c.size < toInt (c.total + n))
      (some : (K.realloc c.w.sys (toSize (toInt (c.size * 2)))).1 = some tail)
      (eq : makeRoom K c n = .again { c with
        data := fun i => if i < c.cap then c.data i else tail i
        cap := toSize (toInt (c.size * 2))
        size := toInt (c.size * 2)
        w := w })

theorem makeRoom_room (c : Collect σ) (n : Int) : Room K c n := by
  by_cases h : toInt (c.total + n) > c.size
  · cases hr : (K.realloc c.w.sys (toSize (toInt (c.size * 2)))).1 with
    | none => exact .refused _ h hr (by simp only [makeRoom, if_pos h, hr]; rfl)
    | some tail => exact .grown _ tail h hr (by simp only [makeRoom, if_pos h, hr]; rfl)
  · exact .enough (Int.not_lt.mp h) (by simp only [makeRoom, if_neg h])

theorem makeRoom_frame {c c' : Collect σ} {n : Int} (hm : makeRoom K c n = .again c') :
    c'.inb = c.inb ∧ c'.out = c.out ∧ c'.total = c.total ∧ c'.copies = c.copies := by
  cases makeRoom_room K c n with
  | enough fits eq => rw [eq] at hm; cases hm; exact ⟨rfl, rfl, rfl, rfl⟩
  | refused w full none eq => rw [eq] at hm; cases hm
  | grown w tail full some eq => rw [eq] at hm; cases hm; exact ⟨rfl, rfl, rfl, rfl⟩

/-- A turn whose register access fails, or whose reply is rejected. -/
theorem collectTurn_failed {c : Collect σ} (h : (mlx5RscDumpIter K c.w c.inb c.out).err < 0) :
    ∃ r, collectTurn K c = .exit r ∧ r.total = c.total ∧ r.cap = c.cap ∧ r.copies = c.copies ∧
      r.data = if c.total ≠ 0 then some c.data else none := by
  unfold collectTurn
  dsimp only
  rw [if_pos h]
  exact ⟨_, rfl, rfl, rfl, rfl, rfl⟩

/-- A turn with an accepted reply. -/
theorem collectTurn_accepted {c : Collect σ} (h : 0 ≤ (mlx5RscDumpIter K c.w c.inb c.out).err) :
    collectTurn K c = (makeRoom K (c.iterate K) (c.iterate K).iterSize).bind fun c' =>
      if (mlx5RscDumpIter K c.w c.inb c.out).err > 0 then .again (append c' (c.iterate K).iterSize)
      else .exit ((append c' (c.iterate K).iterSize).leave
        (some (append c' (c.iterate K).iterSize).data)) := by
  unfold collectTurn
  dsimp only
  rw [if_neg (Int.not_lt.mpr h)]

/-- A turn that goes round again had a reply with `more_dump` set, and leaves the next request
    and that reply behind. -/
theorem collectTurn_again {c c' : Collect σ} (h : collectTurn K c = .again c') :
    (access K c.w c.inb c.out).err = 0 ∧ SeqOk c.inb (access K c.w c.inb c.out).dataOut ∧
    c'.inb = nextRequest c.inb (access K c.w c.inb c.out).dataOut ∧
    c'.out = (access K c.w c.inb c.out).dataOut := by
  have hpos : 0 < (mlx5RscDumpIter K c.w c.inb c.out).err ∧
      c'.inb = (mlx5RscDumpIter K c.w c.inb c.out).inb ∧
      c'.out = (mlx5RscDumpIter K c.w c.inb c.out).out := by
    by_cases herr : (mlx5RscDumpIter K c.w c.inb c.out).err < 0
    · obtain ⟨r, hturn, -⟩ := collectTurn_failed K herr
      rw [hturn] at h
      cases h
    · rw [collectTurn_accepted K (Int.not_lt.mp herr)] at h
      obtain ⟨c₁, hm, hc'⟩ := Turn.bind_eq_again h
      obtain ⟨hin, hout, -, -⟩ := makeRoom_frame K hm
      split_ifs at hc' with hgt
      cases hc'
      exact ⟨hgt, hin, hout⟩
  obtain ⟨hgt, hin, hout⟩ := hpos
  obtain ⟨hacc, hseq, hnext⟩ := iter_goes_on K hgt
  exact ⟨hacc, hseq, hin.trans hnext, hout.trans (iter_out K c.w c.inb c.out)⟩

/-- The first request of an inline dump. -/
def inlineRequest (args : Args) : Mem :=
  mlx5Set (setArgs zeroMem args) 0 ResourceDump.inlineDump 1

/-- Up to the loop. -/
def collectStart (w : World σ) (args : Args) (total : Int) : Turn (Collect σ) (Collected σ) :=
  let size := if total ≠ 0 then total else 4069
  let r := K.malloc w.sys (toSize size)
  let w := { w with sys := r.2 }
  match r.1 with
  | none => .exit ⟨none, total, 0, [],
      w.print (.errMsg "Failed to allocate memory size %d\n" [.int size])⟩
  | some block => .again ⟨inlineRequest args, zeroMem, block, toSize size, size, total, [], w⟩

theorem collectStart_inb {w : World σ} {args : Args} {total : Int} {c : Collect σ}
    (h : collectStart K w args total = .again c) : c.inb = inlineRequest args := by
  unfold collectStart at h
  dsimp only at h
  split at h
  · cases h
  · cases h
    rfl

/-- At most `n` turns of `rscdump_collect(dev, args, total)`. -/
def rscdumpCollect (w : World σ) (args : Args) (total : Int) (n : Nat) :
    Turn (Collect σ) (Collected σ) :=
  (collectStart K w args total).bind (Turn.run (collectTurn K) n)

theorem rscdumpCollect_succ (w : World σ) (args : Args) (total : Int) (n : Nat) :
    rscdumpCollect K w args total (n + 1) =
      (rscdumpCollect K w args total n).bind (collectTurn K) := by
  unfold rscdumpCollect
  rw [Turn.bind_assoc]
  congr 1
  funext c
  exact Turn.run_succ' n c

/-! ## Dump into a umem -/

/-- `struct mlx5_umem_buff`, with the address of its buffer. -/
structure UmemBuff where
  buff : u64
  size : Nat
  umemId : u32
  umemMkey : u32

/-- The variables of `rscdump_collect_umem`. -/
structure CollectUmem (σ : Type) where
  inb : Mem
  out : Mem
  temp : Mem
  remain : Int
  total : Int
  i : Int
  copies : List Memcpy
  w : World σ

/-- What `rscdump_collect_umem` returns. -/
structure CollectedUmem (σ : Type) where
  data : Option Mem
  total : Int
  copies : List Memcpy
  w : World σ

/-- Leave the loop with a pointer. -/
def CollectUmem.leave (c : CollectUmem σ) (data : Option Mem) : CollectedUmem σ :=
  ⟨data, c.total, c.copies, c.w⟩

/-- The bytes of `temp_buffer`. -/
def tempBufferBytes : Nat := 1024 * 1024

/-- One turn of the loop. -/
def collectUmemTurn (umem : UmemBuff) (c : CollectUmem σ) :
    Turn (CollectUmem σ) (CollectedUmem σ) :=
  let it := mlx5RscDumpIter K c.w c.inb c.out
  let c := { c with inb := it.inb, out := it.out, w := it.w }
  if it.err < 0 then
    let msg := .errMsg "Resource dump: Failed to access err %d\n" [.int it.err]
    .exit ({ c with w := c.w.print msg }.leave (if c.total ≠ 0 then some c.temp else none))
  else
    let iterSize := toInt (mlx5Get c.out 0 ResourceDump.size).toNat
    let remain := if iterSize < c.remain then toInt (c.remain - iterSize) else c.remain
    let buff := K.umem c.w.sys
    let w := c.w.print (.infoMsg "[%d] Resource dump:\n" [.int c.i])
    let w := w.print (.infoMsg
      "\tcollected %d bytes, remain %d bytes, total %zu, has_more %d\n"
      [.int iterSize, .int remain, .int (toSize (umem.size - remain)),
        .int (if it.err > 0 then 1 else 0)])
    let w := w.print (.hexdump (load buff 0 iterSize.toNat))
    let c := { c with
      temp := copyAt c.temp c.total (toSize iterSize) buff
      remain := remain
      total := toInt (c.total + iterSize)
      i := toInt (c.i + 1)
      copies := c.copies ++ [⟨c.total, 0, toSize iterSize, tempBufferBytes⟩]
      w := w }
    if remain = 0 then .exit (c.leave (some c.temp))
    else if it.err > 0 then .again c
    else .exit (c.leave (some c.temp))

/-- A turn whose register access fails, or whose reply is rejected. -/
theorem collectUmemTurn_failed (umem : UmemBuff) {c : CollectUmem σ}
    (h : (mlx5RscDumpIter K c.w c.inb c.out).err < 0) :
    ∃ r, collectUmemTurn K umem c = .exit r ∧ r.total = c.total ∧ r.copies = c.copies := by
  unfold collectUmemTurn
  dsimp only
  rw [if_pos h]
  exact ⟨_, rfl, rfl, rfl⟩

/-- A turn that goes round again had a reply with `more_dump` set, and leaves the next request
    and that reply behind. -/
theorem collectUmemTurn_again {umem : UmemBuff} {c c' : CollectUmem σ}
    (h : collectUmemTurn K umem c = .again c') :
    (access K c.w c.inb c.out).err = 0 ∧ SeqOk c.inb (access K c.w c.inb c.out).dataOut ∧
    c'.inb = nextRequest c.inb (access K c.w c.inb c.out).dataOut ∧
    c'.out = (access K c.w c.inb c.out).dataOut := by
  have hpos : 0 < (mlx5RscDumpIter K c.w c.inb c.out).err ∧
      c'.inb = (mlx5RscDumpIter K c.w c.inb c.out).inb ∧
      c'.out = (mlx5RscDumpIter K c.w c.inb c.out).out := by
    by_cases herr : (mlx5RscDumpIter K c.w c.inb c.out).err < 0
    · obtain ⟨r, hturn, -⟩ := collectUmemTurn_failed K umem herr
      rw [hturn] at h
      cases h
    · unfold collectUmemTurn at h
      dsimp only at h
      rw [if_neg herr] at h
      by_cases hgt : (mlx5RscDumpIter K c.w c.inb c.out).err > 0
      · rw [if_pos hgt] at h
        split_ifs at h <;> cases h <;> exact ⟨hgt, rfl, rfl⟩
      · rw [if_neg hgt] at h
        split_ifs at h
  obtain ⟨hgt, hin, hout⟩ := hpos
  obtain ⟨hacc, hseq, hnext⟩ := iter_goes_on K hgt
  exact ⟨hacc, hseq, hin.trans hnext, hout.trans (iter_out K c.w c.inb c.out)⟩

/-- The first request of a dump into a umem. -/
def umemRequest (args : Args) (umem : UmemBuff) : Mem :=
  let inb := mlx5Set (setArgs zeroMem args) 0 ResourceDump.inlineDump 0
  let inb := mlx5Set inb 0 ResourceDump.mkey umem.umemMkey
  let inb := mlx5Set64 inb 0 ResourceDump.address umem.buff
  mlx5Set inb 0 ResourceDump.size (BitVec.ofInt 32 (toInt umem.size))

/-- Up to the loop. -/
def collectUmemStart (w : World σ) (args : Args) (umem : UmemBuff) :
    Turn (CollectUmem σ) (CollectedUmem σ) :=
  let r := K.malloc w.sys tempBufferBytes
  let w := { w with sys := r.2 }
  match r.1 with
  | none => .exit ⟨none, 0, [], w.print (.errMsg "Failed to allocate temp buffer\n" [])⟩
  | some block => .again ⟨umemRequest args umem, zeroMem, block, toInt umem.size, 0, 0, [], w⟩

theorem collectUmemStart_inb {w : World σ} {args : Args} {umem : UmemBuff} {c : CollectUmem σ}
    (h : collectUmemStart K w args umem = .again c) : c.inb = umemRequest args umem := by
  unfold collectUmemStart at h
  dsimp only at h
  split at h
  · cases h
  · cases h
    rfl

/-- At most `n` turns of `rscdump_collect_umem(dev, args, umem_buff)`. -/
def rscdumpCollectUmem (w : World σ) (args : Args) (umem : UmemBuff) (n : Nat) :
    Turn (CollectUmem σ) (CollectedUmem σ) :=
  (collectUmemStart K w args umem).bind (Turn.run (collectUmemTurn K umem) n)

end Mlx5ctl.RscDump
