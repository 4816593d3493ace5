/-
  Memory safety of the dump into a umem, `rscdump_collect_umem`.

  Three numbers go with the loop: `remain`, the `total` collected, and the fixed size of
  `temp_buffer`. A chunk is taken off `remain` only where it is smaller than `remain`, and
  nothing compares `total` with the buffer. `umem_safe_iff`: a run stays inside its buffers with
  `remain` in step exactly when every chunk is empty or smaller than `remain` and still fits
  `temp_buffer`, for a umem whose size fits an `int`.

  `hexdump` and `memcpy` read the same `iter_size` bytes of the umem.
-/
import Mlx5ctl.RscDump.Collect

namespace Mlx5ctl.RscDump

open ByteMem CInt Ifc Turn

variable {σ : Type} (K : Sys σ)

/-! ## One turn -/

/-- The size field of the reply of this turn. -/
def CollectUmem.replySize (c : CollectUmem σ) : Nat :=
  (mlx5Get (access K c.w c.inb c.out).dataOut 0 ResourceDump.size).toNat

/-- The reply of this turn is accepted. -/
def CollectUmem.Accepted (c : CollectUmem σ) : Prop :=
  (access K c.w c.inb c.out).err = 0 ∧ SeqOk c.inb (access K c.w c.inb c.out).dataOut

instance (c : CollectUmem σ) : Decidable (c.Accepted K) :=
  inferInstanceAs (Decidable (_ ∧ (_ ∨ _)))

/-- `remain` at the end of this turn. -/
def CollectUmem.remainAfter (c : CollectUmem σ) : Int :=
  if c.Accepted K ∧ toInt (c.replySize K) < c.remain then toInt (c.remain - toInt (c.replySize K))
  else c.remain

/-- A turn with an accepted reply. -/
theorem collectUmemTurn_accepted (umem : UmemBuff) {c : CollectUmem σ} (h : c.Accepted K) :
    ∃ c', c'.remain = c.remainAfter K ∧ c'.total = toInt (c.total + toInt (c.replySize K)) ∧
      c'.copies = c.copies ++ [⟨c.total, 0, toSize (toInt (c.replySize K)), tempBufferBytes⟩] ∧
      c'.temp = copyAt c.temp c.total (toSize (toInt (c.replySize K)))
        (K.umem (access K c.w c.inb c.out).w.sys) ∧
      collectUmemTurn K umem c =
        if c'.remain = 0 then .exit (c'.leave (some c'.temp))
        else if (mlx5RscDumpIter K c.w c.inb c.out).err > 0 then .again c'
        else .exit (c'.leave (some c'.temp)) := by
  have herr := (iter_accepted_iff K c.w c.inb c.out).mpr h
  have hremain : (if toInt (c.replySize K) < c.remain then
      toInt (c.remain - toInt (c.replySize K)) else c.remain) = c.remainAfter K := by
    unfold CollectUmem.remainAfter
    simp only [h, true_and]
  unfold collectUmemTurn
  dsimp only
  rw [if_neg (Int.not_lt.mpr herr), iter_out, iter_sys, show
    (mlx5Get (access K c.w c.inb c.out).dataOut 0 ResourceDump.size).toNat = c.replySize K from rfl,
    hremain]
  exact ⟨⟨_, _, _, c.remainAfter K, toInt (c.total + toInt (c.replySize K)), _, _, _⟩,
    rfl, rfl, rfl, rfl, rfl⟩

/-! ## Safe turns -/

/-- The bytes copied so far. -/
def collected (copies : List Memcpy) : Nat := (copies.map Memcpy.n).sum

@[simp] theorem collected_nil : collected [] = 0 := rfl

@[simp] theorem collected_snoc (copies : List Memcpy) (m : Memcpy) :
    collected (copies ++ [m]) = collected copies + m.n := by
  simp [collected]

/-- Every copy read inside the umem and wrote inside its buffer, and `remain` is what the umem
    has left. -/
structure UmemSafe (umem : UmemBuff) (remain : Int) (copies : List Memcpy) : Prop where
  reads : ∀ m ∈ copies, m.src + m.n ≤ umem.size
  writes : ∀ m ∈ copies, 0 ≤ m.dst ∧ m.dst + m.n ≤ m.cap
  remain : remain = (umem.size : Int) - collected copies

/-- The turn is safe, and goes round again only with something left. -/
def UmemTurnSafe (umem : UmemBuff) (c : CollectUmem σ) : Prop :=
  Post (fun c' => UmemSafe umem c'.remain c'.copies ∧ c'.remain ≠ 0)
    (fun r => UmemSafe umem (c.remainAfter K) r.copies) (collectUmemTurn K umem c)

/-- The chunk of this turn, if it is accepted, is empty or smaller than `remain`, and has room in
    `temp_buffer`. -/
def UmemChunkFits (c : CollectUmem σ) : Prop :=
  c.Accepted K → (c.replySize K = 0 ∨ (c.replySize K : Int) < c.remain) ∧
    c.total + c.replySize K ≤ tempBufferBytes

/-- The invariant of the loop. -/
structure UmemInv (umem : UmemBuff) (c : CollectUmem σ) : Prop where
  size : umem.size < 2147483648
  safe : UmemSafe umem c.remain c.copies
  total : c.total = collected c.copies
  room : c.total ≤ tempBufferBytes
  left : 0 ≤ c.remain

theorem replySize_lt (c : CollectUmem σ) : c.replySize K < 4294967296 :=
  mlx5Get_lt (access K c.w c.inb c.out).dataOut 0 ResourceDump.size

/-- A chunk that fits is taken off `remain`. -/
theorem remainAfter_of_fits {umem : UmemBuff} {c : CollectUmem σ} (h : UmemInv umem c)
    (hacc : c.Accepted K) (hc : UmemChunkFits K c) :
    toInt (c.replySize K) = c.replySize K ∧ c.remainAfter K = c.remain - c.replySize K ∧
      0 ≤ c.remainAfter K := by
  obtain ⟨hsmall, -⟩ := hc hacc
  have hremain := h.safe.remain
  have hsize := h.size
  have hleft := h.left
  have hint : toInt (c.replySize K) = c.replySize K := toInt_of_fits (by omega) (by omega)
  have hafter : c.remainAfter K = c.remain - c.replySize K := by
    unfold CollectUmem.remainAfter
    rw [hint]
    split_ifs with hlt
    · exact toInt_of_fits (by omega) (by omega)
    · have hzero : c.replySize K = 0 :=
        hsmall.resolve_right fun hless => hlt ⟨hacc, hless⟩
      omega
  exact ⟨hint, hafter, by omega⟩

/-- A turn whose chunk fits is safe and keeps the invariant. -/
theorem umemTurn_fits {umem : UmemBuff} {c : CollectUmem σ} (h : UmemInv umem c)
    (hc : UmemChunkFits K c) :
    UmemTurnSafe K umem c ∧ ∀ c', collectUmemTurn K umem c = .again c' → UmemInv umem c' := by
  by_cases hacc : c.Accepted K
  · obtain ⟨hint, hafter, hpos⟩ := remainAfter_of_fits K h hacc hc
    obtain ⟨hsmall, hroom⟩ := hc hacc
    obtain ⟨c', hremain, htotal, hcopies, -, hturn⟩ := collectUmemTurn_accepted K umem hacc
    have hsize := h.size
    have hold := h.safe.remain
    have hleft := h.left
    have hcol := h.total
    have hbytes : tempBufferBytes = 1048576 := rfl
    have hcopied : toSize (c.replySize K) = c.replySize K := toSize_natCast (by omega)
    rw [hint, hcopied] at hcopies
    rw [hint, toInt_of_fits (by omega) (by omega)] at htotal
    have hsafe : UmemSafe umem c'.remain c'.copies := by
      rw [hcopies, hremain, hafter]
      refine ⟨?_, ?_, ?_⟩
      · intro m hm
        rcases List.mem_append.mp hm with hm | hm
        · exact h.safe.reads m hm
        · rw [List.mem_singleton.mp hm]
          show 0 + c.replySize K ≤ umem.size
          omega
      · intro m hm
        rcases List.mem_append.mp hm with hm | hm
        · exact h.safe.writes m hm
        · rw [List.mem_singleton.mp hm]
          show 0 ≤ c.total ∧ c.total + c.replySize K ≤ tempBufferBytes
          omega
      · rw [collected_snoc]
        dsimp only
        omega
    have hinv : UmemInv umem c' := by
      refine ⟨hsize, hsafe, ?_, ?_, ?_⟩
      · rw [hcopies, collected_snoc, htotal]
        dsimp only
        omega
      · omega
      · omega
    have hexit : UmemSafe umem (c.remainAfter K) c'.copies := hremain ▸ hsafe
    unfold UmemTurnSafe
    rw [hturn]
    split_ifs with hzero hmore
    · exact ⟨hexit, fun c'' h' => by cases h'⟩
    · refine ⟨⟨hsafe, hzero⟩, fun c'' h' => ?_⟩
      cases h'
      exact hinv
    · exact ⟨hexit, fun c'' h' => by cases h'⟩
  · have herr : (mlx5RscDumpIter K c.w c.inb c.out).err < 0 := by
      by_contra hno
      exact hacc ((iter_accepted_iff K c.w c.inb c.out).mp (Int.not_lt.mp hno))
    obtain ⟨r, hturn, -, hcopies⟩ := collectUmemTurn_failed K umem herr
    have hsame : c.remainAfter K = c.remain := if_neg fun hboth => hacc hboth.1
    unfold UmemTurnSafe
    rw [hturn]
    refine ⟨?_, fun c' h' => by cases h'⟩
    show UmemSafe umem (c.remainAfter K) r.copies
    rw [hsame, hcopies]
    exact h.safe

/-- A size of 2 ^ 31 and more is negative as an `int`, and a `memcpy` of it longer than a umem. -/
theorem toInt_of_copied {n size : Nat} (hn : n < 4294967296) (hsize : size < 2147483648)
    (h : toSize (toInt n) ≤ size) : toInt n = n ∧ toSize (toInt n) = n := by
  unfold toSize toInt at *
  omega

/-- A turn whose chunk does not fit is not safe: the copy leaves a buffer, or `remain` stays as
    it was. -/
theorem umemTurn_unsafe {umem : UmemBuff} {c : CollectUmem σ} (h : UmemInv umem c)
    (hc : ¬ UmemChunkFits K c) : ¬ UmemTurnSafe K umem c := by
  rw [UmemChunkFits, Classical.not_imp, not_and] at hc
  obtain ⟨hacc, hc⟩ := hc
  obtain ⟨c', hremain, htotal, hcopies, -, hturn⟩ := collectUmemTurn_accepted K umem hacc
  have hbad : ¬ UmemSafe umem (c.remainAfter K) c'.copies := by
    rintro ⟨hreads, hwrites, hleft⟩
    rw [hcopies] at hreads hwrites hleft
    have hlast : (⟨c.total, 0, toSize (toInt (c.replySize K)), tempBufferBytes⟩ : Memcpy) ∈
        c.copies ++ [⟨c.total, 0, toSize (toInt (c.replySize K)), tempBufferBytes⟩] :=
      List.mem_append_right _ (List.mem_singleton_self _)
    have hread := hreads _ hlast
    have hwrite := (hwrites _ hlast).2
    dsimp only at hread hwrite
    rw [Nat.zero_add] at hread
    obtain ⟨hint, hcopied⟩ := toInt_of_copied (replySize_lt K c) h.size hread
    rw [collected_snoc] at hleft
    dsimp only at hleft
    rw [hcopied, Int.natCast_add] at hleft
    rw [hcopied] at hwrite
    by_cases hless : (c.replySize K : Int) < c.remain
    · exact hc (Or.inr hless) hwrite
    · have hnot : ¬ (c.Accepted K ∧ toInt (c.replySize K) < c.remain) := by
        rw [hint]
        exact fun hboth => hless hboth.2
      have hafter : c.remainAfter K = c.remain := if_neg hnot
      have hold := h.safe.remain
      rw [hafter, hold] at hleft
      have hzero : c.replySize K = 0 := by omega
      exact hc (Or.inl hzero) hwrite
  unfold UmemTurnSafe
  rw [hturn]
  split_ifs
  · exact hbad
  · exact fun hsafe => hbad (hremain ▸ hsafe.1)
  · exact hbad

/-- In a state of the invariant, a turn is safe exactly when its chunk fits. -/
theorem umemTurn_safe_iff {umem : UmemBuff} {c : CollectUmem σ} (h : UmemInv umem c) :
    UmemTurnSafe K umem c ↔ UmemChunkFits K c :=
  ⟨fun hsafe => not_not.mp fun hc => umemTurn_unsafe K h hc hsafe,
    fun hc => (umemTurn_fits K h hc).1⟩

/-! ## The run -/

/-- The run is safe up to its first `n` turns: `remain` starts as the size of the umem, and every
    turn is safe. -/
def UmemRunSafe (w : World σ) (args : Args) (umem : UmemBuff) (n : Nat) : Prop :=
  Post (fun c => UmemSafe umem c.remain c.copies) (fun r => r.copies = [])
    (collectUmemStart K w args umem) ∧
  ∀ k < n, ∀ c, rscdumpCollectUmem K w args umem k = .again c → UmemTurnSafe K umem c

/-- What the loop starts with. -/
theorem collectUmemStart_again {w : World σ} {args : Args} {umem : UmemBuff} {c : CollectUmem σ}
    (h : collectUmemStart K w args umem = .again c) :
    (K.malloc w.sys tempBufferBytes).1 ≠ none ∧ c.remain = toInt umem.size ∧ c.total = 0 ∧
      c.copies = [] := by
  unfold collectUmemStart at h
  dsimp only at h
  cases hm : (K.malloc w.sys tempBufferBytes).1 with
  | none =>
      rw [hm] at h
      cases h
  | some block =>
      rw [hm] at h
      cases h
      exact ⟨by simp, rfl, rfl, rfl⟩

theorem collectUmemStart_exit {w : World σ} {args : Args} {umem : UmemBuff}
    {r : CollectedUmem σ} (h : collectUmemStart K w args umem = .exit r) :
    (K.malloc w.sys tempBufferBytes).1 = none ∧ r.copies = [] := by
  unfold collectUmemStart at h
  dsimp only at h
  cases hm : (K.malloc w.sys tempBufferBytes).1 with
  | none =>
      rw [hm] at h
      cases h
      exact ⟨rfl, rfl⟩
  | some block =>
      rw [hm] at h
      cases h

/-- `remain` starts as the size of the umem exactly when that fits an `int`. -/
theorem umemSafe_start_iff {umem : UmemBuff} :
    UmemSafe umem (toInt umem.size) [] ↔ umem.size < 2147483648 := by
  constructor
  · rintro ⟨-, -, hremain⟩
    rw [collected_nil] at hremain
    unfold toInt at hremain
    omega
  · intro hsize
    refine ⟨fun m hm => absurd hm List.not_mem_nil, fun m hm => absurd hm List.not_mem_nil, ?_⟩
    rw [collected_nil, toInt_of_fits (by omega) (by omega)]
    omega

theorem collectUmemStart_inv {w : World σ} {args : Args} {umem : UmemBuff} {c : CollectUmem σ}
    (h : collectUmemStart K w args umem = .again c) (hsize : umem.size < 2147483648) :
    UmemInv umem c := by
  obtain ⟨-, hremain, htotal, hcopies⟩ := collectUmemStart_again K h
  refine ⟨hsize, ?_, ?_, ?_, ?_⟩
  · rw [hremain, hcopies]
    exact umemSafe_start_iff.mpr hsize
  · rw [htotal, hcopies]
    rfl
  · rw [htotal]
    decide
  · rw [hremain, toInt_of_fits (by omega) (by omega)]
    omega

/-- **The dump into a umem stays inside its buffers exactly when every chunk leaves something.**
    For every outside world, all arguments, every umem and every number of turns: each copy reads
    inside the umem and writes inside `temp_buffer`, `remain` is the size of the umem less what
    was collected, and no turn goes round with nothing left, if and only if the size of the umem
    fits an `int`, every chunk accepted is empty or smaller than `remain` was, and all of them
    fit 1 MiB together. -/
theorem umem_safe_iff (w : World σ) (args : Args) (umem : UmemBuff) (n : Nat) :
    UmemRunSafe K w args umem n ↔
      ((K.malloc w.sys tempBufferBytes).1 ≠ none → umem.size < 2147483648) ∧
      ∀ k < n, ∀ c, rscdumpCollectUmem K w args umem k = .again c → UmemChunkFits K c := by
  unfold UmemRunSafe rscdumpCollectUmem
  cases hs : collectUmemStart K w args umem with
  | exit r =>
      obtain ⟨hm, hcopies⟩ := collectUmemStart_exit K hs
      exact iff_of_true ⟨hcopies, fun k _ c h => by cases h⟩
        ⟨fun hne => absurd hm hne, fun k _ c h => by cases h⟩
  | again c₀ =>
      obtain ⟨hm, hremain, htotal, hcopies⟩ := collectUmemStart_again K hs
      simp only [bind_again]
      show UmemSafe umem c₀.remain c₀.copies ∧ _ ↔ _
      rw [hremain, hcopies, umemSafe_start_iff]
      have hturns : umem.size < 2147483648 → _ := fun hsize =>
        run_step_iff (collectUmemStart_inv K hs hsize) (fun t hP => umemTurn_safe_iff K hP)
          (fun t t' hP hfits => (umemTurn_fits K hP hfits).2 t') n
      exact ⟨fun ⟨hsize, h⟩ => ⟨fun _ => hsize, (hturns hsize).mp h⟩,
        fun ⟨hsize, h⟩ => ⟨hsize hm, (hturns (hsize hm)).mpr h⟩⟩

/-! ## A run that is not safe -/

/-- The device never reports more bytes than the request it answers has room for. -/
def RepliesFit (w : World σ) (args : Args) (umem : UmemBuff) : Prop :=
  ∀ n c, rscdumpCollectUmem K w args umem n = .again c →
    c.replySize K ≤ (mlx5Get c.inb 0 ResourceDump.size).toNat

/-- A device that fills a umem of 2 MiB in one reply. -/
def fullUmem : Sys Nat := scripted fun _ =>
  (0, List.replicate 53 0 ++ [0x20, 0, 0] ++ List.replicate 216 0)

/-- That umem. -/
def twoMiB : UmemBuff := ⟨0, 2097152, 0, 0⟩

/-- The one chunk is as large as the request allows. It is copied to `temp_buffer`, which has half
    as many bytes, and is not taken off `remain`. -/
theorem umem_overflows : ¬ ∀ (σ : Type) (K : Sys σ) (w : World σ) (args : Args) (umem : UmemBuff)
    (n : Nat), RepliesFit K w args umem → UmemRunSafe K w args umem n := by
  intro h
  have hfirst : Post (fun c => c.Accepted fullUmem ∧ c.replySize fullUmem = 2097152 ∧
      (mlx5Get c.inb 0 ResourceDump.size).toNat = 2097152) (fun _ => False)
      (collectUmemStart fullUmem ⟨0, []⟩ ⟨2048, 0, 0, 0, 0⟩ twoMiB) := by decide +kernel
  have hlast : Post (fun _ => False) (fun _ => True)
      (rscdumpCollectUmem fullUmem ⟨0, []⟩ ⟨2048, 0, 0, 0, 0⟩ twoMiB 1) := by decide +kernel
  cases hs : collectUmemStart fullUmem ⟨0, []⟩ ⟨2048, 0, 0, 0, 0⟩ twoMiB with
  | exit r =>
      rw [hs] at hfirst
      exact hfirst
  | again c =>
      rw [hs] at hfirst
      obtain ⟨hacc, hreply, hrequest⟩ := hfirst
      have hfit : RepliesFit fullUmem ⟨0, []⟩ ⟨2048, 0, 0, 0, 0⟩ twoMiB := by
        intro n c' hn
        cases n with
        | zero =>
            unfold rscdumpCollectUmem at hn
            rw [hs] at hn
            cases hn
            rw [hreply, hrequest]
        | succ n =>
            cases hr : rscdumpCollectUmem fullUmem ⟨0, []⟩ ⟨2048, 0, 0, 0, 0⟩ twoMiB 1 with
            | again c₁ =>
                rw [hr] at hlast
                exact hlast.elim
            | exit r =>
                unfold rscdumpCollectUmem at hr hn
                rw [hs] at hr hn
                have hexit := run_exit_mono hr (Nat.le_add_left 1 n)
                rw [bind_again, hexit] at hn
                cases hn
      have hturn := (h Nat fullUmem ⟨0, []⟩ ⟨2048, 0, 0, 0, 0⟩ twoMiB 1 hfit).2 0 Nat.one_pos c
        (by unfold rscdumpCollectUmem; rw [hs]; rfl)
      have hinv := collectUmemStart_inv fullUmem hs (by decide)
      have hroom := ((umemTurn_safe_iff fullUmem hinv).mp hturn hacc).2
      rw [hreply, (collectUmemStart_again fullUmem hs).2.2.1] at hroom
      exact absurd hroom (by decide)

end Mlx5ctl.RscDump
