/-
  The dialogue of a dump with the device: sequence numbers, and what a continuation request is
  made of.

  Both collectors hold the same dialogue. `Exchange` is the part of a loop's state it is about,
  and a `Session` is a loop with two facts: a turn that goes round again leaves the next request
  behind, and a round that fails leaves the loop with nothing copied. `Session.kept` and
  `Session.seqNum_run` are the invariants of a run; the results for the two collectors are read
  off from them.
-/
import Mlx5ctl.RscDump.Collect

namespace Mlx5ctl.RscDump

open ByteMem Ifc Turn

variable {σ : Type} (K : Sys σ)

/-! ## One exchange -/

/-- The world and the two register buffers before a round. -/
structure Exchange (σ : Type) where
  w : World σ
  inb : Mem
  out : Mem

namespace Exchange

/-- The register access succeeds. -/
def Answered (x : Exchange σ) : Prop := (access K x.w x.inb x.out).err = 0

/-- The register the device answers with. -/
def reply (x : Exchange σ) : Mem := (access K x.w x.inb x.out).dataOut

/-- `mlx5_rsc_dump_iter` returns `-EREMOTEIO`. -/
def Rejected (x : Exchange σ) : Prop := (mlx5RscDumpIter K x.w x.inb x.out).err = -eremoteio

/-- `y` continues `x`: its request is the one that follows the accepted reply. -/
structure Next (x y : Exchange σ) : Prop where
  answered : x.Answered K
  seq : SeqOk x.inb (x.reply K)
  inb : y.inb = nextRequest x.inb (x.reply K)
  out : y.out = x.reply K

instance (x : Exchange σ) : Decidable (x.Answered K) := inferInstanceAs (Decidable (_ = _))

instance (x : Exchange σ) : Decidable (x.Rejected K) := inferInstanceAs (Decidable (_ = _))

end Exchange

/-- The sequence number in a register. -/
def seqNum (p : Mem) : Nat := (mlx5Get p 0 ResourceDump.seqNum).toNat

theorem seqNum_lt (p : Mem) : seqNum p < 16 := mlx5Get_lt p 0 ResourceDump.seqNum

/-- The check compares in 32 bits, so 16 is no sequence number; 0 passes always. -/
theorem seqOk_seqNum (inb out : Mem) :
    SeqOk inb out ↔ seqNum out = 0 ∨ seqNum out = (seqNum inb + 1) % 16 := by
  have hin := seqNum_lt inb
  have hout := seqNum_lt out
  unfold SeqOk
  rw [← BitVec.toNat_inj, ← BitVec.toNat_inj, BitVec.toNat_add]
  have h0 : (0 : u32).toNat = 0 := rfl
  have h1 : (1 : u32).toNat = 1 := rfl
  unfold seqNum at *
  omega

theorem rejected_iff {x : Exchange σ} (h : x.Answered K) :
    x.Rejected K ↔ ¬ SeqOk x.inb (x.reply K) := by
  have hacc : (access K x.w x.inb x.out).err = 0 := h
  unfold Exchange.Rejected Exchange.reply
  rcases iter_round K x.w x.inb x.out with
    ⟨acc, -, -⟩ | ⟨-, seq, err, -⟩ | ⟨-, seq, -, err, -⟩ | ⟨-, seq, -, err, -⟩
  · exact absurd hacc acc
  · exact iff_of_true err seq
  · exact iff_of_false (by rw [err]; decide) (not_not.mpr seq)
  · exact iff_of_false (by rw [err]; decide) (not_not.mpr seq)

theorem rejected_answered {x : Exchange σ} (h : x.Rejected K) : x.Answered K := by
  unfold Exchange.Rejected at h
  rcases iter_round K x.w x.inb x.out with
    ⟨-, err, -⟩ | ⟨acc, -, -, -⟩ | ⟨acc, -, -, -, -⟩ | ⟨acc, -, -, -, -⟩
  · rw [err] at h
    exact absurd h (by decide)
  · exact acc
  · exact acc
  · exact acc

/-! ## Sessions -/

/-- A loop that holds the dialogue. -/
structure Session (τ ρ : Type) where
  body : τ → Turn τ ρ
  exchange : τ → Exchange σ
  /-- The copies made so far. -/
  copies : τ → List Memcpy
  /-- The copies made on leaving. -/
  copied : ρ → List Memcpy
  next : ∀ c c', body c = .again c' → (exchange c).Next K (exchange c')
  fails : ∀ c, (mlx5RscDumpIter K (exchange c).w (exchange c).inb (exchange c).out).err < 0 →
    ∃ r, body c = .exit r ∧ copied r = copies c

/-- `rscdump_collect` -/
def inlineSession : Session K (Collect σ) (Collected σ) where
  body := collectTurn K
  exchange c := ⟨c.w, c.inb, c.out⟩
  copies c := c.copies
  copied r := r.copies
  next _ _ h := by
    obtain ⟨hacc, hseq, hin, hout⟩ := collectTurn_again K h
    exact ⟨hacc, hseq, hin, hout⟩
  fails c h := by
    obtain ⟨r, hturn, -, -, hcopies, -⟩ := collectTurn_failed K (c := c) h
    exact ⟨r, hturn, hcopies⟩

/-- `rscdump_collect_umem` -/
def umemSession (umem : UmemBuff) : Session K (CollectUmem σ) (CollectedUmem σ) where
  body := collectUmemTurn K umem
  exchange c := ⟨c.w, c.inb, c.out⟩
  copies c := c.copies
  copied r := r.copies
  next _ _ h := by
    obtain ⟨hacc, hseq, hin, hout⟩ := collectUmemTurn_again K h
    exact ⟨hacc, hseq, hin, hout⟩
  fails c h := by
    obtain ⟨r, hturn, -, hcopies⟩ := collectUmemTurn_failed K umem (c := c) h
    exact ⟨r, hturn, hcopies⟩

namespace Session

variable {K} {τ ρ : Type} (S : Session K τ ρ)

/-- A run keeps every bit of the request that is not copied from the replies. -/
theorem kept {c₀ c : τ} {n : Nat} (h : run S.body n c₀ = .again c) {i : Nat} (hi : ¬ Copied i) :
    bit (S.exchange c).inb i = bit (S.exchange c₀).inb i := by
  refine run_again_invariant (P := fun c => bit (S.exchange c).inb i = bit (S.exchange c₀).inb i)
    rfl (fun t t' ht hturn => ?_) h
  rw [(S.next t t' hturn).inb, (bit_nextRequest _ _ i).2 hi, ht]

/-- The request after an accepted reply carries the sequence number of that reply. -/
theorem seqNum_next {c c' : τ} (h : S.body c = .again c') :
    seqNum (S.exchange c').inb = seqNum ((S.exchange c).reply K) := by
  unfold seqNum
  rw [(S.next c c' h).inb]
  congr 1
  refine mlx5Get_congr fun i hlow hhigh => (bit_nextRequest _ _ i).1 (Or.inl ?_)
  exact ⟨ResourceDump.seqNum, List.mem_cons_self, by omega, by omega⟩

/-- With a device that counts its replies modulo 16, so does the request. -/
theorem seqNum_run {c₀ : τ} (h0 : seqNum (S.exchange c₀).inb = 0)
    (hdev : ∀ n c, run S.body n c₀ = .again c → (S.exchange c).Answered K →
      seqNum ((S.exchange c).reply K) = (n + 1) % 16)
    {n : Nat} {c : τ} (h : run S.body n c₀ = .again c) :
    seqNum (S.exchange c).inb = n % 16 := by
  cases n with
  | zero =>
      cases h
      exact h0
  | succ n =>
      obtain ⟨t, ht, hturn⟩ := run_succ_again h
      rw [S.seqNum_next hturn]
      exact hdev n t ht (S.next t c hturn).answered

end Session

/-! ## The first request -/

theorem seqNum_set (p : Mem) (f : Field) (v : u32) (hd : f.off + f.sz ≤ 12 ∨ 16 ≤ f.off) :
    seqNum (mlx5Set p 0 f v) = seqNum p := by
  unfold seqNum
  rw [mlx5Get_set_ne p 0 f ResourceDump.seqNum v hd.symm]

theorem seqNum_set64 (p : Mem) (d : Field64) (v : u64) (hd : 16 ≤ d.off) :
    seqNum (mlx5Set64 p 0 d v) = seqNum p := by
  unfold seqNum
  have hseq : ResourceDump.seqNum.off + ResourceDump.seqNum.sz = 16 := rfl
  rw [mlx5Get_num, mlx5Get_num]
  exact (mlx5Set64_replaces p 0 d v).num_disjoint (by omega)

theorem seqNum_setArgs (args : Args) : seqNum (setArgs zeroMem args) = 0 := by
  unfold setArgs
  rw [seqNum_set _ _ _ (by decide), seqNum_set _ _ _ (by decide), seqNum_set _ _ _ (by decide),
    seqNum_set _ _ _ (by decide)]
  decide

theorem seqNum_inlineRequest (args : Args) : seqNum (inlineRequest args) = 0 := by
  unfold inlineRequest
  rw [seqNum_set _ _ _ (by decide), seqNum_setArgs]

theorem seqNum_umemRequest (args : Args) (umem : UmemBuff) :
    seqNum (umemRequest args umem) = 0 := by
  unfold umemRequest
  rw [seqNum_set _ _ _ (by decide), seqNum_set64 _ _ _ (by decide), seqNum_set _ _ _ (by decide),
    seqNum_set _ _ _ (by decide), seqNum_setArgs]

/-! ## Sequence integrity -/

/-- What the sequence check guarantees of the runs of a session. -/
structure Sequenced {τ ρ : Type} (S : Session K τ ρ) (run : Nat → Turn τ ρ) : Prop where
  /-- A successful reply is accepted when it carries 0, or one more than the request modulo 16. -/
  accepts : ∀ n c, run n = .again c → (S.exchange c).Answered K →
    (¬ (S.exchange c).Rejected K ↔ seqNum ((S.exchange c).reply K) = 0 ∨
      seqNum ((S.exchange c).reply K) = (seqNum (S.exchange c).inb + 1) % 16)
  /-- The request carries the sequence number of the reply before. -/
  follows : ∀ n c c', run n = .again c → run (n + 1) = .again c' →
    seqNum (S.exchange c').inb = seqNum ((S.exchange c).reply K)
  /-- A device that counts its replies modulo 16 is never rejected. -/
  counts : (∀ n c, run n = .again c → (S.exchange c).Answered K →
      seqNum ((S.exchange c).reply K) = (n + 1) % 16) →
    ∀ n c, run n = .again c → ¬ (S.exchange c).Rejected K
  /-- A reply with another number than these two ends the run, and nothing of it is copied. -/
  rejects : ∀ n c, run n = .again c → (S.exchange c).Answered K →
    seqNum ((S.exchange c).reply K) ≠ 0 →
    seqNum ((S.exchange c).reply K) ≠ (seqNum (S.exchange c).inb + 1) % 16 →
    ∃ r, run (n + 1) = .exit r ∧ S.copied r = S.copies c

theorem Session.sequenced {τ ρ : Type} (S : Session K τ ρ) {start : Turn τ ρ}
    (h0 : ∀ c, start = .again c → seqNum (S.exchange c).inb = 0) :
    Sequenced K S fun n => start.bind (run S.body n) := by
  have haccepts : ∀ c, (S.exchange c).Answered K →
      (¬ (S.exchange c).Rejected K ↔ seqNum ((S.exchange c).reply K) = 0 ∨
        seqNum ((S.exchange c).reply K) = (seqNum (S.exchange c).inb + 1) % 16) := by
    intro c hc
    rw [rejected_iff K hc, not_not, seqOk_seqNum]
  refine ⟨fun _ c _ => haccepts c, ?_, ?_, ?_⟩
  · intro n c c' hn hn'
    obtain ⟨c₀, hs, hrun⟩ := bind_eq_again hn
    rw [hs, bind_again, run_succ', hrun, bind_again] at hn'
    exact S.seqNum_next hn'
  · intro hdev n c hn hrej
    have hans := rejected_answered K hrej
    obtain ⟨c₀, hs, hrun⟩ := bind_eq_again hn
    have hseq := S.seqNum_run (h0 c₀ hs)
      (fun m t ht => hdev m t (by rw [hs, bind_again, ht])) hrun
    have hreply := hdev n c hn hans
    refine (haccepts c hans).mpr (Or.inr ?_) hrej
    rw [hreply, hseq]
    omega
  · intro n c hn hans hne hne'
    have hrej : (S.exchange c).Rejected K := by
      by_contra hno
      rcases (haccepts c hans).mp hno with h | h
      · exact hne h
      · exact hne' h
    obtain ⟨r, hr, hcopies⟩ := S.fails c (by rw [hrej]; decide)
    obtain ⟨c₀, hs, hrun⟩ := bind_eq_again hn
    refine ⟨r, ?_, hcopies⟩
    rw [hs, bind_again, run_succ', hrun, bind_again, hr]

/-- **Sequence integrity.** In every run of either collector the sequence check accepts a
    successful reply exactly when its number is 0 or follows the request's modulo 16, a device
    that counts modulo 16 is never rejected, and no reply with another number is copied. -/
theorem sequence_integrity (w : World σ) (args : Args) :
    (∀ total, Sequenced K (inlineSession K) (rscdumpCollect K w args total)) ∧
    ∀ umem, Sequenced K (umemSession K umem) (rscdumpCollectUmem K w args umem) := by
  refine ⟨fun total => ?_, fun umem => ?_⟩
  · refine (inlineSession K).sequenced K fun c h => ?_
    exact (congrArg seqNum (collectStart_inb K h)).trans (seqNum_inlineRequest args)
  · refine (umemSession K umem).sequenced K fun c h => ?_
    exact (congrArg seqNum (collectUmemStart_inb K h)).trans (seqNum_umemRequest args umem)

/-- A device that restarts its sequence: replies 1 and then 0. -/
def restarting : Sys Nat := scripted fun k =>
  (0, List.replicate 16 0 ++ (if k = 0 then [0x80, 0x01] else [0x00, 0x00]) ++
    List.replicate 254 0)

/-- The reply that restarts is accepted, though it does not follow the request. -/
theorem restart_accepted : ¬ ∀ (σ : Type) (K : Sys σ) (w : World σ) (args : Args) (n : Nat),
    Post (fun c => (access K c.w c.inb c.out).err = 0 →
      ((mlx5RscDumpIter K c.w c.inb c.out).err ≠ -eremoteio ↔
        seqNum (access K c.w c.inb c.out).dataOut = (seqNum c.inb + 1) % 16))
      (fun _ => True) (rscdumpCollect K w args 0 n) := by
  intro h
  exact absurd (h Nat restarting ⟨0, []⟩ ⟨0, 0, 0, 0, 0⟩ 1) (by decide +kernel)

/-! ## Continuation requests -/

/-- The fields no reply changes, with the address. -/
def keptFields : List Field :=
  [ResourceDump.inlineDump, ResourceDump.reservedAt2, ResourceDump.segmentType,
    ResourceDump.reservedAt20, ResourceDump.vhcaId, ResourceDump.reservedAtA0, ResourceDump.mkey,
    ResourceDump.size]

/-- `next` continues the request `first` after `reply`. -/
structure Continues (first reply next : Mem) : Prop where
  /-- The fields `cpy_out2in` is used on are those of the reply. -/
  copied : ∀ f ∈ copiedFields, mlx5Get next 0 f = mlx5Get reply 0 f
  deviceOpaque : mlx5Get64 next 0 ResourceDump.deviceOpaque =
    mlx5Get64 reply 0 ResourceDump.deviceOpaque
  /-- The other fields are those of the first request, -/
  kept : ∀ f ∈ keptFields, mlx5Get next 0 f = mlx5Get first 0 f
  address : mlx5Get64 next 0 ResourceDump.address = mlx5Get64 first 0 ResourceDump.address
  /-- and so is every other bit. -/
  bits : ∀ i, ¬ Copied i → bit next i = bit first i

theorem mlx5Get64_congr {p q : Mem} {d : Field64}
    (h : ∀ i, d.off ≤ i → i < d.off + 64 → bit p i = bit q i) :
    mlx5Get64 p 0 d = mlx5Get64 q 0 d := by
  apply BitVec.eq_of_toNat_eq
  rw [mlx5Get64_num, mlx5Get64_num]
  exact num_congr fun i hlow hhigh => h i (by omega) (by omega)

theorem copiedFields_disjoint : ∀ f ∈ copiedFields, ∀ g ∈ keptFields,
    f.off + f.sz ≤ g.off ∨ g.off + g.sz ≤ f.off := by decide

theorem deviceOpaque_disjoint : ∀ g ∈ keptFields,
    g.off + g.sz ≤ ResourceDump.deviceOpaque.off ∨ ResourceDump.deviceOpaque.off + 64 ≤ g.off := by
  decide

theorem address_disjoint : ∀ f ∈ copiedFields, f.off + f.sz ≤ ResourceDump.address.off := by
  decide

theorem keptFields_not_copied {g : Field} (hg : g ∈ keptFields) {i : Nat} (hi : HasBit g i) :
    ¬ Copied i := by
  obtain ⟨hlow, hhigh⟩ := hi
  rintro (⟨f, hf, hflow, hfhigh⟩ | ⟨hdlow, hdhigh⟩)
  · have := copiedFields_disjoint f hf g hg
    omega
  · have := deviceOpaque_disjoint g hg
    omega

theorem address_not_copied {i : Nat} (hi : ResourceDump.address.off ≤ i) : ¬ Copied i := by
  have hopaque : ResourceDump.deviceOpaque.off + 64 ≤ ResourceDump.address.off := by decide
  rintro (⟨f, hf, hflow, hfhigh⟩ | ⟨hdlow, hdhigh⟩)
  · have := address_disjoint f hf
    omega
  · omega

theorem continues_of_bits {first reply next : Mem}
    (hcopied : ∀ i, Copied i → bit next i = bit reply i)
    (hkept : ∀ i, ¬ Copied i → bit next i = bit first i) : Continues first reply next where
  copied f hf := mlx5Get_congr fun i hlow hhigh =>
    hcopied i (Or.inl ⟨f, hf, by omega, by omega⟩)
  deviceOpaque := mlx5Get64_congr fun i hlow hhigh => hcopied i (Or.inr ⟨hlow, hhigh⟩)
  kept f hf := mlx5Get_congr fun i hlow hhigh =>
    hkept i (keptFields_not_copied hf ⟨by omega, by omega⟩)
  address := mlx5Get64_congr fun i hlow hhigh => hkept i (address_not_copied hlow)
  bits := hkept

theorem Session.continues {τ ρ : Type} (S : Session K τ ρ) {c₀ c c' : τ} {n : Nat}
    (h : run S.body n c₀ = .again c) (h' : run S.body (n + 1) c₀ = .again c') :
    Continues (S.exchange c₀).inb ((S.exchange c).reply K) (S.exchange c').inb := by
  refine continues_of_bits (fun i hi => ?_) (fun i hi => S.kept h' hi)
  rw [run_succ', h, bind_again] at h'
  rw [(S.next c c' h').inb]
  exact (bit_nextRequest _ _ i).1 hi

/-- **Continuation requests.** In every run of either collector, whatever the device answers,
    the request after a reply with more to come has the reply's sequence number, `more_dump`,
    indices, object numbers and `device_opaque`, and is the first request in every other bit. -/
theorem continuation_requests (w : World σ) (args : Args) (n : Nat) :
    (∀ total c c', rscdumpCollect K w args total n = .again c →
      rscdumpCollect K w args total (n + 1) = .again c' →
      Continues (inlineRequest args) (access K c.w c.inb c.out).dataOut c'.inb) ∧
    ∀ umem c c', rscdumpCollectUmem K w args umem n = .again c →
      rscdumpCollectUmem K w args umem (n + 1) = .again c' →
      Continues (umemRequest args umem) (access K c.w c.inb c.out).dataOut c'.inb := by
  refine ⟨fun total c c' h h' => ?_, fun umem c c' h h' => ?_⟩
  · obtain ⟨c₀, hs, hrun⟩ := bind_eq_again h
    unfold rscdumpCollect at h'
    rw [hs, bind_again] at h'
    rw [← collectStart_inb K hs]
    exact (inlineSession K).continues K hrun h'
  · obtain ⟨c₀, hs, hrun⟩ := bind_eq_again h
    unfold rscdumpCollectUmem at h'
    rw [hs, bind_again] at h'
    rw [← collectUmemStart_inb K hs]
    exact (umemSession K umem).continues K hrun h'

end Mlx5ctl.RscDump
