/-
  Memory safety of the inline dump, `rscdump_collect`.

  The code checks that a chunk has room in the data buffer, and doubles the buffer once when
  it has not. It does not check the chunk against the 208 bytes the reply can carry, and the
  size comes from the device. `collect_safe_iff`: a run is safe exactly when no chunk it copies
  is larger than `inline_data`. Then one doubling is enough, because the buffer never has less
  than 4069 bytes, and the `int` arithmetic does not wrap: the last doubling that fits an `int`
  gives 4069 * 2^19 bytes, and `realloc` refuses the next.
-/
import Mlx5ctl.RscDump.Collect

namespace Mlx5ctl.RscDump

open ByteMem CInt Ifc Turn

variable {σ : Type} (K : Sys σ)

/-! ## The size of the data buffer -/

/-- The sizes the data buffer goes through. -/
def BufferSize (size : Int) : Prop := ∃ k ≤ 19, size = 4069 * 2 ^ k

theorem BufferSize.bounds {size : Int} (h : BufferSize size) : 4069 ≤ size ∧ size ≤ 2133327872 := by
  obtain ⟨k, hk, rfl⟩ := h
  have hlow : 1 ≤ 2 ^ k := Nat.one_le_two_pow
  have hhigh : 2 ^ k ≤ 2 ^ 19 := Nat.pow_le_pow_right (by decide) hk
  have hcast : ((2 : Int) ^ k) = ((2 ^ k : Nat) : Int) := by norm_cast
  rw [hcast]
  omega

/-- A doubling that `realloc` grants fits an `int`. -/
theorem BufferSize.double {size : Int} (h : BufferSize size) {s : σ} {tail : Mem}
    (hr : (K.realloc s (toSize (toInt (size * 2)))).1 = some tail) :
    BufferSize (toInt (size * 2)) ∧ toInt (size * 2) = size * 2 := by
  have hb := h.bounds
  obtain ⟨k, hk, rfl⟩ := h
  rcases Nat.lt_or_eq_of_le hk with hlt | rfl
  · have hhigh : 2 ^ k ≤ 2 ^ 18 := Nat.pow_le_pow_right (by decide) (by omega)
    have hcast : ((2 : Int) ^ k) = ((2 ^ k : Nat) : Int) := by norm_cast
    have hfit : toInt (4069 * 2 ^ k * 2) = 4069 * 2 ^ k * 2 := by
      rw [hcast]
      exact toInt_of_fits (by omega) (by omega)
    exact ⟨⟨k + 1, by omega, by rw [hfit, pow_succ, mul_assoc]⟩, hfit⟩
  · -- the twentieth doubling is negative as an `int`, and huge as a `size_t`
    have hneg : toInt (4069 * 2 ^ 19 * 2) = -28311552 := by decide
    rw [hneg, K.realloc_limit s _ (toSize_of_neg (by decide) (by decide))] at hr
    cases hr

/-! ## Safe runs -/

/-- The copy reads inside `inline_data` and writes inside the data buffer. -/
def Memcpy.InBounds (m : Memcpy) : Prop :=
  ResourceDump.inlineData ≤ m.src ∧
  m.src + m.n ≤ ResourceDump.inlineData + ResourceDump.inlineDataBytes ∧
  0 ≤ m.dst ∧ m.dst + m.n ≤ m.cap

/-- Every copy so far was in bounds, and `*total` is inside the buffer. -/
def Safe (total : Int) (cap : Nat) (copies : List Memcpy) : Prop :=
  0 ≤ total ∧ total ≤ cap ∧ ∀ m ∈ copies, m.InBounds

/-- What has happened so far was safe, in the loop or on leaving it. -/
def SafeRun : Turn (Collect σ) (Collected σ) → Prop :=
  Post (fun c => Safe c.total c.cap c.copies) (fun r => Safe r.total r.cap r.copies)

/-- The chunk has room in the data buffer, or `realloc` grants it some. -/
def RoomGranted (c : Collect σ) : Prop :=
  toInt (c.total + c.iterSize) ≤ c.size ∨
    (K.realloc c.w.sys (toSize (toInt (c.size * 2)))).1 ≠ none

/-- The reply of this turn, if it is accepted and room is granted for it, has a chunk of at most
    208 bytes. -/
def ChunkFits (c : Collect σ) : Prop :=
  (access K c.w c.inb c.out).err = 0 → SeqOk c.inb (access K c.w c.inb c.out).dataOut →
  RoomGranted K (c.iterate K) →
    (mlx5Get (access K c.w c.inb c.out).dataOut 0 ResourceDump.size).toNat ≤
      ResourceDump.inlineDataBytes

theorem roomGranted_iff (c : Collect σ) :
    RoomGranted K c ↔ ∃ c', makeRoom K c c.iterSize = .again c' := by
  unfold RoomGranted
  cases makeRoom_room K c c.iterSize with
  | enough fits eq => exact ⟨fun _ => ⟨_, eq⟩, fun _ => Or.inl fits⟩
  | refused w full none eq => simp [eq, none, full]
  | grown w tail full some eq => exact ⟨fun _ => ⟨_, eq⟩, fun _ => Or.inr (by simp [some])⟩

/-- The invariant of the loop. -/
structure Inv (c : Collect σ) : Prop where
  cap : (c.cap : Int) = c.size
  size : BufferSize c.size
  safe : Safe c.total c.cap c.copies

theorem makeRoom_inv {c c' : Collect σ} {n : Int} (h : Inv c) (hn : 0 ≤ n) (hn' : n ≤ 208)
    (hm : makeRoom K c n = .again c') :
    Inv c' ∧ c'.total + n ≤ c'.cap ∧ c'.total = c.total := by
  obtain ⟨hlow, hhigh⟩ := h.size.bounds
  obtain ⟨hcap, hsize, h0, hle, hcopies⟩ := h
  have hfit : toInt (c.total + n) = c.total + n := toInt_of_fits (by omega) (by omega)
  cases makeRoom_room K c n with
  | enough fits eq =>
      rw [eq] at hm
      cases hm
      exact ⟨⟨hcap, hsize, h0, hle, hcopies⟩, by omega, rfl⟩
  | refused w full none eq => rw [eq] at hm; cases hm
  | grown w tail full some eq =>
      rw [eq] at hm
      cases hm
      obtain ⟨hsize', hdbl⟩ := hsize.double K some
      have hcap' : ((toSize (toInt (c.size * 2)) : Nat) : Int) = toInt (c.size * 2) :=
        toSize_of_nonneg (by omega) (by omega)
      refine ⟨⟨hcap', hsize', h0, ?_, hcopies⟩, ?_, rfl⟩ <;> dsimp only <;> omega

theorem append_inv {c : Collect σ} {n : Int} (h : Inv c) (hn : 0 ≤ n) (hn' : n ≤ 208)
    (hroom : c.total + n ≤ c.cap) : Inv (append c n) := by
  obtain ⟨hlow, hhigh⟩ := h.size.bounds
  obtain ⟨hcap, hsize, h0, hle, hcopies⟩ := h
  have hfit : toInt (c.total + n) = c.total + n := toInt_of_fits (by omega) (by omega)
  have hcast : (toSize n : Int) = n := toSize_of_nonneg hn (by omega)
  refine ⟨hcap, hsize, ?_, ?_, ?_⟩
  · show 0 ≤ toInt (c.total + n)
    omega
  · show toInt (c.total + n) ≤ c.cap
    omega
  · intro m hm
    rcases List.mem_append.mp hm with hm | hm
    · exact hcopies m hm
    · rw [List.mem_singleton.mp hm]
      refine ⟨Nat.le_refl _, ?_, h0, ?_⟩
      · show ResourceDump.inlineData + toSize n ≤ _
        have : ResourceDump.inlineDataBytes = 208 := rfl
        omega
      · show c.total + (toSize n : Int) ≤ c.cap
        omega

theorem iterSize_of_fits {c : Collect σ}
    (h : (mlx5Get c.out 0 ResourceDump.size).toNat ≤ ResourceDump.inlineDataBytes) :
    0 ≤ c.iterSize ∧ c.iterSize ≤ 208 := by
  have hb : ResourceDump.inlineDataBytes = 208 := rfl
  unfold Collect.iterSize
  rw [toInt_of_fits (by omega) (by omega)]
  omega

theorem refused_safe {c : Collect σ} {n : Int} {r : Collected σ}
    (h : Safe c.total c.cap c.copies) (hm : makeRoom K c n = .exit r) :
    Safe r.total r.cap r.copies := by
  cases makeRoom_room K c n with
  | enough fits eq => rw [eq] at hm; cases hm
  | refused w full none eq => rw [eq] at hm; cases hm; exact h
  | grown w tail full some eq => rw [eq] at hm; cases hm

/-- A turn whose chunk fits keeps the invariant, or leaves the loop safely. -/
theorem collectTurn_inv {c : Collect σ} (h : Inv c) (hc : ChunkFits K c) :
    Post Inv (fun r => Safe r.total r.cap r.copies) (collectTurn K c) := by
  have hit : Inv (c.iterate K) := ⟨h.cap, h.size, h.safe⟩
  by_cases herr : (mlx5RscDumpIter K c.w c.inb c.out).err < 0
  · obtain ⟨r, hturn, htotal, hcap, hcopies, -⟩ := collectTurn_failed K herr
    rw [hturn]
    show Safe r.total r.cap r.copies
    rw [htotal, hcap, hcopies]
    exact h.safe
  · rw [collectTurn_accepted K (Int.not_lt.mp herr)]
    cases hm : makeRoom K (c.iterate K) (c.iterate K).iterSize with
    | exit r => exact refused_safe K hit.safe hm
    | again c' =>
        obtain ⟨hacc, hseq⟩ := (iter_accepted_iff K c.w c.inb c.out).mp (Int.not_lt.mp herr)
        have hfits := hc hacc hseq ((roomGranted_iff K _).mpr ⟨c', hm⟩)
        rw [← iterate_out] at hfits
        obtain ⟨hn, hn'⟩ := iterSize_of_fits hfits
        obtain ⟨hinv, hroom, -⟩ := makeRoom_inv K hit hn hn' hm
        have happ := append_inv hinv hn hn' hroom
        rw [bind_again]
        split_ifs
        · exact happ
        · exact happ.safe

theorem collectStart_inv (w : World σ) (args : Args) :
    Post Inv (fun r => Safe r.total r.cap r.copies) (collectStart K w args 0) := by
  unfold collectStart
  simp only [ne_eq, not_true_eq_false, if_false]
  cases (K.malloc w.sys (toSize 4069)).1 with
  | none => exact ⟨Int.le_refl 0, Int.le_refl 0, fun m hm => absurd hm List.not_mem_nil⟩
  | some block =>
      have hcap : ((toSize 4069 : Nat) : Int) = 4069 := by decide
      refine ⟨hcap, ⟨0, by decide, rfl⟩, Int.le_refl 0, ?_, fun m hm => absurd hm List.not_mem_nil⟩
      show (0 : Int) ≤ (toSize 4069 : Nat)
      omega

/-- A turn that copies a chunk larger than `inline_data` is not safe. -/
theorem collectTurn_unsafe {c : Collect σ} (hc : ¬ ChunkFits K c) :
    ¬ SafeRun (collectTurn K c) := by
  unfold ChunkFits at hc
  push Not at hc
  obtain ⟨hacc, hseq, hroom, hbig⟩ := hc
  obtain ⟨c', hm⟩ := (roomGranted_iff K _).mp hroom
  have herr := (iter_accepted_iff K c.w c.inb c.out).mpr ⟨hacc, hseq⟩
  rw [← iterate_out] at hbig
  have hn : ResourceDump.inlineDataBytes < toSize (c.iterate K).iterSize := by
    have hb : ResourceDump.inlineDataBytes = 208 := rfl
    have hlt := mlx5Get_lt (c.iterate K).out 0 ResourceDump.size
    have hsz : (2 : Nat) ^ ResourceDump.size.sz = 4294967296 := rfl
    unfold Collect.iterSize toSize toInt
    omega
  have hbad : ¬ Safe (append c' (c.iterate K).iterSize).total (append c' (c.iterate K).iterSize).cap
      (append c' (c.iterate K).iterSize).copies := by
    rintro ⟨-, -, hall⟩
    have hm := hall _ (List.mem_append_right _ (List.mem_singleton_self _))
    have := hm.2.1
    dsimp only at this
    omega
  rw [collectTurn_accepted K herr, hm, bind_again]
  split_ifs
  · exact hbad
  · exact hbad

instance (m : Memcpy) : Decidable m.InBounds := inferInstanceAs (Decidable (_ ∧ _ ∧ _ ∧ _))

instance (total : Int) (cap : Nat) (copies : List Memcpy) : Decidable (Safe total cap copies) :=
  inferInstanceAs (Decidable (_ ∧ _ ∧ _))

instance (t : Turn (Collect σ) (Collected σ)) : Decidable (SafeRun t) :=
  inferInstanceAs (Decidable (Post _ _ t))

/-- **Inline reassembly is memory safe exactly when the chunks fit.** For every outside world
    and all arguments, every `memcpy` of the run stays inside `inline_data` and inside the data
    buffer, with `*total` inside the buffer, if and only if every chunk the run copies has a
    size of at most 208. -/
theorem collect_safe_iff (w : World σ) (args : Args) :
    (∀ n, SafeRun (rscdumpCollect K w args 0 n)) ↔
      ∀ n c, rscdumpCollect K w args 0 n = .again c → ChunkFits K c := by
  constructor
  · intro h n c hn
    by_contra hc
    refine collectTurn_unsafe K hc ?_
    have hnext := h (n + 1)
    rwa [rscdumpCollect_succ, hn, bind_again] at hnext
  · intro h n
    have hinv : Post Inv (fun r => Safe r.total r.cap r.copies) (rscdumpCollect K w args 0 n) :=
      bind_run_invariant (collectStart_inv K w args)
        (fun k c hc hP => collectTurn_inv K hP (h k c hc)) n
    exact hinv.mono (fun _ hc => hc.safe) (fun _ hr => hr)

/-- A device whose first reply reports a chunk of 10000 bytes. -/
def oversizedChunk : Sys Nat := scripted fun _ =>
  (0, List.replicate 54 0 ++ [0x27, 0x10] ++ List.replicate 216 0)

/-- The copy of that chunk reads past `inline_data`, and writes past the buffer that was
    doubled for it. -/
theorem collect_overreads : ¬ ∀ (σ : Type) (K : Sys σ) (w : World σ) (args : Args) (n : Nat),
    SafeRun (rscdumpCollect K w args 0 n) := by
  intro h
  exact absurd (h Nat oversizedChunk ⟨0, []⟩ ⟨0, 0, 0, 0, 0⟩ 1) (by decide +kernel)

end Mlx5ctl.RscDump
