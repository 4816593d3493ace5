/-
  The segment walk of `parse_resource_dump`: when it ends, and what it reads.

  The walk goes from the header at offset 36 to the next by the length in each header, until a
  TERMINATE or ERROR segment or the end of the data. `Reached` is that chain of offsets, read
  off the buffer alone. `walkTurn_last`, `walkTurn_overflow` and `walkTurn_next` say what a turn
  does; `walk_reached` and `reached_walk` that the walk is at an offset of the chain and at each
  of them once.
-/
import Mlx5ctl.RscDump.Parse

namespace Mlx5ctl.RscDump

open ByteMem CInt Ifc Turn

variable (p : Mem) (size : Int)

/-! ## The chain of segments -/

/-- The length of a segment in its header, in dwords. -/
def lengthDw (off : Nat) : Nat := (mlx5Get p off SegmentHeader.lengthDw).toNat

/-- The type of a segment. -/
def segmentType (off : Nat) : Nat := (getSgmntHdr p off).segmentType

/-- The segment ends the walk. -/
def Last (off : Nat) : Prop :=
  segmentType p off = MLX5_RSC_SGMT_TYPE_TERMINATE ∨ segmentType p off = MLX5_RSC_SGMT_TYPE_ERROR

instance (off : Nat) : Decidable (Last p off) := inferInstanceAs (Decidable (_ ∨ _))

/-- The offset behind a segment. -/
def nextOff (off : Nat) : Nat := off + 4 * lengthDw p off

/-- The offsets of the segments in the data. -/
inductive Reached : Nat → Prop where
  | first (h : Response.szBytes + TerminateSegment.szBytes ≤ toSize size) : Reached Response.segment
  | next {off : Nat} (h : Reached off) (hlast : ¬ Last p off) (hlt : (nextOff p off : Int) < size) :
      Reached (nextOff p off)

theorem lengthDw_lt (off : Nat) : lengthDw p off < 65536 :=
  mlx5Get_lt p off SegmentHeader.lengthDw

theorem nextOff_eq (off : Nat) :
    off + toU32 ((mlx5Get p off SegmentHeader.lengthDw).toNat * 4) = nextOff p off := by
  have := lengthDw_lt p off
  unfold nextOff
  unfold lengthDw at *
  unfold toU32
  omega

/-! ## One turn -/

/-- What is printed and read of one segment. -/
def segmentTrace (off : Nat) : Trace := (parseSegment p off).1

/-- The second look at the length. -/
def lengthRead (off : Nat) : Trace := ⟨[], [SegmentHeader.lengthDw.dword off]⟩

/-- The message on leaving the data. -/
def overflowMsg (off : Nat) : Trace :=
  ⟨[.errMsg "Segment overflow %ld, data size %d\n" [.int off, .int size]], []⟩

theorem parseSegment_ret (off : Nat) : (parseSegment p off).2 ≠ 0 ↔ Last p off := by
  have hret : (parseSegment p off).2 = if Last p off then 1 else 0 := rfl
  rw [hret]
  split_ifs with h
  · exact iff_of_true (by decide) h
  · exact iff_of_false (by decide) h

theorem walkTurn_last {s : Walk} (h : Last p s.off) :
    walkTurn p size s =
      .exit ⟨s.off, s.visited ++ [s.off], s.trace ++ segmentTrace p s.off⟩ := by
  unfold walkTurn
  dsimp only
  rw [if_pos ((parseSegment_ret p s.off).mpr h)]
  rfl

theorem walkTurn_overflow {s : Walk} (h : ¬ Last p s.off) (hge : size ≤ nextOff p s.off) :
    walkTurn p size s = .exit ⟨nextOff p s.off, s.visited ++ [s.off],
      s.trace ++ segmentTrace p s.off ++ lengthRead s.off ++
        overflowMsg size (nextOff p s.off)⟩ := by
  unfold walkTurn
  dsimp only
  rw [if_neg (fun hret => h ((parseSegment_ret p s.off).mp hret)), nextOff_eq, if_pos hge]
  rfl

theorem walkTurn_next {s : Walk} (h : ¬ Last p s.off) (hlt : (nextOff p s.off : Int) < size) :
    walkTurn p size s = .again ⟨nextOff p s.off, s.visited ++ [s.off],
      s.trace ++ segmentTrace p s.off ++ lengthRead s.off⟩ := by
  unfold walkTurn
  dsimp only
  rw [if_neg (fun hret => h ((parseSegment_ret p s.off).mp hret)), nextOff_eq,
    if_neg (Int.not_le.mpr hlt)]
  rfl

/-- The turns that go round again. -/
theorem walkTurn_again {s t : Walk} (h : walkTurn p size s = .again t) :
    ¬ Last p s.off ∧ (nextOff p s.off : Int) < size ∧ t.off = nextOff p s.off := by
  by_cases hlast : Last p s.off
  · rw [walkTurn_last p size hlast] at h
    cases h
  · rcases Decidable.em ((nextOff p s.off : Int) < size) with hlt | hge
    · rw [walkTurn_next p size hlast hlt] at h
      cases h
      exact ⟨hlast, hlt, rfl⟩
    · rw [walkTurn_overflow p size hlast (Int.not_lt.mp hge)] at h
      cases h

/-! ## The walk follows the chain -/

theorem parseResourceDump_succ (n : Nat) :
    parseResourceDump p size (n + 1) = (parseResourceDump p size n).bind (walkTurn p size) := by
  unfold parseResourceDump
  rw [bind_assoc]
  congr 1
  funext s
  exact run_succ' n s

theorem walkStart_again {s : Walk} (h : walkStart p size = .again s) :
    Response.szBytes + TerminateSegment.szBytes ≤ toSize size ∧
    s = ⟨Response.segment, [], parsePrefix p size⟩ := by
  unfold walkStart at h
  split_ifs at h with hsize
  cases h
  exact ⟨Nat.not_lt.mp hsize, rfl⟩

theorem walkStart_of_le (h : Response.szBytes + TerminateSegment.szBytes ≤ toSize size) :
    walkStart p size = .again ⟨Response.segment, [], parsePrefix p size⟩ :=
  if_neg (Nat.not_lt.mpr h)

/-- The walk is at an offset of the chain. -/
theorem walk_reached {n : Nat} {s : Walk} (h : parseResourceDump p size n = .again s) :
    Reached p size s.off := by
  obtain ⟨s₀, hs, hrun⟩ := bind_eq_again h
  obtain ⟨hsize, rfl⟩ := walkStart_again p size hs
  refine run_again_invariant (P := fun s => Reached p size s.off) (.first hsize) ?_ hrun
  intro t t' ht hturn
  obtain ⟨hlast, hlt, hoff⟩ := walkTurn_again p size hturn
  rw [hoff]
  exact ht.next hlast hlt

/-- The walk comes to every offset of the chain. -/
theorem reached_walk {off : Nat} (h : Reached p size off) :
    ∃ n s, parseResourceDump p size n = .again s ∧ s.off = off := by
  induction h with
  | first hsize =>
      refine ⟨0, ⟨Response.segment, [], parsePrefix p size⟩, ?_, rfl⟩
      unfold parseResourceDump
      rw [walkStart_of_le p size hsize]
      rfl
  | next _ hlast hlt ih =>
      obtain ⟨n, s, hs, rfl⟩ := ih
      have hturn := walkTurn_next p size hlast hlt
      exact ⟨n + 1, _, by rw [parseResourceDump_succ, hs, bind_again, hturn], rfl⟩

/-! ## Termination -/

/-- Every segment of the chain inside the data that does not end the walk has a length. -/
def NoZeroLength : Prop :=
  ∀ off, Reached p size off → ¬ Last p off → (off : Int) < size → 0 < lengthDw p off

/-- Every turn that goes round again is at least a dword further, and inside the data. -/
theorem walkTurn_progress (hlen : NoZeroLength p size) {s t : Walk} (hs : Reached p size s.off)
    (h : walkTurn p size s = .again t) : s.off + 4 ≤ t.off ∧ (t.off : Int) < size := by
  obtain ⟨hlast, hlt, hoff⟩ := walkTurn_again p size h
  rw [hoff]
  refine ⟨?_, hlt⟩
  unfold nextOff at *
  have hpos : 0 < lengthDw p s.off := hlen s.off hs hlast (by omega)
  omega

/-- The dwords that are left bound the turns. -/
theorem walk_ends (hlen : NoZeroLength p size) :
    ∃ r, parseResourceDump p size (size.toNat / 4 + 1) = .exit r := by
  have hstep : ∀ s t : Walk, Reached p size s.off → walkTurn p size s = .again t →
      Reached p size t.off ∧ (size.toNat - t.off + 3) / 4 < (size.toNat - s.off + 3) / 4 := by
    intro s t hs hturn
    obtain ⟨hfar, hin⟩ := walkTurn_progress p size hlen hs hturn
    obtain ⟨hlast, hlt, hoff⟩ := walkTurn_again p size hturn
    refine ⟨?_, by omega⟩
    rw [hoff]
    exact hs.next hlast hlt
  unfold parseResourceDump
  cases hs : walkStart p size with
  | exit r => exact ⟨r, rfl⟩
  | again s =>
      obtain ⟨hsize, rfl⟩ := walkStart_again p size hs
      obtain ⟨r, hr⟩ := ends_of_measure (fun s : Walk => (size.toNat - s.off + 3) / 4) hstep
        ⟨Response.segment, [], parsePrefix p size⟩ (.first hsize)
      refine ⟨r, run_exit_mono hr ?_⟩
      show (size.toNat - 36 + 3) / 4 + 1 ≤ size.toNat / 4 + 1
      omega

/-- A segment with length 0 is visited for ever. -/
theorem walk_stuck {off : Nat} (h : Reached p size off) (hlast : ¬ Last p off)
    (hlt : (off : Int) < size) (hzero : lengthDw p off = 0) (n : Nat) :
    ∃ s, parseResourceDump p size n = .again s := by
  obtain ⟨m, s, hs, rfl⟩ := reached_walk p size h
  have hnext : nextOff p s.off = s.off := by
    unfold nextOff
    rw [hzero]
    rfl
  have hstuck : ¬ Ends (walkTurn p size) s := by
    refine not_ends_of_closed (P := fun t => t.off = s.off) (fun t ht => ?_) rfl
    refine ⟨_, walkTurn_next p size (by rw [ht]; exact hlast) (by rw [ht, hnext]; exact hlt), ?_⟩
    dsimp only
    rw [ht, hnext]
  obtain ⟨s₀, hstart, hrun⟩ := bind_eq_again hs
  cases hn : parseResourceDump p size n with
  | again t => exact ⟨t, rfl⟩
  | exit r =>
      unfold parseResourceDump at hn
      rw [hstart, bind_again] at hn
      exact absurd ⟨n, r, hn⟩ (not_ends_of_run hrun hstuck)

/-- **Termination of the walk.** For every buffer and every size the walk ends within
    `size / 4 + 1` segments exactly when no segment it comes to, other than a TERMINATE or ERROR
    segment, has length 0 inside the data; and if one has, the walk never ends. -/
theorem walk_ends_iff :
    ((∃ r, parseResourceDump p size (size.toNat / 4 + 1) = .exit r) ↔ NoZeroLength p size) ∧
    (¬ NoZeroLength p size → ∀ n, ∃ s, parseResourceDump p size n = .again s) := by
  have hnever : ¬ NoZeroLength p size → ∀ n, ∃ s, parseResourceDump p size n = .again s := by
    intro h n
    unfold NoZeroLength at h
    push Not at h
    obtain ⟨off, hreached, hlast, hlt, hzero⟩ := h
    exact walk_stuck p size hreached hlast hlt (Nat.le_zero.mp hzero) n
  refine ⟨⟨fun ⟨r, hr⟩ => ?_, walk_ends p size⟩, hnever⟩
  by_contra hno
  obtain ⟨s, hs⟩ := hnever hno (size.toNat / 4 + 1)
  rw [hr] at hs
  cases hs

/-- A buffer of zeroes: a resource segment of length 0 at offset 36. -/
theorem zeroes_never_end : ¬ ∀ (p : Mem) (size : Int),
    ∃ r, parseResourceDump p size (size.toNat / 4 + 1) = .exit r := by
  intro h
  obtain ⟨r, hr⟩ := h zeroMem 40
  obtain ⟨s, hs⟩ := walk_stuck zeroMem 40 (.first (by decide)) (by decide +kernel) (by decide)
    (by decide +kernel) ((40 : Int).toNat / 4 + 1)
  rw [hr] at hs
  cases hs

end Mlx5ctl.RscDump
