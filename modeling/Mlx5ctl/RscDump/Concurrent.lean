/-
  Several dumps at work on one device at the same time.

  A turn of a dump makes one request; whatever the other dumps and their requests do in between,
  the turn finds the outside world as they left it. What a dump has come to is in its own
  variables and in its own request, so with a device that answers by the request alone every dump
  returns its own bytes, in every order of turns (`concurrent_dumps`).
-/
import Mlx5ctl.Lib.Interleave
import Mlx5ctl.RscDump.Server

namespace Mlx5ctl.RscDump

open Turn

variable {σ ι : Type} (K : Sys σ) (args : ι → Args)

/-- What a dump goes on with, and the outside world it leaves. -/
def leaveWorld : Turn (Collect σ) (Collected σ) → Turn (Option (Collect σ)) (Collected σ) × σ
  | .exit r => (.exit r, r.w.sys)
  | .again c => (.again (some c), c.w.sys)

/-- A turn of dump `i`, which starts with its first. -/
def dumpTurn (i : ι) (s : σ) :
    Option (Collect σ) → Turn (Option (Collect σ)) (Collected σ) × σ
  | none => leaveWorld (collectStart K ⟨s, []⟩ (args i) 0)
  | some c => leaveWorld (collectTurn K { c with w := { c.w with sys := s } })

/-- No dump has started. -/
def idle (s : σ) : Loops ι σ (Option (Collect σ)) (Collected σ) := ⟨s, fun _ => .again none⟩

/-- What a dump has after so many turns: nothing before the first, then the chunks of the turns
    behind it, and in the end all of them. -/
inductive Progress (chunks : List Chunk) :
    Nat → Turn (Option (Collect σ)) (Collected σ) → Prop where
  | idle : Progress chunks 0 (.again none)
  | holds {c k} (more : k < chunks.length) (holds : Holds c (dumpBytes (chunks.take k)) k) :
      Progress chunks (k + 1) (.again (some c))
  | returned {r k} (all : chunks.length < k) (returns : r.Returns (dumpBytes chunks)) :
      Progress chunks k (.exit r)

/-- The same, with the chunks the device has for the dump. -/
def Underway (answer : List u8 → List u8) (args : Args) (chunks : List Chunk) (k : Nat) :
    Turn (Option (Collect σ)) (Collected σ) → Prop
  | .again none => k = 0 ∧ Serves answer (inlineRequest args) 0 chunks
  | .again (some c) => ∃ j, k = j + 1 ∧ j < chunks.length ∧
      Midway answer c (dumpBytes (chunks.take j)) j (chunks.drop j)
  | .exit r => chunks.length < k ∧ r.Returns (dumpBytes chunks)

theorem Underway.progress {answer : List u8 → List u8} {args : Args} {chunks : List Chunk}
    {k : Nat} {t : Turn (Option (Collect σ)) (Collected σ)}
    (h : Underway answer args chunks k t) : Progress chunks k t := by
  match t with
  | .again none =>
      rw [h.1]
      exact .idle
  | .again (some c) =>
      obtain ⟨j, rfl, hj, hmid⟩ := h
      exact .holds hj hmid.holds
  | .exit r => exact .returned h.1 h.2

/-- The outside world is no part of what a loop holds. -/
theorem Midway.inWorld {answer : List u8 → List u8} {c : Collect σ} {acc : List u8} {k : Nat}
    {rest : List Chunk} (h : Midway answer c acc k rest) (w : World σ) :
    Midway answer { c with w := w } acc k rest :=
  ⟨⟨⟨⟨h.holds.inv.cap, h.holds.inv.size, h.holds.inv.safe⟩, h.holds.total, h.holds.data⟩,
    h.holds.seq⟩, h.serves⟩

variable {K args} {answer : List u8 → List u8}

/-- One turn of a dump, with the outside world in any state. -/
theorem dumpTurn_underway (hK : Stateless K answer) {chunks : List Chunk} {i : ι}
    (hlen : (dumpBytes chunks).length < 1073741824) {k : Nat} (s : σ) {o : Option (Collect σ)}
    (h : Underway answer (args i) chunks k (.again o)) :
    Underway answer (args i) chunks (k + 1) (dumpTurn K args i s o).1 := by
  match o with
  | none =>
      obtain ⟨rfl, hserves⟩ := h
      obtain ⟨c, hstart, hholds⟩ := collectStart_holds K (w := ⟨s, []⟩) (args i)
        (hK.malloc s 4069 (by decide))
      unfold dumpTurn
      dsimp only
      rw [hstart]
      refine ⟨0, rfl, ?_, hholds, ?_⟩
      · cases hserves <;> simp
      · rwa [collectStart_inb K hstart]
  | some c =>
      obtain ⟨j, rfl, hj, hmid⟩ := h
      rw [List.drop_eq_getElem_cons hj] at hmid
      have hle := dumpBytes_take_le chunks (j + 1)
      rw [dumpBytes_take_succ chunks hj] at hle
      have hturn := (hmid.inWorld ⟨s, c.w.out⟩).turn hK (by omega)
      rw [← dumpBytes_take_succ chunks hj] at hturn
      unfold dumpTurn
      dsimp only
      cases hc : collectTurn K { c with w := ⟨s, c.w.out⟩ } with
      | exit r =>
          rw [hc] at hturn
          obtain ⟨hnil, hret⟩ := hturn
          rw [List.drop_eq_nil_iff] at hnil
          rw [List.take_of_length_le hnil] at hret
          exact ⟨by omega, hret⟩
      | again c' =>
          rw [hc] at hturn
          obtain ⟨hne, hmid'⟩ := hturn
          rw [ne_eq, List.drop_eq_nil_iff] at hne
          exact ⟨j + 1, rfl, by omega, hmid'⟩

/-- **Dumps do not disturb each other.** Any number of dumps are taken from one device that answers
    by the request alone, with their turns in any order and anything else happening to the outside
    world in between. At every time each dump holds the chunks of its own turns, in order; and once
    it took a turn more than it has chunks, it has returned exactly its own dump. -/
theorem concurrent_dumps [DecidableEq ι] (hK : Stateless K answer) {chunks : ι → List Chunk}
    (hserves : ∀ i, Serves answer (inlineRequest (args i)) 0 (chunks i))
    (hlen : ∀ i, (dumpBytes (chunks i)).length < 1073741824) (s : σ)
    (schedule : List (ι ⊕ (σ → σ))) (i : ι) :
    Progress (chunks i) (turnsOf schedule i)
      (((idle s).turns (dumpTurn K args) schedule).state i) := by
  have hrun := Loops.turns_state (dumpTurn K args) (m := idle s) (k := fun _ => 0)
    (P := fun i => Underway answer (args i) (chunks i))
    (fun i k s o h => dumpTurn_underway hK (hlen i) s h)
    (fun i k r h => ⟨Nat.lt_succ_of_lt h.1, h.2⟩) (fun i => ⟨rfl, hserves i⟩) schedule i
  rw [Nat.zero_add] at hrun
  exact hrun.progress

/-- Two dumps that differ in the index they ask for. -/
def twoArgs (b : Bool) : Args := ⟨0, 0x1000, if b then 1 else 0, 0, 0⟩

/-- The bytes of each, told apart by the index. -/
def twoDumps (key : List u8) : List u8 := if key.getD 11 0 = 1 then [1, 2, 3] else [4]

theorem two_dumps : ∃ chunks : Bool → List Chunk,
    (∀ b, dumpBytes (chunks b) = if b then [1, 2, 3] else [4]) ∧
    Progress (chunks true) 3 (((idle ()).turns (dumpTurn (tokens twoDumps 2) twoArgs)
      [.inl true, .inl false, .inl true, .inr id, .inl false, .inl true]).state true) := by
  have hkey : ∀ b, twoDumps (dumpKey (twoArgs b)) = if b then [1, 2, 3] else [4] := by
    decide +kernel
  have hlen : ∀ b, (twoDumps (dumpKey (twoArgs b))).length ≤ 3 := fun b => by
    rw [hkey]
    cases b <;> decide
  have hexists : ∀ b, ∃ chunks,
      Serves (tokenAnswer twoDumps 2) (inlineRequest (twoArgs b)) 0 chunks ∧
      dumpBytes chunks = (twoDumps (dumpKey (twoArgs b))).drop 0 := fun b =>
    tokens_serve twoDumps (by decide) (by decide) (Nat.lt_of_le_of_lt (hlen b) (by decide))
      (Nat.zero_le _) (inlineRequest_wants (twoArgs b))
  choose chunks hserves hbytes using hexists
  have hrun := concurrent_dumps (tokens_stateless twoDumps 2) hserves (fun b => by
      have := hlen b
      rw [hbytes, List.drop_zero]
      omega) () [.inl true, .inl false, .inl true, .inr id, .inl false, .inl true] true
  have hturns : turnsOf (σ := Unit)
      [.inl true, .inl false, .inl true, .inr id, .inl false, .inl true] true = 3 := rfl
  rw [hturns] at hrun
  exact ⟨chunks, fun b => (hbytes b).trans (hkey b), hrun⟩

end Mlx5ctl.RscDump
