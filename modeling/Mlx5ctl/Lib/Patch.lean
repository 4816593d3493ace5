/-
  Memory after a run of writes of bit fields.

  A `Patch` is one write: a run of bits and the number that goes there. `Patched p ws q` says
  that `q` is `p` after the patches `ws`, in order. A bit that some patch covers is the same
  whatever was there before (`Patched.congr`), any other bit is left alone
  (`Patched.uncovered`), and where the patches are apart each of them can be read back
  (`Patched.num_mem`).
-/
import Mlx5ctl.Lib.ByteMem

namespace ByteMem

/-- A write of the low bits of `value` to `width` bits from bit `start` on. -/
structure Patch where
  start : Nat
  width : Nat
  value : Nat

/-- Bit `i` is one of the bits written. -/
def Patch.Covers (w : Patch) (i : Nat) : Prop := w.start ≤ i ∧ i < w.start + w.width

instance (w : Patch) (i : Nat) : Decidable (w.Covers i) := inferInstanceAs (Decidable (_ ∧ _))

/-- The two writes have no bit in common. -/
def Patch.Apart (w v : Patch) : Prop :=
  w.start + w.width ≤ v.start ∨ v.start + v.width ≤ w.start

instance (w v : Patch) : Decidable (w.Apart v) := inferInstanceAs (Decidable (_ ∨ _))

/-- Bit `i` is one of the bits some patch writes. -/
def Covered (ws : List Patch) (i : Nat) : Prop := ∃ w ∈ ws, w.Covers i

instance (ws : List Patch) (i : Nat) : Decidable (Covered ws i) :=
  inferInstanceAs (Decidable (∃ w ∈ ws, w.Covers i))

theorem covered_cons {w : Patch} {ws : List Patch} {i : Nat} :
    Covered (w :: ws) i ↔ w.Covers i ∨ Covered ws i := by
  simp [Covered]

@[simp] theorem not_covered_nil {i : Nat} : ¬ Covered [] i := by
  simp [Covered]

theorem covered_append {ws vs : List Patch} {i : Nat} :
    Covered (ws ++ vs) i ↔ Covered ws i ∨ Covered vs i := by
  simp [Covered, or_and_right, exists_or]

/-- `q` is `p` after the patches, in order. -/
def Patched (p : Mem) : List Patch → Mem → Prop
  | [], q => q = p
  | w :: ws, q => ∃ r, Replaces p w.start w.width w.value r ∧ Patched r ws q

namespace Patched

variable {p p' q q' r : Mem} {w : Patch} {ws vs : List Patch} {i : Nat}

theorem nil : Patched p [] p := rfl

theorem cons (h : Replaces p w.start w.width w.value r) (hs : Patched r ws q) :
    Patched p (w :: ws) q := ⟨r, h, hs⟩

theorem append (h : Patched p ws q) (h' : Patched q vs r) : Patched p (ws ++ vs) r := by
  induction ws generalizing p with
  | nil => cases h; exact h'
  | cons w ws ih =>
      obtain ⟨s, hs, hrest⟩ := h
      exact ⟨s, hs, ih hrest⟩

/-- A bit no patch covers is left alone. -/
theorem uncovered (h : Patched p ws q) (hi : ¬ Covered ws i) : bit q i = bit p i := by
  induction ws generalizing p with
  | nil => rw [h]
  | cons w ws ih =>
      obtain ⟨s, hs, hrest⟩ := h
      obtain ⟨hw, hws⟩ := not_or.mp (mt covered_cons.mpr hi)
      have hout : i < w.start ∨ w.start + w.width ≤ i := by
        unfold Patch.Covers at hw
        omega
      rw [ih hrest hws, hs.outside hout]

/-- The same patches on two memories: a bit ends up the same where it was, or where some patch
    covers it. -/
theorem congr (h : Patched p ws q) (h' : Patched p' ws q')
    (hi : bit p i = bit p' i ∨ Covered ws i) : bit q i = bit q' i := by
  induction ws generalizing p p' with
  | nil =>
      rw [h, h']
      exact hi.resolve_right not_covered_nil
  | cons w ws ih =>
      obtain ⟨s, hs, hrest⟩ := h
      obtain ⟨s', hs', hrest'⟩ := h'
      apply ih hrest hrest'
      by_cases hw : w.Covers i
      · left
        rw [hs.inside hw.1 hw.2, hs'.inside hw.1 hw.2]
      · have hout : i < w.start ∨ w.start + w.width ≤ i := by
          unfold Patch.Covers at hw
          omega
        rw [hs.outside hout, hs'.outside hout]
        exact hi.imp_right fun hc => (covered_cons.mp hc).resolve_left hw

/-- A number in bits no patch covers is left alone. -/
theorem num_apart (h : Patched p ws q) {s n : Nat}
    (hd : ∀ w ∈ ws, w.start + w.width ≤ s ∨ s + n ≤ w.start) : num q s n = num p s n := by
  apply num_congr
  intro i hs hn
  apply h.uncovered
  rintro ⟨w, hw, h1, h2⟩
  have := hd w hw
  omega

/-- Each of the patches that are apart is read back. -/
theorem num_mem (h : Patched p ws q) (hd : ws.Pairwise Patch.Apart) (hw : w ∈ ws) :
    num q w.start w.width = w.value % 2 ^ w.width := by
  induction ws generalizing p with
  | nil => cases hw
  | cons v ws ih =>
      obtain ⟨s, hs, hrest⟩ := h
      obtain ⟨hv, hd⟩ := List.pairwise_cons.mp hd
      rcases List.mem_cons.mp hw with rfl | hw
      · rw [hrest.num_apart fun u hu => (hv u hu).symm, hs.num_self]
      · exact ih hrest hd hw

end Patched

/-! ## Runs of bytes -/

/-- Two runs of bytes are the same when their bits are. -/
theorem load_eq_iff {p q : Mem} {n : Nat} :
    load p 0 n = load q 0 n ↔ ∀ i, i < 8 * n → bit p i = bit q i := by
  constructor
  · intro h i hi
    have hbyte : p (i / 8) = q (i / 8) := by
      have hk : i / 8 < n := by omega
      have hp := getElem_load p 0 n (i / 8) (by rwa [load_length])
      have hq := getElem_load q 0 n (i / 8) (by rwa [load_length])
      rw [Nat.zero_add] at hp hq
      rw [← hp, ← hq]
      exact List.getElem_of_eq h _
    unfold bit
    rw [hbyte]
  · intro h
    apply load_congr
    intro k hk
    rw [Nat.zero_add]
    exact byte_eq_of_bits fun m hm => h _ (by omega)

theorem bit_shift (p : Mem) (a i : Nat) : bit (shift p a) i = bit p (8 * a + i) := by
  have hd : (8 * a + i) / 8 = a + i / 8 := by omega
  have hm : (8 * a + i) % 8 = i % 8 := by omega
  unfold bit shift
  rw [hd, hm]

/-- The same for runs that start at `a`. -/
theorem load_eq_iff_at {p q : Mem} {a n : Nat} :
    load p a n = load q a n ↔ ∀ b, b < 8 * n → bit p (8 * a + b) = bit q (8 * a + b) := by
  have h := load_eq_iff (p := shift p a) (q := shift q a) (n := n)
  simpa only [load_shift, bit_shift, Nat.add_zero] using h

/-- The same patches on two memories leave the same bytes exactly when the bits that no patch
    covers were the same. -/
theorem Patched.load_eq_iff {p p' q q' : Mem} {ws : List Patch} (h : Patched p ws q)
    (h' : Patched p' ws q') (n : Nat) :
    load q 0 n = load q' 0 n ↔ ∀ i, i < 8 * n → ¬ Covered ws i → bit p i = bit p' i := by
  rw [ByteMem.load_eq_iff]
  constructor
  · intro hq i hi hc
    rw [← h.uncovered hc, ← h'.uncovered hc]
    exact hq i hi
  · intro hp i hi
    by_cases hc : Covered ws i
    · exact h.congr h' (Or.inr hc)
    · exact h.congr h' (Or.inl (hp i hi hc))

end ByteMem
