/-
  Tables: an array filled entry by entry, and the first entry that matches.

  A scan that keeps some of its inputs writes each to the next free slot of an array of fixed
  size; the slots it filled are the entries it kept, in order (`Slots.fill_filled`). Two searches,
  one of them coarser, find the same entry exactly when no entry that only the coarser one accepts
  comes first (`find?_coarser_iff`).
-/
import Mathlib.Data.List.Nodup
import Mathlib.Tactic.Common

namespace Table

variable {α β κ : Type}

/-- An array, and how many of its slots are filled. -/
structure Slots (β : Type) where
  slots : List β
  count : Nat

namespace Slots

/-- Put an entry, if there is one, into the next slot. -/
def add (s : Slots β) : Option β → Slots β
  | none => s
  | some b => ⟨s.slots.set s.count b, s.count + 1⟩

/-- The entries in the filled slots. -/
def filled (s : Slots β) : List β := s.slots.take s.count

theorem add_filled (s : Slots β) (o : Option β) (h : s.count < s.slots.length) :
    (s.add o).filled = s.filled ++ o.toList := by
  cases o with
  | none => exact (List.append_nil _).symm
  | some b =>
      unfold add filled
      dsimp only
      rw [List.take_add_one, List.take_set_of_le (Nat.le_refl _), List.getElem?_set_self h]

theorem add_length (s : Slots β) (o : Option β) : (s.add o).slots.length = s.slots.length := by
  cases o with
  | none => rfl
  | some b => exact List.length_set

theorem add_count_le (s : Slots β) (o : Option β) : (s.add o).count ≤ s.count + 1 := by
  cases o with
  | none => exact Nat.le_succ _
  | some b => exact Nat.le_refl _

/-- A scan that has a slot for each input fills the slots with what it keeps, in order. -/
theorem fill_filled (f : α → Option β) (s : Slots β) (l : List α)
    (h : s.count + l.length ≤ s.slots.length) :
    (l.foldl (fun s a => s.add (f a)) s).filled = s.filled ++ l.filterMap f := by
  induction l generalizing s with
  | nil => exact (List.append_nil _).symm
  | cons a l ih =>
      rw [List.length_cons] at h
      have hcount := add_count_le s (f a)
      have hlen := add_length s (f a)
      rw [List.foldl_cons, ih _ (by omega), add_filled s _ (by omega), List.append_assoc,
        List.filterMap_cons]
      cases f a with
      | none => rfl
      | some b => rfl

theorem fill_count (f : α → Option β) (s : Slots β) (l : List α) :
    (l.foldl (fun s a => s.add (f a)) s).count = s.count + (l.filterMap f).length := by
  induction l generalizing s with
  | nil => rfl
  | cons a l ih =>
      rw [List.foldl_cons, ih, List.filterMap_cons]
      cases f a with
      | none => rfl
      | some b =>
          show s.count + 1 + _ = s.count + (_ + 1)
          omega

end Slots

/-- The entry of a table found by its key, where no key is there twice. -/
theorem find?_of_nodup [DecidableEq κ] {key : α → κ} {l : List α} {e : α}
    (hd : (l.map key).Nodup) (he : e ∈ l) : l.find? (fun d => decide (key d = key e)) = some e := by
  induction l with
  | nil => cases he
  | cons d l ih =>
      rw [List.map_cons, List.nodup_cons] at hd
      rcases List.mem_cons.mp he with rfl | he
      · simp
      · have hne : key d ≠ key e := fun h => hd.1 (h ▸ List.mem_map_of_mem he)
        rw [List.find?_cons_of_neg (by simpa using hne)]
        exact ih hd.2 he

/-- A search finds what a finer one finds exactly when each entry that only the coarser one accepts
    has one that both accept before it. -/
theorem find?_coarser_iff {p q : α → Bool} (hpq : ∀ a, q a → p a) (l : List α) :
    l.find? p = l.find? q ↔
      ∀ before d after, l = before ++ d :: after → p d → ¬ q d → ∃ e ∈ before, q e := by
  induction l with
  | nil => simp
  | cons a l ih =>
      by_cases hp : p a
      · rw [List.find?_cons_of_pos hp]
        by_cases hq : q a
        · rw [List.find?_cons_of_pos hq]
          refine iff_of_true rfl fun before d after hl _ hqd => ?_
          cases before with
          | nil =>
              obtain ⟨rfl, -⟩ := List.cons.inj hl
              exact absurd hq hqd
          | cons b before =>
              obtain ⟨rfl, -⟩ := List.cons.inj hl
              exact ⟨a, List.mem_cons_self, hq⟩
        · rw [List.find?_cons_of_neg hq]
          refine iff_of_false (fun h => hq (List.find?_some h.symm)) fun h => ?_
          obtain ⟨e, he, -⟩ := h [] a l rfl hp hq
          cases he
      · have hq : ¬ q a := fun hq => hp (hpq a hq)
        rw [List.find?_cons_of_neg hp, List.find?_cons_of_neg hq, ih]
        constructor
        · intro h before d after hl hd hqd
          cases before with
          | nil =>
              obtain ⟨rfl, -⟩ := List.cons.inj hl
              exact absurd hd hp
          | cons b before =>
              obtain ⟨-, hl⟩ := List.cons.inj hl
              obtain ⟨e, he, hqe⟩ := h before d after hl hd hqd
              exact ⟨e, List.mem_cons_of_mem b he, hqe⟩
        · intro h before d after hl hd hqd
          obtain ⟨e, he, hqe⟩ := h (a :: before) d after (by rw [hl]; rfl) hd hqd
          rcases List.mem_cons.mp he with rfl | he
          · exact absurd hqe hq
          · exact ⟨e, he, hqe⟩

section Read

variable {ν : Type} [DecidableEq κ] (key : α → κ) (val : α → ν) (default : ν)

/-- The value of a key, or the default. -/
def read (l : List α) (k : κ) : ν := ((l.find? fun e => decide (key e = k)).map val).getD default

variable {key val default}

theorem read_of_mem {l : List α} {e : α} (hd : (l.map key).Nodup) (he : e ∈ l) :
    read key val default l (key e) = val e := by
  simp [read, find?_of_nodup hd he]

/-- A table whose values are distinct, the default among them, can be read backwards. -/
theorem read_eq_iff {l : List α} {e : α} (hd : (l.map key).Nodup)
    (hv : (default :: l.map val).Nodup) (he : e ∈ l) (k : κ) :
    read key val default l k = val e ↔ k = key e := by
  constructor
  · intro h
    unfold read at h
    cases hfind : l.find? fun e => decide (key e = k) with
    | none =>
        rw [hfind] at h
        have hmem : default ∈ l.map val := List.mem_map.mpr ⟨e, he, h.symm⟩
        exact absurd hmem (List.nodup_cons.mp hv).1
    | some d =>
        rw [hfind] at h
        have hde : d = e := List.inj_on_of_nodup_map (List.nodup_cons.mp hv).2
          (List.mem_of_find?_eq_some hfind) he h
        have hkey : key d = k := by simpa using List.find?_some hfind
        rw [← hkey, hde]
  · rintro rfl
    exact read_of_mem hd he

/-- What is read is the value of an entry, or the default. -/
theorem read_mem (l : List α) (k : κ) : read key val default l k ∈ default :: l.map val := by
  unfold read
  cases hfind : l.find? fun e => decide (key e = k) with
  | none => exact List.mem_cons_self
  | some d =>
      exact List.mem_cons_of_mem _ (List.mem_map_of_mem (List.mem_of_find?_eq_some hfind))

end Read

end Table
