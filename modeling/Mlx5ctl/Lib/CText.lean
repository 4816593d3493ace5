/-
  C strings in byte memory, and in fields of a fixed size.

  `CText p a s` says that the string at `a` is `s`: the bytes in front of the first NUL. A field
  of `n` bytes at `a` decides the string there exactly when one of its own bytes is NUL
  (`decides_text_iff`). Where it is full, the string runs on, and the byte behind the field
  decides where it ends.
-/
import Mlx5ctl.Lib.ByteMem

namespace ByteMem

/-- The C string at `a`: the bytes in front of the first NUL. -/
def CText (p : Mem) (a : Nat) (s : List Byte) : Prop :=
  load p a s.length = s ∧ 0 ∉ s ∧ p (a + s.length) = 0

/-- One of the `n` bytes from `a` on is NUL. -/
def Terminated (p : Mem) (a n : Nat) : Prop := ∃ k, k < n ∧ p (a + k) = 0

instance (p : Mem) (a n : Nat) : Decidable (Terminated p a n) :=
  inferInstanceAs (Decidable (∃ k, k < n ∧ p (a + k) = 0))

namespace CText

variable {p q : Mem} {a n : Nat} {s t : List Byte}

theorem nil (h : p a = 0) : CText p a [] := ⟨rfl, List.not_mem_nil, h⟩

theorem cons (hp : p a ≠ 0) (h : CText p (a + 1) s) : CText p a (p a :: s) := by
  obtain ⟨hload, hs, hend⟩ := h
  refine ⟨?_, ?_, ?_⟩
  · rw [List.length_cons, load_succ, hload]
  · rw [List.mem_cons, not_or]
    exact ⟨hp.symm, hs⟩
  · rw [List.length_cons, ← hend]
    congr 1
    omega

/-- A NUL at distance `k` ends some string. -/
theorem exists_le {k : Nat} (h : p (a + k) = 0) : ∃ s, CText p a s ∧ s.length ≤ k := by
  induction k generalizing a with
  | zero => exact ⟨[], nil h, Nat.le_refl 0⟩
  | succ k ih =>
      by_cases hp : p a = 0
      · exact ⟨[], nil hp, Nat.zero_le _⟩
      · obtain ⟨s, hs, hlen⟩ := ih (a := a + 1) (by rw [← h]; congr 1; omega)
        exact ⟨p a :: s, cons hp hs, Nat.succ_le_succ hlen⟩

/-- The bytes of the string are not NUL. -/
theorem ne_zero (h : CText p a s) {k : Nat} (hk : k < s.length) : p (a + k) ≠ 0 := by
  intro hzero
  have hmem := List.getElem_mem (show k < (load p a s.length).length by rwa [load_length])
  rw [getElem_load, h.1, hzero] at hmem
  exact h.2.1 hmem

theorem unique (h : CText p a s) (h' : CText p a t) : s = t := by
  have hlen : s.length = t.length := by
    rcases Nat.lt_trichotomy s.length t.length with hlt | heq | hlt
    · exact absurd h.2.2 (h'.ne_zero hlt)
    · exact heq
    · exact absurd h'.2.2 (h.ne_zero hlt)
  rw [← h.1, ← h'.1, hlen]

/-- The string is the same where its bytes and its NUL are. -/
theorem congr (h : CText p a s) (hq : ∀ k, k ≤ s.length → q (a + k) = p (a + k)) :
    CText q a s := by
  refine ⟨?_, h.2.1, ?_⟩
  · exact (load_congr fun k hk => hq k (Nat.le_of_lt hk)).trans h.1
  · rw [hq _ (Nat.le_refl _)]
    exact h.2.2

/-- It is a prefix of any run of bytes that is as long. -/
theorem isPrefix (h : CText p a s) (hn : s.length ≤ n) : s <+: load p a n := by
  have hsplit := load_add p a s.length (n - s.length)
  rw [Nat.add_sub_cancel' hn, h.1] at hsplit
  exact ⟨_, hsplit.symm⟩

end CText

/-! ## Fields of a fixed size -/

variable {p : Mem} {a n : Nat}

/-- A string that ends in its field. -/
theorem Terminated.text (h : Terminated p a n) : ∃ s, CText p a s ∧ s.length < n := by
  obtain ⟨k, hk, hzero⟩ := h
  obtain ⟨s, hs, hlen⟩ := CText.exists_le hzero
  exact ⟨s, hs, Nat.lt_of_le_of_lt hlen hk⟩

/-- A full field leaves the end of the string to the byte behind it. -/
theorem text_update_iff (h : ¬ Terminated p a n) (b : Byte) :
    CText (Function.update p (a + n) b) a (load p a n) ↔ b = 0 := by
  have hload : load (Function.update p (a + n) b) a n = load p a n :=
    load_congr fun k hk => Function.update_of_ne (by omega) _ _
  unfold CText
  rw [load_length, hload, Function.update_self]
  constructor
  · exact fun htext => htext.2.2
  · intro hb
    refine ⟨rfl, fun hmem => h ?_, hb⟩
    obtain ⟨k, hk, hzero⟩ := List.mem_map.mp hmem
    exact ⟨k, List.mem_range.mp hk, hzero⟩

/-- A field of `n` bytes decides the string in it exactly when it holds a NUL. It is enough to
    look at memories of a kind `R` that lets the byte behind the field be any. -/
theorem decides_text_iff {R : Mem → Prop} (hR : ∀ b, R (Function.update p (a + n) b)) :
    (∀ q, R q → load q a n = load p a n → ∀ s, CText q a s ↔ CText p a s) ↔
      Terminated p a n := by
  constructor
  · intro h
    by_contra hfull
    have hsame : ∀ b, load (Function.update p (a + n) b) a n = load p a n := fun b =>
      load_congr fun k hk => Function.update_of_ne (by omega) _ _
    -- with a NUL behind the field the string is the field, with another byte it is not
    have hzero := (h _ (hR 0) (hsame 0) _).mp ((text_update_iff hfull 0).mpr rfl)
    have hone := (text_update_iff hfull 1).mp ((h _ (hR 1) (hsame 1) _).mpr hzero)
    exact absurd hone (by decide)
  · intro hend q _ hq s
    obtain ⟨t, ht, hlen⟩ := hend.text
    have hbytes : ∀ k, k ≤ t.length → q (a + k) = p (a + k) := by
      intro k hk
      have hk' : k < (load p a n).length := by rw [load_length]; omega
      rw [← getElem_load p a n k hk', ← getElem_load q a n k (by rwa [load_length] at hk' ⊢)]
      exact List.getElem_of_eq hq _
    have ht' := ht.congr hbytes
    exact ⟨fun hs => ht'.unique hs ▸ ht, fun hs => ht.unique hs ▸ ht'⟩

end ByteMem
