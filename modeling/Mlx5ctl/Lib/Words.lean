/-
  Big-endian 32-bit words in byte memory.

  `Words p a ws` says that the words `ws` stand in memory from offset `a` on. It splits over
  append, so a record laid out as a list of words is read part by part.
-/
import Mlx5ctl.Lib.Endian

namespace ByteMem

/-- The bytes of a big-endian word. -/
def bytes32 (x : BitVec 32) : List Byte :=
  [x.extractLsb' 24 8, x.extractLsb' 16 8, x.extractLsb' 8 8, x.extractLsb' 0 8]

/-- The bytes of a list of words. -/
def bytesOf (ws : List (BitVec 32)) : List Byte := ws.flatMap bytes32

@[simp] theorem bytesOf_nil : bytesOf [] = [] := rfl

theorem bytesOf_cons (w : BitVec 32) (ws : List (BitVec 32)) :
    bytesOf (w :: ws) = bytes32 w ++ bytesOf ws := rfl

theorem bytesOf_append (xs ys : List (BitVec 32)) :
    bytesOf (xs ++ ys) = bytesOf xs ++ bytesOf ys := List.flatMap_append

theorem bytesOf_length (ws : List (BitVec 32)) : (bytesOf ws).length = 4 * ws.length := by
  induction ws with
  | nil => rfl
  | cons w ws ih =>
      rw [bytesOf_cons, List.length_append, ih, List.length_cons]
      show 4 + 4 * ws.length = _
      omega

theorem extractLsb'_bytes (x : BitVec 32) :
    (x.extractLsb' 24 8 ++ x.extractLsb' 16 8 ++ x.extractLsb' 8 8 ++ x.extractLsb' 0 8 :
      BitVec 32) = x := by
  apply BitVec.eq_of_getLsbD_eq
  intro j hj
  rw [getLsbD_bytes]
  simp only [BitVec.getLsbD_extractLsb']
  split_ifs with h0 h1 h2
  · rw [decide_eq_true h0, Bool.true_and, Nat.zero_add]
  · rw [decide_eq_true (by omega), Bool.true_and, Nat.add_sub_cancel' (by omega)]
  · rw [decide_eq_true (by omega), Bool.true_and, Nat.add_sub_cancel' (by omega)]
  · rw [decide_eq_true (by omega), Bool.true_and, Nat.add_sub_cancel' (by omega)]

theorem word32_of_load {p : Mem} {a : Nat} {w : BitVec 32} (h : load p a 4 = bytes32 w) :
    word32 p a = w := by
  simp only [load_succ, load_zero, bytes32, List.cons.injEq, and_true] at h
  obtain ⟨h0, h1, h2, h3⟩ := h
  unfold word32
  rw [h0, h1, h2, h3]
  exact extractLsb'_bytes w

/-- The words stand in memory from `a` on. -/
def Words (p : Mem) (a : Nat) (ws : List (BitVec 32)) : Prop :=
  load p a (4 * ws.length) = bytesOf ws

theorem words_append {p : Mem} {a : Nat} {xs ys : List (BitVec 32)} :
    Words p a (xs ++ ys) ↔ Words p a xs ∧ Words p (a + 4 * xs.length) ys := by
  unfold Words
  rw [List.length_append, Nat.mul_add, load_add, bytesOf_append]
  constructor
  · intro h
    exact List.append_inj h (by rw [load_length, bytesOf_length])
  · rintro ⟨hx, hy⟩
    rw [hx, hy]

theorem words_cons {p : Mem} {a : Nat} {w : BitVec 32} {ws : List (BitVec 32)}
    (h : Words p a (w :: ws)) : word32 p a = w ∧ Words p (a + 4) ws := by
  have hsplit := words_append.mp (show Words p a ([w] ++ ws) from h)
  refine ⟨word32_of_load ?_, hsplit.2⟩
  have hw : load p a (4 * 1) = bytesOf [w] := hsplit.1
  rwa [bytesOf_cons, bytesOf_nil, List.append_nil] at hw

/-- Words at the front of a list of bytes. -/
theorem words_overlay (ws : List (BitVec 32)) (tail : List Byte) (rest : Mem) :
    Words (overlay (bytesOf ws ++ tail) rest) 0 ws := by
  have h := load_overlay (bytesOf ws ++ tail) rest
  rw [List.length_append, load_add] at h
  have hws := (List.append_inj h (load_length _ _ _)).1
  rwa [bytesOf_length] at hws

end ByteMem
