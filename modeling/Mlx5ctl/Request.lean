/-
  Requests: a mailbox as a run of `MLX5_SET`s, and the requests a run of the tool sends.

  A builder is a list of `Write`s on a buffer. `sets_patched` makes it a run of bit patches, so
  every field is read back (`mlx5Get_sets`) and every other bit is what the buffer held.

  `Sys.recorded` is the same outside world with every command logged. What a function sends is
  what the log gained when it returns.
-/
import Mlx5ctl.Misc
import Mlx5ctl.Lib.Patch

namespace Mlx5ctl

open ByteMem CInt

/-! ## Mailboxes -/

/-- One `MLX5_SET(typ, p + base, fld, v)`. -/
structure Write where
  base : Nat
  field : Field
  value : u32

/-- Only the low bits of the value count. -/
theorem mlx5Set_congr (p : Mem) (base : Nat) {f : Field} {v v' : u32}
    (h : v.toNat % 2 ^ f.sz = v'.toNat % 2 ^ f.sz) : mlx5Set p base f v = mlx5Set p base f v' :=
  (mlx5Set_replaces p base f v).unique ((mlx5Set_replaces p base f v').congr h.symm)

/-- The bits a set writes. -/
def Write.patch (w : Write) : Patch := ⟨8 * w.base + w.field.off, w.field.sz, w.value.toNat⟩

/-- The sets, in order. -/
def sets (p : Mem) (ws : List Write) : Mem :=
  ws.foldl (fun p w => mlx5Set p w.base w.field w.value) p

@[simp] theorem sets_nil (p : Mem) : sets p [] = p := rfl

@[simp] theorem sets_cons (p : Mem) (w : Write) (ws : List Write) :
    sets p (w :: ws) = sets (mlx5Set p w.base w.field w.value) ws := rfl

theorem sets_append (p : Mem) (ws vs : List Write) : sets p (ws ++ vs) = sets (sets p ws) vs :=
  List.foldl_append

/-- The bits the sets write. -/
def patches (ws : List Write) : List Patch := ws.map Write.patch

theorem sets_patched (p : Mem) (ws : List Write) : Patched p (patches ws) (sets p ws) := by
  induction ws generalizing p with
  | nil => exact Patched.nil
  | cons w ws ih => exact Patched.cons (mlx5Set_replaces p w.base w.field w.value) (ih _)

/-- Each of the fields set is read back, modulo its width. -/
theorem mlx5Get_sets {p : Mem} {ws : List Write} {w : Write}
    (hd : (patches ws).Pairwise Patch.Apart) (hw : w ∈ ws) :
    (mlx5Get (sets p ws) w.base w.field).toNat = w.value.toNat % 2 ^ w.field.sz := by
  rw [mlx5Get_num]
  exact (sets_patched p ws).num_mem hd (List.mem_map_of_mem hw)

/-- A bit that no set writes is what the buffer held. -/
theorem bit_sets {p : Mem} {ws : List Write} {i : Nat} (hi : ¬ Covered (patches ws) i) :
    bit (sets p ws) i = bit p i :=
  (sets_patched p ws).uncovered hi

/-- Bit `i` of the bytes of a request. -/
def requestBit (req : List u8) (i : Nat) : Bool := bit (overlay req zeroMem) i

theorem requestBit_load (p : Mem) {n i : Nat} (hi : i < 8 * n) :
    requestBit (load p 0 n) i = bit p i := by
  unfold requestBit bit
  rw [overlay_load p zeroMem (by omega)]

/-- A field of the bytes of a request. -/
def requestField (req : List u8) (base : Nat) (f : Field) : u32 :=
  mlx5Get (overlay req zeroMem) base f

theorem requestField_load (p : Mem) {n base : Nat} {f : Field}
    (hf : 8 * base + f.off + f.sz ≤ 8 * n) :
    requestField (load p 0 n) base f = mlx5Get p base f :=
  mlx5Get_congr fun _ _ _ => requestBit_load p (by omega)

/-- Equal fields, equal bits. -/
theorem requestBit_of_field {req req' : List u8} {f : Field} {i : Nat}
    (h : requestField req 0 f = requestField req' 0 f) (hi : f.off ≤ i) (hi' : i < f.off + f.sz) :
    requestBit req i = requestBit req' i := by
  have hnum := congrArg BitVec.toNat h
  unfold requestField at hnum
  rw [mlx5Get_num, mlx5Get_num] at hnum
  exact bit_of_num hnum (by omega) (by omega)

/-- Two requests of one length are the same when their bits are. -/
theorem request_ext {req req' : List u8} (hlen : req.length = req'.length)
    (h : ∀ i, i < 8 * req.length → requestBit req i = requestBit req' i) : req = req' := by
  have hload := load_eq_iff.mpr h
  rw [load_overlay] at hload
  rw [hload, hlen, load_overlay]

/-- The opcode of a request. -/
def opcodeOf (req : List u8) : u32 := requestField req 0 Ifc.MboxIn.opcode

/-- A field whose bits are all zero. -/
theorem mlx5Get_zero {p : Mem} {base : Nat} {f : Field}
    (h : ∀ i, 8 * base + f.off ≤ i → i < 8 * base + f.off + f.sz → bit p i = false) :
    mlx5Get p base f = 0 := by
  apply BitVec.eq_of_toNat_eq
  rw [mlx5Get_num]
  apply Nat.eq_of_testBit_eq
  intro j
  rw [testBit_num]
  by_cases hj : j < f.sz
  · rw [h _ (by omega) (by omega)]
    simp
  · simp [hj]

/-! ## The commands of a run -/

/-- One `ioctl(FWCTL_RPC)`: what was asked, and what came back. -/
structure Rpc where
  request : List u8
  outLen : Nat
  ret : Int
  reply : List u8

variable {σ : Type} (K : Sys σ)

/-- The same outside world, with the commands logged. -/
def Sys.recorded : Sys (σ × List Rpc) where
  malloc s n := ((K.malloc s.1 n).1, (K.malloc s.1 n).2, s.2)
  realloc s n := ((K.realloc s.1 n).1, (K.realloc s.1 n).2, s.2)
  rpc s req outLen :=
    let r := K.rpc s.1 req outLen
    (r.1, r.2.1, r.2.2, s.2 ++ [⟨req, outLen, r.1, r.2.1⟩])
  errno s := K.errno s.1
  umem s := K.umem s.1
  malloc_limit s n h := K.malloc_limit s.1 n h
  realloc_limit s n h := K.realloc_limit s.1 n h

/-- A command sends one request, the bytes of its mailbox. -/
theorem mlx5uCmd_sent (w : World (σ × List Rpc)) (inb : Mem) (inlen : Nat) (out : Mem)
    (outlen : Nat) :
    (mlx5uCmd K.recorded w inb inlen out outlen).w.sys.2 = w.sys.2 ++
      [⟨load inb 0 (toU32 inlen), toU32 outlen,
        (K.rpc w.sys.1 (load inb 0 (toU32 inlen)) (toU32 outlen)).1,
        (K.rpc w.sys.1 (load inb 0 (toU32 inlen)) (toU32 outlen)).2.1⟩] := by
  unfold mlx5uCmd
  dsimp only
  split_ifs <;> rfl

/-- The requests in the log of a world. -/
def requests (w : World (σ × List Rpc)) : List (List u8) := w.sys.2.map Rpc.request

theorem mlx5uCmd_requests (w : World (σ × List Rpc)) (inb : Mem) (inlen : Nat) (out : Mem)
    (outlen : Nat) :
    requests (mlx5uCmd K.recorded w inb inlen out outlen).w =
      requests w ++ [load inb 0 (toU32 inlen)] := by
  unfold requests
  rw [mlx5uCmd_sent, List.map_append]
  rfl

end Mlx5ctl
