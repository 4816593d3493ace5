/-
  What the tool runs on: the C library and the kernel driver it talks to, and its own output.

  `Sys σ` gives what the calls return in each state `σ` of that outside world. It is a
  parameter throughout: nothing is assumed of the device, and of the allocator only that it
  hands out no object larger than `PTRDIFF_MAX`. A state machine may answer any request in any
  way, also by what it was asked before.
-/
import Mlx5ctl.Ifcutil
import Mlx5ctl.Lib.CInt

namespace Mlx5ctl

open ByteMem CInt

/-- The C library and the kernel, by their state. -/
structure Sys (σ : Type) where
  /-- `malloc`: the contents of the new block, or `NULL`. -/
  malloc : σ → Nat → Option Mem × σ
  /-- `realloc` of a block: the bytes behind the old contents, or `NULL`. -/
  realloc : σ → Nat → Option Mem × σ
  /-- `ioctl(FWCTL_RPC)`: the request and `out_len`; the return value and the response. -/
  rpc : σ → List u8 → Nat → Int × List u8 × σ
  /-- `errno` -/
  errno : σ → Int
  /-- The memory registered with the device as a umem. -/
  umem : σ → Mem
  malloc_limit : ∀ s n, ptrdiffMax < n → (malloc s n).1 = none
  realloc_limit : ∀ s n, ptrdiffMax < n → (realloc s n).1 = none

/-- An argument of a `printf`. -/
inductive Arg where
  | int (v : Int)
  | text (s : String)
  | bytes (b : List u8)
  /-- The C string at this offset of the data that is printed. -/
  | cstr (off : Nat)
  deriving DecidableEq

/-- One output statement. -/
inductive Line where
  | printf (fmt : String) (args : List Arg)
  | infoMsg (fmt : String) (args : List Arg)
  | errMsg (fmt : String) (args : List Arg)
  /-- `fprintf(stderr, ..)` -/
  | eprintf (fmt : String) (args : List Arg)
  | hexdump (b : List u8)
  | fwrite (b : List u8)
  deriving DecidableEq

/-- The state the tool runs in: the outside world, and the output so far. -/
structure World (σ : Type) where
  sys : σ
  out : List Line

/-- The world after some output. -/
def World.print {σ : Type} (w : World σ) (l : Line) : World σ := { w with out := w.out ++ [l] }

/-- `memset(p, 0, n)` -/
def memset0 (p : Mem) (n : Nat) : Mem := fun i => if i < n then 0 else p i

/-- A zero-initialised array. -/
def zeroMem : Mem := fun _ => 0

/-- A world that hands out zeroed memory and answers the commands by number. -/
def scripted (reply : Nat → Int × List u8) : Sys Nat where
  malloc s n := (if n ≤ ptrdiffMax then some zeroMem else none, s)
  realloc s n := (if n ≤ ptrdiffMax then some zeroMem else none, s)
  rpc s _ _ := ((reply s).1, (reply s).2, s + 1)
  errno _ := 0
  umem _ := zeroMem
  malloc_limit _ _ h := if_neg (Nat.not_le.mpr h)
  realloc_limit _ _ h := if_neg (Nat.not_le.mpr h)

theorem scripted_malloc (reply : Nat → Int × List u8) (s : Nat) {n : Nat} (h : n ≤ ptrdiffMax) :
    (scripted reply).malloc s n = (some zeroMem, s) :=
  congrArg (fun x => (x, s)) (if_pos h)

theorem scripted_malloc_ne (reply : Nat → Int × List u8) (s : Nat) {n : Nat}
    (h : n ≤ ptrdiffMax) : ((scripted reply).malloc s n).1 ≠ none := by
  rw [scripted_malloc reply s h]
  simp

end Mlx5ctl
