/-
  reg.c and devcaps.c: lines of a pretty printer.

  Nearly all of what the pretty printers do is `printf` of a name and the values of some fields, so
  a printer is a table of such lines. Two buffers are printed alike exactly when they have the same
  value in every field of the table (`printLines_eq_iff`), so only the bytes that hold the fields
  matter (`printLines_congr`).
-/
import Mlx5ctl.Sys

namespace Mlx5ctl

open ByteMem

/-- A value of a line, by `MLX5_GET` or `MLX5_GET64`. -/
inductive PrintedField where
  | get (f : Field)
  | get64 (f : Field64)

namespace PrintedField

/-- The first bit. -/
def off : PrintedField → Nat
  | get f => f.off
  | get64 f => f.off

/-- The bits. -/
def sz : PrintedField → Nat
  | get f => f.sz
  | get64 _ => 64

/-- What is passed to `printf`. -/
def value (p : Mem) : PrintedField → Nat
  | get f => (mlx5Get p 0 f).toNat
  | get64 f => (mlx5Get64 p 0 f).toNat

/-- The value is the number in the bits of the field. -/
theorem value_num (p : Mem) (s : PrintedField) : s.value p = num p s.off s.sz := by
  cases s with
  | get f => exact (mlx5Get_num p 0 f).trans (by rw [Nat.mul_zero, Nat.zero_add]; rfl)
  | get64 f => exact (mlx5Get64_num p 0 f).trans (by rw [Nat.mul_zero, Nat.zero_add]; rfl)

theorem value_congr {p q : Mem} {n : Nat} {s : PrintedField} (hs : s.off + s.sz ≤ 8 * n)
    (h : load p 0 n = load q 0 n) : s.value p = s.value q := by
  rw [value_num, value_num]
  refine num_congr fun i _ hi => ?_
  have hbyte := List.map_inj_left.mp h (i / 8) (List.mem_range.mpr (by omega))
  unfold bit
  rw [show p (i / 8) = q (i / 8) by simpa using hbyte]

end PrintedField

/-- A line: the format, the names in front, and the values. -/
structure FieldLine where
  fmt : String
  names : List String
  values : List PrintedField

/-- The line, printed of a buffer. -/
def FieldLine.line (p : Mem) (l : FieldLine) : Line :=
  .printf l.fmt (l.names.map Arg.text ++ l.values.map fun s => .int (s.value p))

/-- A table of lines, printed of a buffer. -/
def printLines (ls : List FieldLine) (p : Mem) : List Line := ls.map (FieldLine.line p)

/-- The fields of the lines lie in the first `n` bytes. -/
def FieldsIn (ls : List FieldLine) (n : Nat) : Prop :=
  ∀ l ∈ ls, ∀ s ∈ l.values, s.off + s.sz ≤ 8 * n

instance (ls : List FieldLine) (n : Nat) : Decidable (FieldsIn ls n) :=
  inferInstanceAs (Decidable (∀ l ∈ ls, ∀ s ∈ l.values, s.off + s.sz ≤ 8 * n))

theorem line_eq_iff (l : FieldLine) (p q : Mem) :
    l.line p = l.line q ↔ ∀ s ∈ l.values, s.value p = s.value q := by
  unfold FieldLine.line
  rw [Line.printf.injEq, eq_self_iff_true, true_and, List.append_cancel_left_eq, List.map_inj_left]
  simp only [Arg.int.injEq, Int.natCast_inj]

/-- Two buffers are printed alike exactly when no field of the table tells them apart. -/
theorem printLines_eq_iff (ls : List FieldLine) (p q : Mem) :
    printLines ls p = printLines ls q ↔ ∀ l ∈ ls, ∀ s ∈ l.values, s.value p = s.value q := by
  unfold printLines
  rw [List.map_inj_left]
  exact forall₂_congr fun l _ => line_eq_iff l p q

/-- Only the bytes that hold the fields matter. -/
theorem printLines_congr {ls : List FieldLine} {n : Nat} (hls : FieldsIn ls n) {p q : Mem}
    (h : load p 0 n = load q 0 n) : printLines ls p = printLines ls q :=
  (printLines_eq_iff ls p q).mpr fun l hl s hs => PrintedField.value_congr (hls l hl s hs) h

theorem printLines_printf (ls : List FieldLine) (p : Mem) :
    ∀ l ∈ printLines ls p, ∃ fmt args, l = .printf fmt args := by
  intro l hl
  obtain ⟨x, -, rfl⟩ := List.mem_map.mp hl
  exact ⟨_, _, rfl⟩

end Mlx5ctl
