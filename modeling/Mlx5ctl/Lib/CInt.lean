/-
  Conversions between the C integer types of a 64-bit machine, on mathematical integers.
  A value that fits is unchanged; one that does not is reduced modulo the width.
-/
import Mathlib.Tactic.Common

namespace CInt

/-- Conversion to `int`. -/
def toInt (x : Int) : Int := (x + 2147483648) % 4294967296 - 2147483648

/-- Conversion to `char`, which is signed. -/
def toChar (x : Int) : Int := (x + 128) % 256 - 128

/-- Conversion to plain `char`, on a machine where it is signed or not. -/
def toPlainChar (signed : Bool) (x : Int) : Int := if signed then toChar x else x % 256

/-- Conversion to `size_t`. -/
def toSize (x : Int) : Nat := (x % 18446744073709551616).toNat

/-- Conversion to `u32`. -/
def toU32 (x : Int) : Nat := (x % 4294967296).toNat

/-- Conversion to `u16`. -/
def toU16 (x : Int) : Nat := (x % 65536).toNat

/-- The largest object size an allocator hands out. -/
def ptrdiffMax : Nat := 9223372036854775807

theorem toInt_of_fits {x : Int} (h : -2147483648 ≤ x) (h' : x < 2147483648) : toInt x = x := by
  unfold toInt
  omega

/-- A value of seven bits is the same `char` on every machine. -/
theorem toPlainChar_of_fits (signed : Bool) {x : Int} (h : 0 ≤ x) (h' : x < 128) :
    toPlainChar signed x = x := by
  unfold toPlainChar toChar
  split_ifs <;> omega

theorem toSize_of_nonneg {x : Int} (h : 0 ≤ x) (h' : x < 18446744073709551616) :
    (toSize x : Int) = x := by
  unfold toSize
  omega

theorem toSize_natCast {n : Nat} (h : n < 18446744073709551616) : toSize n = n := by
  unfold toSize
  omega

theorem toU32_natCast {n : Nat} (h : n < 4294967296) : toU32 n = n := by
  unfold toU32
  omega

/-- A negative `int` is a `size_t` beyond every object. -/
theorem toSize_of_neg {x : Int} (h : x < 0) (h' : -2147483648 ≤ x) : ptrdiffMax < toSize x := by
  unfold toSize ptrdiffMax
  omega

end CInt
