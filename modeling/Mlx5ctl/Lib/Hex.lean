/-
  Bytes as hexadecimal text, and a reader of such text.

  `readHex s` splits `s` on white space and reads every word as a byte. Two digits with white
  space behind them are read as their byte (`readHex_byte`), and more white space changes nothing
  (`readHex_space`), so a text made of the two is read back whatever its line breaks are.
-/
import Mlx5ctl.Lib.CString
import Mlx5ctl.Lib.ByteMem

namespace HexText

open ByteMem CString

/-- The digit of a number below 16. -/
def digit (n : Nat) : Char := Char.ofNat (if n < 10 then 0x30 + n else 0x61 + (n - 10))

/-- `printf("%02x", b)` -/
def hex2 (b : Byte) : CStr := [digit (b.toNat / 16), digit (b.toNat % 16)]

/-- The words of a text, between white space. -/
def words (s : CStr) : List CStr := (s.splitOnP isSpace).filter (· ≠ [])

/-- A word as a hexadecimal byte: one or two digits. -/
def readByte (t : CStr) : Option Byte :=
  if 0 < t.length ∧ t.length ≤ 2 ∧ t.all (digitValue · < 16) then
    some (BitVec.ofNat 8 (number 16 t))
  else none

/-- The bytes a text stands for. -/
def readHex (s : CStr) : Option (List Byte) := (words s).mapM readByte

theorem digitValue_digit : ∀ n, n < 16 → digitValue (digit n) = n := by decide

theorem isSpace_digit : ∀ n, n < 16 → isSpace (digit n) = false := by decide

theorem readByte_hex2 (b : Byte) : readByte (hex2 b) = some b := by
  have hb := b.isLt
  have hhigh := digitValue_digit (b.toNat / 16) (by omega)
  have hlow := digitValue_digit (b.toNat % 16) (by omega)
  have hnumber : number 16 (hex2 b) = b.toNat := by
    simp [number, hex2, hhigh, hlow, List.takeWhile, show b.toNat / 16 < 16 by omega,
      show b.toNat % 16 < 16 by omega]
    omega
  unfold readByte
  rw [if_pos, hnumber, BitVec.ofNat_toNat, BitVec.setWidth_eq]
  simp [hex2, hhigh, hlow]
  omega

@[simp] theorem readHex_nil : readHex [] = some [] := by simp [readHex, words]

/-- White space in front changes nothing. -/
theorem readHex_space {c : Char} (hc : isSpace c = true) (s : CStr) :
    readHex (c :: s) = readHex s := by
  have hnone : ∀ d ∈ ([] : CStr), isSpace d = false := by simp
  have hsplit := List.splitOnP_append_cons_of_forall_mem hnone c hc s
  simp only [List.nil_append] at hsplit
  simp [readHex, words, hsplit]

/-- Two digits in front, ended by white space, are one byte more. -/
theorem readHex_byte {c : Char} (hc : isSpace c = true) (b : Byte) (s : CStr) :
    readHex (hex2 b ++ c :: s) = (readHex s).map (b :: ·) := by
  have hb := b.isLt
  have hword : ∀ d ∈ hex2 b, isSpace d = false := by
    simp [hex2, isSpace_digit _ (show b.toNat / 16 < 16 by omega),
      isSpace_digit _ (show b.toNat % 16 < 16 by omega)]
  have hsplit := List.splitOnP_append_cons_of_forall_mem hword c hc s
  have hne : hex2 b ≠ [] := by simp [hex2]
  simp [readHex, words, hsplit, hne, readByte_hex2, Option.map_eq_bind]

end HexText
