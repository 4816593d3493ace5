/-
  C strings and the number parsers of <stdlib.h>.

  A C string is its characters, without the terminating NUL. `strtoul s` is `strtoul(s, NULL, 0)`
  on a machine with 64-bit `long`: white space, a sign, a base by prefix, and the longest run of
  digits; `atoi` reads decimal. Both saturate as the C library does. `scanHex` and `scanWord` are
  the conversions of `sscanf`.
-/
import Mlx5ctl.Lib.CInt

namespace CString

open CInt

/-- The characters of a C string. -/
abbrev CStr := List Char

/-- `isspace` -/
def isSpace (c : Char) : Bool := c.toNat == 0x20 || (0x09 ≤ c.toNat && c.toNat ≤ 0x0d)

/-- `isdigit` -/
def isDigit (c : Char) : Bool := 0x30 ≤ c.toNat && c.toNat ≤ 0x39

/-- The value of a digit; 36 where it is none. -/
def digitValue (c : Char) : Nat :=
  let n := c.toNat
  if 0x30 ≤ n ∧ n ≤ 0x39 then n - 0x30
  else if 0x61 ≤ n ∧ n ≤ 0x7a then n - 0x61 + 10
  else if 0x41 ≤ n ∧ n ≤ 0x5a then n - 0x41 + 10
  else 36

/-- The number the leading digits stand for. -/
def number (base : Nat) (s : CStr) : Nat :=
  ((s.map digitValue).takeWhile (· < base)).foldl (fun n d => base * n + d) 0

/-- The sign, and what follows it. -/
def sign (s : CStr) : Bool × CStr :=
  match s with
  | '-' :: s => (true, s)
  | '+' :: s => (false, s)
  | s => (false, s)

/-- The base by prefix, and what follows it. -/
def radix (s : CStr) : Nat × CStr :=
  match s with
  | '0' :: 'x' :: s => (16, s)
  | '0' :: 'X' :: s => (16, s)
  | '0' :: s => (8, s)
  | s => (10, s)

/-- `ULONG_MAX` -/
def ulongMax : Nat := 18446744073709551615

/-- `strtoul(s, NULL, 0)` -/
def strtoul (s : CStr) : Nat :=
  let (negative, s) := sign (s.dropWhile isSpace)
  let (base, s) := radix s
  let n := number base s
  if ulongMax < n then ulongMax else if negative then (ulongMax + 1 - n) % (ulongMax + 1) else n

/-- `atoi(s)` -/
def atoi (s : CStr) : Int :=
  let (negative, s) := sign (s.dropWhile isSpace)
  let n : Int := number 10 s
  if negative then toInt (max (-n) (-9223372036854775808)) else toInt (min n 9223372036854775807)

/-- The decimal integer at the start of `s`, of any size. -/
def integer (s : CStr) : Int :=
  let (negative, s) := sign (s.dropWhile isSpace)
  if negative then -(number 10 s : Int) else number 10 s

/-- `sscanf(s, "%x", &v)`: the `unsigned int` stored, if one is. As in glibc, a prefix "0x" without
    digits behind it is a zero, and a number too large for `strtoul` is its `ULONG_MAX`, with
    either sign. -/
def scanHex (s : CStr) : Option Nat :=
  let (negative, s) := sign (s.dropWhile isSpace)
  let value (n : Nat) : Nat :=
    (if ulongMax < n then ulongMax else if negative then ulongMax + 1 - n else n) % 4294967296
  match s with
  | '0' :: 'x' :: s => some (value (number 16 s))
  | '0' :: 'X' :: s => some (value (number 16 s))
  | c :: s => if digitValue c < 16 then some (value (number 16 (c :: s))) else none
  | [] => none

/-- `sscanf(s, "0x%x", &v)` -/
def scan0xHex (s : CStr) : Option Nat :=
  match s with
  | '0' :: 'x' :: s => scanHex s
  | _ => none

/-- `sscanf(s, "%s", p)`: the word stored at `p`; none is where it is empty. -/
def scanWord (s : CStr) : CStr := (s.dropWhile isSpace).takeWhile fun c => !isSpace c

/-- The tokens `strtok` finds in `s`, one call after the other: what stands between the
    delimiters, where it is not empty. -/
def strtok (delim : Char) (s : CStr) : List CStr := (s.splitOn delim).filter (· ≠ [])

/-- The string `snprintf(p, size, "%s", s)` stores. -/
def snprintf (size : Nat) (s : CStr) : CStr := s.take (size - 1)

/-- The string at the start of a piece of memory: up to the first NUL. -/
def cstrAt (p : List Char) : CStr := p.takeWhile (· ≠ '\x00')

/-- `strstr(s, t)`: where `t` first occurs. -/
def strstr (s t : CStr) : Option Nat :=
  (List.range (s.length + 1)).find? fun i => t.isPrefixOf (s.drop i)

theorem snprintf_of_fits {size : Nat} {s : CStr} (h : s.length ≤ size - 1) :
    snprintf size s = s := List.take_of_length_le h

theorem snprintf_length_le (size : Nat) (s : CStr) : (snprintf size s).length ≤ size - 1 :=
  List.length_take_le _ _

theorem scanHex_lt {s : CStr} {v : Nat} (h : scanHex s = some v) : v < 4294967296 := by
  have hvalue (n : Nat) (h : some (n % 4294967296) = some v) : v < 4294967296 := by
    rw [← Option.some.inj h]
    exact Nat.mod_lt _ (by decide)
  unfold scanHex at h
  dsimp only at h
  split at h
  · exact hvalue _ h
  · exact hvalue _ h
  · split at h
    · exact hvalue _ h
    · cases h
  · cases h

theorem scan0xHex_lt {s : CStr} {v : Nat} (h : scan0xHex s = some v) : v < 4294967296 := by
  unfold scan0xHex at h
  split at h
  · exact scanHex_lt h
  · cases h

/-- `atoi` is exact where the integer is an `int`. -/
theorem atoi_of_fits {s : CStr} (h : -2147483648 ≤ integer s) (h' : integer s < 2147483648) :
    atoi s = integer s := by
  unfold integer at h h' ⊢
  unfold atoi
  dsimp only at h h' ⊢
  split_ifs at h h' ⊢
  · rw [Int.max_eq_left (by omega)]
    exact toInt_of_fits h h'
  · rw [Int.min_eq_left (by omega)]
    exact toInt_of_fits h h'

/-- A string has one piece more than delimiters. -/
theorem length_splitOn (delim : Char) (s : CStr) :
    (s.splitOn delim).length = s.count delim + 1 := by
  induction s with
  | nil => rfl
  | cons c s ih =>
      rw [List.splitOn_cons_eq_if_modifyHead]
      by_cases hc : c = delim
      · simp [hc, ih]
      · simp [hc, ih]

theorem length_strtok_le (delim : Char) (s : CStr) :
    (strtok delim s).length ≤ s.count delim + 1 := by
  rw [← length_splitOn]
  exact List.length_filter_le _ _

/-- There is a token for every piece when no piece is empty. -/
theorem length_strtok_iff (delim : Char) (s : CStr) :
    (strtok delim s).length = s.count delim + 1 ↔ [] ∉ s.splitOn delim := by
  rw [← length_splitOn]
  unfold strtok
  rw [List.length_filter_eq_length_iff]
  constructor
  · intro h hmem
    simpa using h [] hmem
  · intro h t ht
    have hne : t ≠ [] := by
      rintro rfl
      exact h ht
    simpa using hne

example : strtoul "0x1f".toList = 31 ∧ strtoul "-1".toList = ulongMax ∧
    atoi " -42k".toList = -42 := by decide

example : scan0xHex "0x1000".toList = some 4096 ∧ scan0xHex "12".toList = none ∧
    scanHex "-1".toList = some 4294967295 := by decide

end CString
