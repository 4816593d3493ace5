/-
  Searching a buffer for a string.

  `strstr` goes up to the end of the first occurrence, or to the NUL where there is none
  (`strstrReads`). Where a string without its NUL was put in front of what the buffer held, it
  stays within that string exactly when the string contains what is searched for
  (`strstrReads_le_iff`); what the buffer held does not matter then.
-/
import Mlx5ctl.Lib.CString

namespace CString

/-- The bytes at the start of `p` that decide `strstr(p, t)`. -/
def strstrReads (p : List Char) (t : CStr) : Nat :=
  match strstr (cstrAt p) t with
  | some i => i + t.length
  | none => (cstrAt p).length + 1

section Occurrence

variable {s t : CStr}

theorem strstr_occurs {i : Nat} (h : strstr s t = some i) : t <+: s.drop i := by
  unfold strstr at h
  exact List.isPrefixOf_iff_prefix.mp (List.find?_range_eq_some.mp h).1

/-- An occurrence is found, or an earlier one. -/
theorem strstr_le {j : Nat} (hj : j ≤ s.length) (h : t <+: s.drop j) :
    ∃ i ≤ j, strstr s t = some i := by
  have hoccurs : t.isPrefixOf (s.drop j) = true := List.isPrefixOf_iff_prefix.mpr h
  cases hs : strstr s t with
  | none =>
      have hnone := List.find?_eq_none.mp hs j (List.mem_range.mpr (Nat.lt_succ_of_le hj))
      exact absurd hoccurs hnone
  | some i =>
      refine ⟨i, ?_, rfl⟩
      by_contra hlt
      have hfirst := (List.find?_range_eq_some.mp hs).2.2 j (Nat.lt_of_not_le hlt)
      rw [hoccurs] at hfirst
      cases hfirst

theorem strstr_found_iff : strstr s t ≠ none ↔ t <:+: s := by
  constructor
  · intro h
    obtain ⟨i, hi⟩ := Option.ne_none_iff_exists'.mp h
    exact (strstr_occurs hi).isInfix.trans (List.drop_suffix i s).isInfix
  · rintro ⟨before, after, rfl⟩
    have hoccurs : t <+: (before ++ t ++ after).drop before.length := by
      rw [List.append_assoc, List.drop_left]
      exact List.prefix_append t after
    obtain ⟨i, -, hi⟩ := strstr_le (by simp) hoccurs
    rw [hi]
    exact Option.some_ne_none i

end Occurrence

section Prefix

variable {s : CStr} (hs : '\x00' ∉ s) (rest : List Char) (t : CStr)

include hs

theorem cstrAt_append : cstrAt (s ++ rest) = s ++ cstrAt rest :=
  List.takeWhile_append_of_pos fun _ hc => decide_eq_true fun h => hs (h ▸ hc)

/-- What is in the string is found, whatever is behind it. -/
theorem strstr_append (h : t <:+: s) : strstr (cstrAt (s ++ rest)) t ≠ none := by
  rw [strstr_found_iff, cstrAt_append hs]
  exact h.trans (List.prefix_append _ _).isInfix

/-- The search stays within the string exactly when the string contains what is searched for. -/
theorem strstrReads_le_iff : strstrReads (s ++ rest) t ≤ s.length ↔ t <:+: s := by
  unfold strstrReads
  rw [cstrAt_append hs]
  constructor
  · intro h
    cases hfound : strstr (s ++ cstrAt rest) t with
    | none =>
        rw [hfound, List.length_append] at h
        dsimp only at h
        omega
    | some i =>
        rw [hfound] at h
        dsimp only at h
        have hprefix := strstr_occurs hfound
        rw [List.drop_append_of_le_length (by omega)] at hprefix
        have hfits : t.length ≤ (s.drop i).length := by
          rw [List.length_drop]
          omega
        have hin : t <+: s.drop i :=
          List.prefix_of_prefix_length_le hprefix (List.prefix_append _ _) hfits
        exact hin.isInfix.trans (List.drop_suffix i s).isInfix
  · rintro ⟨before, after, rfl⟩
    have hoccurs : t <+: ((before ++ t ++ after) ++ cstrAt rest).drop before.length := by
      rw [List.append_assoc, List.append_assoc, List.drop_left]
      exact List.prefix_append _ _
    obtain ⟨i, hle, hi⟩ := strstr_le (by simp) hoccurs
    rw [hi]
    simp only [List.length_append]
    omega

end Prefix

end CString
