/-
  rscdump.c: what `parse_args` makes of an argument list that it accepts.

  Each argument sets one member (`ArgStep`), so each member is read off the values of its option
  (`parseArgs_fields`). `--umem=`, `--type=` and `--vhcaid=` store what they make of any value, so
  the last one stands; the scans of `--idx1=` and `--idx2=` store nothing where the value does not
  match.
-/
import Mlx5ctl.RscDump.Args

namespace Mlx5ctl.RscDump

open CInt CString

variable {σ : Type}

/-- What follows the option in each of the arguments that start with it. -/
def optionValues (opt : String) (rest : List CStr) : List CStr :=
  rest.filterMap fun arg =>
    if opt.toList.isPrefixOf arg then some (arg.drop opt.toList.length) else none

/-- What an argument that is accepted sets. -/
inductive ArgStep (args : Args) : CStr → Args → Prop
  | umem (s : CStr) : ArgStep args ("--umem=".toList ++ s) { args with umem := atoi s }
  | type (s : CStr) :
      ArgStep args ("--type=".toList ++ s) { args with type := parseRscDumpTypeArg s }
  | idx1 (s : CStr) : ArgStep args ("--idx1=".toList ++ s)
      { args with index1 := (scan0xHex s).elim args.index1 fun v : Nat => toInt v }
  | idx2 (s : CStr) : ArgStep args ("--idx2=".toList ++ s)
      { args with index2 := (scan0xHex s).elim args.index2 fun v : Nat => toInt v }
  | vhcaid (s : CStr) : ArgStep args ("--vhcaid=".toList ++ s) { args with vhcaId := atoi s }

theorem parseArg_step {w v : World σ} {cmd arg : CStr} {args args' : Args}
    (h : parseArg w cmd args arg = .ret args' v) : ArgStep args arg args' ∧ v = w := by
  have hprefix (opt : String) (hopt : opt.toList.isPrefixOf arg = true) :
      ∃ s, arg = opt.toList ++ s ∧ arg.drop opt.toList.length = s := by
    obtain ⟨s, rfl⟩ := List.isPrefixOf_iff_prefix.mp hopt
    exact ⟨s, rfl, List.drop_left⟩
  unfold parseArg at h
  split_ifs at h with humem htype hidx1 hidx2 hvhcaid
  all_goals cases h
  · obtain ⟨s, rfl, hs⟩ := hprefix _ humem
    exact ⟨.umem s, rfl⟩
  · obtain ⟨s, rfl, hs⟩ := hprefix _ htype
    exact ⟨.type s, rfl⟩
  · obtain ⟨s, rfl, hs⟩ := hprefix _ hidx1
    exact ⟨.idx1 s, rfl⟩
  · obtain ⟨s, rfl, hs⟩ := hprefix _ hidx2
    exact ⟨.idx2 s, rfl⟩
  · obtain ⟨s, rfl, hs⟩ := hprefix _ hvhcaid
    exact ⟨.vhcaid s, rfl⟩

/-- The last of the values, or what was there. -/
def lastOf {α : Type} (old : α) (l : List α) : α := l.getLast?.getD old

@[simp] theorem lastOf_nil {α : Type} (old : α) : lastOf old [] = old := rfl

@[simp] theorem lastOf_cons {α : Type} (old a : α) (l : List α) :
    lastOf old (a :: l) = lastOf a l := by
  unfold lastOf
  rw [List.getLast?_cons]
  rfl

/-- The indices that an option gives: the values that its scan stores. -/
def scanned (opt : String) (rest : List CStr) : List Int :=
  (optionValues opt rest).filterMap fun s => (scan0xHex s).map fun v : Nat => toInt v

/-- What the arguments leave in each member. -/
structure Fields (args : Args) (rest : List CStr) (args' : Args) : Prop where
  umem : args'.umem = lastOf args.umem ((optionValues "--umem=" rest).map atoi)
  type : args'.type = lastOf args.type ((optionValues "--type=" rest).map parseRscDumpTypeArg)
  index1 : args'.index1 = lastOf args.index1 (scanned "--idx1=" rest)
  index2 : args'.index2 = lastOf args.index2 (scanned "--idx2=" rest)
  vhcaId : args'.vhcaId = lastOf args.vhcaId ((optionValues "--vhcaid=" rest).map atoi)

/-- A value that may be stored, and then the others. -/
theorem lastOf_option {α β : Type} (f : α → β) (old : β) (o : Option α) (l : List β) :
    lastOf (o.elim old f) l = lastOf old ((o.map f).toList ++ l) := by
  cases o <;> simp

theorem filterMap_cons_toList {α β : Type} (f : α → Option β) (a : α) (l : List α) :
    (a :: l).filterMap f = (f a).toList ++ l.filterMap f := by
  rw [List.filterMap_cons]
  cases f a <;> rfl

theorem scanned_cons {opt : String} {s : CStr} {rest l : List CStr}
    (h : optionValues opt l = s :: optionValues opt rest) :
    scanned opt l = ((scan0xHex s).map fun v : Nat => toInt v).toList ++ scanned opt rest := by
  unfold scanned
  rw [h, filterMap_cons_toList]

/-- An argument, and then the others. -/
theorem ArgStep.fields {args args₁ args' : Args} {arg : CStr} {rest : List CStr}
    (hstep : ArgStep args arg args₁) (h : Fields args₁ rest args') :
    Fields args (arg :: rest) args' := by
  obtain ⟨humem, htype, hidx1, hidx2, hvhcaid⟩ := h
  cases hstep with
  | umem s => exact ⟨humem.trans (lastOf_cons _ _ _).symm, htype, hidx1, hidx2, hvhcaid⟩
  | type s => exact ⟨humem, htype.trans (lastOf_cons _ _ _).symm, hidx1, hidx2, hvhcaid⟩
  | idx1 s =>
      refine ⟨humem, htype, ?_, hidx2, hvhcaid⟩
      rw [scanned_cons (show _ = s :: optionValues "--idx1=" rest from rfl), ← lastOf_option]
      exact hidx1
  | idx2 s =>
      refine ⟨humem, htype, hidx1, ?_, hvhcaid⟩
      rw [scanned_cons (show _ = s :: optionValues "--idx2=" rest from rfl), ← lastOf_option]
      exact hidx2
  | vhcaid s => exact ⟨humem, htype, hidx1, hidx2, hvhcaid.trans (lastOf_cons _ _ _).symm⟩

theorem parseArgsFrom_fields {w v : World σ} {cmd : CStr} {args args' : Args} {rest : List CStr}
    (h : parseArgsFrom w cmd args rest = .ret args' v) : Fields args rest args' ∧ v = w := by
  induction rest generalizing w args with
  | nil =>
      cases h
      exact ⟨⟨rfl, rfl, rfl, rfl, rfl⟩, rfl⟩
  | cons arg rest ih =>
      unfold parseArgsFrom at h
      cases ho : parseArg w cmd args arg with
      | ret args₁ u =>
          obtain ⟨hstep, hu⟩ := parseArg_step ho
          rw [ho] at h
          obtain ⟨hfields, hv⟩ := ih h
          exact ⟨hstep.fields hfields, hv.trans hu⟩
      | exit code u =>
          rw [ho] at h
          cases h
      | segv u =>
          rw [ho] at h
          cases h

/-- The members of an argument list that is accepted. -/
theorem parseArgs_fields {w v : World σ} {argv : List CStr} {args : Args}
    (h : parseArgs w argv = .ret args v) : Fields ⟨0, -1, 0, 0, 0⟩ argv.tail args ∧ v = w := by
  cases argv with
  | nil => cases h
  | cons cmd rest => exact parseArgsFrom_fields h

end Mlx5ctl.RscDump
