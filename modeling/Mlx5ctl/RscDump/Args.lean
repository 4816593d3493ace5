/-
  rscdump.c: the arguments of `rscdump` and `coredump`.
-/
import Mlx5ctl.RscDump.Collect
import Mlx5ctl.RscDump.Parse
import Mlx5ctl.Cli

namespace Mlx5ctl.RscDump

open CInt CString

variable {σ : Type}

/-- `mlx5_rsc_sgmt_type_by_name(name)` -/
def mlx5RscSgmtTypeByName (_name : CStr) : Int := -1

/-- `parse_rsc_dump_type_arg(arg)`, of what follows `--type=`. -/
def parseRscDumpTypeArg (s : CStr) : Int :=
  match scan0xHex s with
  | some type => toInt type
  | none => if scanWord s ≠ [] then mlx5RscSgmtTypeByName (scanWord s) else 0

/-- `sizeof(byname)` -/
def bynameBytes : Nat := 64

/-- The bytes `parse_rsc_dump_type_arg` writes to `byname`. -/
def bynameWritten (s : CStr) : Nat :=
  if scan0xHex s = none ∧ scanWord s ≠ [] then (scanWord s).length + 1 else 0

/-- `usage` -/
def usage : String :=
  "[--umem=<size KB>] [--type=<type>] [--idx1=<index1>] [--idx2=<index2>] [--vhcaid=<vhca_id>] [--help]"

/-- `usage_core_dump` -/
def usageCoreDump : String := "[--umem=<size KB>] [--help]"

/-- The line of usage of the command. -/
def usageLine (cmd : CStr) : Line :=
  .printf "Usage: %s %s\n"
    [textArg cmd, .text (if cmd = "coredump".toList then usageCoreDump else usage)]

/-- One turn of the loop of `parse_args`. -/
def parseArg (w : World σ) (cmd : CStr) (args : Args) (arg : CStr) : Outcome σ Args :=
  if "--umem=".toList.isPrefixOf arg then .ret { args with umem := atoi (arg.drop 7) } w
  else if "--type=".toList.isPrefixOf arg then
    .ret { args with type := parseRscDumpTypeArg (arg.drop 7) } w
  else if "--idx1=".toList.isPrefixOf arg then
    .ret { args with index1 := (scan0xHex (arg.drop 7)).elim args.index1 fun v => toInt v } w
  else if "--idx2=".toList.isPrefixOf arg then
    .ret { args with index2 := (scan0xHex (arg.drop 7)).elim args.index2 fun v => toInt v } w
  else if "--vhcaid=".toList.isPrefixOf arg then
    .ret { args with vhcaId := atoi (arg.drop 9) } w
  else if "--help".toList.isPrefixOf arg then .exit 0 (w.print (usageLine cmd))
  else .exit 1 ((w.print (.printf "Unknown argument %s\n" [textArg arg])).print (usageLine cmd))

/-- The loop of `parse_args`. -/
def parseArgsFrom (w : World σ) (cmd : CStr) (args : Args) : List CStr → Outcome σ Args
  | [] => .ret args w
  | arg :: rest => (parseArg w cmd args arg).bind fun args w => parseArgsFrom w cmd args rest

/-- `parse_args(argc, argv)`; `argv[0]` is compared before anything else. -/
def parseArgs (w : World σ) (argv : List CStr) : Outcome σ Args :=
  match argv with
  | [] => .segv w
  | cmd :: rest => parseArgsFrom w cmd ⟨0, -1, 0, 0, 0⟩ rest

theorem parseArg_sys (w : World σ) (cmd : CStr) (args : Args) (arg : CStr) :
    (parseArg w cmd args arg).w.sys = w.sys := by
  unfold parseArg
  split_ifs <;> rfl

/-- Parsing only prints. -/
theorem parseArgsFrom_sys (w : World σ) (cmd : CStr) (args : Args) (rest : List CStr) :
    (parseArgsFrom w cmd args rest).w.sys = w.sys := by
  induction rest generalizing w args with
  | nil => rfl
  | cons arg rest ih =>
      have h := parseArg_sys w cmd args arg
      unfold parseArgsFrom
      cases ho : parseArg w cmd args arg with
      | ret args' v =>
          rw [ho] at h
          exact (ih v args').trans h
      | exit code v =>
          rw [ho] at h
          exact h
      | segv v =>
          rw [ho] at h
          exact h

theorem parseArgs_sys (w : World σ) (argv : List CStr) : (parseArgs w argv).w.sys = w.sys := by
  cases argv with
  | nil => rfl
  | cons cmd rest => exact parseArgsFrom_sys w cmd _ rest

example : parseRscDumpTypeArg "0x1000".toList = 4096 ∧ parseRscDumpTypeArg "menu".toList = -1 ∧
    bynameWritten "menu".toList = 5 := by decide

end Mlx5ctl.RscDump
