/-
  mlx5ctlu.c: the table of commands, `do_help` and `cmd_select`.

  A command is selected by name from a table; diag_cnt.c selects its sub-commands the same way.
  What the commands do is in the module `Main`.
-/
import Mlx5ctl.Devices

namespace Mlx5ctl

open CString

variable {σ : Type}

/-- `struct cmd` -/
structure Cmd (φ : Type) where
  name : String
  func : φ
  desc : String

/-- `cmd_select(dev, cmds, argc, argv)`: the first command by default, else the one with the
    name. -/
def cmdSelect {φ ρ : Type} (cmds : List (Cmd φ)) (unknown : CStr → ρ) (call : φ → ρ)
    (argv : List CStr) : ρ :=
  match argv with
  | [] => (cmds.head?.map fun c => call c.func).getD (unknown [])
  | name :: _ =>
      match cmds.find? fun c => c.name.toList = name with
      | some c => call c.func
      | none => unknown name

/-- The functions of `commands`. -/
inductive Command where
  | doDevinfo
  | doDevcap
  | doReg
  | queryObj
  | doDiagCnt
  | doRscdump
  | doHelp
  | doSleep
  deriving DecidableEq

/-- `commands` -/
def commands : List (Cmd Command) :=
  [⟨"info", .doDevinfo, "Print device information"⟩,
    ⟨"cap", .doDevcap, "Query device caps"⟩,
    ⟨"reg", .doReg, "Dump access registers"⟩,
    ⟨"obj", .queryObj, "Query objects"⟩,
    ⟨"diagcnt", .doDiagCnt, "Dump diagnostic counters"⟩,
    ⟨"rscdump", .doRscdump, "Dump resources"⟩,
    ⟨"coredump", .doRscdump, "CR core dump"⟩,
    ⟨"help", .doHelp, "Show this help"⟩,
    ⟨"sleep", .doSleep, "sleep"⟩]

/-- `fprintf(stdout, "\t%s: %s\n", cmd->name, cmd->desc)` for each command. -/
def cmdLines {φ : Type} (cmds : List (Cmd φ)) : List Line :=
  cmds.map fun c => .printf "\t%s: %s\n" [.text c.name, .text c.desc]

/-- `do_help(dev, argc, argv)`, with `help_cmd`. -/
def doHelp (K : Sys σ) (F : FileSys) (stale : Nat → List Char) (helpCmd : CStr) (w : World σ) :
    Outcome σ Int :=
  let w := w.prints
    ([.printf "Usage: %s <mlx5 pci device> <command> [options]\n" [textArg helpCmd],
      .printf "Verbosity: %s -v <mlx5 pci device> <command> [options]\n" [textArg helpCmd],
      .printf "Commands:\n" []] ++ cmdLines commands)
  (mlx5uLsdevs K F stale w).bind fun _ w => .ret 0 w

/-- A command `cmd_select` does not know. -/
def unknownCommand (K : Sys σ) (F : FileSys) (stale : Nat → List Char) (helpCmd : CStr)
    (w : World σ) (name : CStr) : Outcome σ Int :=
  (doHelp K F stale helpCmd (w.print (.errMsg "Unknown command \"%s\"\n" [textArg name]))).bind
    fun _ w => .ret (-1) w

end Mlx5ctl
