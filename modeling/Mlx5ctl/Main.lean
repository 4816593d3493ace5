/-
  mlx5ctlu.c: `do_sleep`, the commands and `main`.

  A command line is a list of words. `do_sleep` runs the command behind it and drops what it
  returns; `main` folds the sign of what the command returns, and the shell sees eight bits of it
  (`status`).
-/
import Mlx5ctl.DevCaps
import Mlx5ctl.QueryObj
import Mlx5ctl.RegDump
import Mlx5ctl.DiagCnt.Command
import Mlx5ctl.RscDump.Resources

namespace Mlx5ctl

open ByteMem CString

variable {σ : Type}

/-- What the tool runs on: the outside world, the file system, what the stack holds before a scan,
    `getopt_long` on the arguments of a command, and the printers of registers and capabilities,
    which use `printf`. -/
structure Env (σ : Type) where
  sys : UmemSys σ
  files : FileSys
  stale : Nat → List Char
  getopt : List CStr → List Opt
  regPretty : RegDump.PrintReg → List u8 → List Line
  capPretty : DevCaps.Printcap → List u8 → List Line
  regPretty_printf : ∀ p b, ∀ l ∈ regPretty p b, ∃ fmt args, l = .printf fmt args

variable (E : Env σ)

/-- A command other than `sleep`, with its `argv`, the `argv[0]` of the tool, and at most `n` turns
    of each loop of a dump. -/
def runLeaf (helpCmd : CStr) (dev : Mlx5uDev) (w : World σ) (argv : List CStr) (n : Nat) :
    Command → Option (Outcome σ Int)
  | .doDevinfo =>
      let r := mlx5uDevinfo E.sys.toSys E.files (E.stale 0) w dev
      some (.ret r.1 r.2)
  | .doDevcap => some (DevCaps.doDevcap E.sys.toSys E.capPretty w (E.getopt argv))
  | .doReg => some (RegDump.doReg E.sys.toSys E.regPretty w (E.getopt argv))
  | .queryObj => some (QueryObj.queryObj E.sys.toSys w argv[1]? (E.getopt argv))
  | .doDiagCnt =>
      let unknown := unknownCommand E.sys.toSys E.files E.stale helpCmd
      some (DiagCnt.doDiagCnt E.sys.toSys unknown w argv)
  | .doRscdump => RscDump.doRscdump E.sys w argv n
  | .doHelp => some (doHelp E.sys.toSys E.files E.stale helpCmd w)
  | .doSleep => some (.ret (-1) (w.print (.errMsg "sleep: missing operand\n" [])))

/-- `cmd_select(dev, commands, argc, argv)`, with `do_sleep` where it has its operand: the command
    behind is run, and 0 returned for it. -/
def runCommand (helpCmd : CStr) (dev : Mlx5uDev) (n : Nat) (w : World σ) :
    List CStr → Option (Outcome σ Int)
  | name :: time :: argv =>
      cmdSelect commands
        (fun name => some (unknownCommand E.sys.toSys E.files E.stale helpCmd w name))
        (fun c =>
          if c = .doSleep then
            (runCommand helpCmd dev n w argv).map fun o => o.bind fun _ w => .ret 0 w
          else runLeaf E helpCmd dev w (name :: time :: argv) n c) (name :: time :: argv)
  | argv =>
      cmdSelect commands
        (fun name => some (unknownCommand E.sys.toSys E.files E.stale helpCmd w name))
        (runLeaf E helpCmd dev w argv n) argv

/-- `main(argc, argv)` from `mlx5u_open` on, with the words from the device on. -/
def runMain (helpCmd : CStr) (n : Nat) (w : World σ) (words : List CStr) :
    Option (Outcome σ Int) :=
  match words with
  | [] => some (.segv w)
  | name :: argv =>
      match mlx5uOpen E.sys.toSys E.files E.stale w name with
      | .ret none w =>
          some (.ret 1 (w.print (.errMsg "Failed to open device %s\n" [textArg name])))
      | .ret (some dev) w =>
          (runCommand E helpCmd dev n w argv).map fun o => o.bind fun ret w =>
            .ret (if 0 < ret then ret else -ret) w
      | .exit code w => some (.exit code w)
      | .segv w => some (.segv w)

/-- `main(argc, argv)` -/
def main (n : Nat) (w : World σ) : List CStr → Option (Outcome σ Int)
  | [] => some (doHelp E.sys.toSys E.files E.stale [] w)
  | [helpCmd] => some (doHelp E.sys.toSys E.files E.stale helpCmd w)
  | helpCmd :: word :: words =>
      if word = "-h".toList ∨ word = "--help".toList ∨ word = "help".toList then
        some (doHelp E.sys.toSys E.files E.stale helpCmd w)
      else if word = "-v".toList then runMain E helpCmd n w words
      else runMain E helpCmd n w (word :: words)

/-- The status the shell sees. -/
def status : Outcome σ Int → Nat
  | .ret ret _ => (ret % 256).toNat
  | .exit code _ => (code % 256).toNat
  | .segv _ => 139

end Mlx5ctl
