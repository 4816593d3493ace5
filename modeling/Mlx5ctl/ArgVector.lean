/-
  mlx5ctlu.c, diag_cnt.c and query_obj.c: `argc` and `argv`.

  The commands of `Main` take lists of words. Here they are called as in C, with a number and a
  place in the vector of the process, and every string they use is recorded, with the `argc` it is
  used under. Up to the option loops and the dumps, that is `main`, `cmd_select`, `do_sleep`,
  `do_diag_cnt` with its sub-commands, and `query_obj`.
-/
import Mlx5ctl.Main

namespace Mlx5ctl

open ByteMem CString

variable {σ : Type}

/-! ## Vectors -/

/-- `argc`, and the place of `argv[0]` in the vector of the process. -/
structure Argv where
  argc : Int
  pos : Nat

namespace Argv

/-- `argc - n, argv + n` -/
def shift (a : Argv) (n : Nat) : Argv := ⟨a.argc - n, a.pos + n⟩

variable (words : List CStr)

/-- `argv[i]`, where the vector of the process is `words` and a null pointer. -/
def word (a : Argv) (i : Nat) : Option CStr := words[a.pos + i]?

/-- The `argc` strings of `argv`. -/
def list (a : Argv) : List CStr := (words.drop a.pos).take a.argc.toNat

/-- `argc` is what is left of the vector. -/
def Whole (a : Argv) : Prop := 0 ≤ a.argc ∧ a.argc + a.pos = words.length

end Argv

/-- What a function does with its arguments. -/
inductive Use where
  /-- The string `argv[i]` is used. -/
  | string (a : Argv) (i : Nat)
  /-- `cmd_select`, or a command, is called. -/
  | call (a : Argv)

/-- A string is used below `argc`, and is no null pointer; a call has what is left of the
    vector. -/
def Use.Ok (words : List CStr) : Use → Prop
  | .string a i => (i : Int) < a.argc ∧ a.word words i ≠ none
  | .call a => a.Whole words

/-- What a function has used when it ends, and how it ends, if it does. -/
structure Ran (σ : Type) where
  uses : List Use
  out : Option (Outcome σ Int)

namespace Ran

/-- The same, after some uses. -/
def after (us : List Use) (r : Ran σ) : Ran σ := ⟨us ++ r.uses, r.out⟩

/-- Go on with `f` if it returned. -/
def bind (r : Ran σ) (f : Int → World σ → Ran σ) : Ran σ :=
  match r.out with
  | some (.ret a w) => ⟨r.uses ++ (f a w).uses, (f a w).out⟩
  | some (.exit code w) => ⟨r.uses, some (.exit code w)⟩
  | some (.segv w) => ⟨r.uses, some (.segv w)⟩
  | none => ⟨r.uses, none⟩

/-- Every use is in the vector. -/
def Ok (words : List CStr) (r : Ran σ) : Prop := ∀ u ∈ r.uses, u.Ok words

end Ran

/-! ## The functions -/

section Functions

variable (words : List CStr)

/-- `cmd_select(dev, cmds, argc, argv)` -/
def cmdSelectAt {φ : Type} (cmds : List (Cmd φ)) (w : World σ) (a : Argv)
    (unknown : CStr → Ran σ) (call : φ → Ran σ) : Ran σ :=
  if a.argc = 0 then
    ((cmds.head?.map fun c => call c.func).getD (unknown [])).after [.call a]
  else
    match a.word words 0 with
    | none => ⟨[.call a, .string a 0], some (.segv w)⟩
    | some name =>
        match cmds.find? fun c => c.name.toList = name with
        | some c => (call c.func).after [.call a, .string a 0]
        | none => (unknown name).after [.call a, .string a 0]

/-- `argc > 1 && !strcmp(argv[1], "help")`, the usage, and else `rest`. -/
def helpUses (a : Argv) (rest : List Use) : List Use :=
  if 1 < a.argc then
    .string a 1 :: if a.word words 1 = some "help".toList then [.string a 0] else rest
  else rest

/-- The strings `do_set` uses. -/
def setUses (w : World σ) (a : Argv) : List Use :=
  helpUses words a
    (if a.argc < 5 then []
    else
      .string a 1 ::
        if (DiagCnt.parseFlags w DiagCnt.noParams 0 ((a.word words 1).getD [])).ret ≠ 0 then []
        else [.string a 2, .string a 3, .string a 4])

/-- The strings `do_param` uses. -/
def paramUses (a : Argv) : List Use :=
  helpUses words a (if 1 < a.argc then [.string a 1] else [])

/-- The strings `do_dump` uses. -/
def dumpUses (a : Argv) : List Use :=
  helpUses words a
    ((if 1 < a.argc then [.string a 1] else []) ++ (if 2 < a.argc then [.string a 2] else []) ++
      if 3 < a.argc then [.string a 3] else [])

/-- The strings a sub-command of `diagcnt` uses; `help_cmd` is the `argv[0]` of `diagcnt`. -/
def subUses (w : World σ) (diagcnt a : Argv) : DiagCnt.SubCommand → List Use
  | .doCap => []
  | .doHelp => [.string diagcnt 0]
  | .doSet => setUses words w a
  | .doDisable => []
  | .doParam => paramUses words a
  | .doDump => dumpUses words a

/-- The arguments of `main`. -/
def tool : Argv := ⟨words.length, 0⟩

/-- The strings the other commands use, `query_obj` up to its option loop. -/
def commandUses (a : Argv) : Command → List Use
  | .queryObj => if a.word words 1 = none then [] else [.string a 1]
  | .doHelp => [.string (tool words) 0]
  | .doDevinfo => []
  | .doDevcap => []
  | .doReg => []
  | .doDiagCnt => []
  | .doRscdump => []
  | .doSleep => []

variable (E : Env σ)

/-- A command `cmd_select` does not know: its name and `help_cmd` are printed. -/
def unknownAt (w : World σ) (a : Argv) (name : CStr) : Ran σ :=
  ⟨[.string a 0, .string (tool words) 0],
    some (unknownCommand E.sys.toSys E.files E.stale (words.headD []) w name)⟩

/-- The `cmd_select` of `do_diag_cnt`. -/
def subAt (w : World σ) (a : Argv) : Ran σ :=
  cmdSelectAt words DiagCnt.commands w (a.shift 1) (unknownAt words E w (a.shift 1)) fun c =>
    let r := DiagCnt.runSub E.sys.toSys w ((a.word words 0).getD []) ((a.shift 1).list words) c
    ⟨subUses words w a (a.shift 1) c, some (.ret r.1 r.2)⟩

/-- `if (err) ..` in `do_diag_cnt`: `argv[1]` is printed. -/
def reportAt (a : Argv) (err : Int) (w : World σ) : Ran σ :=
  if err ≠ 0 then
    let name := textArg ((a.word words 1).getD "(null)".toList)
    ⟨[.string a 1], some (.ret err (w.print (.errMsg "diag_cnt %s failed, %d\n" [name, .int err])))⟩
  else ⟨[], some (.ret err w)⟩

/-- `do_diag_cnt(dev, argc, argv)` -/
def doDiagCntAt (w : World σ) (a : Argv) : Ran σ := (subAt words E w a).bind (reportAt words a)

/-- A command other than `sleep`. -/
def leafAt (dev : Mlx5uDev) (n : Nat) (w : World σ) (a : Argv) (c : Command) : Ran σ :=
  if c = .doDiagCnt then doDiagCntAt words E w a
  else ⟨commandUses words a c, runLeaf E (words.headD []) dev w (a.list words) n c⟩

/-- A command, from its `cmd_select` on. -/
def runCommandAt (dev : Mlx5uDev) (n : Nat) (w : World σ) (a : Argv) : Ran σ :=
  cmdSelectAt words commands w a (unknownAt words E w a) fun c =>
    if c = .doSleep then
      if a.argc < 2 then
        ⟨[], some (.ret (-1) (w.print (.errMsg "sleep: missing operand\n" [])))⟩
      else
        match a.word words 1 with
        | none => ⟨[.string a 1], some (.segv w)⟩
        | some _ =>
            ((runCommandAt dev n w (a.shift 2)).bind fun _ w => ⟨[], some (.ret 0 w)⟩).after
              [.string a 1]
    else leafAt words E dev n w a c
termination_by a.argc.toNat
decreasing_by
  have hshift : (a.shift 2).argc = a.argc - 2 := rfl
  omega

/-- `main` from its `mlx5u_open` on. A null pointer is the argument of `strlen` there, if there is
    memory for the device. -/
def openAt (n : Nat) (w : World σ) (a : Argv) : Ran σ :=
  match a.word words 1 with
  | none =>
      let m := E.sys.malloc w.sys 68
      let w := { w with sys := m.2 }
      match m.1 with
      | none =>
          ⟨[.string a 1], some (.ret 1 (w.print (.errMsg "Failed to open device %s\n"
            [textArg "(null)".toList])))⟩
      | some _ => ⟨[.string a 1], some (.segv w)⟩
  | some name =>
      Ran.after [.string a 1] <|
        match mlx5uOpen E.sys.toSys E.files E.stale w name with
        | .ret none w =>
            ⟨[.string a 1], some (.ret 1 (w.print (.errMsg "Failed to open device %s\n"
              [textArg name])))⟩
        | .ret (some dev) w =>
            (runCommandAt words E dev n w (a.shift 2)).bind fun ret w =>
              ⟨[], some (.ret (if 0 < ret then ret else -ret) w)⟩
        | .exit code w => ⟨[], some (.exit code w)⟩
        | .segv w => ⟨[], some (.segv w)⟩

/-- `main(argc, argv)` -/
def mainAt (n : Nat) (w : World σ) : Ran σ :=
  let a := tool words
  let help := some (doHelp E.sys.toSys E.files E.stale (words.headD []) w)
  if a.argc < 2 then ⟨[.string a 0], help⟩
  else
    match a.word words 1 with
    | none => ⟨[.string a 1], some (.segv w)⟩
    | some word =>
        if word = "-h".toList ∨ word = "--help".toList ∨ word = "help".toList then
          ⟨[.string a 1, .string a 0], help⟩
        else
          (openAt words E n w (if word = "-v".toList then a.shift 1 else a)).after [.string a 1]

end Functions

end Mlx5ctl
