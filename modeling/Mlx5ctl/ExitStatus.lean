/-
  The exit status of the tool.

  A command line is a device and a command behind any number of `sleep`s. Its status shows a
  failed command unless the failure is hidden on the way (`CommandLine.Hidden`): `do_sleep` drops
  what the command returned, `do_rscdump` returns 0 once it has come to its dump, and `diagcnt`
  takes a device status for a frequency. `exit_status_iff` says that these are all the ways.
-/
import Mlx5ctl.Main
import Mlx5ctl.DiagCnt.Frequency
import Mlx5ctl.RegPretty
import Mlx5ctl.CapPretty

namespace Mlx5ctl

open ByteMem CInt CString Ifc

variable {σ : Type}

/-! ## reg -/

section Reg

open RegDump

variable (K : Sys σ) {pretty : PrintReg → List u8 → List Line}

theorem regHelp_quiet : ∀ l ∈ RegDump.help, l.failure = false := by
  unfold RegDump.help
  rw [List.forall_mem_append]
  exact ⟨by simp [Line.failure], printed_quiet (fun _ => ⟨_, _, rfl⟩) _⟩

theorem regOption_quiet (w : World σ) (args : RegArgs) (o : Opt) :
    Quiet w (RegDump.parseOption w args o).w := by
  unfold RegDump.parseOption
  split
  case h_10 => exact Quiet.prints w regHelp_quiet
  case h_11 => exact Quiet.print w rfl
  all_goals exact Quiet.refl w

theorem regArgs_quiet (w : World σ) (opts : List Opt) :
    Quiet w (RegDump.parseArgs w opts).w := by
  refine bind_quiet (optionLoop_quiet regOption_quiet w {} opts) fun args v _ => ?_
  split_ifs
  · exact (Quiet.print v rfl).trans (Quiet.prints _ regHelp_quiet)
  · exact Quiet.refl v

theorem showReg_quiet (hpretty : ∀ p b, ∀ l ∈ pretty p b, ∃ fmt args, l = .printf fmt args)
    (w : World σ) (prFormat : Char) (regId : Nat) (out : Mem) :
    Quiet w (showReg pretty w prFormat regId out) := by
  unfold showReg
  dsimp only
  split_ifs
  · have hhead := Quiet.print w (l := .infoMsg "%s 0x%x register fields:\n"
      [.text (reg2str regId), .int regId]) rfl
    refine hhead.trans ?_
    split
    · have hname := Quiet.print (w.print (.infoMsg "%s 0x%x register fields:\n"
        [.text (reg2str regId), .int regId])) (l := .infoMsg "\n%s 0x%x fields:\n"
          [.text (reg2str regId), .int regId]) rfl
      refine hname.trans (Quiet.prints _ fun l hl => ?_)
      obtain ⟨fmt, args, rfl⟩ := hpretty _ _ l hl
      rfl
    · exact (Quiet.print _ (not_failure (by decide) _)).trans (Quiet.print _ rfl)
  · exact Quiet.print w rfl
  · exact Quiet.print w rfl
  · exact Quiet.refl w

theorem doReg_told (hK : IoctlErrors K)
    (hpretty : ∀ p b, ∀ l ∈ pretty p b, ∃ fmt args, l = .printf fmt args) (w : World σ)
    (opts : List Opt) : Told False w (doReg K pretty w opts) := by
  have hargs := regArgs_quiet w opts
  unfold doReg
  cases hparse : RegDump.parseArgs w opts with
  | ret args v =>
      rw [hparse] at hargs
      rw [Outcome.bind_ret]
      refine Told.before hargs ?_
      unfold mlx5RegDump
      dsimp only
      have hfate := mlx5AccessReg_fate K hK v (regDumpData (BitVec.ofInt 32 args.port))
        documentBytes zeroMem documentBytes ((BitVec.ofInt 32 args.regId).setWidth 16)
        (toInt (BitVec.ofInt 32 args.argument).toNat) 0
      split_ifs with herr
      · exact Told.of_seen not_false fun h => absurd h (hfate.failed herr)
      · exact Told.of_seen not_false fun _ =>
          (hfate.quiet (not_not.mp herr)).trans (showReg_quiet hpretty _ _ _ _)
  | exit code v =>
      rw [hparse] at hargs
      exact ⟨not_false, hargs⟩
  | segv v =>
      rw [hparse] at hargs
      exact ⟨not_false, hargs⟩

end Reg

/-! ## The device, and the help -/

section Help

variable (K : Sys σ) (F : FileSys) (stale : Nat → List Char)

theorem scanCtlDevs_quiet (w : World σ) : Quiet w (scanCtlDevs K F stale w).w := by
  unfold scanCtlDevs
  dsimp only
  split_ifs
  · exact Quiet.print w (not_failure (by decide) _)
  · exact Quiet.of_out rfl
  · split
    · exact Quiet.of_out rfl
    · exact Quiet.of_out rfl

theorem findDev_quiet (w : World σ) (str : CStr) : Quiet w (findDev K F stale w str).w := by
  unfold findDev
  dsimp only
  split_ifs
  · exact Quiet.refl w
  · exact Quiet.refl w
  · refine bind_quiet (scanCtlDevs_quiet K F stale w) fun devs v _ => ?_
    cases devs with
    | none => exact Quiet.refl v
    | some devs => exact Quiet.refl v

theorem mlx5uOpen_quiet (w : World σ) (name : CStr) :
    Quiet w (mlx5uOpen K F stale w name).w := by
  have hsys : Quiet w { w with sys := (K.malloc w.sys 68).2 } := Quiet.of_out rfl
  unfold mlx5uOpen
  dsimp only
  split
  · exact hsys
  · refine hsys.trans (bind_quiet (findDev_quiet K F stale _ name) fun dev v _ => ?_)
    cases dev with
    | none =>
        refine Quiet.prints v fun l hl => ?_
        rcases List.mem_cons.mp hl with rfl | hl
        · exact not_failure (by decide) _
        · rw [List.mem_singleton.mp hl]
          exact not_failure (by decide) _
    | some dev => exact Quiet.refl v

theorem mlx5uLsdevs_quiet (w : World σ) : Quiet w (mlx5uLsdevs K F stale w).w := by
  refine bind_quiet (scanCtlDevs_quiet K F stale w) fun devs v _ => ?_
  cases devs with
  | none => exact Quiet.refl v
  | some devs =>
      refine Quiet.prints v fun l hl => ?_
      rcases List.mem_cons.mp hl with rfl | hl
      · rfl
      · exact printed_quiet (fun _ => ⟨_, _, rfl⟩) _ l hl

theorem doHelp_quiet (helpCmd : CStr) (w : World σ) :
    Quiet w (doHelp K F stale helpCmd w).w := by
  have hlines : ∀ l ∈ [.printf "Usage: %s <mlx5 pci device> <command> [options]\n"
      [textArg helpCmd], .printf "Verbosity: %s -v <mlx5 pci device> <command> [options]\n"
      [textArg helpCmd], .printf "Commands:\n" []] ++ cmdLines commands,
      Line.failure l = false := by
    rw [List.forall_mem_append]
    exact ⟨by simp [Line.failure], DiagCnt.cmdLines_quiet commands⟩
  refine (Quiet.prints w hlines).trans (bind_quiet ?_ fun _ v _ => Quiet.refl v)
  exact mlx5uLsdevs_quiet K F stale _

theorem unknownCommand_told (helpCmd : CStr) (w : World σ) (name : CStr) :
    Told False w (unknownCommand K F stale helpCmd w name) := by
  have hline : Quiet w (w.print (.errMsg "Unknown command \"%s\"\n" [textArg name])) :=
    Quiet.print w (not_failure (by decide) _)
  refine Told.of_quiet (hline.trans (bind_quiet ?_ fun _ v _ => Quiet.refl v))
  exact doHelp_quiet K F stale helpCmd _

end Help

/-! ## rscdump and coredump -/

namespace RscDump

variable (K : UmemSys σ)

theorem usageLine_quiet (w : World σ) (cmd : CStr) : Quiet w (w.print (usageLine cmd)) :=
  Quiet.print w rfl

theorem parseArg_quiet (w : World σ) (cmd : CStr) (args : Args) (a : CStr) :
    Quiet w (parseArg w cmd args a).w := by
  unfold parseArg
  split_ifs
  case' neg => exact (Quiet.print w rfl).trans (usageLine_quiet _ cmd)
  all_goals first
    | exact Quiet.refl w
    | exact usageLine_quiet w cmd

theorem parseArgsFrom_quiet (w : World σ) (cmd : CStr) (args : Args) (rest : List CStr) :
    Quiet w (parseArgsFrom w cmd args rest).w := by
  induction rest generalizing w args with
  | nil => exact Quiet.refl w
  | cons a rest ih => exact bind_quiet (parseArg_quiet w cmd args a) fun args' v _ => ih v args'

theorem parseArgs_quiet (w : World σ) (argv : List CStr) : Quiet w (parseArgs w argv).w := by
  cases argv with
  | nil => exact Quiet.refl w
  | cons cmd rest => exact parseArgsFrom_quiet w cmd _ rest

/-- The line of `do_rscdump` with its arguments. -/
def argsLine (args : Args) : Line :=
  .printf "umem %d, type 0x%x, index1 0x%x, index2 0x%x, vhca_id=0x%x\n"
    [.int args.umem, .int args.type, .int args.index1, .int args.index2, .int args.vhcaId]

/-- `do_rscdump` comes to its dump: the arguments are read, and what a umem needs is set up. -/
def DumpReached (w : World σ) (argv : List CStr) : Prop :=
  ∃ args v umemBuff umemPdn u, parseArgs w argv = .ret args v ∧
    setupUmem K (v.print (argsLine args.withType)) args.withType = .ready umemBuff umemPdn u

/-- A setup that returns shows it. -/
theorem setupUmem_returned (hK : IoctlErrors K.toSys) {w v : World σ} {args : Args} {ret : Int}
    (h : setupUmem K w args = .returned ret v) : ret % 256 ≠ 0 := by
  unfold setupUmem at h
  dsimp only at h
  split_ifs at h with humem herr
  · have hfate := mlx5uCmd_fate K.toSys hK w (allocPdIn 0) AllocPdIn.szBytes zeroMem
      AllocPdOut.szBytes
    have hpd : (mlx5libAllocPd K w 0 0).err = (mlx5uCmd K.toSys w (allocPdIn 0) AllocPdIn.szBytes
        zeroMem AllocPdOut.szBytes).ret := by
      unfold mlx5libAllocPd
      dsimp only
      split_ifs <;> rfl
    injection h with hret
    rw [← hret, hpd]
    exact hfate.failed (hpd ▸ herr)
  · cases hb : (mlx5libAllocUmemMkeyBuff K (mlx5libAllocPd K w 0 0).w
        (toSize (toInt (args.umem * 1024))) (mlx5libAllocPd K w 0 0).pdn).1 with
    | none =>
        rw [hb] at h
        injection h with hret
        rw [← hret]
        decide
    | some umem =>
        rw [hb] at h
        cases h

/-- The arguments of the dump are taken. -/
def DumpAsked (w : World σ) (argv : List CStr) : Prop := ∃ args v, parseArgs w argv = .ret args v

/-- **What `rscdump` and `coredump` return.** 0 exactly when they come to their dump. -/
theorem doRscdump_shown (hK : IoctlErrors K.toSys) {w : World σ} {argv : List CStr} {n : Nat}
    {o : Outcome σ Int} (h : doRscdump K w argv n = some o) :
    Shown (DumpReached K w argv) (DumpAsked w argv) w o := by
  have hquiet := parseArgs_quiet w argv
  unfold doRscdump at h
  unfold DumpReached DumpAsked
  cases hargs : parseArgs w argv with
  | exit code v =>
      rw [hargs] at h hquiet
      cases h
      exact Or.inl ⟨hquiet, by simp⟩
  | segv v =>
      rw [hargs] at h hquiet
      cases h
      exact Or.inl ⟨hquiet, by simp⟩
  | ret args v =>
      rw [hargs] at h
      dsimp only at h
      rw [← argsLine] at h
      cases hset : setupUmem K (v.print (argsLine args.withType)) args.withType with
      | returned ret u =>
          rw [hset] at h
          cases h
          refine Or.inr ⟨ret, u, rfl, iff_of_false (setupUmem_returned K hK hset) ?_⟩
          rintro ⟨args', v', b, p, u', hret, hready⟩
          cases hret
          rw [hset] at hready
          cases hready
      | ready umemBuff umemPdn u =>
          rw [hset] at h
          obtain ⟨x, -, rfl⟩ := Option.map_eq_some_iff.mp h
          exact Or.inr ⟨0, _, rfl, iff_of_true rfl ⟨args, v, _, _, _, rfl, hset⟩⟩

end RscDump

/-! ## The command line -/

/-- The commands of a command line. -/
inductive Leaf where
  | reg
  | diagcnt
  | rscdump
  | coredump
  deriving DecidableEq

namespace Leaf

def name : Leaf → CStr
  | reg => "reg".toList
  | diagcnt => "diagcnt".toList
  | rscdump => "rscdump".toList
  | coredump => "coredump".toList

/-- The entry of `commands`. -/
def command : Leaf → Command
  | reg => .doReg
  | diagcnt => .doDiagCnt
  | rscdump => .doRscdump
  | coredump => .doRscdump

theorem cmdSelect_name {ρ : Type} (leaf : Leaf) (unknown : CStr → ρ) (call : Command → ρ)
    (args : List CStr) :
    cmdSelect commands unknown call (leaf.name :: args) = call leaf.command := by
  cases leaf <;> rfl

theorem command_ne_doSleep (leaf : Leaf) : leaf.command ≠ .doSleep := by
  cases leaf <;> simp [command]

/-- The runs of the command that return 0 whatever fails. -/
def Hidden (E : Env σ) (w : World σ) (argv : List CStr) : Leaf → Prop
  | reg => False
  | diagcnt => DiagCnt.Mistaken E.sys.toSys w argv
  | rscdump => RscDump.DumpReached E.sys w argv
  | coredump => RscDump.DumpReached E.sys w argv

/-- The command is a dump, and its arguments are taken. -/
def DumpAsked (w : World σ) (argv : List CStr) : Leaf → Prop
  | reg => False
  | diagcnt => False
  | rscdump => RscDump.DumpAsked w argv
  | coredump => RscDump.DumpAsked w argv

end Leaf

variable (E : Env σ)

theorem runLeaf_shown (hK : IoctlErrors E.sys.toSys) {helpCmd : CStr} {dev : Mlx5uDev}
    {w : World σ} {argv : List CStr} {n : Nat} {leaf : Leaf} {o : Outcome σ Int}
    (h : runLeaf E helpCmd dev w argv n leaf.command = some o) :
    Shown (leaf.Hidden E w argv) (leaf.DumpAsked w argv) w o := by
  cases leaf with
  | reg =>
      cases h
      exact (doReg_told E.sys.toSys hK E.regPretty_printf w _).shown
  | diagcnt =>
      cases h
      exact (DiagCnt.doDiagCnt_told E.sys.toSys hK
        (unknownCommand_told E.sys.toSys E.files E.stale helpCmd) w argv).shown
  | rscdump => exact RscDump.doRscdump_shown E.sys hK h
  | coredump => exact RscDump.doRscdump_shown E.sys hK h

/-- A command line: `prog [-v] dev`, any number of `sleep n`, and a command. A device without
    `-v` in front is none of the words `main` looks for there. -/
structure CommandLine where
  prog : CStr
  verbose : Bool
  dev : CStr
  sleeps : List CStr
  leaf : Leaf
  args : List CStr
  dev_name : verbose = false →
    dev ∉ ["-h".toList, "--help".toList, "help".toList, "-v".toList]

namespace CommandLine

variable (c : CommandLine)

/-- The `argv` of the command. -/
def command : List CStr := c.leaf.name :: c.args

/-- The words behind the device. -/
def words : List CStr := (c.sleeps.flatMap fun n => ["sleep".toList, n]) ++ c.command

/-- The `argv` of the tool. -/
def argv : List CStr :=
  c.prog :: (if c.verbose then ["-v".toList] else []) ++ c.dev :: c.words

theorem main_argv (n : Nat) (w : World σ) :
    main E n w c.argv = runMain E c.prog n w (c.dev :: c.words) := by
  unfold argv
  cases hv : c.verbose with
  | true => rfl
  | false =>
      have hdev := c.dev_name hv
      simp only [List.mem_cons, List.not_mem_nil, or_false, not_or] at hdev
      obtain ⟨hh, hhelp, hword, hflag⟩ := hdev
      show (if _ then _ else if _ then _ else _) = _
      rw [if_neg (not_or.mpr ⟨hh, not_or.mpr ⟨hhelp, hword⟩⟩), if_neg hflag]

/-- The device is opened, and leaves this world. -/
def Opened (w v : World σ) : Prop :=
  ∃ dev, mlx5uOpen E.sys.toSys E.files E.stale w c.dev = .ret (some dev) v

/-- A dump was asked for. -/
def DumpAsked (w : World σ) : Prop := ∃ v, c.Opened E w v ∧ c.leaf.DumpAsked v c.command

/-- The status does not show what fails: the command is behind a `sleep`, or hides it itself. -/
def Hidden (w : World σ) : Prop :=
  c.sleeps ≠ [] ∨ ∃ v, c.Opened E w v ∧ c.leaf.Hidden E v c.command

end CommandLine

/-! ## The run -/

theorem runCommand_leaf (helpCmd : CStr) (dev : Mlx5uDev) (n : Nat) (w : World σ) (leaf : Leaf)
    (args : List CStr) :
    runCommand E helpCmd dev n w (leaf.name :: args) =
      runLeaf E helpCmd dev w (leaf.name :: args) n leaf.command := by
  cases args with
  | nil => exact leaf.cmdSelect_name _ _ []
  | cons a args =>
      refine (leaf.cmdSelect_name _ _ (a :: args)).trans ?_
      exact if_neg leaf.command_ne_doSleep

/-- What `do_sleep` makes of how the command behind it ends. -/
def slept (o : Outcome σ Int) : Outcome σ Int := o.bind fun _ w => .ret 0 w

theorem slept_slept (o : Outcome σ Int) : slept (slept o) = slept o := by
  cases o <;> rfl

/-- However many `sleep`s there are, the command is run once, and its return value dropped. -/
theorem runCommand_sleeps (helpCmd : CStr) (dev : Mlx5uDev) (n : Nat) (w : World σ)
    (sleeps words : List CStr) :
    runCommand E helpCmd dev n w ((sleeps.flatMap fun t => ["sleep".toList, t]) ++ words) =
      (runCommand E helpCmd dev n w words).map (if sleeps = [] then id else slept) := by
  induction sleeps with
  | nil =>
      rw [if_pos rfl, Option.map_id]
      rfl
  | cons t sleeps ih =>
      have hsleep : runCommand E helpCmd dev n w
          (((t :: sleeps).flatMap fun t => ["sleep".toList, t]) ++ words) =
          (runCommand E helpCmd dev n w
            ((sleeps.flatMap fun t => ["sleep".toList, t]) ++ words)).map slept := rfl
      rw [hsleep, ih, Option.map_map, if_neg (List.cons_ne_nil _ _)]
      congr 1
      split_ifs
      · rfl
      · exact funext slept_slept

/-- `main` folds the sign of what the command returns. -/
theorem status_fold (ret : Int) (w : World σ) :
    status (.ret (if 0 < ret then ret else -ret) w) = 0 ↔ ret % 256 = 0 := by
  show ((if 0 < ret then ret else -ret) % 256).toNat = 0 ↔ _
  split_ifs <;> omega

/-- A run is quiet, and no dump was asked for, or its status is 0 exactly if it hides failures. -/
theorem main_shown (hK : IoctlErrors E.sys.toSys) (c : CommandLine) {w : World σ} {n : Nat}
    {o : Outcome σ Int} (h : main E n w c.argv = some o) :
    (Quiet w o.w ∧ ¬ c.DumpAsked E w) ∨ (status o = 0 ↔ c.Hidden E w) := by
  have hopen := mlx5uOpen_quiet E.sys.toSys E.files E.stale w c.dev
  rw [c.main_argv E] at h
  unfold runMain at h
  unfold CommandLine.Hidden CommandLine.DumpAsked CommandLine.Opened
  dsimp only at h
  -- only an open device leaves a world
  cases ho : mlx5uOpen E.sys.toSys E.files E.stale w c.dev with
  | exit code v =>
      rw [ho] at h hopen
      cases h
      exact Or.inl ⟨hopen, by simp⟩
  | segv v =>
      rw [ho] at h hopen
      cases h
      exact Or.inl ⟨hopen, by simp⟩
  | ret opened v =>
      rw [ho] at h hopen
      cases opened with
      | none =>
          cases h
          exact Or.inl ⟨hopen.trans (Quiet.print v (not_failure (by decide) _)), by simp⟩
      | some dev =>
          have hworld : ∀ P : World σ → Prop, (∃ u, (∃ d,
              Outcome.ret (some dev) v = Outcome.ret (some d) u) ∧ P u) ↔ P v := by
            intro P
            constructor
            · rintro ⟨u, ⟨d, hd⟩, hP⟩
              cases hd
              exact hP
            · exact fun hP => ⟨v, ⟨dev, rfl⟩, hP⟩
          rw [hworld, hworld]
          obtain ⟨o₁, hrun, rfl⟩ := Option.map_eq_some_iff.mp h
          unfold CommandLine.words at hrun
          rw [runCommand_sleeps] at hrun
          obtain ⟨o₂, hleaf, rfl⟩ := Option.map_eq_some_iff.mp hrun
          unfold CommandLine.command at hleaf
          rw [runCommand_leaf] at hleaf
          rcases runLeaf_shown E hK hleaf with ⟨hquiet, hasked⟩ | ⟨ret, u, rfl, hret⟩
          · refine Or.inl ⟨hopen.trans ?_, hasked⟩
            refine bind_quiet ?_ fun _ u _ => Quiet.refl u
            split_ifs
            · exact hquiet
            · exact bind_quiet hquiet fun _ u _ => Quiet.refl u
          · refine Or.inr ?_
            split_ifs with hsleeps
            · rw [or_iff_right (not_not.mpr hsleeps)]
              exact (status_fold ret u).trans hret
            · exact iff_of_true rfl (Or.inl hsleeps)

/-- **The exit status.** For every command line of the form, every outside world and file system,
    and every run that ends: the status shows what was reported to fail, or any fault of a dump
    that was asked for, exactly if the run is not one that hides it. -/
theorem exit_status_iff (hK : IoctlErrors E.sys.toSys) (c : CommandLine) (w : World σ) (n : Nat)
    {o : Outcome σ Int} (h : main E n w c.argv = some o) (fault : Prop)
    (hfault : fault → c.DumpAsked E w) :
    (Reported w o.w ∨ fault → status o ≠ 0) ↔ (Reported w o.w ∨ fault → ¬ c.Hidden E w) := by
  refine forall_congr' fun hfailed => ?_
  rcases main_shown E hK c h with ⟨hquiet, hasked⟩ | hstatus
  · rcases hfailed with hreported | hf
    · exact absurd hreported hquiet.not_reported
    · exact absurd (hfault hf) hasked
  · exact not_congr hstatus

/-! ## Refusing devices -/

/-- The tool on a device that answers its command `k` with the status `reply k`. -/
def answering (reply : Nat → BitVec 8) : Env Nat where
  sys := { RscDump.granting with toSys := scripted fun k => (0, [reply k]) }
  files := sysfs shallow
  stale _ := []
  getopt _ := []
  regPretty := RegDump.printReg
  capPretty := DevCaps.printCap
  regPretty_printf := RegDump.printReg_printf

/-- A command line for the device 0. -/
def onDevice (sleeps : List CStr) (leaf : Leaf) (args : List CStr) : CommandLine :=
  ⟨"mlx5ctl".toList, false, "0".toList, sleeps, leaf, args, by decide⟩

/-- A refused `diagcnt disable` is seen. -/
theorem disable_seen : ∃ o, main (answering fun _ => 3) 1 ⟨0, []⟩
      (onDevice [] .diagcnt ["disable".toList]).argv = some o ∧
    Reported ⟨0, []⟩ o.w ∧ status o ≠ 0 := by
  obtain ⟨o, hrun, hreported⟩ : ∃ o, main (answering fun _ => 3) 1 ⟨0, []⟩
      (onDevice [] .diagcnt ["disable".toList]).argv = some o ∧ Reported ⟨0, []⟩ o.w :=
    ⟨_, rfl, _, rfl, by decide⟩
  refine ⟨o, hrun, hreported, ?_⟩
  refine (exit_status_iff (answering fun _ => 3) (fun _ _ _ _ => rfl) _ ⟨0, []⟩ 1 hrun False
    False.elim).mpr (fun _ => ?_) (Or.inl hreported)
  rintro (hsleeps | ⟨v, -, hmistaken⟩)
  · exact hsleeps rfl
  · exact hmistaken

/-- On this device the run reports a failure, and its status is 0. -/
def Unseen (reply : Nat → BitVec 8) (c : CommandLine) : Prop :=
  ∃ o, main (answering reply) 1 ⟨0, []⟩ c.argv = some o ∧ Reported ⟨0, []⟩ o.w ∧ status o = 0

/-- A refused command behind a `sleep`, a refused dump of either kind, and a `set` whose frequency
    query is refused. -/
theorem refusals_unseen :
    Unseen (fun _ => 3) (onDevice ["1".toList] .diagcnt ["disable".toList]) ∧
    Unseen (fun _ => 3) (onDevice [] .rscdump []) ∧
    Unseen (fun k => if k = 2 then 3 else 0) (onDevice [] .coredump ["--umem=4".toList]) ∧
    Unseen (fun k => if k = 0 then 3 else 0)
      (onDevice [] .diagcnt ["set".toList, "c".toList, "1".toList, "1".toList, "1".toList]) := by
  refine ⟨?_, ?_, ?_, ?_⟩
  · exact ⟨_, rfl, ⟨_, rfl, by decide⟩, rfl⟩
  · exact ⟨_, rfl, ⟨_, rfl, by decide⟩, rfl⟩
  · exact ⟨_, rfl, ⟨_, rfl, by decide⟩, rfl⟩
  · exact ⟨_, rfl, ⟨_, rfl, by decide⟩, rfl⟩

end Mlx5ctl
