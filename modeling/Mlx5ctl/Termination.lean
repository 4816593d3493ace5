/-
  When a run of the tool ends.

  What loops without a bound is the dump of `rscdump`: a run that comes to one is that dump and a
  fixed rest (`main_dump`), and every other run is over whatever bound it is given
  (`main_without_dump`). So more turns never change what a run comes to (`main_mono`), and on a
  device that has only so much to announce a run ends exactly when what it hands the parser has no
  segment of length 0 (`main_ends_iff`).
-/
import Mlx5ctl.CommandLines
import Mlx5ctl.Footprint
import Mlx5ctl.RscDump.Ending

namespace Mlx5ctl

open ByteMem CInt CString Ifc Transition

variable {σ : Type}

/-! ## The dump of `do_rscdump` -/

namespace RscDump

/-- The world in which the setup starts: the arguments are printed. -/
def argsPrinted (w : World σ) (args : Args) : World σ :=
  w.print (.printf "umem %d, type 0x%x, index1 0x%x, index2 0x%x, vhca_id=0x%x\n"
    [.int args.umem, .int args.type, .int args.index1, .int args.index2, .int args.vhcaId])

/-- `do_rscdump` comes to `mlx5_rsc_dump`, with this world, these arguments and this umem. -/
structure Dumping (K : UmemSys σ) (w : World σ) (argv : List CStr) (v : World σ) (args : Args)
    (umemBuff : Option UmemBuff) : Prop where
  command : argv.headD [] = "rscdump".toList
  ready : ∃ parsed u umemPdn, parseArgs w argv = .ret parsed u ∧ args = parsed.withType ∧
    setupUmem K (argsPrinted u args) args = .ready umemBuff umemPdn v

variable {K : UmemSys σ} {w : World σ} {argv : List CStr}

theorem doRscdump_dump {v : World σ} {args : Args} {umemBuff : Option UmemBuff}
    (h : Dumping K w argv v args umemBuff) : ∃ f, ∀ n, doRscdump K w argv n =
      (mlx5RscDump K.toSys v args umemBuff n).map f := by
  obtain ⟨parsed, u, umemPdn, hparse, rfl, hset⟩ := h.ready
  refine ⟨fun w => .ret 0 (teardownUmem K w umemBuff umemPdn), fun n => ?_⟩
  unfold argsPrinted at hset
  unfold doRscdump dumpCommand
  rw [hparse]
  dsimp only
  rw [hset]
  dsimp only
  rw [if_pos h.command]

theorem doRscdump_without (h : ∀ v args umemBuff, ¬ Dumping K w argv v args umemBuff) :
    ∃ o, ∀ n, doRscdump K w argv n = some o := by
  cases hparse : parseArgs w argv with
  | exit code v => exact ⟨_, fun n => by unfold doRscdump; rw [hparse]⟩
  | segv v => exact ⟨_, fun n => by unfold doRscdump; rw [hparse]⟩
  | ret parsed u =>
      cases hset : setupUmem K (argsPrinted u parsed.withType) parsed.withType with
      | returned ret v =>
          unfold argsPrinted at hset
          exact ⟨_, fun n => by unfold doRscdump; rw [hparse]; dsimp only; rw [hset]⟩
      | ready umemBuff umemPdn v =>
          have hcmd : argv.headD [] ≠ "rscdump".toList := fun hcmd =>
            h v parsed.withType umemBuff ⟨hcmd, parsed, u, umemPdn, hparse, rfl, hset⟩
          unfold argsPrinted at hset
          refine ⟨.ret 0 (teardownUmem K (if argv.headD [] = "coredump".toList then
            mlx5CoreDump K v umemBuff else v.print (.errMsg "Unknown command \"%s\"\n"
              [textArg (argv.headD [])])) umemBuff umemPdn), fun n => ?_⟩
          unfold doRscdump dumpCommand
          rw [hparse]
          dsimp only
          rw [hset]
          dsimp only
          rw [if_neg hcmd]
          split_ifs <;> rfl

end RscDump

/-! ## The command behind the `sleep`s -/

section Command

variable (E : Env σ) (helpCmd : CStr) (dev : Mlx5uDev) (w : World σ)

/-- The `sleep`s are around the command behind them, whatever the bound. -/
theorem runCommand_behind (argv : List CStr) : ∃ f, ∀ n,
    runCommand E helpCmd dev n w argv =
      (runCommand E helpCmd dev n w (innermost argv)).map f := by
  induction argv using innermost.induct with
  | case1 time argv ih =>
      obtain ⟨f, hf⟩ := ih
      refine ⟨(fun o => o.bind fun _ w => .ret 0 w) ∘ f, fun n => ?_⟩
      show (runCommand E helpCmd dev n w argv).map _ =
        (runCommand E helpCmd dev n w (innermost argv)).map _
      rw [hf, Option.map_map]
  | case2 name time argv hname =>
      rw [innermost, if_neg hname]
      exact ⟨id, fun n => by rw [Option.map_id, id]⟩
  | case3 argv hshort =>
      rw [innermost.eq_2 argv hshort]
      exact ⟨id, fun n => by rw [Option.map_id, id]⟩

/-- The command behind the `sleep`s is found by its name. -/
theorem runCommand_selected (n : Nat) (argv : List CStr) :
    runCommand E helpCmd dev n w (innermost argv) =
      (selected commands (innermost argv)).elim
        (some (unknownCommand E.sys.toSys E.files E.stale helpCmd w ((innermost argv).headD [])))
        (runLeaf E helpCmd dev w (innermost argv) n) := by
  induction argv using innermost.induct with
  | case1 time argv ih => exact ih
  | case2 name time argv hname =>
      rw [innermost, if_neg hname]
      cases hc : commands.find? (fun c => c.name.toList = name) with
      | none =>
          rw [runCommand_unknown _ _ hc]
          unfold selected
          rw [cmdSelect_unknown hc]
          rfl
      | some c =>
          rw [runCommand_found _ _ hc fun hs => absurd ((command_names hc).1.mp hs) hname]
          unfold selected
          rw [cmdSelect_found hc]
          rfl
  | case3 argv hshort =>
      rw [innermost.eq_2 argv hshort]
      refine Eq.trans ?_ (cmdSelect_selected commands (fun name => some (unknownCommand E.sys.toSys
        E.files E.stale helpCmd w name)) (runLeaf E helpCmd dev w argv n) argv)
      unfold runCommand
      split
      · exact absurd rfl (hshort _ _ _)
      · rfl

/-- The name of a dump. -/
theorem selected_rscdump {argv : List CStr} (h : argv.headD [] = "rscdump".toList) :
    selected commands argv = some .doRscdump := by
  cases argv with
  | nil => cases h
  | cons name rest =>
      have hname : name = "rscdump".toList := h
      rw [hname]
      rfl

/-- A command that comes to no dump is over, whatever the bound. -/
theorem runCommand_without_dump {w : World σ} {argv : List CStr}
    (h : ∀ v args umemBuff, ¬ RscDump.Dumping E.sys w (innermost argv) v args umemBuff) :
    ∃ o, ∀ n, runCommand E helpCmd dev n w (innermost argv) = some o := by
  cases hc : selected commands (innermost argv) with
  | none => exact ⟨_, fun n => by rw [runCommand_selected, hc]; rfl⟩
  | some c =>
      have hrun (n : Nat) : runCommand E helpCmd dev n w (innermost argv) =
          runLeaf E helpCmd dev w (innermost argv) n c := by
        rw [runCommand_selected, hc, Option.elim_some]
      simp only [hrun]
      cases c with
      | doRscdump => exact RscDump.doRscdump_without h
      | _ => exact ⟨_, fun _ => rfl⟩

end Command

/-! ## The dump of a run -/

variable (E : Env σ)

/-- The run comes to `mlx5_rsc_dump`, with this world, these arguments and this umem. -/
structure Dumps (w : World σ) (words : List CStr) (v : World σ) (args : RscDump.Args)
    (umemBuff : Option RscDump.UmemBuff) : Prop where
  opened : ∃ name argv dev u, deviceWords words = some (name, argv) ∧
    mlx5uOpen E.sys.toSys E.files E.stale w name = .ret (some dev) u ∧
    RscDump.Dumping E.sys u (innermost argv) v args umemBuff

/-- A run that comes to a dump is the dump and a rest. -/
theorem main_dump {w v : World σ} {words : List CStr} {args : RscDump.Args}
    {umemBuff : Option RscDump.UmemBuff} (h : Dumps E w words v args umemBuff) :
    ∃ f, ∀ n, main E n w words = (RscDump.mlx5RscDump E.sys.toSys v args umemBuff n).map f := by
  obtain ⟨name, argv, dev, u, hdev, hopen, hdump⟩ := h.opened
  obtain ⟨f, hf⟩ := RscDump.doRscdump_dump hdump
  obtain ⟨g, hg⟩ := runCommand_behind E (words.headD []) dev u argv
  refine ⟨(fun o => o.bind fun ret w => .ret (if 0 < ret then ret else -ret) w) ∘ g ∘ f,
    fun n => ?_⟩
  rw [main_device E hdev]
  unfold runMain
  dsimp only
  rw [hopen]
  dsimp only
  rw [hg, runCommand_selected, selected_rscdump hdump.command, Option.elim_some]
  show ((RscDump.doRscdump E.sys u (innermost argv) n).map g).map _ = _
  rw [hf, Option.map_map, Option.map_map]
  rfl

/-- Without a device there is only the help. -/
theorem main_without_device {words : List CStr} (w : World σ) (hdev : deviceWords words = none) :
    ∃ o, ∀ n, main E n w words = some o := by
  match words with
  | [] => exact ⟨_, fun _ => rfl⟩
  | [helpCmd] => exact ⟨_, fun _ => rfl⟩
  | helpCmd :: word :: rest =>
      unfold deviceWords at hdev
      unfold main
      dsimp only at hdev ⊢
      split_ifs at hdev ⊢ with hword hverbose
      · exact ⟨_, fun _ => rfl⟩
      · match rest with
        | [] => exact ⟨_, fun _ => rfl⟩
        | name :: argv => cases hdev

/-- A run that comes to no dump is over, whatever the bound. -/
theorem main_without_dump {w : World σ} {words : List CStr}
    (h : ∀ v args umemBuff, ¬ Dumps E w words v args umemBuff) :
    ∃ o, ∀ n, main E n w words = some o := by
  cases hdev : deviceWords words with
  | none => exact main_without_device E w hdev
  | some found =>
      obtain ⟨name, argv⟩ := found
      cases hopen : mlx5uOpen E.sys.toSys E.files E.stale w name with
      | exit code v => exact ⟨_, fun n => by rw [main_device E hdev, runMain, hopen]⟩
      | segv v => exact ⟨_, fun n => by rw [main_device E hdev, runMain, hopen]⟩
      | ret dev u =>
          cases dev with
          | none => exact ⟨_, fun n => by rw [main_device E hdev, runMain, hopen]⟩
          | some dev =>
              obtain ⟨g, hg⟩ := runCommand_behind E (words.headD []) dev u argv
              obtain ⟨o, ho⟩ := runCommand_without_dump E (words.headD []) dev (w := u)
                fun v args umemBuff hd => h v args umemBuff ⟨name, argv, dev, u, hdev, hopen, hd⟩
              refine ⟨(g o).bind fun ret w => .ret (if 0 < ret then ret else -ret) w, fun n => ?_⟩
              rw [main_device E hdev, runMain, hopen]
              dsimp only
              rw [hg, ho, Option.map_some, Option.map_some]

/-- A run is a dump and a rest, or over whatever the bound. -/
theorem main_cases (w : World σ) (words : List CStr) :
    (∃ v args umemBuff f, Dumps E w words v args umemBuff ∧ ∀ n, main E n w words =
      (RscDump.mlx5RscDump E.sys.toSys v args umemBuff n).map f) ∨
    ∃ o, ∀ n, main E n w words = some o := by
  by_cases hdump : ∃ v args umemBuff, Dumps E w words v args umemBuff
  · obtain ⟨v, args, umemBuff, hd⟩ := hdump
    obtain ⟨f, hf⟩ := main_dump E hd
    exact .inl ⟨v, args, umemBuff, f, hd, hf⟩
  · exact .inr (main_without_dump E fun v args umemBuff hd => hdump ⟨v, args, umemBuff, hd⟩)

/-! ## Termination -/

/-- More turns change nothing once a run is over. -/
theorem main_mono {w : World σ} {words : List CStr} {m n : Nat} {o : Outcome σ Int}
    (h : main E m w words = some o) (hmn : m ≤ n) : main E n w words = some o := by
  rcases main_cases E w words with ⟨v, args, umemBuff, f, -, hf⟩ | ⟨o', ho'⟩
  · rw [hf] at h ⊢
    obtain ⟨x, hx, rfl⟩ := Option.map_eq_some_iff.mp h
    rw [RscDump.mlx5RscDump_mono hx hmn, Option.map_some]
  · rw [ho'] at h ⊢
    exact h

/-- The run hands the parser `size` bytes at `p`. -/
def Parsed (w : World σ) (words : List CStr) (p : Mem) (size : Int) : Prop :=
  ∃ v args umemBuff, Dumps E w words v args umemBuff ∧
    RscDump.Handed E.sys v args umemBuff p size

/-- **Termination of the tool.** On a device that has only so much to announce, whatever else it
    answers, a run ends exactly when what it hands the parser has no segment of length 0. A command
    line that hands it nothing always ends. -/
theorem main_ends_iff {left : σ → Nat} (hK : RscDump.Exhausts E.sys left) (w : World σ)
    (words : List CStr) : (∃ N o, ∀ n, N ≤ n → main E n w words = some o) ↔
      ∀ p size, Parsed E w words p size → RscDump.NoZeroLength p size := by
  constructor
  · rintro ⟨N, o, hN⟩ p size ⟨v, args, umemBuff, hd, hp⟩
    obtain ⟨f, hf⟩ := main_dump E hd
    have hmain := hN N (Nat.le_refl N)
    rw [hf] at hmain
    obtain ⟨x, hx, -⟩ := Option.map_eq_some_iff.mp hmain
    exact (RscDump.mlx5RscDump_ends_iff hK v args umemBuff).mp ⟨N, x, hx⟩ p size hp
  · intro h
    rcases main_cases E w words with ⟨v, args, umemBuff, f, hd, hf⟩ | ⟨o, ho⟩
    · obtain ⟨n, x, hx⟩ := (RscDump.mlx5RscDump_ends_iff hK v args umemBuff).mpr
        fun p size hp => h p size ⟨v, args, umemBuff, hd, hp⟩
      have hmain : main E n w words = some (f x) := by rw [hf, hx, Option.map_some]
      exact ⟨n, f x, fun m hm => main_mono E hmain hm⟩
    · exact ⟨0, o, fun n _ => ho n⟩

/-- A device whose dump is 40 bytes of zero, in two replies. -/
def zeroDump : Env Nat :=
  { answering fun _ => 0 with
    sys := { RscDump.granting with
      toSys := scripted fun k => (0, List.replicate 16 0 ++
        (if k = 0 then [0x80, 0x01] else [0x00, 0x02]) ++ List.replicate 36 0 ++ [0, 20] ++
        List.replicate 216 0) } }

theorem zeroDump_exhausts : RscDump.Exhausts zeroDump.sys fun k => 1 - k where
  call s c := by
    cases c with
    | rpc req n =>
        show 1 - (s + 1) ≤ 1 - s
        omega
    | _ => exact Nat.le_refl _
  announced s req n _ _ _ hmore := by
    by_cases hs : s = 0
    · rw [hs]
      exact Nat.zero_lt_one
    · have hlast : (zeroDump.sys.rpc s req n).2.1 = List.replicate 16 0 ++ [0x00, 0x02] ++
          List.replicate 36 0 ++ [0, 20] ++ List.replicate 216 0 := by
        show List.replicate 16 0 ++ (if s = 0 then [0x80, 0x01] else [0x00, 0x02]) ++ _ ++ _ ++ _ =
          _
        rw [if_neg hs]
      rw [hlast] at hmore
      exact absurd hmore (by decide +kernel)

/-- The arguments of a dump without any. -/
def menuArgs : RscDump.Args := RscDump.Args.withType ⟨0, -1, 0, 0, 0⟩

/-- 20 bytes of zero. -/
def zeroChunk : RscDump.Chunk := ⟨List.replicate 20 0, by decide⟩

theorem zeroDump_realloc : RscDump.ReallocGrants zeroDump.sys.toSys := by
  intro _ n hn
  have hle : n ≤ ptrdiffMax := by
    unfold ptrdiffMax
    omega
  simp [zeroDump, scripted, hle]

theorem zeroDump_answers (k : Nat) (hk : k < [zeroChunk, zeroChunk].length) : Turn.Post
    (fun c => RscDump.Answers zeroDump.sys.toSys c k [zeroChunk, zeroChunk][k]
      (k + 1 < [zeroChunk, zeroChunk].length)) (fun _ => True)
    (RscDump.rscdumpCollect zeroDump.sys.toSys (RscDump.argsPrinted ⟨0, []⟩ menuArgs) menuArgs 0
      k) := by
  revert k
  decide +kernel

/-- `mlx5ctl 0 rscdump`: a resource segment of length 0 is looked at for ever. -/
theorem zeroDump_hangs : ¬ ∃ N o, ∀ n, N ≤ n →
    main zeroDump n ⟨0, []⟩ ["mlx5ctl".toList, "0".toList, "rscdump".toList] = some o := by
  intro h
  obtain ⟨d, p, hd, hp, hsize, hload⟩ := RscDump.inline_dumped zeroDump.sys.toSys
    (show (zeroDump.sys.malloc 0 4069).1 ≠ none by decide) zeroDump_realloc (by decide) (by decide)
    zeroDump_answers
  have hparsed : Parsed zeroDump ⟨0, []⟩
      ["mlx5ctl".toList, "0".toList, "rscdump".toList] p d.size :=
    ⟨_, menuArgs, none, ⟨⟨_, _, _, _, rfl, rfl, rfl, _, _, _, rfl, rfl, rfl⟩⟩, 2, d, hd, hp, rfl⟩
  have hlen := (main_ends_iff zeroDump zeroDump_exhausts ⟨0, []⟩ _).mp h p d.size hparsed
  have h40 : d.size = 40 := hsize
  rw [h40] at hlen
  have hzeroes : RscDump.Agree p zeroMem 40 := RscDump.Agree.of_load hload
  have hfield (f : Field) (hf : 36 + 4 * f.dwOff + 4 ≤ 40) :
      mlx5Get p 36 f = mlx5Get zeroMem 36 f := hzeroes.get (by omega)
  have htype : RscDump.segmentType p 36 = 0 :=
    congrArg BitVec.toNat (hfield SegmentHeader.segmentType (by decide))
  have hzero : RscDump.lengthDw p 36 = 0 :=
    congrArg BitVec.toNat (hfield SegmentHeader.lengthDw (by decide))
  have hlast : ¬ RscDump.Last p 36 := by
    unfold RscDump.Last
    rw [htype]
    decide
  have hpos := hlen 36 (.first (by decide)) hlast (by decide)
  omega

end Mlx5ctl
