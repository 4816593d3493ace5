/-
  diag_cnt.c: the command line of `diagcnt`, `do_diag_cnt` and its sub-commands.

  `do_set` counts the commas of its last argument for the length of an array from `malloc`, and
  fills it with the tokens `strtok` finds between them; a slot without a token keeps what the
  block held. The sample period is printed in floating point: its line keeps the two numbers it
  is computed from.
-/
import Mlx5ctl.DiagCnt.SetParam
import Mlx5ctl.Mlx5ctlu

namespace Mlx5ctl.DiagCnt

open ByteMem CInt CString Ifc

variable {σ : Type} (K : Sys σ)

/-- `EINVAL` -/
def einval : Int := 22

/-- `argv[i]` -/
def arg (argv : List CStr) (i : Nat) : CStr := argv.getD i []

/-- `argc > 1 && !strcmp(argv[1], "help")` -/
def AsksHelp (argv : List CStr) : Prop := 1 < argv.length ∧ arg argv 1 = "help".toList

instance (argv : List CStr) : Decidable (AsksHelp argv) := inferInstanceAs (Decidable (_ ∧ _))

/-- `do_param(dev, argc, argv)` -/
def doParam (w : World σ) (argv : List CStr) : Int × World σ :=
  if AsksHelp argv then
    (0, w.print (.printf "Usage: %s [num counters currently enabled in HW or more..]\n"
      [textArg (arg argv 0)]))
  else
    let numCnt := if 1 < argv.length then atoi (arg argv 1) else 20
    let w := w.print (.printf "query diag counter params with %d counters\n" [.int numCnt])
    let r := mlx5DiagCntQueryParam K w numCnt
    (r.err, r.w)

/-! ## set -/

/-- `struct set_diag_params params = {}` -/
def noParams : SetDiagParams where
  logNumOfSamples := 0
  single := 0
  repetitive := 0
  sync := 0
  clear := 0
  onDemand := 0
  enable := 0
  logSamplePeriod := 0
  numOfCounters := 0
  counterId _ := 0

/-- What `parse_flags` leaves behind. -/
structure FlagsResult (σ : Type) where
  ret : Int
  params : SetDiagParams
  w : World σ

/-- `parse_flags(flags, params)`, from a position on and with `ret` so far. The flag it reports as
    invalid is the character behind it. -/
def parseFlags (w : World σ) (params : SetDiagParams) (ret : Nat) : CStr → FlagsResult σ
  | [] => ⟨ret, params, w⟩
  | '-' :: flags => parseFlags w params ret flags
  | 'c' :: flags => parseFlags w { params with clear := 1 } ret flags
  | 'S' :: flags => parseFlags w { params with sync := 1 } ret flags
  | 's' :: flags => parseFlags w { params with single := 1 } ret flags
  | 'r' :: flags => parseFlags w { params with repetitive := 1 } ret flags
  | 'o' :: flags => parseFlags w { params with onDemand := 1 } (ret ||| 0x8) flags
  | _ :: flags =>
      ⟨-1, params, w.print (.printf "invalid flag %c\n" [textArg [flags.headD '\x00']])⟩

/-- `params.num_of_counters`: the commas and one. -/
def countCounters (s : CStr) : Int := toInt (s.count ',' + 1 : Nat)

/-- `params.counter_id`: the tokens as numbers, in an array that holds `block`. -/
def counterIds (block : Mem) (s : CStr) (i : Nat) : u32 :=
  match (strtok ',' s)[i]? with
  | some tok => BitVec.ofNat 32 (strtoul tok)
  | none => load32 .little block (4 * i)

/-- What `do_set` prints before it sets. -/
def settingLines (params : SetDiagParams) (devFreq : Int) : List Line :=
  let bit (b : BitVec 1) : Arg := .int b.toNat
  let hex (v : Int) : List Arg := [.int v, .int (toU32 v)]
  [.printf "setting params:\n" [],
    .printf "\tsingle: %d (0x%x)\n" [bit params.single, bit params.single],
    .printf "\trepetitive: %d (0x%x)\n" [bit params.repetitive, bit params.repetitive],
    .printf "\tsync: %d \n" [bit params.sync],
    .printf "\tclear: %d\n" [bit params.clear],
    .printf "\ton_demand: %d\n" [bit params.onDemand],
    .printf "\tenable: %d\n" [bit params.enable],
    .printf "\tnum_of_counters: %d (0x%x)\n" (hex params.numOfCounters),
    .printf "\tlog_num_of_samples: %d (0x%x)\n" (hex params.logNumOfSamples),
    .printf "\tlog_sample_period: %d (0x%x)\n" (hex params.logSamplePeriod),
    .printf "\tsample_period: %.1f μs\n" [.int params.logSamplePeriod, .int devFreq],
    .printf "\tdev_freq: %d kHz\n" [.int devFreq],
    .printf "\tcounter_id:\n" []] ++
  (List.range params.numOfCounters.toNat).map fun i =>
    .printf "\t\t[%d] = %d (0x%x)\n"
      [.int i, .int (toInt (params.counterId i).toNat), .int (params.counterId i).toNat]

/-- `do_set` from its `mlx5_diag_cnt_set_param` on. -/
def setParams (w : World σ) (params : SetDiagParams) (devFreq : Int) : Int × World σ :=
  let r := mlx5DiagCntSetParam K (w.prints (settingLines params devFreq)) params
  if r.err ≠ 0 then
    (r.err, r.w.print (.errMsg "set diagnostic params failed, %d\n" [.int r.err]))
  else (0, r.w.print (.printf "set diagnostic params succeeded\n" []))

/-- The parameters `do_set` sends, with the flags in `flags`. -/
def setArgs (flags : SetDiagParams) (argv : List CStr) (block : Mem) : SetDiagParams :=
  { flags with
    logNumOfSamples := atoi (arg argv 2)
    logSamplePeriod := atoi (arg argv 3)
    numOfCounters := countCounters (arg argv 4)
    counterId := counterIds block (arg argv 4)
    enable := 1 }

/-- `do_set(dev, argc, argv)` -/
def doSet (w : World σ) (argv : List CStr) : Int × World σ :=
  if AsksHelp argv then
    (0, w.prints
      [.printf ("Usage: %s [flags] <log num of samples> <sample period> " ++
          "<counter id1>,<counter id2>...\n") [textArg (arg argv 0)],
        .printf "\tflags: -Scsro = (S)ync (c)lear (s)ingle (r)epetitive (o)n_demand\n" []])
  else if argv.length < 5 then
    (einval, w.print (.errMsg ("usage: set [flags] <log num of samples> <sample period> " ++
      "<num of counters> <counter id1>,<counter id2>...\n") []))
  else
    let flags := parseFlags w noParams 0 (arg argv 1)
    if flags.ret ≠ 0 then (einval, flags.w)
    else
      let m := K.malloc flags.w.sys (toSize (countCounters (arg argv 4)) * 4)
      let w := { flags.w with sys := m.2 }
      match m.1 with
      | none => (enomem, w)
      | some block =>
          let freq := getDevFreq K w
          if freq.err < 0 then
            (freq.err, freq.w.print (.errMsg "Can't get device frequency.\n" []))
          else setParams K freq.w (setArgs flags.params argv block) freq.err

/-! ## The other sub-commands -/

/-- `do_dump(dev, argc, argv)` -/
def doDump (w : World σ) (argv : List CStr) : Int × World σ :=
  if AsksHelp argv then
    (0, w.print (.printf "Usage: %s [num lines] [sample index] [--bin]\n" [textArg (arg argv 0)]))
  else
    let printLines := if 1 < argv.length then atoi (arg argv 1) else 1
    let sampleIndex := if 2 < argv.length then atoi (arg argv 2) else 0
    let binOutput : Bool := 3 < argv.length ∧ arg argv 3 = "--bin".toList
    let w :=
      if binOutput then w
      else w.print (.printf "query diag counters: %d lines, starting with sample_index %d\n"
        [.int printLines, .int sampleIndex])
    let r := queryDiagCounters K w printLines sampleIndex binOutput
    (r.err, r.w)

/-- `do_disable(dev, argc, argv)` -/
def doDisable (w : World σ) : Int × World σ :=
  let r := mlx5DiagCntSetParam K
    (w.print (.printf "disabling diag counters and clearing HW buffer\n" [])) disableParams
  (r.err, r.w)

/-- `do_cap(dev, argc, argv)` -/
def doCap (w : World σ) : Int × World σ :=
  let r := mlx5DiagCntQueryCap K w
  (r.err, r.w)

/-- The functions of `commands`. -/
inductive SubCommand where
  | doCap
  | doHelp
  | doSet
  | doDisable
  | doParam
  | doDump
  deriving DecidableEq

/-- `commands` -/
def commands : List (Cmd SubCommand) :=
  [⟨"cap", .doCap, "show diag counters cap"⟩,
    ⟨"help", .doHelp, "show this help"⟩,
    ⟨"set", .doSet, "set param"⟩,
    ⟨"disable", .doDisable, "disable diag counters"⟩,
    ⟨"param", .doParam, "query param"⟩,
    ⟨"dump", .doDump, "dump samples"⟩]

/-- `do_help(dev, argc, argv)`, with `help_cmd`. -/
def doHelp (w : World σ) (helpCmd : CStr) : Int × World σ :=
  (0, w.prints ([.printf "Usage: %s <command> [options]\n" [textArg helpCmd],
    .printf "Commands:\n" []] ++ cmdLines commands))

/-- A sub-command, with its `argv` and the `argv[0]` of `diagcnt`. -/
def runSub (w : World σ) (helpCmd : CStr) (argv : List CStr) : SubCommand → Int × World σ
  | .doCap => doCap K w
  | .doHelp => doHelp w helpCmd
  | .doSet => doSet K w argv
  | .doDisable => doDisable K w
  | .doParam => doParam K w argv
  | .doDump => doDump K w argv

/-- `argv[1]` in a message: glibc prints a null pointer as "(null)". -/
def nameArg (argv : List CStr) : Arg := textArg (argv.getD 1 "(null)".toList)

/-- `do_diag_cnt(dev, argc, argv)`, with what `cmd_select` does with a name it does not know. -/
def doDiagCnt (unknown : World σ → CStr → Outcome σ Int) (w : World σ) (argv : List CStr) :
    Outcome σ Int :=
  (cmdSelect commands (unknown w)
    (fun c =>
      let r := runSub K w (arg argv 0) argv.tail c
      .ret r.1 r.2) argv.tail).bind fun err w =>
    if err ≠ 0 then
      .ret err (w.print (.errMsg "diag_cnt %s failed, %d\n" [nameArg argv, .int err]))
    else .ret err w

end Mlx5ctl.DiagCnt
