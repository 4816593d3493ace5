/-
  diag_cnt.c: what `diagcnt set` takes, what it echoes, and what it sends.

  `SetRun` is how `do_set` goes, one constructor for each place where it ends. The flags are taken
  when they are `FlagsTaken`; the counter ids are the tokens of the last argument, in an array as
  long as the commas and one. What was printed is read back by its formats (`argsOf`).
-/
import Mlx5ctl.DiagCnt.SetQuery
import Mlx5ctl.DiagCnt.Frequency

namespace Mlx5ctl.DiagCnt

open ByteMem CInt CString Ifc

variable {σ : Type} (K : Sys σ)

/-! ## Flags -/

/-- The flags of the usage. -/
def flagChars : List Char := "-Scsro".toList

/-- Every character of the flags is documented. -/
def Documented (flags : CStr) : Prop := ∀ c ∈ flags, c ∈ flagChars

instance (flags : CStr) : Decidable (Documented flags) := inferInstanceAs (Decidable (∀ _ ∈ _, _))

/-- A flag after a string of flags. -/
def flagBit (b : BitVec 1) (c : Char) (flags : CStr) : BitVec 1 := if c ∈ flags then 1 else b

/-- The parameters after a string of flags. -/
def withFlags (params : SetDiagParams) (flags : CStr) : SetDiagParams :=
  { params with
    clear := flagBit params.clear 'c' flags
    sync := flagBit params.sync 'S' flags
    single := flagBit params.single 's' flags
    repetitive := flagBit params.repetitive 'r' flags
    onDemand := flagBit params.onDemand 'o' flags }

/-- `parse_flags` on documented flags: the letters are its flags, and an `o` stays in what it
    returns. -/
theorem parseFlags_documented (w : World σ) (params : SetDiagParams) (ret : Nat) {flags : CStr}
    (h : Documented flags) :
    parseFlags w params ret flags =
      ⟨((if 'o' ∈ flags then ret ||| 8 else ret : Nat) : Int), withFlags params flags, w⟩ := by
  fun_induction parseFlags w params ret flags with
  | case1 => simp [withFlags, flagBit]
  | case8 params ret c flags hdash hc hS hs hr ho =>
      have hmem := h c List.mem_cons_self
      simp [flagChars] at hmem
      tauto
  | _ params ret flags ih =>
      rw [ih fun c hc => h c (List.mem_cons_of_mem _ hc)]
      simp [withFlags, flagBit]

theorem parseFlags_undocumented (w : World σ) (params : SetDiagParams) (ret : Nat) {flags : CStr}
    (h : ¬ Documented flags) : (parseFlags w params ret flags).ret = -1 := by
  fun_induction parseFlags w params ret flags with
  | case1 => exact absurd (fun _ hc => absurd hc List.not_mem_nil) h
  | case8 => rfl
  | _ params ret flags ih =>
      refine ih fun hrest => h fun c hc => ?_
      rcases List.mem_cons.mp hc with rfl | hc
      · decide
      · exact hrest c hc

/-- `do_set` goes on with these flags: it does not ask for help, and `parse_flags` returns 0. -/
def FlagsTaken (argv : List CStr) : Prop :=
  ¬ AsksHelp argv ∧ (parseFlags (⟨(), []⟩ : World Unit) noParams 0 (arg argv 1)).ret = 0

instance (argv : List CStr) : Decidable (FlagsTaken argv) := inferInstanceAs (Decidable (_ ∧ _))

theorem parseFlags_ret_eq_zero_iff (w : World σ) (flags : CStr) :
    (parseFlags w noParams 0 flags).ret = 0 ↔ Documented flags ∧ 'o' ∉ flags := by
  by_cases h : Documented flags
  · rw [parseFlags_documented w noParams 0 h]
    by_cases ho : 'o' ∈ flags <;> simp [h, ho]
  · simp [parseFlags_undocumented w noParams 0 h, h]

theorem documented_not_help {argv : List CStr} (h : Documented (arg argv 1)) :
    ¬ AsksHelp argv := by
  rintro ⟨-, hhelp⟩
  rw [hhelp] at h
  exact absurd (h 'h' (by simp)) (by simp [flagChars])

/-- The flags that are taken: the documented ones, but for `o`. -/
theorem flagsTaken_iff (argv : List CStr) :
    FlagsTaken argv ↔ Documented (arg argv 1) ∧ 'o' ∉ arg argv 1 := by
  unfold FlagsTaken
  rw [parseFlags_ret_eq_zero_iff]
  exact and_iff_right_of_imp fun h => documented_not_help h.1

/-- What stops `do_set` after the question for help and the count. -/
theorem parseFlags_refused (w : World σ) {argv : List CStr} (h : ¬ FlagsTaken argv) :
    (parseFlags w noParams 0 (arg argv 1)).ret ≠ 0 := fun hret =>
  h ((flagsTaken_iff argv).mpr ((parseFlags_ret_eq_zero_iff w _).mp hret))

/-! ## What is printed -/

/-- The arguments of the lines with this format. -/
def argsOf (fmt : String) (ls : List Line) : List (List Arg) :=
  ls.filterMap fun l =>
    match l with
    | .printf f args => if f = fmt then some args else none
    | _ => none

@[simp] theorem argsOf_append (fmt : String) (ls ms : List Line) :
    argsOf fmt (ls ++ ms) = argsOf fmt ls ++ argsOf fmt ms := List.filterMap_append

@[simp] theorem argsOf_nil (fmt : String) : argsOf fmt [] = [] := rfl

@[simp] theorem argsOf_printf (fmt f : String) (args : List Arg) (ls : List Line) :
    argsOf fmt (.printf f args :: ls) =
      if f = fmt then args :: argsOf fmt ls else argsOf fmt ls := by
  by_cases h : f = fmt
  · rw [if_pos h]
    exact List.filterMap_cons_some (if_pos h)
  · rw [if_neg h]
    exact List.filterMap_cons_none (if_neg h)

theorem argsOf_map {α : Type} (fmt f : String) (args : α → List Arg) (l : List α) :
    argsOf fmt (l.map fun a => .printf f (args a)) = if f = fmt then l.map args else [] := by
  induction l with
  | nil => simp
  | cons a l ih =>
      rw [List.map_cons, argsOf_printf, ih]
      split_ifs <;> rfl

/-- The formats of the echo behind its flags. -/
def echoFmts : List String :=
  ["\tnum_of_counters: %d (0x%x)\n", "\tlog_num_of_samples: %d (0x%x)\n",
    "\tlog_sample_period: %d (0x%x)\n", "\tsample_period: %.1f μs\n", "\tdev_freq: %d kHz\n",
    "\t\t[%d] = %d (0x%x)\n"]

/-- A line of the echo. -/
def isEcho : Line → Bool
  | .printf f _ => decide (f ∈ echoFmts)
  | _ => false

/-- From `u` to `v`, the lines with this format were printed with these arguments. -/
def Prints (fmt : String) (l : List (List Arg)) (u v : World σ) : Prop :=
  ∃ new, v.out = u.out ++ new ∧ argsOf fmt new = l

namespace Prints

variable {fmt : String} {l m : List (List Arg)} {u v w : World σ}

theorem of_out (h : v.out = u.out) : Prints fmt [] u v := ⟨[], by simp [h], rfl⟩

theorem trans (h : Prints fmt l u v) (h' : Prints fmt m v w) : Prints fmt (l ++ m) u w := by
  obtain ⟨new, hout, rfl⟩ := h
  obtain ⟨new', hout', rfl⟩ := h'
  exact ⟨new ++ new', by simp [hout, hout'], argsOf_append fmt new new'⟩

/-- Nothing, and then something. -/
theorem before (h : Prints fmt [] u v) (h' : Prints fmt m v w) : Prints fmt m u w := by
  simpa using h.trans h'

/-- Something, and then nothing. -/
theorem after (h : Prints fmt l u v) (h' : Prints fmt [] v w) : Prints fmt l u w := by
  simpa using h.trans h'

theorem lines {ls : List Line} (h : v.out = u.out ++ ls) : Prints fmt (argsOf fmt ls) u v :=
  ⟨ls, h, rfl⟩

theorem errMsg (u : World σ) (f : String) (args : List Arg) :
    Prints fmt [] u (u.print (.errMsg f args)) := ⟨[_], rfl, rfl⟩

theorem unechoed (hfmt : fmt ∈ echoFmts) (u : World σ) (ls : List Line)
    (h : ∀ l ∈ ls, isEcho l = false) : Prints fmt [] u (u.prints ls) := by
  refine ⟨ls, rfl, List.filterMap_eq_nil_iff.mpr fun l hl => ?_⟩
  cases l with
  | printf f args =>
      refine if_neg ?_
      rintro rfl
      exact absurd hfmt (of_decide_eq_false (h _ hl))
  | _ => rfl

/-- What was printed is one list. -/
theorem unique (h : Prints fmt l u v) (h' : Prints fmt m u v) : l = m := by
  obtain ⟨new, hout, rfl⟩ := h
  obtain ⟨new', hout', rfl⟩ := h'
  rw [List.append_cancel_left (hout.symm.trans hout')]

end Prints

/-- `mlx5u_cmd` prints error messages only. -/
theorem mlx5uCmd_prints (fmt : String) (w : World σ) (inb : Mem) (inlen : Nat) (out : Mem)
    (outlen : Nat) : Prints fmt [] w (mlx5uCmd K w inb inlen out outlen).w := by
  unfold mlx5uCmd
  dsimp only
  split_ifs
  · exact .errMsg _ _ _
  · exact ((Prints.errMsg _ _ _).after (.errMsg _ _ _)).after (.errMsg _ _ _)
  · exact .of_out rfl

theorem queryDevcap_prints (fmt : String) (w : World σ) (type : Nat) (out : Mem) (outSz : Nat) :
    Prints fmt [] w (queryDevcap K w type out outSz).w := by
  unfold queryDevcap
  dsimp only
  split_ifs
  · exact (mlx5uCmd_prints K fmt w _ _ _ _).after (.errMsg _ _ _)
  · exact mlx5uCmd_prints K fmt w _ _ _ _

theorem getDevFreq_prints (fmt : String) (w : World σ) :
    Prints fmt [] w (getDevFreq K w).w := by
  have hquery := queryDevcap_prints K fmt w MLX5_CAP_GENERAL zeroMem QueryHcaCapOut.szBytes
  unfold getDevFreq
  dsimp only
  split_ifs <;> exact hquery

theorem setParam_prints (fmt : String) (w : World σ) (params : SetDiagParams) :
    Prints fmt [] w (mlx5DiagCntSetParam K w params).w := by
  unfold mlx5DiagCntSetParam
  dsimp only
  split
  · exact .of_out rfl
  · have hcmd (s : σ) (inb : Mem) (inlen : Nat) : Prints fmt [] w
        (mlx5uCmd K { w with sys := s } inb inlen zeroMem SetDiagnosticParamsOut.szBytes).w :=
      mlx5uCmd_prints K fmt { w with sys := s } inb inlen zeroMem _
    split_ifs
    · exact (hcmd _ _ _).after (.errMsg _ _ _)
    · exact hcmd _ _ _

/-- `do_set` from its echo on. -/
theorem setParams_prints {fmt : String} (hfmt : fmt ∈ echoFmts)
    (w : World σ) (params : SetDiagParams) (devFreq : Int) :
    Prints fmt (argsOf fmt (settingLines params devFreq)) w (setParams K w params devFreq).2 := by
  have hecho : Prints fmt (argsOf fmt (settingLines params devFreq)) w
      (w.prints (settingLines params devFreq)) := .lines rfl
  have hset := setParam_prints K fmt (w.prints (settingLines params devFreq)) params
  have hdone (u : World σ) : Prints fmt [] u
      (u.print (.printf "set diagnostic params succeeded\n" [])) :=
    .unechoed hfmt u [_] (by simp [isEcho, echoFmts])
  unfold setParams
  dsimp only
  split_ifs
  · exact (hecho.after hset).after (.errMsg _ _ _)
  · exact (hecho.after hset).after (hdone _)

/-! ## How a set goes -/

/-- The parameters `do_set` sends, with the array of ids in `block`. -/
def sentParams (argv : List CStr) (block : Mem) : SetDiagParams :=
  setArgs (withFlags noParams (arg argv 1)) argv block

/-- How `do_set` goes: where it ends, and what it returns there. -/
inductive SetRun (w : World σ) (argv : List CStr) : Int × World σ → Prop
  | refused {ret : Int} {v : World σ} (args : ¬ (FlagsTaken argv ∧ 5 ≤ argv.length))
      (sys : v.sys = w.sys) (said : ∀ fmt ∈ echoFmts, Prints fmt [] w v) : SetRun w argv (ret, v)
  | noIds (flags : FlagsTaken argv) (argc : 5 ≤ argv.length) {s : σ}
      (malloc : K.malloc w.sys (toSize (countCounters (arg argv 4)) * 4) = (none, s)) :
      SetRun w argv (enomem, { w with sys := s })
  | noFreq (flags : FlagsTaken argv) (argc : 5 ≤ argv.length) {block : Mem} {s : σ}
      (malloc : K.malloc w.sys (toSize (countCounters (arg argv 4)) * 4) = (some block, s))
      (freq : (getDevFreq K { w with sys := s }).err < 0) :
      SetRun w argv ((getDevFreq K { w with sys := s }).err,
        (getDevFreq K { w with sys := s }).w.print (.errMsg "Can't get device frequency.\n" []))
  | sets (flags : FlagsTaken argv) (argc : 5 ≤ argv.length) {block : Mem} {s : σ}
      (malloc : K.malloc w.sys (toSize (countCounters (arg argv 4)) * 4) = (some block, s))
      (freq : 0 ≤ (getDevFreq K { w with sys := s }).err) :
      SetRun w argv (setParams K (getDevFreq K { w with sys := s }).w
        (sentParams argv block) (getDevFreq K { w with sys := s }).err)

theorem parseFlags_prints (w : World σ) (params : SetDiagParams) (ret : Nat) (flags : CStr)
    {fmt : String} (hfmt : fmt ∈ echoFmts) :
    Prints fmt [] w (parseFlags w params ret flags).w := by
  fun_induction parseFlags w params ret flags with
  | case1 => exact .of_out rfl
  | case8 => exact .unechoed hfmt w [_] (by simp [isEcho, echoFmts])
  | _ => assumption

/-- `do_set` behind its `malloc`. -/
def setFromIds (w : World σ) (argv : List CStr) : Option Mem → Int × World σ
  | none => (enomem, w)
  | some block =>
      if (getDevFreq K w).err < 0 then
        ((getDevFreq K w).err,
          (getDevFreq K w).w.print (.errMsg "Can't get device frequency.\n" []))
      else setParams K (getDevFreq K w).w (sentParams argv block) (getDevFreq K w).err

/-- `do_set` on arguments that are taken. -/
theorem doSet_taken {w : World σ} {argv : List CStr} {ids : Option Mem} {s : σ}
    (flags : FlagsTaken argv) (argc : 5 ≤ argv.length)
    (hm : K.malloc w.sys (toSize (countCounters (arg argv 4)) * 4) = (ids, s)) :
    doSet K w argv = setFromIds K { w with sys := s } argv ids := by
  have hdoc := (flagsTaken_iff argv).mp flags
  unfold doSet
  dsimp only
  rw [if_neg flags.1, if_neg (by omega), parseFlags_documented w noParams 0 hdoc.1,
    if_neg hdoc.2]
  dsimp only
  rw [if_neg (not_not.mpr Int.ofNat_zero), hm]
  cases ids <;> rfl

/-- On arguments that are not, it prints what is wrong with them. -/
theorem doSet_refused (w : World σ) {argv : List CStr}
    (h : ¬ (FlagsTaken argv ∧ 5 ≤ argv.length)) :
    (doSet K w argv).2.sys = w.sys ∧ ∀ fmt ∈ echoFmts, Prints fmt [] w (doSet K w argv).2 := by
  unfold doSet
  dsimp only
  by_cases hhelp : AsksHelp argv
  · rw [if_pos hhelp]
    refine ⟨rfl, fun fmt hfmt => .unechoed hfmt w _ ?_⟩
    simp [isEcho, echoFmts]
  rw [if_neg hhelp]
  by_cases hargc : argv.length < 5
  · rw [if_pos hargc]
    exact ⟨rfl, fun fmt _ => .errMsg w _ _⟩
  rw [if_neg hargc]
  rw [if_pos (parseFlags_refused w fun flags => h ⟨flags, Nat.not_lt.mp hargc⟩)]
  exact ⟨(parseFlags_quiet w noParams 0 (arg argv 1)).2,
    fun fmt => parseFlags_prints w noParams 0 (arg argv 1)⟩

theorem doSet_run (w : World σ) (argv : List CStr) : SetRun K w argv (doSet K w argv) := by
  by_cases htaken : FlagsTaken argv ∧ 5 ≤ argv.length
  · cases hm : K.malloc w.sys (toSize (countCounters (arg argv 4)) * 4) with
    | mk ids s =>
        rw [doSet_taken K htaken.1 htaken.2 hm]
        cases ids with
        | none => exact .noIds htaken.1 htaken.2 hm
        | some block =>
            unfold setFromIds
            split_ifs with hfreq
            · exact .noFreq htaken.1 htaken.2 hm hfreq
            · exact .sets htaken.1 htaken.2 hm (Int.not_lt.mp hfreq)
  · obtain ⟨hsys, hsaid⟩ := doSet_refused K w htaken
    exact .refused htaken hsys hsaid

/-- In the formats of the echo, `do_set` prints nothing or the echo of what it sends. -/
theorem doSet_prints (w : World σ) (argv : List CStr) {fmt : String} (hfmt : fmt ∈ echoFmts) :
    Prints fmt [] w (doSet K w argv).2 ∨
      ∃ block s, FlagsTaken argv ∧ 5 ≤ argv.length ∧
        K.malloc w.sys (toSize (countCounters (arg argv 4)) * 4) = (some block, s) ∧
        0 ≤ (getDevFreq K { w with sys := s }).err ∧
        Prints fmt (argsOf fmt (settingLines (sentParams argv block)
          (getDevFreq K { w with sys := s }).err)) w (doSet K w argv).2 := by
  have hrun := doSet_run K w argv
  generalize doSet K w argv = r at hrun ⊢
  have hfreq (s : σ) : Prints fmt [] w (getDevFreq K { w with sys := s }).w :=
    getDevFreq_prints K fmt { w with sys := s }
  cases hrun with
  | refused args sys said => exact Or.inl (said fmt hfmt)
  | noIds => exact Or.inl (.of_out rfl)
  | noFreq => exact Or.inl ((hfreq _).after (.errMsg _ _ _))
  | sets flags argc malloc freq =>
      exact Or.inr ⟨_, _, flags, argc, malloc, freq, (hfreq _).before (setParams_prints K hfmt _ _ _)⟩

/-! ## What is sent -/

/-- The request of `get_dev_freq`. -/
def freqRequest : List u8 :=
  load (mlx5Set (mlx5Set zeroMem 0 QueryHcaCapIn.opcode MLX5_CMD_OP_QUERY_HCA_CAP) 0
    QueryHcaCapIn.opMod ((BitVec.ofNat 16 ((MLX5_CAP_GENERAL <<< 1) |||
      (HCA_CAP_OPMOD_GET_CUR &&& 0x01))).setWidth 32)) 0 QueryHcaCapIn.szBytes

theorem getDevFreq_requests (w : World (σ × List Rpc)) :
    requests (getDevFreq K.recorded w).w = requests w ++ [freqRequest] := by
  unfold getDevFreq queryDevcap
  dsimp only
  split_ifs <;> exact mlx5uCmd_requests K w _ _ _ _

/-- `do_set` asks for the frequency, and then sends `req`. -/
def Sends (w : World (σ × List Rpc)) (argv : List CStr) (req : List u8) : Prop :=
  requests (doSet K.recorded w argv).2 = requests w ++ [freqRequest, req]

theorem setParams_sent (w : World (σ × List Rpc)) (params : SetDiagParams) (devFreq : Int) :
    requests (setParams K.recorded w params devFreq).2 =
      requests (mlx5DiagCntSetParam K.recorded (w.prints (settingLines params devFreq))
        params).w := by
  unfold setParams
  dsimp only
  split_ifs <;> rfl

/-- `do_set` from its echo on: no block for the mailbox, or one request. -/
theorem setParams_requests (w : World (σ × List Rpc)) (params : SetDiagParams) (devFreq : Int) :
    requests (setParams K.recorded w params devFreq).2 = requests w ∨
      ∃ block, requests (setParams K.recorded w params devFreq).2 =
        requests w ++ [setParamMailbox block params] := by
  rw [setParams_sent]
  cases hm : (K.malloc w.sys.1 (toSize (setParamSz params.numOfCounters))).1 with
  | none =>
      left
      unfold mlx5DiagCntSetParam Sys.recorded
      dsimp only [World.prints]
      rw [hm]
      rfl
  | some block => exact Or.inr ⟨block, setParam_requests K hm⟩

/-- The allocator sends nothing. -/
theorem recorded_malloc {w : World (σ × List Rpc)} {n : Nat} {block : Option Mem}
    {s : σ × List Rpc} (h : K.recorded.malloc w.sys n = (block, s)) :
    K.malloc w.sys.1 n = (block, s.1) ∧ requests { w with sys := s } = requests w := by
  cases h
  exact ⟨rfl, rfl⟩

/-- A run that sends: the arguments were taken, the mailbox is that of the parameters, and these
    were echoed. -/
theorem sends_cases {w : World (σ × List Rpc)} {argv : List CStr} {req : List u8}
    (h : Sends K w argv req) :
    ∃ block s mailbox devFreq, FlagsTaken argv ∧
      K.malloc w.sys.1 (toSize (countCounters (arg argv 4)) * 4) = (some block, s) ∧
      req = setParamMailbox mailbox (sentParams argv block) ∧
      ∀ fmt ∈ echoFmts,
        Prints fmt (argsOf fmt (settingLines (sentParams argv block) devFreq)) w
          (doSet K.recorded w argv).2 := by
  unfold Sends at h
  have hrun := doSet_run K.recorded w argv
  generalize doSet K.recorded w argv = r at h hrun ⊢
  -- a run that ends before its set sends one request at most
  have hshort (l : List (List u8)) (hl : l.length < 2) (hr : requests r.2 = requests w ++ l) :
      False := by
    have hlen := congrArg List.length (hr.symm.trans h)
    simp only [List.length_append, List.length_cons, List.length_nil] at hlen
    omega
  cases hrun with
  | refused args sys =>
      refine (hshort [] (by decide) ?_).elim
      unfold requests
      rw [sys, List.append_nil]
  | noIds flags argc malloc =>
      refine (hshort [] (by decide) ?_).elim
      rw [List.append_nil]
      exact (recorded_malloc K malloc).2
  | noFreq flags argc malloc freq =>
      refine (hshort [freqRequest] (by decide) ?_).elim
      rw [← (recorded_malloc K malloc).2]
      exact getDevFreq_requests K _
  | @sets flags argc block s malloc freq =>
      obtain ⟨hm, hsame⟩ := recorded_malloc K malloc
      have hfreq := getDevFreq_requests K { w with sys := s }
      rw [hsame] at hfreq
      rcases setParams_requests K (getDevFreq K.recorded { w with sys := s }).w
          (sentParams argv block) (getDevFreq K.recorded { w with sys := s }).err with
        hnone | ⟨mailbox, hsent⟩
      · exact (hshort [freqRequest] (by decide) (hnone.trans hfreq)).elim
      · refine ⟨block, s.1, mailbox, (getDevFreq K.recorded { w with sys := s }).err, flags, hm, ?_,
          fun fmt hfmt => ?_⟩
        · have hreq := hsent.symm.trans h
          rw [hfreq, List.append_assoc] at hreq
          have hlast := List.append_cancel_left hreq
          simpa using hlast.symm
        · have hbefore : Prints fmt [] w (getDevFreq K.recorded { w with sys := s }).w :=
            getDevFreq_prints K.recorded fmt { w with sys := s }
          exact hbefore.before (setParams_prints K.recorded hfmt _ _ _)

/-- A run that gets its two blocks and a frequency sends its parameters. -/
theorem sends_of {w : World (σ × List Rpc)} {argv : List CStr} {block mailbox : Mem}
    {s : σ × List Rpc} (flags : FlagsTaken argv) (argc : 5 ≤ argv.length)
    (hm : K.recorded.malloc w.sys (toSize (countCounters (arg argv 4)) * 4) = (some block, s))
    (hfreq : 0 ≤ (getDevFreq K.recorded { w with sys := s }).err)
    (hmailbox : (K.malloc (getDevFreq K.recorded { w with sys := s }).w.sys.1
      (toSize (setParamSz (countCounters (arg argv 4))))).1 = some mailbox) :
    Sends K w argv (setParamMailbox mailbox (sentParams argv block)) := by
  have hsent : requests (setParams K.recorded (getDevFreq K.recorded { w with sys := s }).w
      (sentParams argv block) (getDevFreq K.recorded { w with sys := s }).err).2 =
      requests (getDevFreq K.recorded { w with sys := s }).w ++
        [setParamMailbox mailbox (sentParams argv block)] := by
    rw [setParams_sent]
    exact setParam_requests K hmailbox
  unfold Sends
  rw [doSet_taken K.recorded flags argc hm]
  unfold setFromIds
  dsimp only
  rw [if_neg (Int.not_lt.mpr hfreq), hsent, getDevFreq_requests, (recorded_malloc K hm).2,
    List.append_assoc]
  rfl

/-- A field that is set, in the bytes of the mailbox. -/
theorem setParamMailbox_field (mailbox : Mem) {params : SetDiagParams} {v : Write}
    (hv : v ∈ setParamWrites params)
    (hin : 8 * v.base + v.field.off + v.field.sz ≤ 8 * setParamLen params) :
    (requestField (setParamMailbox mailbox params) v.base v.field).toNat =
      v.value.toNat % 2 ^ v.field.sz := by
  unfold setParamMailbox
  rw [requestField_load _ hin]
  exact mlx5Get_setParamIn hv

theorem setParamMailbox_length (mailbox : Mem) (params : SetDiagParams) :
    (setParamMailbox mailbox params).length = setParamLen params := load_length _ _ _

/-! ## Flags that are documented -/

/-- The letters of the flags, and the bits they stand for. -/
def flagFields : List (Char × Field) :=
  [('S', DiagnosticParamsContext.sync), ('c', DiagnosticParamsContext.clear),
    ('s', DiagnosticParamsContext.single), ('r', DiagnosticParamsContext.repetitive),
    ('o', DiagnosticParamsContext.onDemand)]

/-- The bits of the request are the letters of the flags. -/
def FlagBits (req : List u8) (flags : CStr) : Prop :=
  ∀ l ∈ flagFields, (requestField req SetDiagnosticParamsIn.diagnosticParamsContext l.2).toNat =
    if l.1 ∈ flags then 1 else 0

/-- The flags are parsed as documented: they are taken when each of their characters is
    documented, the bits of the context that is sent are their letters, and nothing is sent
    where they are not taken. -/
def FlagsExact (w : World (σ × List Rpc)) (argv : List CStr) : Prop :=
  (FlagsTaken argv ↔ Documented (arg argv 1)) ∧
  (∀ req, Sends K w argv req → 16 ≤ req.length → FlagBits req (arg argv 1)) ∧
  (¬ FlagsTaken argv → requests (doSet K.recorded w argv).2 = requests w)

theorem flagBit_toNat (c : Char) (flags : CStr) :
    ((flagBit 0 c flags).setWidth 32).toNat % 2 ^ 1 = if c ∈ flags then 1 else 0 := by
  unfold flagBit
  split_ifs <;> rfl

theorem sends_flagBits {w : World (σ × List Rpc)} {argv : List CStr} {req : List u8}
    (h : Sends K w argv req) (hlen : 16 ≤ req.length) : FlagBits req (arg argv 1) := by
  obtain ⟨block, _, mailbox, _, -, -, hreq, -⟩ := sends_cases K h
  rw [hreq, setParamMailbox_length] at hlen
  rw [hreq]
  have hfield : ∀ v ∈ contextWrites (sentParams argv block),
      8 * v.base + v.field.off + v.field.sz ≤ 128 →
      (requestField (setParamMailbox mailbox (sentParams argv block)) v.base v.field).toNat =
        v.value.toNat % 2 ^ v.field.sz :=
    fun v hv hin => setParamMailbox_field mailbox (mem_contextWrites hv) (by omega)
  simp only [contextWrites, List.forall_mem_cons] at hfield
  obtain ⟨-, -, hsingle, hrep, hsync, hclear, hdemand, -⟩ := hfield
  simp only [FlagBits, flagFields, List.forall_mem_cons, List.not_mem_nil, false_imp_iff,
    implies_true, and_true]
  exact ⟨(hsync (by decide)).trans (flagBit_toNat _ _),
    (hclear (by decide)).trans (flagBit_toNat _ _),
    (hsingle (by decide)).trans (flagBit_toNat _ _),
    (hrep (by decide)).trans (flagBit_toNat _ _),
    (hdemand (by decide)).trans (flagBit_toNat _ _)⟩

theorem refused_requests (w : World (σ × List Rpc)) {argv : List CStr}
    (h : ¬ FlagsTaken argv) : requests (doSet K.recorded w argv).2 = requests w := by
  have hrun := doSet_run K.recorded w argv
  generalize doSet K.recorded w argv = r at hrun ⊢
  cases hrun with
  | refused args sys =>
      unfold requests
      rw [sys]
  | noIds flags => exact absurd flags h
  | noFreq flags => exact absurd flags h
  | sets flags => exact absurd flags h

/-- **The flags are parsed as documented** exactly where they are not documented ones with an
    `o` among them: these are refused. -/
theorem flags_exact_iff (w : World (σ × List Rpc)) (argv : List CStr) :
    FlagsExact K w argv ↔ ¬ (Documented (arg argv 1) ∧ 'o' ∈ arg argv 1) := by
  unfold FlagsExact
  rw [flagsTaken_iff]
  constructor
  · rintro ⟨htaken, -⟩ ⟨hdoc, ho⟩
    exact (htaken.mpr hdoc).2 ho
  · intro h
    refine ⟨⟨And.left, fun hdoc => ⟨hdoc, fun ho => h ⟨hdoc, ho⟩⟩⟩, fun req => sends_flagBits K, ?_⟩
    intro hrefused
    exact refused_requests K w fun htaken => hrefused ((flagsTaken_iff argv).mp htaken)

/-- `set -So 7 10 1` -/
theorem on_demand_refused : ¬ FlagsExact (filled 0) fresh
    ["set".toList, "-So".toList, "7".toList, "10".toList, "1".toList] := by
  rintro ⟨htaken, -⟩
  rw [flagsTaken_iff] at htaken
  have hdoc : Documented "-So".toList := by simp [Documented, flagChars]
  exact (htaken.mpr hdoc).2 (show 'o' ∈ "-So".toList by simp)

end Mlx5ctl.DiagCnt
