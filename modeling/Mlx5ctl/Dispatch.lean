/-
  The dispatch of `main` stays in the argument vector.

  Every call has the rest of the vector (`Argv.Whole`), so the functions with `argc` and `argv`
  come to the same as those on lists, and use the strings of that list only: `dispatch_iff`, which
  names the two ways out. `mlx5ctl -v` has no device, and `diagcnt` without a sub-command prints
  its name where `cap` fails.
-/
import Mlx5ctl.ArgVector
import Mlx5ctl.DiagCnt.DevFreq
import Mlx5ctl.ExitStatus

namespace Mlx5ctl

open ByteMem CInt CString Ifc

variable {σ : Type}

/-! ## Vectors -/

namespace Argv.Whole

variable {words : List CStr} {a : Argv} (h : a.Whole words)

include h

theorem list_eq : a.list words = words.drop a.pos := by
  obtain ⟨hpos, hsum⟩ := h
  have hlen : (words.drop a.pos).length ≤ a.argc.toNat := by
    rw [List.length_drop]
    omega
  exact List.take_of_length_le hlen

theorem argc_eq : a.argc = (a.list words).length := by
  rw [h.list_eq, List.length_drop]
  obtain ⟨hpos, hsum⟩ := h
  omega

theorem word_eq (i : Nat) : a.word words i = (a.list words)[i]? := by
  rw [h.list_eq, List.getElem?_drop]
  rfl

theorem shift {n : Nat} (hn : n ≤ (a.list words).length) : (a.shift n).Whole words := by
  have hargc := h.argc_eq
  obtain ⟨hpos, hsum⟩ := h
  constructor
  · show 0 ≤ a.argc - n
    omega
  · show a.argc - n + ((a.pos + n : Nat) : Int) = words.length
    omega

theorem shift_list {n : Nat} (hn : n ≤ (a.list words).length) :
    (a.shift n).list words = (a.list words).drop n := by
  rw [(h.shift hn).list_eq, h.list_eq, List.drop_drop]
  rfl

theorem string_ok_iff (i : Nat) : (Use.string a i).Ok words ↔ i < (a.list words).length := by
  unfold Use.Ok
  dsimp only
  rw [h.argc_eq, h.word_eq, ne_eq, List.getElem?_eq_none_iff]
  omega

theorem string_ok {i : Nat} (hi : (i : Int) < a.argc) : (Use.string a i).Ok words := by
  rw [h.string_ok_iff]
  rw [h.argc_eq] at hi
  omega

end Argv.Whole

theorem tool_whole (words : List CStr) : (tool words).Whole words :=
  ⟨Int.natCast_nonneg _, Int.add_zero _⟩

theorem tool_list (words : List CStr) : (tool words).list words = words :=
  (tool_whole words).list_eq

/-! ## Uses -/

namespace Ran

variable {words : List CStr} {r : Ran σ} {f : Int → World σ → Ran σ}

theorem after_ok {us : List Use} :
    (r.after us).Ok words ↔ (∀ u ∈ us, u.Ok words) ∧ r.Ok words :=
  List.forall_mem_append

theorem bind_ok_ret {v : Int} {w : World σ} (h : r.out = some (.ret v w)) :
    (r.bind f).Ok words ↔ r.Ok words ∧ (f v w).Ok words := by
  unfold bind
  rw [h]
  exact List.forall_mem_append

/-- Where what is done next is in the vector. -/
theorem bind_ok (hf : ∀ v w, (f v w).Ok words) : (r.bind f).Ok words ↔ r.Ok words := by
  unfold bind
  split
  · exact List.forall_mem_append.trans (and_iff_left (hf _ _))
  · exact Iff.rfl
  · exact Iff.rfl
  · exact Iff.rfl

theorem bind_out {g : Int → World σ → Outcome σ Int} (hf : ∀ v w, (f v w).out = some (g v w)) :
    (r.bind f).out = r.out.map fun o => o.bind g := by
  unfold bind
  split
  · rename_i v w hr
    rw [hr]
    exact hf v w
  · rename_i hr
    rw [hr]
    rfl
  · rename_i hr
    rw [hr]
    rfl
  · rename_i hr
    rw [hr]
    rfl

end Ran

/-- What is made of a selected command is made of each. -/
theorem cmdSelect_map {φ ρ τ : Type} (g : ρ → τ) (cmds : List (Cmd φ)) (unknown : CStr → ρ)
    (call : φ → ρ) (l : List CStr) :
    g (cmdSelect cmds unknown call l) =
      cmdSelect cmds (fun name => g (unknown name)) (fun c => g (call c)) l := by
  unfold cmdSelect
  cases l with
  | nil => cases cmds <;> rfl
  | cons name rest =>
      dsimp only
      cases cmds.find? (fun c => c.name.toList = name) <;> rfl

section Name

variable {φ ρ : Type} {cmds : List (Cmd φ)} {unknown : CStr → ρ} {call : φ → ρ} {name : CStr}
  {rest : List CStr}

theorem cmdSelect_found {c : Cmd φ} (h : cmds.find? (fun c => c.name.toList = name) = some c) :
    cmdSelect cmds unknown call (name :: rest) = call c.func := by
  unfold cmdSelect
  dsimp only
  rw [h]

theorem cmdSelect_unknown (h : cmds.find? (fun c => c.name.toList = name) = none) :
    cmdSelect cmds unknown call (name :: rest) = unknown name := by
  unfold cmdSelect
  dsimp only
  rw [h]

/-- The default of `commands`. -/
theorem cmdSelect_info {unknown : CStr → ρ} {call : Command → ρ} :
    cmdSelect commands unknown call [] = call .doDevinfo := rfl

end Name

section Select

variable {words : List CStr} {a : Argv} (h : a.Whole words) {φ : Type} (cmds : List (Cmd φ))
  (w : World σ) (unknown : CStr → Ran σ) (call : φ → Ran σ)

include h

/-- `cmd_select` runs the command of the list. -/
theorem cmdSelectAt_eq : cmdSelectAt words cmds w a unknown call =
    (cmdSelect cmds unknown call (a.list words)).after
      (if a.list words = [] then [.call a] else [.call a, .string a 0]) := by
  have hargc := h.argc_eq
  have hword := h.word_eq 0
  unfold cmdSelectAt cmdSelect
  cases hl : a.list words with
  | nil =>
      rw [hl] at hargc
      rw [if_pos (show a.argc = 0 from hargc), if_pos rfl]
  | cons name rest =>
      rw [hl] at hargc hword
      have hne : a.argc ≠ 0 := by
        rw [hargc, List.length_cons]
        omega
      rw [if_neg hne, hword, if_neg (List.cons_ne_nil _ _)]
      dsimp only [List.getElem?_cons_zero]
      cases cmds.find? (fun c => c.name.toList = name) <;> rfl

theorem cmdSelectAt_out : (cmdSelectAt words cmds w a unknown call).out =
    cmdSelect cmds (fun name => (unknown name).out) (fun c => (call c).out) (a.list words) := by
  rw [cmdSelectAt_eq h]
  exact cmdSelect_map Ran.out cmds unknown call _

/-- The uses are those of the command. -/
theorem cmdSelectAt_ok : (cmdSelectAt words cmds w a unknown call).Ok words ↔
    (cmdSelect cmds unknown call (a.list words)).Ok words := by
  have hcall : (Use.call a).Ok words := h
  rw [cmdSelectAt_eq h, Ran.after_ok]
  refine and_iff_right fun u hu => ?_
  split_ifs at hu with hl
  · rw [List.mem_singleton.mp hu]
    exact hcall
  · rcases List.mem_cons.mp hu with rfl | hu
    · exact hcall
    · rw [List.mem_singleton.mp hu]
      exact (h.string_ok_iff 0).mpr (List.length_pos_iff.mpr hl)

end Select

/-! ## diagcnt -/

section Diagcnt

variable {words : List CStr} {a : Argv} (h : a.Whole words)

include h

theorem helpUses_ok {rest : List Use} (hrest : ∀ u ∈ rest, u.Ok words) :
    ∀ u ∈ helpUses words a rest, u.Ok words := by
  unfold helpUses
  split_ifs with hargc hhelp
  · simp [h.string_ok (i := 1) hargc, h.string_ok (i := 0) (by omega)]
  · simpa [h.string_ok (i := 1) hargc] using hrest
  · exact hrest

theorem setUses_ok (w : World σ) : ∀ u ∈ setUses words w a, u.Ok words := by
  refine helpUses_ok h ?_
  split_ifs with hargc
  · simp
  · simp [h.string_ok (i := 1) (by omega)]
  · simp [h.string_ok (i := 1) (by omega), h.string_ok (i := 2) (by omega),
      h.string_ok (i := 3) (by omega), h.string_ok (i := 4) (by omega)]

theorem paramUses_ok : ∀ u ∈ paramUses words a, u.Ok words := by
  refine helpUses_ok h ?_
  split_ifs with hargc
  · simp [h.string_ok (i := 1) hargc]
  · simp

theorem dumpUses_ok : ∀ u ∈ dumpUses words a, u.Ok words := by
  refine helpUses_ok h fun u hu => ?_
  have hone (i : Nat) (hu : u ∈ if (i : Int) < a.argc then [Use.string a i] else []) :
      u.Ok words := by
    split_ifs at hu with hargc
    · rw [List.mem_singleton.mp hu]
      exact h.string_ok hargc
    · cases hu
  rcases List.mem_append.mp hu with hu | hu
  · rcases List.mem_append.mp hu with hu | hu
    · exact hone 1 hu
    · exact hone 2 hu
  · exact hone 3 hu

/-- A sub-command stays in its vector, and in that of `diagcnt`. -/
theorem subUses_ok (w : World σ) {diagcnt : Argv} (hdiagcnt : (Use.string diagcnt 0).Ok words)
    (c : DiagCnt.SubCommand) : ∀ u ∈ subUses words w diagcnt a c, u.Ok words := by
  cases c with
  | doCap => simp [subUses]
  | doHelp => simpa [subUses] using hdiagcnt
  | doSet => exact setUses_ok h w
  | doDisable => simp [subUses]
  | doParam => exact paramUses_ok h
  | doDump => exact dumpUses_ok h

/-- What `do_diag_cnt` prints of a failure. -/
theorem reportAt_out (err : Int) (w : World σ) :
    (reportAt words a err w).out =
      some (if err ≠ 0 then
        .ret err (w.print (.errMsg "diag_cnt %s failed, %d\n"
          [DiagCnt.nameArg (a.list words), .int err]))
      else .ret err w) := by
  unfold reportAt DiagCnt.nameArg
  rw [h.word_eq, List.getD_eq_getElem?_getD]
  split_ifs <;> rfl

theorem reportAt_ok (err : Int) (w : World σ) :
    (reportAt words a err w).Ok words ↔ (err ≠ 0 → 1 < (a.list words).length) := by
  unfold reportAt
  split_ifs with herr
  · rw [← h.string_ok_iff]
    simp [Ran.Ok, herr]
  · simp [Ran.Ok, herr]

end Diagcnt

/-- The device answers the queries of `cap`: the general capabilities, with the debug capability,
    and, where there is memory for them, the debug capabilities; and its frequency. -/
def AnswersCap (K : Sys σ) (w : World σ) : Prop :=
  let r := DiagCnt.queryDevcap K w DiagCnt.MLX5_CAP_GENERAL zeroMem QueryHcaCapOut.szBytes
  let m := K.malloc r.w.sys (toSize (DiagCnt.capOutSz (DiagCnt.numCounters r.out)))
  r.ret = 0 ∧ mlx5Get r.out QueryHcaCapOut.capability CmdHcaCap.debug ≠ 0 ∧
    ∃ out2, m.1 = some out2 ∧
      let q := DiagCnt.queryDevcap K { r.w with sys := m.2 } DiagCnt.MLX5_CAP_DEBUG out2
        (toU32 (DiagCnt.capOutSz (DiagCnt.numCounters r.out)))
      q.ret = 0 ∧ 0 ≤ (DiagCnt.getDevFreq K q.w).err

theorem queryDebugCap_err_iff (K : Sys σ) (w : World σ) (first : Response)
    (numCounters : Nat) (out2 : Mem) :
    (DiagCnt.queryDebugCap K w first numCounters out2).err = 0 ↔
      let q := DiagCnt.queryDevcap K w DiagCnt.MLX5_CAP_DEBUG out2
        (toU32 (DiagCnt.capOutSz numCounters))
      q.ret = 0 ∧ 0 ≤ (DiagCnt.getDevFreq K q.w).err := by
  unfold DiagCnt.queryDebugCap
  dsimp only
  generalize DiagCnt.queryDevcap K w DiagCnt.MLX5_CAP_DEBUG out2
    (toU32 (DiagCnt.capOutSz numCounters)) = q
  generalize hv : List.foldl _ _ DiagCnt.debugCaps = v
  have hsys : v.sys = q.w.sys := by
    rw [← hv]
    rfl
  have hfreq : (DiagCnt.getDevFreq K v).err = (DiagCnt.getDevFreq K q.w).err := by
    rw [DiagCnt.getDevFreq_err, DiagCnt.getDevFreq_err, hsys]
  rw [← hfreq]
  split_ifs with hret hneg
  · exact iff_of_false hret fun h => hret h.1
  · exact iff_of_false (Int.ne_of_lt hneg) fun h => absurd h.2 (Int.not_le.mpr hneg)
  · exact iff_of_true rfl ⟨not_not.mp hret, Int.not_lt.mp hneg⟩

theorem doCap_ret_iff (K : Sys σ) (w : World σ) :
    (DiagCnt.doCap K w).1 = 0 ↔ AnswersCap K w := by
  unfold AnswersCap DiagCnt.doCap DiagCnt.mlx5DiagCntQueryCap
  dsimp only
  generalize DiagCnt.queryDevcap K w DiagCnt.MLX5_CAP_GENERAL zeroMem QueryHcaCapOut.szBytes = r
  by_cases hret : r.ret = 0
  · rw [if_neg (not_not.mpr hret)]
    by_cases hdebug : mlx5Get r.out QueryHcaCapOut.capability CmdHcaCap.debug = 0
    · rw [if_pos hdebug]
      exact iff_of_false (show DiagCnt.enotsup ≠ 0 by decide) fun h => h.2.1 hdebug
    · rw [if_neg hdebug]
      cases hm : K.malloc r.w.sys (toSize (DiagCnt.capOutSz (DiagCnt.numCounters r.out))) with
      | mk block s =>
          cases block with
          | none => exact iff_of_false (show enomem ≠ 0 by decide) fun h => by simp at h
          | some out2 =>
              dsimp only
              rw [queryDebugCap_err_iff]
              exact ⟨fun h => ⟨hret, hdebug, out2, rfl, h⟩, fun ⟨_, _, _, hout2, h⟩ => by
                cases hout2
                exact h⟩
  · rw [if_pos hret]
    exact iff_of_false hret fun h => hret h.1

/-- The command behind the `sleep`s. -/
def innermost : List CStr → List CStr
  | name :: time :: argv => if name = "sleep".toList then innermost argv else name :: time :: argv
  | argv => argv

section Run

variable (E : Env σ) (helpCmd : CStr)

/-- The command of a name, if it is not `sleep` with its operand. -/
theorem runCommand_found {dev : Mlx5uDev} {n : Nat} {w : World σ} {name : CStr} {rest : List CStr}
    {c : Cmd Command} (hc : commands.find? (fun c => c.name.toList = name) = some c)
    (hleaf : c.func = .doSleep → rest = []) :
    runCommand E helpCmd dev n w (name :: rest) =
      runLeaf E helpCmd dev w (name :: rest) n c.func := by
  cases rest with
  | nil => exact cmdSelect_found hc
  | cons time argv => exact (cmdSelect_found hc).trans (if_neg fun hsleep => by cases hleaf hsleep)

theorem runCommand_unknown {dev : Mlx5uDev} {n : Nat} {w : World σ} {name : CStr}
    {rest : List CStr} (hc : commands.find? (fun c => c.name.toList = name) = none) :
    runCommand E helpCmd dev n w (name :: rest) =
      some (unknownCommand E.sys.toSys E.files E.stale helpCmd w name) := by
  cases rest with
  | nil => exact cmdSelect_unknown hc
  | cons time argv => exact cmdSelect_unknown hc

end Run

/-- The names of `sleep` and `diagcnt`. -/
theorem command_names {name : CStr} {c : Cmd Command}
    (hc : commands.find? (fun c => c.name.toList = name) = some c) :
    (c.func = .doSleep ↔ name = "sleep".toList) ∧
      (c.func = .doDiagCnt ↔ name = "diagcnt".toList) := by
  have hnames : ∀ c ∈ commands, (c.func = .doSleep ↔ c.name.toList = "sleep".toList) ∧
      (c.func = .doDiagCnt ↔ c.name.toList = "diagcnt".toList) := by decide +kernel
  have hname : c.name.toList = name := by simpa using List.find?_some hc
  rw [← hname]
  exact hnames c (List.mem_of_find?_eq_some hc)

section Commands

variable {words : List CStr} (hwords : words ≠ []) (E : Env σ)

include hwords

theorem unknownAt_ok (w : World σ) {a : Argv} (name : CStr) (h : (Use.string a 0).Ok words) :
    (unknownAt words E w a name).Ok words := by
  have htool : (Use.string (tool words) 0).Ok words := by
    rw [(tool_whole words).string_ok_iff, tool_list]
    exact List.length_pos_iff.mpr hwords
  intro u hu
  rcases List.mem_cons.mp hu with rfl | hu
  · exact h
  · rw [List.mem_singleton.mp hu]
    exact htool

/-- What is selected uses its vector only. -/
theorem selected_ok {φ : Type} (cmds : List (Cmd φ)) (w : World σ) {a : Argv} (h : a.Whole words)
    {call : φ → Ran σ} (hne : a.list words ≠ []) (hcall : ∀ c, (call c).Ok words) :
    (cmdSelectAt words cmds w a (unknownAt words E w a) call).Ok words := by
  have hfirst : (Use.string a 0).Ok words :=
    (h.string_ok_iff 0).mpr (List.length_pos_iff.mpr hne)
  rw [cmdSelectAt_ok h]
  unfold cmdSelect
  split
  · rename_i hnil
    exact absurd hnil hne
  · split
    · exact hcall _
    · exact unknownAt_ok hwords E w _ hfirst

/-- `diagcnt` runs on the list, and leaves the vector exactly where it has no sub-command and the
    device does not answer. -/
theorem doDiagCntAt_spec (w : World σ) {a : Argv} (h : a.Whole words)
    {name : CStr} {rest : List CStr} (hl : a.list words = name :: rest) :
    (doDiagCntAt words E w a).out = some (DiagCnt.doDiagCnt E.sys.toSys
      (unknownCommand E.sys.toSys E.files E.stale (words.headD [])) w (name :: rest)) ∧
    ((doDiagCntAt words E w a).Ok words ↔ (rest = [] → AnswersCap E.sys.toSys w)) := by
  have hone : 1 ≤ (a.list words).length := by
    rw [hl]
    exact Nat.succ_pos _
  have hshift := h.shift hone
  have htail : (a.shift 1).list words = rest := by
    rw [h.shift_list hone, hl]
    rfl
  have hout : (subAt words E w a).out = some (cmdSelect DiagCnt.commands
      (unknownCommand E.sys.toSys E.files E.stale (words.headD []) w)
      (fun c => .ret (DiagCnt.runSub E.sys.toSys w name rest c).1
        (DiagCnt.runSub E.sys.toSys w name rest c).2) rest) := by
    unfold subAt
    rw [cmdSelectAt_out hshift, htail, h.word_eq, hl]
    exact (cmdSelect_map some DiagCnt.commands _ _ rest).symm
  unfold doDiagCntAt
  constructor
  · rw [Ran.bind_out (reportAt_out h), hout, hl]
    rfl
  · cases rest with
    | nil =>
        -- `cap`, by default
        have hok : (subAt words E w a).Ok words := by
          unfold subAt
          rw [cmdSelectAt_ok hshift, htail]
          exact fun u hu => absurd hu List.not_mem_nil
        rw [Ran.bind_ok_ret hout, and_iff_right hok, reportAt_ok h, hl, ← doCap_ret_iff]
        constructor
        · intro hlen _
          by_contra hne
          exact absurd (hlen hne) (Nat.lt_irrefl 1)
        · exact fun hcap hne => absurd (hcap rfl) hne
    | cons sub args =>
        have hfirst : (Use.string a 0).Ok words := (h.string_ok_iff 0).mpr hone
        have hok : (subAt words E w a).Ok words :=
          selected_ok hwords E _ w hshift (by rw [htail]; exact List.cons_ne_nil _ _)
            fun c => subUses_ok hshift w hfirst c
        refine iff_of_true ?_ fun hnil => by cases hnil
        rw [Ran.bind_ok fun err v => (reportAt_ok h err v).mpr fun _ => ?_]
        · exact hok
        · rw [hl]
          exact Nat.succ_lt_succ (Nat.succ_pos _)

/-- A command that is neither `sleep` with its operand nor `diagcnt`. -/
theorem commandUses_ok {a : Argv} (h : a.Whole words) (c : Command) :
    ∀ u ∈ commandUses words a c, u.Ok words := by
  have htool : (Use.string (tool words) 0).Ok words := by
    rw [(tool_whole words).string_ok_iff, tool_list]
    exact List.length_pos_iff.mpr hwords
  cases c with
  | queryObj =>
      unfold commandUses
      split_ifs with hnone
      · simp
      · have hargv : (Use.string a 1).Ok words := by
          rw [h.string_ok_iff]
          rw [h.word_eq, List.getElem?_eq_none_iff] at hnone
          omega
        simpa using hargv
  | doHelp => simpa [commandUses] using htool
  | _ => simp [commandUses]

/-- The command, run as in C: what it comes to on the list, and whether it stays in the vector. -/
structure RunsAt (words : List CStr) (E : Env σ) (dev : Mlx5uDev) (n : Nat) (w : World σ)
    (a : Argv) (l : List CStr) : Prop where
  out : (runCommandAt words E dev n w a).out = runCommand E (words.headD []) dev n w l
  ok : (runCommandAt words E dev n w a).Ok words ↔
    (innermost l = ["diagcnt".toList] → AnswersCap E.sys.toSys w)

/-- A command that is no `sleep`. -/
theorem leafAt_spec (dev : Mlx5uDev) (n : Nat) (w : World σ) {a : Argv} (h : a.Whole words)
    {name : CStr} {rest : List CStr} (hl : a.list words = name :: rest) (c : Command) :
    (leafAt words E dev n w a c).out =
      runLeaf E (words.headD []) dev w (name :: rest) n c ∧
    ((leafAt words E dev n w a c).Ok words ↔
      (c = .doDiagCnt → rest = [] → AnswersCap E.sys.toSys w)) := by
  unfold leafAt
  split_ifs with hdiag
  · obtain ⟨hout, hok⟩ := doDiagCntAt_spec hwords E w h hl
    rw [hout, hok, hdiag]
    exact ⟨rfl, ⟨fun h _ => h, fun h => h rfl⟩⟩
  · rw [hl]
    exact ⟨rfl, iff_of_true (commandUses_ok hwords h c) fun hc => absurd hc hdiag⟩

/-- A command that is not `sleep` with its operand. -/
theorem runCommandAt_leaf (dev : Mlx5uDev) (n : Nat) (w : World σ) {a : Argv} (h : a.Whole words)
    {name : CStr} {rest : List CStr} (hl : a.list words = name :: rest)
    (hleaf : name = "sleep".toList → rest = [])
    (hin : innermost (name :: rest) = name :: rest) :
    RunsAt words E dev n w a (name :: rest) := by
  have hne : a.list words ≠ [] := by
    rw [hl]
    exact List.cons_ne_nil _ _
  have hfirst : (Use.string a 0).Ok words := (h.string_ok_iff 0).mpr (List.length_pos_iff.mpr hne)
  cases hc : commands.find? (fun c => c.name.toList = name) with
  | none =>
      have hname : name ≠ "diagcnt".toList := by
        rintro rfl
        exact absurd hc (by decide +kernel)
      constructor
      · rw [runCommandAt, cmdSelectAt_out h, hl, cmdSelect_unknown hc,
          runCommand_unknown E _ hc]
        rfl
      · rw [runCommandAt, cmdSelectAt_ok h, hl, cmdSelect_unknown hc, hin]
        exact iff_of_true (unknownAt_ok hwords E w name hfirst)
          fun heq => absurd (List.cons.inj heq).1 hname
  | some c =>
      obtain ⟨hsleep, hdiag⟩ := command_names hc
      have hlist : runCommand E (words.headD []) dev n w (name :: rest) =
          runLeaf E (words.headD []) dev w (name :: rest) n c.func :=
        runCommand_found E _ hc fun hs => hleaf (hsleep.mp hs)
      by_cases hs : c.func = .doSleep
      · -- no operand
        obtain rfl := hsleep.mp hs
        obtain rfl := hleaf rfl
        have hshort : a.argc < 2 := by
          rw [h.argc_eq, hl]
          decide
        constructor
        · rw [runCommandAt, cmdSelectAt_out h, hl, cmdSelect_found hc, hlist, if_pos hs,
            if_pos hshort, hs]
          rfl
        · rw [runCommandAt, cmdSelectAt_ok h, hl, cmdSelect_found hc, hin, if_pos hs,
            if_pos hshort]
          exact iff_of_true (fun u hu => absurd hu List.not_mem_nil)
            fun heq => absurd (List.cons.inj heq).1 (by decide)
      · obtain ⟨hout, hok⟩ := leafAt_spec hwords E dev n w h hl c.func
        constructor
        · rw [runCommandAt, cmdSelectAt_out h, hl, cmdSelect_found hc, hlist, if_neg hs, hout]
        · rw [runCommandAt, cmdSelectAt_ok h, hl, cmdSelect_found hc, hin, if_neg hs, hok, hdiag,
            List.cons_eq_cons, and_imp]

theorem runCommandAt_spec (dev : Mlx5uDev) (n : Nat) (w : World σ) (l : List CStr) :
    ∀ a : Argv, a.Whole words → a.list words = l → RunsAt words E dev n w a l := by
  induction l using innermost.induct with
  | case1 time argv ih =>
      intro a h hl
      have htwo : 2 ≤ (a.list words).length := by
        rw [hl]
        exact Nat.succ_le_succ (Nat.succ_le_succ (Nat.zero_le _))
      have hargc : ¬ a.argc < 2 := by
        rw [h.argc_eq]
        omega
      have htime : a.word words 1 = some time := by
        rw [h.word_eq, hl]
        rfl
      have hbehind : (a.shift 2).list words = argv := by
        rw [h.shift_list htwo, hl]
        rfl
      have hsleep : commands.find? (fun c => c.name.toList = "sleep".toList) =
          some ⟨"sleep", .doSleep, "sleep"⟩ := rfl
      obtain ⟨hout, hok⟩ := ih (a.shift 2) (h.shift htwo) hbehind
      have hinner : innermost ("sleep".toList :: time :: argv) = innermost argv := if_pos rfl
      have htimeOk : ∀ u ∈ [Use.string a 1], u.Ok words := by
        simpa using (h.string_ok_iff 1).mpr htwo
      constructor
      · rw [runCommandAt, cmdSelectAt_out h, hl, cmdSelect_found hsleep, if_pos rfl, if_neg hargc,
          htime]
        refine (Ran.bind_out (g := fun _ w => .ret 0 w) fun _ _ => rfl).trans ?_
        rw [hout]
        rfl
      · rw [runCommandAt, cmdSelectAt_ok h, hl, cmdSelect_found hsleep, if_pos rfl, if_neg hargc,
          htime, hinner, ← hok]
        refine Ran.after_ok.trans ((and_iff_right htimeOk).trans ?_)
        exact Ran.bind_ok fun _ _ u hu => absurd hu List.not_mem_nil
  | case2 name time argv hname =>
      intro a h hl
      exact runCommandAt_leaf hwords E dev n w h hl (fun heq => absurd heq hname) (if_neg hname)
  | case3 l hshort =>
      intro a h hl
      match l, hshort with
      | [], _ =>
          -- `info`, by default
          have hinfo : leafAt words E dev n w a .doDevinfo =
              ⟨[], runLeaf E (words.headD []) dev w (a.list words) n .doDevinfo⟩ := if_neg (by decide)
          have hno : Command.doDevinfo ≠ .doSleep := by decide
          constructor
          · rw [runCommandAt, cmdSelectAt_out h, hl, cmdSelect_info, if_neg hno, hinfo, hl]
            rfl
          · rw [runCommandAt, cmdSelectAt_ok h, hl, cmdSelect_info, if_neg hno, hinfo]
            exact iff_of_true (fun u hu => absurd hu List.not_mem_nil) fun heq => by cases heq
      | [name], _ => exact runCommandAt_leaf hwords E dev n w h hl (fun _ => rfl) rfl
      | name :: time :: argv, hshort => exact absurd rfl (hshort name time argv)

end Commands

/-! ## main -/

/-- The device and the words behind it, where `main` gets to open one. -/
def deviceWords : List CStr → Option (CStr × List CStr)
  | _ :: word :: rest =>
      if word = "-h".toList ∨ word = "--help".toList ∨ word = "help".toList then none
      else if word = "-v".toList then
        match rest with
        | [] => none
        | name :: argv => some (name, argv)
      else some (word, rest)
  | _ => none

/-- Where a device is opened for `diagcnt` without a sub-command, it answers. -/
def DiagcntAnswered (E : Env σ) (w : World σ) (words : List CStr) : Prop :=
  ∀ name argv dev v, deviceWords words = some (name, argv) →
    mlx5uOpen E.sys.toSys E.files E.stale w name = .ret (some dev) v →
    innermost argv = ["diagcnt".toList] → AnswersCap E.sys.toSys v

theorem diagcntAnswered_iff {E : Env σ} {w : World σ} {words : List CStr} {name : CStr}
    {argv : List CStr} (h : deviceWords words = some (name, argv)) :
    DiagcntAnswered E w words ↔ ∀ dev v,
      mlx5uOpen E.sys.toSys E.files E.stale w name = .ret (some dev) v →
      innermost argv = ["diagcnt".toList] → AnswersCap E.sys.toSys v := by
  constructor
  · exact fun hall dev v => hall name argv dev v h
  · intro hall name' argv' dev v hdev
    rw [h] at hdev
    cases hdev
    exact hall dev v

theorem diagcntAnswered_of_none {E : Env σ} {w : World σ} {words : List CStr}
    (h : deviceWords words = none) : DiagcntAnswered E w words := by
  intro name argv dev v hdev
  rw [h] at hdev
  cases hdev

/-- The run of `main` on a vector: every string is used below its `argc` and every call has what is
    left of the vector, and it comes to the run of `main` on the list. -/
structure InVector (E : Env σ) (n : Nat) (w : World σ) (words : List CStr) : Prop where
  uses : (mainAt words E n w).Ok words
  run : (mainAt words E n w).out = main E n w words

/-- Without a device, the null pointer is used. -/
theorem openAt_missing (E : Env σ) (n : Nat) (w : World σ) {words : List CStr} {a : Argv}
    (h : a.Whole words) {first : CStr} (hl : a.list words = [first]) :
    ¬ (openAt words E n w a).Ok words := by
  have hnull : a.word words 1 = none := by
    rw [h.word_eq, hl]
    rfl
  have hused : Use.string a 1 ∈ (openAt words E n w a).uses := by
    unfold openAt
    rw [hnull]
    dsimp only
    split <;> exact List.mem_cons_self
  intro hok
  exact (hok _ hused).2 hnull

section Main

variable {words : List CStr} (hwords : words ≠ []) (E : Env σ)

include hwords

/-- From the device on. -/
theorem openAt_spec (n : Nat) (w : World σ) {a : Argv} (h : a.Whole words) {first name : CStr}
    {argv : List CStr} (hl : a.list words = first :: name :: argv) :
    (openAt words E n w a).out = runMain E (words.headD []) n w (name :: argv) ∧
    ((openAt words E n w a).Ok words ↔ ∀ dev v,
      mlx5uOpen E.sys.toSys E.files E.stale w name = .ret (some dev) v →
      innermost argv = ["diagcnt".toList] → AnswersCap E.sys.toSys v) := by
  have htwo : 2 ≤ (a.list words).length := by
    rw [hl]
    exact Nat.succ_le_succ (Nat.succ_le_succ (Nat.zero_le _))
  have hname : a.word words 1 = some name := by
    rw [h.word_eq, hl]
    rfl
  have hbehind : (a.shift 2).list words = argv := by
    rw [h.shift_list htwo, hl]
    rfl
  have hnameOk : ∀ u ∈ [Use.string a 1], u.Ok words := by
    simpa using (h.string_ok_iff 1).mpr htwo
  have hnone (o : Option (Outcome σ Int)) : Ran.Ok words ⟨[], o⟩ :=
    fun u hu => absurd hu List.not_mem_nil
  unfold openAt runMain
  rw [hname]
  dsimp only
  cases hopen : mlx5uOpen E.sys.toSys E.files E.stale w name with
  | ret dev v =>
      cases dev with
      | none => exact ⟨rfl, iff_of_true (Ran.after_ok.mpr ⟨hnameOk, hnameOk⟩) fun _ _ heq => by
          cases heq⟩
      | some dev =>
          obtain ⟨hout, hok⟩ := runCommandAt_spec hwords E dev n v argv (a.shift 2)
            (h.shift htwo) hbehind
          constructor
          · refine (Ran.bind_out (g := fun ret w => .ret (if 0 < ret then ret else -ret) w)
              fun _ _ => rfl).trans ?_
            rw [hout]
          · refine Ran.after_ok.trans ((and_iff_right hnameOk).trans ?_)
            refine (Ran.bind_ok fun _ _ => hnone _).trans (hok.trans ⟨fun hans dev' v' heq => ?_,
              fun hans => hans dev v rfl⟩)
            cases heq
            exact hans
  | exit code v =>
      exact ⟨rfl, iff_of_true (Ran.after_ok.mpr ⟨hnameOk, hnone _⟩) fun _ _ heq => by cases heq⟩
  | segv v =>
      exact ⟨rfl, iff_of_true (Ran.after_ok.mpr ⟨hnameOk, hnone _⟩) fun _ _ heq => by cases heq⟩

end Main

/-- Without a word. -/
theorem mainAt_tool (E : Env σ) (n : Nat) (w : World σ) (prog : CStr) :
    mainAt [prog] E n w =
      ⟨[.string (tool [prog]) 0], some (doHelp E.sys.toSys E.files E.stale prog w)⟩ := by
  have hshort : (tool [prog]).argc < 2 := show ((1 : Nat) : Int) < 2 by decide
  unfold mainAt
  dsimp only
  rw [if_pos hshort]
  rfl

theorem mainAt_word (E : Env σ) (n : Nat) (w : World σ) (prog word : CStr) (rest : List CStr) :
    let words := prog :: word :: rest
    mainAt words E n w =
      if word = "-h".toList ∨ word = "--help".toList ∨ word = "help".toList then
        ⟨[.string (tool words) 1, .string (tool words) 0],
          some (doHelp E.sys.toSys E.files E.stale prog w)⟩
      else
        (openAt words E n w (if word = "-v".toList then (tool words).shift 1 else tool words)).after
          [.string (tool words) 1] := by
  intro words
  have hlong : ¬ (tool words).argc < 2 := by
    show ¬ ((rest.length + 1 + 1 : Nat) : Int) < 2
    omega
  have hword : (tool words).word words 1 = some word := rfl
  unfold mainAt
  dsimp only
  rw [if_neg hlong, hword]
  rfl

/-- **The dispatch stays in the argument vector** exactly where the command line is not `-v`
    alone, and no `diagcnt` without a sub-command is run on a device that does not answer. -/
theorem dispatch_iff (E : Env σ) (n : Nat) (w : World σ) {words : List CStr} (hwords : words ≠ []) :
    InVector E n w words ↔ words.tail ≠ ["-v".toList] ∧ DiagcntAnswered E w words := by
  have htool := tool_whole words
  have hlist := tool_list words
  have hsplit : InVector E n w words ↔ (mainAt words E n w).out = main E n w words ∧
      (mainAt words E n w).Ok words := ⟨fun h => ⟨h.2, h.1⟩, fun h => ⟨h.2, h.1⟩⟩
  have hstring {i : Nat} (hi : i < words.length) : (Use.string (tool words) i).Ok words := by
    rw [htool.string_ok_iff, hlist]
    exact hi
  rw [hsplit]
  match words with
  | [] => exact absurd rfl hwords
  | [prog] =>
      rw [mainAt_tool]
      refine iff_of_true ⟨rfl, ?_⟩ ⟨by simp, fun _ _ _ _ hdev => by cases hdev⟩
      simpa [Ran.Ok] using hstring (i := 0) (by simp)
  | prog :: word :: rest =>
      have hfirst := hstring (i := 1) (by simp)
      have hword : ∀ u ∈ [Use.string (tool (prog :: word :: rest)) 1],
          u.Ok (prog :: word :: rest) := by simpa using hfirst
      have hopen {a : Argv} (ha : a.Whole (prog :: word :: rest)) {first name : CStr}
          {argv : List CStr} (hl : a.list (prog :: word :: rest) = first :: name :: argv) :=
        openAt_spec hwords E n w ha hl
      rw [mainAt_word]
      unfold main
      dsimp only
      by_cases hhelp : word = "-h".toList ∨ word = "--help".toList ∨ word = "help".toList
      · have hnot : word ≠ "-v".toList := by
          rintro rfl
          exact absurd hhelp (by decide)
        rw [if_pos hhelp, if_pos hhelp]
        refine iff_of_true ⟨rfl, ?_⟩ ⟨fun htail => hnot (List.cons.inj htail).1,
          diagcntAnswered_of_none (if_pos hhelp)⟩
        simpa [Ran.Ok] using ⟨hfirst, hstring (i := 0) (by simp)⟩
      · rw [if_neg hhelp, if_neg hhelp]
        by_cases hverbose : word = "-v".toList
        · rw [if_pos hverbose, if_pos hverbose]
          have hone : 1 ≤ ((tool (prog :: word :: rest)).list (prog :: word :: rest)).length := by
            rw [hlist]
            simp
          have hshift := htool.shift hone
          have hbehind : ((tool (prog :: word :: rest)).shift 1).list (prog :: word :: rest) =
              word :: rest := by
            rw [htool.shift_list hone, hlist]
            rfl
          rw [Ran.after_ok, and_iff_right hword]
          match rest with
          | [] =>
              refine iff_of_false (fun h => openAt_missing E n w hshift hbehind h.2) fun h => ?_
              exact h.1 (by rw [hverbose]; rfl)
          | name :: argv =>
              obtain ⟨hout, hok⟩ := hopen hshift hbehind
              have hdev : deviceWords (prog :: word :: name :: argv) = some (name, argv) :=
                (if_neg hhelp).trans (if_pos hverbose)
              rw [hok, ← diagcntAnswered_iff hdev]
              exact ⟨fun h => ⟨by simp, h.2⟩, fun h => ⟨hout, h.2⟩⟩
        · rw [if_neg hverbose, if_neg hverbose]
          obtain ⟨hout, hok⟩ := hopen htool hlist
          have hdev : deviceWords (prog :: word :: rest) = some (word, rest) :=
            (if_neg hhelp).trans (if_neg hverbose)
          rw [Ran.after_ok, and_iff_right hword, hok, ← diagcntAnswered_iff hdev]
          exact ⟨fun h => ⟨fun htail => hverbose (List.cons.inj htail).1, h.2⟩,
            fun h => ⟨hout, h.2⟩⟩

/-- `mlx5ctl -v 0 sleep 1 info` -/
theorem verbose_info : InVector (answering fun _ => 0) 1 ⟨0, []⟩
    ["mlx5ctl".toList, "-v".toList, "0".toList, "sleep".toList, "1".toList, "info".toList] := by
  refine (dispatch_iff _ 1 ⟨0, []⟩ (List.cons_ne_nil _ _)).mpr ⟨by decide, ?_⟩
  intro name argv dev v hdev _ hdiag
  cases hdev
  exact absurd hdiag (by decide)

/-- `mlx5ctl -v` uses the null pointer behind it, and `mlx5ctl 0 diagcnt` on a device that refuses
    its commands the one behind `diagcnt`. -/
theorem null_used :
    (∃ u ∈ (mainAt ["mlx5ctl".toList, "-v".toList] (answering fun _ => 0) 1 ⟨0, []⟩).uses,
      ¬ u.Ok ["mlx5ctl".toList, "-v".toList]) ∧
    ∃ u ∈ (mainAt ["mlx5ctl".toList, "0".toList, "diagcnt".toList] (answering fun _ => 3) 1
      ⟨0, []⟩).uses, ¬ u.Ok ["mlx5ctl".toList, "0".toList, "diagcnt".toList] := by
  have hused {words : List CStr} {r : Ran Nat} (h : ¬ r.Ok words) : ∃ u ∈ r.uses, ¬ u.Ok words := by
    simpa [Ran.Ok] using h
  constructor
  · apply hused
    rw [mainAt_word, if_neg (by decide), if_pos rfl, Ran.after_ok]
    exact fun h => openAt_missing _ 1 _ ((tool_whole _).shift (by decide)) rfl h.2
  · apply hused
    rw [mainAt_word, if_neg (by decide), if_neg (by decide), Ran.after_ok]
    intro h
    have hans := (openAt_spec (List.cons_ne_nil _ _) (answering fun _ => 3) 1 ⟨0, []⟩
      (tool_whole _) rfl).2.mp h.2 ⟨"/dev/fwctl/fwctl0".toList, 3⟩ ⟨0, []⟩ rfl rfl
    exact absurd hans.1 (by decide)

end Mlx5ctl
