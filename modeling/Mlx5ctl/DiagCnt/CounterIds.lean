/-
  diag_cnt.c: the counter list of `diagcnt set`, and the echo of a set.

  The ids are the tokens of the list, and their count is the commas and one: the two agree where
  no piece between the commas is empty (`ExactList`). What is echoed is the `int` or the `u32` of
  an argument and what is sent is its low bits: they agree where the argument fits its field
  (`ArgsFit`).
-/
import Mlx5ctl.DiagCnt.Settings

namespace Mlx5ctl.DiagCnt

open ByteMem CInt CString Ifc

variable {σ : Type} (K : Sys σ)

/-- The arguments of a line with a number in decimal and in hexadecimal. -/
def hexArgs (v : Int) : List Arg := [.int v, .int (toU32 v)]

/-- The arguments of a counter's line. -/
def idArgs (i : Nat) (id : u32) : List Arg := [.int i, .int (toInt id.toNat), .int id.toNat]

/-- The formats of the numbers that are echoed and sent. -/
def numFmt : String := "\tnum_of_counters: %d (0x%x)\n"
def samplesFmt : String := "\tlog_num_of_samples: %d (0x%x)\n"
def periodFmt : String := "\tlog_sample_period: %d (0x%x)\n"
def counterFmt : String := "\t\t[%d] = %d (0x%x)\n"

/-- A field of the context in a request. -/
def sentField (req : List u8) (f : Field) : Nat :=
  (requestField req SetDiagnosticParamsIn.diagnosticParamsContext f).toNat

/-- A counter id in a request. -/
def sentId (req : List u8) (i : Nat) : Nat :=
  (requestField req (setCounterId i) CounterId.counterId).toNat

theorem sentField_lt (req : List u8) :
    sentField req DiagnosticParamsContext.logNumOfSamples < 256 ∧
      sentField req DiagnosticParamsContext.logSamplePeriod < 256 ∧
      sentField req DiagnosticParamsContext.numOfCounters < 65536 :=
  ⟨mlx5Get_lt _ _ DiagnosticParamsContext.logNumOfSamples,
    mlx5Get_lt _ _ DiagnosticParamsContext.logSamplePeriod,
    mlx5Get_lt _ _ DiagnosticParamsContext.numOfCounters⟩

theorem sentId_lt (req : List u8) (i : Nat) : sentId req i < 65536 := by
  have hwidth : 2 ^ CounterId.counterId.sz = 65536 := rfl
  rw [← hwidth]
  exact mlx5Get_lt _ _ _

/-! ## The echo -/

theorem echo_counters (params : SetDiagParams) (devFreq : Int) :
    argsOf counterFmt (settingLines params devFreq) =
      (List.range params.numOfCounters.toNat).map fun i => idArgs i (params.counterId i) := by
  unfold settingLines
  rw [argsOf_append, argsOf_map, if_pos (show "\t\t[%d] = %d (0x%x)\n" = counterFmt from rfl)]
  simp [counterFmt, idArgs]

theorem echo_numbers (params : SetDiagParams) (devFreq : Int) :
    argsOf numFmt (settingLines params devFreq) = [hexArgs params.numOfCounters] ∧
    argsOf samplesFmt (settingLines params devFreq) = [hexArgs params.logNumOfSamples] ∧
    argsOf periodFmt (settingLines params devFreq) = [hexArgs params.logSamplePeriod] := by
  unfold settingLines
  simp [argsOf_map, numFmt, samplesFmt, periodFmt, hexArgs]

theorem hexArgs_injective : Function.Injective hexArgs := fun v v' h => by
  obtain ⟨heq, -⟩ := List.cons.inj h
  exact Arg.int.inj heq

/-! ## The request -/

theorem countCounters_nonneg {s : σ} {argv : List CStr} {r : Mem × σ}
    (h : K.malloc s (toSize (countCounters (arg argv 4)) * 4) = (some r.1, r.2)) :
    0 ≤ countCounters (arg argv 4) := by
  by_contra hneg
  have hint : -2147483648 ≤ countCounters (arg argv 4) := by
    unfold countCounters toInt
    omega
  have hbig := toSize_of_neg (Int.not_le.mp hneg) hint
  have hnone := K.malloc_limit s (toSize (countCounters (arg argv 4)) * 4)
    (Nat.lt_of_lt_of_le hbig (Nat.le_mul_of_pos_right _ (by decide)))
  rw [h] at hnone
  cases hnone

theorem countCounters_toNat {s : CStr} (h : 0 ≤ countCounters s) :
    (countCounters s).toNat = (s.count ',' + 1) % 4294967296 := by
  unfold countCounters toInt at h ⊢
  omega

/-- What the request carries of the parameters, where it has the context in full. -/
theorem mailbox_numbers (mailbox : Mem) {params : SetDiagParams} (h : 16 ≤ setParamLen params) :
    sentField (setParamMailbox mailbox params) DiagnosticParamsContext.logNumOfSamples =
        (BitVec.ofInt 32 params.logNumOfSamples).toNat % 256 ∧
      sentField (setParamMailbox mailbox params) DiagnosticParamsContext.logSamplePeriod =
        (BitVec.ofInt 32 params.logSamplePeriod).toNat % 256 ∧
      sentField (setParamMailbox mailbox params) DiagnosticParamsContext.numOfCounters =
        (BitVec.ofInt 32 params.numOfCounters).toNat % 65536 := by
  have hfield : ∀ v ∈ contextWrites params, 8 * v.base + v.field.off + v.field.sz ≤ 128 →
      (requestField (setParamMailbox mailbox params) v.base v.field).toNat =
        v.value.toNat % 2 ^ v.field.sz :=
    fun v hv hin => setParamMailbox_field mailbox (mem_contextWrites hv) (by omega)
  simp only [contextWrites, List.forall_mem_cons] at hfield
  obtain ⟨-, hlog, -, -, -, -, -, -, hper, hnum, -⟩ := hfield
  exact ⟨hlog (by decide), hper (by decide), hnum (by decide)⟩

theorem mailbox_id {mailbox : Mem} {params : SetDiagParams} {i : Nat}
    (hi : i < params.numOfCounters.toNat) (hlen : 36 + 4 * i ≤ setParamLen params) :
    sentId (setParamMailbox mailbox params) i = (params.counterId i).toNat % 65536 := by
  have hmem : (⟨setCounterId i, CounterId.counterId, params.counterId i⟩ : Write) ∈
      setParamWrites params :=
    List.mem_append_right _ (List.mem_map.mpr ⟨i, List.mem_range.mpr hi, rfl⟩)
  have hpos : setCounterId i = 32 + i * 4 := rfl
  have hend : CounterId.counterId.off + CounterId.counterId.sz = 32 := rfl
  have hin : 8 * setCounterId i + CounterId.counterId.off + CounterId.counterId.sz ≤
      8 * setParamLen params := by omega
  have hwidth : 2 ^ CounterId.counterId.sz = 65536 := rfl
  have hfield := setParamMailbox_field mailbox hmem hin
  unfold sentId
  rw [hfield, hwidth]

/-! ## The list and its count -/

/-- The counter list is parsed as it is counted: the command carries the tokens of the list, each
    of them and nothing else, and every counter that is echoed is one. -/
def CountersExact (w : World (σ × List Rpc)) (argv : List CStr) : Prop :=
  let toks := strtok ',' (arg argv 4)
  (∀ req, Sends K w argv req →
    req.length = SetDiagnosticParamsIn.szBytes + toks.length * CounterId.szBytes ∧
    sentField req DiagnosticParamsContext.numOfCounters = toks.length ∧
    ∀ i tok, toks[i]? = some tok → sentId req i = strtoul tok) ∧
  ∀ l, Prints counterFmt l w (doSet K.recorded w argv).2 → ∀ args ∈ l,
    ∃ i tok, toks[i]? = some tok ∧ args = idArgs i (BitVec.ofNat 32 (strtoul tok))

/-- The commas and one are the tokens, and the tokens and their count fit their fields. -/
structure ExactList (s : CStr) : Prop where
  count : (s.count ',' + 1) % 4294967296 = (strtok ',' s).length
  length : (strtok ',' s).length < 65536
  ids : ∀ tok ∈ strtok ',' s, strtoul tok < 65536

/-- Short of 2 ^ 32 pieces, the count is right when no piece is empty. -/
theorem exactList_iff {s : CStr} (h : s.count ',' + 1 < 4294967296) :
    ExactList s ↔ [] ∉ s.splitOn ',' ∧ s.count ',' < 65535 ∧
      ∀ tok ∈ strtok ',' s, strtoul tok < 65536 := by
  rw [← length_strtok_iff]
  constructor
  · rintro ⟨hcount, hlen, hids⟩
    rw [Nat.mod_eq_of_lt h] at hcount
    exact ⟨hcount.symm, by omega, hids⟩
  · rintro ⟨hcount, hlen, hids⟩
    refine ⟨?_, by omega, hids⟩
    rw [Nat.mod_eq_of_lt h, hcount]

theorem ExactList.countCounters {s : CStr} (h : ExactList s) :
    countCounters s = (strtok ',' s).length := by
  have hcount := h.count
  have hlen := h.length
  unfold DiagCnt.countCounters toInt
  omega

theorem counterIds_of_token (block : Mem) {s tok : CStr} {i : Nat}
    (h : (strtok ',' s)[i]? = some tok) :
    counterIds block s i = BitVec.ofNat 32 (strtoul tok) := by
  unfold counterIds
  rw [h]

/-- An exact list is parsed as it is counted. -/
theorem ExactList.countersExact {argv : List CStr} (h : ExactList (arg argv 4))
    (w : World (σ × List Rpc)) : CountersExact K w argv := by
  have hnum := h.countCounters
  have hlen := h.length
  refine ⟨fun req hsends => ?_, fun l hl args hargs => ?_⟩
  · obtain ⟨block, _, mailbox, _, -, -, hreq, -⟩ := sends_cases K hsends
    have hn : (sentParams argv block).numOfCounters = (strtok ',' (arg argv 4)).length := hnum
    have hsize : setParamLen (sentParams argv block) = _ :=
      setParamLen_of_le (by omega) (by omega)
    rw [hreq]
    refine ⟨?_, ?_, fun i tok htok => ?_⟩
    · rw [setParamMailbox_length, hsize, hn]
      show 32 + _ = 32 + _ * 4
      omega
    · rw [(mailbox_numbers mailbox (by omega)).2.2, hn]
      have hmod := ofInt_toNat_mod (v := (strtok ',' (arg argv 4)).length) (n := 16) (by omega)
        (by omega) (by decide)
      exact Int.ofNat_inj.mp hmod
    · have hi : i < (strtok ',' (arg argv 4)).length := (List.getElem?_eq_some_iff.mp htok).1
      have hid := h.ids tok (List.mem_of_getElem? htok)
      rw [mailbox_id (by omega) (by omega)]
      show (counterIds block (arg argv 4) i).toNat % 65536 = _
      rw [counterIds_of_token block htok, BitVec.toNat_ofNat]
      omega
  · rcases doSet_prints K.recorded w argv (show counterFmt ∈ echoFmts by decide) with
      hnone | ⟨block, s, -, -, -, -, hecho⟩
    · rw [hl.unique hnone] at hargs
      cases hargs
    · rw [hl.unique hecho, echo_counters] at hargs
      obtain ⟨i, hi, rfl⟩ := List.mem_map.mp hargs
      have hi : i < (strtok ',' (arg argv 4)).length := by
        have hlt := List.mem_range.mp hi
        have hn : (sentParams argv block).numOfCounters = (strtok ',' (arg argv 4)).length := hnum
        omega
      refine ⟨i, _, List.getElem?_eq_getElem hi, ?_⟩
      rw [← counterIds_of_token block (List.getElem?_eq_getElem hi)]
      rfl

theorem low_bits {n : Int} {k : Nat} (h0 : 0 ≤ n)
    (hmod : (BitVec.ofInt 32 n).toNat % 65536 = k) (hle : n.toNat ≤ k) :
    n.toNat = k ∧ k < 65536 := by
  rw [BitVec.toNat_ofInt] at hmod
  omega

/-- A command with the tokens of the list, under an echo of the tokens, is of an exact list. -/
theorem CountersExact.exactList {w : World (σ × List Rpc)} {argv : List CStr} {req : List u8}
    (hsends : Sends K w argv req) (h : CountersExact K w argv) : ExactList (arg argv 4) := by
  obtain ⟨block, s, mailbox, devFreq, -, hm, hreq, hecho⟩ := sends_cases K hsends
  obtain ⟨hlen, hnum, hids⟩ := h.1 req hsends
  have hsaid := h.2 _ (hecho counterFmt (by decide))
  have h0 := countCounters_nonneg K (r := (block, s)) hm
  have hn : (sentParams argv block).numOfCounters = countCounters (arg argv 4) := rfl
  have hsize : setParamLen (sentParams argv block) =
      32 + (strtok ',' (arg argv 4)).length * 4 := by
    rw [hreq, setParamMailbox_length] at hlen
    exact hlen
  rw [hreq, (mailbox_numbers mailbox (by omega)).2.2, hn] at hnum
  -- the last counter that is echoed is a token, so there are no more counters than tokens
  have hle : (countCounters (arg argv 4)).toNat ≤ (strtok ',' (arg argv 4)).length := by
    by_contra hgt
    have hmem : idArgs (strtok ',' (arg argv 4)).length ((sentParams argv block).counterId
        (strtok ',' (arg argv 4)).length) ∈
          argsOf counterFmt (settingLines (sentParams argv block) devFreq) := by
      rw [echo_counters]
      exact List.mem_map_of_mem (List.mem_range.mpr (Nat.not_le.mp hgt))
    obtain ⟨i, tok, htok, hargs⟩ := hsaid _ hmem
    have hi : ((strtok ',' (arg argv 4)).length : Int) = i :=
      Arg.int.inj (List.cons.inj hargs).1
    have hlt := (List.getElem?_eq_some_iff.mp htok).1
    omega
  obtain ⟨hexact, hlt⟩ := low_bits h0 hnum hle
  rw [countCounters_toNat h0] at hexact
  refine ⟨hexact, hlt, fun tok htok => ?_⟩
  obtain ⟨i, hi, rfl⟩ := List.getElem_of_mem htok
  have hid := hids i _ (List.getElem?_eq_getElem hi)
  rw [← hid]
  exact sentId_lt req i

/-- **The counter list.** An exact list is parsed as it is counted, in every run; and a run that
    sends parses its list as it counts it exactly where the list is exact. -/
theorem counters_exact_iff (w : World (σ × List Rpc)) (argv : List CStr) :
    (ExactList (arg argv 4) → CountersExact K w argv) ∧
    ∀ req, Sends K w argv req → (CountersExact K w argv ↔ ExactList (arg argv 4)) :=
  ⟨fun h => h.countersExact K w, fun _ hsends =>
    ⟨fun h => h.exactList K hsends, fun h => h.countersExact K w⟩⟩

/-- On a device that accepts everything, a set that is taken is sent. -/
theorem filled_sends {argv : List CStr} (flags : FlagsTaken argv) (argc : 5 ≤ argv.length)
    (hn : 0 ≤ countCounters (arg argv 4) ∧ countCounters (arg argv 4) ≤ 65535) :
    Sends (filled 0) fresh argv
      (setParamMailbox (fun _ => 0) (sentParams argv fun _ => 0)) := by
  have hsize := setParamSz_eq hn.1 hn.2
  have hblock : toSize (countCounters (arg argv 4)) * 4 ≤ ptrdiffMax := by
    unfold toSize ptrdiffMax
    omega
  have hmailbox : toSize (setParamSz (countCounters (arg argv 4))) ≤ ptrdiffMax := by
    rw [hsize]
    unfold toSize ptrdiffMax
    omega
  refine sends_of (filled 0) (s := fresh.sys) flags argc ?_ (by decide) (filled_malloc 0 () hmailbox)
  exact congrArg (fun m => (m, fresh.sys)) (filled_malloc 0 () hblock)

/-- `set -S 7 10 0x401,0x402` and `set -S 7 10 1,,2`: the list of the first is exact, and that of
    the second, which is sent, is not. -/
theorem two_lists :
    CountersExact (filled 0) fresh
      ["set".toList, "-S".toList, "7".toList, "10".toList, "0x401,0x402".toList] ∧
    ¬ CountersExact (filled 0) fresh
      ["set".toList, "-S".toList, "7".toList, "10".toList, "1,,2".toList] := by
  have hexact : ExactList "0x401,0x402".toList :=
    (exactList_iff (by decide)).mpr ⟨by decide, by decide, by decide⟩
  have hempty : ¬ ExactList "1,,2".toList := fun h =>
    ((exactList_iff (by decide)).mp h).1 (by decide)
  have hsends : Sends (filled 0) fresh
      ["set".toList, "-S".toList, "7".toList, "10".toList, "1,,2".toList] _ :=
    filled_sends (by decide) (by decide) (by decide)
  exact ⟨(counters_exact_iff (filled 0) fresh _).1 hexact,
    fun h => hempty (((counters_exact_iff (filled 0) fresh _).2 _ hsends).mp h)⟩

/-- `set -S 7 10 ,1` -/
theorem leading_comma : ¬ CountersExact (filled 0) fresh
    ["set".toList, "-S".toList, "7".toList, "10".toList, ",1".toList] := by
  intro h
  have hsends : Sends (filled 0) fresh
      ["set".toList, "-S".toList, "7".toList, "10".toList, ",1".toList] _ :=
    filled_sends (by decide) (by decide) (by decide)
  have hcount := (h.exactList (filled 0) hsends).count
  exact absurd hcount (by decide)

/-! ## The echo and what is sent -/

/-- What is echoed is what the request holds. -/
structure EchoesSent (w : World (σ × List Rpc)) (argv : List CStr) (req : List u8) : Prop where
  num : Prints numFmt [hexArgs (sentField req DiagnosticParamsContext.numOfCounters)] w
    (doSet K.recorded w argv).2
  samples : Prints samplesFmt [hexArgs (sentField req DiagnosticParamsContext.logNumOfSamples)] w
    (doSet K.recorded w argv).2
  period : Prints periodFmt [hexArgs (sentField req DiagnosticParamsContext.logSamplePeriod)] w
    (doSet K.recorded w argv).2
  ids : Prints counterFmt
    ((List.range (sentField req DiagnosticParamsContext.numOfCounters)).map fun i =>
      idArgs i (BitVec.ofNat 32 (sentId req i))) w (doSet K.recorded w argv).2

/-- The request holds the arguments as they are written, the ids as `strtoul` reads them. -/
structure HoldsArgs (argv : List CStr) (req : List u8) : Prop where
  samples : (sentField req DiagnosticParamsContext.logNumOfSamples : Int) = integer (arg argv 2)
  period : (sentField req DiagnosticParamsContext.logSamplePeriod : Int) = integer (arg argv 3)
  num : sentField req DiagnosticParamsContext.numOfCounters = (arg argv 4).count ',' + 1
  ids : ∀ i tok, (strtok ',' (arg argv 4))[i]? = some tok → sentId req i = strtoul tok

/-- The arguments fit their fields, and so does what the array of ids held in the slots that no
    token fills. -/
structure ArgsFit (argv : List CStr) (block : Mem) : Prop where
  samples : 0 ≤ integer (arg argv 2) ∧ integer (arg argv 2) ≤ 255
  period : 0 ≤ integer (arg argv 3) ∧ integer (arg argv 3) ≤ 255
  num : (arg argv 4).count ',' < 65535
  ids : ∀ tok ∈ strtok ',' (arg argv 4), strtoul tok < 65536
  rest : ∀ i, (strtok ',' (arg argv 4)).length ≤ i → i ≤ (arg argv 4).count ',' →
    (load32 .little block (4 * i)).toNat < 65536

theorem countCounters_of_lt {s : CStr} (h : s.count ',' < 65535) :
    countCounters s = (s.count ',' + 1 : Nat) :=
  toInt_of_fits (by omega) (by omega)

/-- Arguments that fit are parameters in range, the numbers written. -/
theorem ArgsFit.inRange {argv : List CStr} {block : Mem} (h : ArgsFit argv block) :
    (sentParams argv block).InRange ∧
      (sentParams argv block).logNumOfSamples = integer (arg argv 2) ∧
      (sentParams argv block).logSamplePeriod = integer (arg argv 3) ∧
      (sentParams argv block).numOfCounters = ((arg argv 4).count ',' + 1 : Nat) := by
  have hsamples : (sentParams argv block).logNumOfSamples = integer (arg argv 2) :=
    atoi_of_fits (by have := h.samples; omega) (by have := h.samples; omega)
  have hperiod : (sentParams argv block).logSamplePeriod = integer (arg argv 3) :=
    atoi_of_fits (by have := h.period; omega) (by have := h.period; omega)
  have hnum : (sentParams argv block).numOfCounters = ((arg argv 4).count ',' + 1 : Nat) :=
    countCounters_of_lt h.num
  refine ⟨⟨hsamples ▸ h.samples, hperiod ▸ h.period, ?_, fun i hi => ?_⟩, hsamples, hperiod, hnum⟩
  · have := h.num
    omega
  · show (counterIds block (arg argv 4) i).toNat < 65536
    cases htok : (strtok ',' (arg argv 4))[i]? with
    | some tok =>
        have hid := h.ids tok (List.mem_of_getElem? htok)
        rw [counterIds_of_token block htok, BitVec.toNat_ofNat]
        omega
    | none =>
        unfold counterIds
        rw [htok]
        exact h.rest i (List.getElem?_eq_none_iff.mp htok) (by omega)

/-- The mailbox of parameters in range holds their numbers. -/
theorem mailbox_inRange (mailbox : Mem) {params : SetDiagParams} (h : params.InRange) :
    (sentField (setParamMailbox mailbox params) DiagnosticParamsContext.logNumOfSamples : Int) =
        params.logNumOfSamples ∧
      (sentField (setParamMailbox mailbox params) DiagnosticParamsContext.logSamplePeriod : Int) =
        params.logSamplePeriod ∧
      (sentField (setParamMailbox mailbox params) DiagnosticParamsContext.numOfCounters : Int) =
        params.numOfCounters ∧
      ∀ i < params.numOfCounters.toNat,
        sentId (setParamMailbox mailbox params) i = (params.counterId i).toNat := by
  have hlen := setParamLen_eq h
  obtain ⟨hsamples, hperiod, hnum, hids⟩ := h
  obtain ⟨rsamples, rperiod, rnum⟩ := mailbox_numbers mailbox
    (show 16 ≤ setParamLen params by omega)
  refine ⟨?_, ?_, ?_, fun i hi => ?_⟩
  · rw [rsamples]
    exact ofInt_toNat_mod (n := 8) hsamples.1 (by omega) (by decide)
  · rw [rperiod]
    exact ofInt_toNat_mod (n := 8) hperiod.1 (by omega) (by decide)
  · rw [rnum]
    exact ofInt_toNat_mod (n := 16) hnum.1 (by omega) (by decide)
  · rw [mailbox_id hi (by omega)]
    exact Nat.mod_eq_of_lt (hids i hi)

/-- Arguments that fit are echoed as they are sent. -/
theorem ArgsFit.exact {w : World (σ × List Rpc)} {argv : List CStr} {req : List u8} {block : Mem}
    (hsends : Sends K w argv req)
    (hb : (K.malloc w.sys.1 (toSize (countCounters (arg argv 4)) * 4)).1 = some block)
    (h : ArgsFit argv block) : EchoesSent K w argv req ∧ HoldsArgs argv req := by
  obtain ⟨block', s, mailbox, devFreq, -, hm, hreq, hecho⟩ := sends_cases K hsends
  rw [hm] at hb
  obtain rfl := Option.some.inj hb
  obtain ⟨hrange, hsamples, hperiod, hnum⟩ := h.inRange
  obtain ⟨rsamples, rperiod, rnum, rids⟩ := mailbox_inRange mailbox hrange
  rw [← hreq] at rsamples rperiod rnum rids
  obtain ⟨enum, esamples, eperiod⟩ := echo_numbers (sentParams argv block') devFreq
  have said (fmt : String) (hfmt : fmt ∈ echoFmts) {l : List (List Arg)}
      (hl : argsOf fmt (settingLines (sentParams argv block') devFreq) = l) :
      Prints fmt l w (doSet K.recorded w argv).2 := hl ▸ hecho fmt hfmt
  constructor
  · refine ⟨said _ (by decide) ?_, said _ (by decide) ?_, said _ (by decide) ?_,
      said _ (by decide) ?_⟩
    · rw [enum, rnum]
    · rw [esamples, rsamples]
    · rw [eperiod, rperiod]
    · rw [echo_counters, ← rnum, Int.toNat_natCast]
      refine List.map_congr_left fun i hi => ?_
      rw [rids i (by rw [← rnum]; exact List.mem_range.mp hi)]
      simp
  · refine ⟨rsamples.trans hsamples, rperiod.trans hperiod, by omega, fun i tok htok => ?_⟩
    have hi := (List.getElem?_eq_some_iff.mp htok).1
    have hid := h.ids tok (List.mem_of_getElem? htok)
    have hle := length_strtok_le ',' (arg argv 4)
    have hlt : i < (sentParams argv block').numOfCounters.toNat := by
      rw [hnum, Int.toNat_natCast]
      omega
    rw [rids i hlt]
    show (counterIds block' (arg argv 4) i).toNat = _
    rw [counterIds_of_token block' htok, BitVec.toNat_ofNat]
    omega

/-- Arguments that are echoed as they are sent fit. -/
theorem EchoesSent.argsFit {w : World (σ × List Rpc)} {argv : List CStr} {req : List u8}
    {block : Mem} (hsends : Sends K w argv req)
    (hb : (K.malloc w.sys.1 (toSize (countCounters (arg argv 4)) * 4)).1 = some block)
    (h : EchoesSent K w argv req) (hargs : HoldsArgs argv req) : ArgsFit argv block := by
  obtain ⟨block', s, mailbox, devFreq, -, hm, -, hecho⟩ := sends_cases K hsends
  rw [hm] at hb
  obtain rfl := Option.some.inj hb
  obtain ⟨hsamples, hperiod, hnum⟩ := sentField_lt req
  have hcount := countCounters_of_lt (s := arg argv 4) (by have := hargs.num; omega)
  have hn : (sentParams argv block').numOfCounters = countCounters (arg argv 4) := rfl
  refine ⟨by have := hargs.samples; omega, by have := hargs.period; omega,
    by have := hargs.num; omega, fun tok htok => ?_, fun i hi hlt => ?_⟩
  · obtain ⟨i, hi, rfl⟩ := List.getElem_of_mem htok
    rw [← hargs.ids i _ (List.getElem?_eq_getElem hi)]
    exact sentId_lt req i
  · -- the slot is echoed, as the id that is sent
    have hlines := h.ids.unique (hecho counterFmt (by decide))
    rw [echo_counters, hn, hcount, Int.toNat_natCast, hargs.num] at hlines
    have hline := List.map_inj_left.mp hlines i (List.mem_range.mpr (by omega))
    have hslot : ((sentParams argv block').counterId i).toNat = sentId req i % 4294967296 := by
      have hhex := (List.cons.inj (List.cons.inj (List.cons.inj hline).2).2).1
      exact (Int.ofNat_inj.mp (Arg.int.inj hhex)).symm
    have hrest : (sentParams argv block').counterId i = load32 .little block' (4 * i) := by
      show counterIds block' (arg argv 4) i = _
      unfold counterIds
      rw [List.getElem?_eq_none hi]
    rw [← hrest, hslot]
    have := sentId_lt req i
    omega

/-- **The echo.** A set echoes what it sends, and sends its arguments as they are written,
    exactly where they fit their fields. -/
theorem echo_exact_iff {w : World (σ × List Rpc)} {argv : List CStr} {req : List u8} {block : Mem}
    (hsends : Sends K w argv req)
    (hb : (K.malloc w.sys.1 (toSize (countCounters (arg argv 4)) * 4)).1 = some block) :
    EchoesSent K w argv req ∧ HoldsArgs argv req ↔ ArgsFit argv block :=
  ⟨fun h => h.1.argsFit K hsends hb h.2, fun h => h.exact K hsends hb⟩

/-- `set -S 7 10 0x1001,2` -/
theorem two_ids_echoed :
    let argv := ["set".toList, "-S".toList, "7".toList, "10".toList, "0x1001,2".toList]
    let req := setParamMailbox (fun _ => 0) (sentParams argv fun _ => 0)
    EchoesSent (filled 0) fresh argv req ∧ HoldsArgs argv req := by
  intro argv req
  have hsends : Sends (filled 0) fresh argv req := filled_sends (by decide) (by decide) (by decide)
  have hcount : (arg argv 4).count ',' = 1 := by decide
  have htoks : (strtok ',' (arg argv 4)).length = 2 := by decide
  exact (echo_exact_iff (filled 0) hsends (filled_malloc 0 () (by decide))).mpr
    ⟨by decide, by decide, by omega, by decide, fun i hi hi' => by omega⟩

/-- `set -S 256 10 1`: 256 samples are echoed, and no such number is sent. -/
theorem samples_truncated :
    let argv := ["set".toList, "-S".toList, "256".toList, "10".toList, "1".toList]
    ∃ req, Sends (filled 0) fresh argv req ∧ ¬ EchoesSent (filled 0) fresh argv req := by
  intro argv
  have hsends : Sends (filled 0) fresh argv (setParamMailbox (fun _ => 0)
    (sentParams argv fun _ => 0)) := filled_sends (by decide) (by decide) (by decide)
  refine ⟨_, hsends, fun h => ?_⟩
  obtain ⟨block, _, _, devFreq, -, -, -, hecho⟩ := sends_cases (filled 0) hsends
  have hsame := h.samples.unique (hecho samplesFmt (by decide))
  rw [(echo_numbers (sentParams argv block) devFreq).2.1] at hsame
  have hnumber := hexArgs_injective (List.cons.inj hsame).1
  have hsamples : (sentParams argv block).logNumOfSamples = 256 :=
    show atoi "256".toList = 256 by decide
  have hlt := (sentField_lt (setParamMailbox (fun _ => 0) (sentParams argv fun _ => 0))).1
  omega

end Mlx5ctl.DiagCnt
