/-
  devcaps.c: `cap` without an id, against `cap --id=.. -P` for each.

  The loop over all caps queries into one buffer, which is cleared once: what a reply does not
  cover is left over from the cap before. On a device whose replies cover what is printed, a query
  does not depend on what was there (`queryCaps_same`), and the loop prints what the single runs
  print one after the other, each with its heading (`cap_sweep`).
-/
import Mlx5ctl.CapPretty
import Mlx5ctl.CommandLines

namespace Mlx5ctl.DevCaps

open ByteMem CInt CString Ifc

variable {σ : Type}

/-! ## Options -/

/-- The option asks for a mode or a format. -/
def Plain (o : Opt) : Prop :=
  o.c = 'B' ∨ o.c = 'H' ∨ o.c = 'P' ∨
    (o.c = 'm' ∧ (o.optarg = some "max".toList ∨ o.optarg = some "cur".toList))

/-- The arguments after such an option. -/
def plainStep (args : CapArgs) (o : Opt) : CapArgs :=
  if o.c = 'm' then { args with capMode := if o.optarg = some "max".toList then 0 else 1 }
  else { args with prFormat := o.c }

theorem parseOption_plain (w : World σ) (args : CapArgs) {o : Opt} (h : Plain o) :
    parseOption w args o = .ret (plainStep args o) w := by
  obtain ⟨c, optarg⟩ := o
  rcases h with hc | hc | hc | ⟨hc, harg⟩
  · cases hc
    rfl
  · cases hc
    rfl
  · cases hc
    rfl
  · cases hc
    rcases harg with harg | harg
    · cases harg
      rfl
    · cases harg
      rfl

/-- A cap is asked for by its name, in the pretty format. -/
def single (c : CapInfo) : List Opt := [⟨'i', some c.name.toList⟩, ⟨'P', none⟩]

/-- The arguments after plain options, and those behind them. -/
theorem parseArgs_plain {opts : List Opt} (h : ∀ o ∈ opts, Plain o) (rest : List Opt)
    (w : World σ) (args : CapArgs) : optionLoop parseOption w args (opts ++ rest) =
      optionLoop parseOption w (opts.foldl plainStep args) rest := by
  induction opts generalizing args with
  | nil => rfl
  | cons o opts ih =>
      obtain ⟨ho, hrest⟩ := List.forall_mem_cons.mp h
      rw [List.cons_append, optionLoop, parseOption_plain w args ho, Outcome.bind_ret, ih hrest,
        List.foldl_cons]

theorem plainStep_capType (opts : List Opt) (args : CapArgs) :
    (opts.foldl plainStep args).capType = args.capType := by
  induction opts generalizing args with
  | nil => rfl
  | cons o opts ih =>
      rw [List.foldl_cons, ih]
      unfold plainStep
      split_ifs <;> rfl

/-- The mode that the options ask for. -/
def modeOf (opts : List Opt) : Nat := (opts.foldl plainStep {}).capMode

theorem modeOf_lt (opts : List Opt) : modeOf opts < 2 := by
  have hkeep (args : CapArgs) (o : Opt) (h : args.capMode < 2) :
      (plainStep args o).capMode < 2 := by
    unfold plainStep
    split_ifs
    · exact Nat.zero_lt_two
    · exact Nat.one_lt_two
    · exact h
  exact List.foldlRecOn (motive := fun args : CapArgs => args.capMode < 2) opts plainStep
    Nat.one_lt_two fun args h o _ => hkeep args o h

/-- A cap with a printer is found by its name and by its type. -/
theorem caps_found : ∀ c ∈ caps, ∀ print ∈ c.print, capId c.name.toList = c.type ∧
    getCapPrint c.type = some print := by decide +kernel

/-! ## One query -/

/-- The device answers a query by the query alone, and covers what is printed of a capability;
    memory is granted. -/
structure CapServer (K : Sys σ) (answer : List u8 → Int × List u8) (errno : Int) : Prop where
  rpc : ∀ s req n, opcodeOf req = MLX5_CMD_OP_QUERY_HCA_CAP →
    (K.rpc s req n).1 = (answer req).1 ∧ (K.rpc s req n).2.1 = (answer req).2
  covers : ∀ req, opcodeOf req = MLX5_CMD_OP_QUERY_HCA_CAP →
    QueryHcaCapOut.capability + capBytes ≤ (answer req).2.length
  errno : ∀ s, K.errno s = errno
  malloc : ∀ s, (K.malloc s QueryHcaCapOut.szBytes).1 ≠ none

/-- Two runs print the same lines. -/
def SameLines (w w' v v' : World σ) : Prop := ∃ ls, v.out = w.out ++ ls ∧ v'.out = w'.out ++ ls

theorem SameLines.prints {w w' v v' : World σ} (h : SameLines w w' v v') (ls : List Line) :
    SameLines w w' (v.prints ls) (v'.prints ls) := by
  obtain ⟨new, hv, hv'⟩ := h
  refine ⟨new ++ ls, ?_, ?_⟩
  · show v.out ++ ls = _
    rw [hv, List.append_assoc]
  · show v'.out ++ ls = _
    rw [hv', List.append_assoc]

/-- What `mlx5u_cmd` prints of a return value of the `ioctl` and a response. -/
def cmdLines (ret errno : Int) (inb p : Mem) : List Line :=
  if ret ≠ 0 then
    [.errMsg "MLX5CTL_IOCTL_CMDRPC failed: %d errno(%d): %s\n" [.int ret, .int errno]]
  else if mlx5Get p 0 MboxOut.status ≠ 0 then
    [.errMsg "command failed opcode 0x%x opmod 0x%x\n"
        [.int (mlx5Get inb 0 MboxIn.opcode).toNat, .int (mlx5Get inb 0 MboxIn.opMod).toNat],
      .errMsg "status: 0x%x\n" [.int (mlx5Get p 0 MboxOut.status).toNat],
      .errMsg "syndrome: 0x%x\n" [.int (mlx5Get p 0 MboxOut.syndrome).toNat]]
  else []

theorem mlx5uCmd_lines (K : Sys σ) (w : World σ) (inb : Mem) (inlen : Nat) (out : Mem)
    (outlen : Nat) : (mlx5uCmd K w inb inlen out outlen).w.out = w.out ++
      cmdLines (K.rpc w.sys (load inb 0 (toU32 inlen)) (toU32 outlen)).1
        (K.errno (mlx5uCmd K w inb inlen out outlen).w.sys) inb
        (replyIn K w inb inlen out outlen) := by
  rw [mlx5uCmd_sys]
  unfold mlx5uCmd cmdLines replyIn
  dsimp only
  split_ifs <;> simp [World.print]

variable {K : Sys σ} {answer : List u8 → Int × List u8} {errno : Int}

/-- A command with the same answer: the same return value, the same lines, and the same bytes as
    far as the reply goes. -/
theorem mlx5uCmd_same (hK : CapServer K answer errno) (w w' : World σ) {inb : Mem} {inlen : Nat}
    (out out' : Mem) {n : Nat} {req : List u8} (hreq : load inb 0 (toU32 inlen) = req)
    (hop : opcodeOf req = MLX5_CMD_OP_QUERY_HCA_CAP) (hn : n ≤ QueryHcaCapOut.szBytes)
    (hn8 : 8 ≤ n) (hcovers : n ≤ (answer req).2.length) {r r' : CmdResult σ}
    (hr : mlx5uCmd K w inb inlen out QueryHcaCapOut.szBytes = r)
    (hr' : mlx5uCmd K w' inb inlen out' QueryHcaCapOut.szBytes = r') :
    r.ret = r'.ret ∧ SameLines w w' r.w r'.w ∧ ∀ k, k < n → r.out k = r'.out k := by
  have hlen : toU32 ((QueryHcaCapOut.szBytes : Nat) : Int) = QueryHcaCapOut.szBytes := rfl
  have hrpc (v : World σ) := hK.rpc v.sys req QueryHcaCapOut.szBytes hop
  have hout : r.out = replyIn K w inb inlen out QueryHcaCapOut.szBytes := by
    rw [← hr, mlx5uCmd_out]
  have hout' : r'.out = replyIn K w' inb inlen out' QueryHcaCapOut.szBytes := by
    rw [← hr', mlx5uCmd_out]
  have hbyte (k : Nat) (hk : k < n) : r.out k = r'.out k := by
    have hlt : k < ((answer req).2.take QueryHcaCapOut.szBytes).length := by
      rw [List.length_take]
      omega
    rw [hout, hout']
    unfold replyIn overlay
    rw [hreq, hlen, (hrpc w).2, (hrpc w').2, List.getD_eq_getElem _ _ hlt,
      List.getD_eq_getElem _ _ hlt]
  have hfield {f : Field} (hf : f.off + f.sz ≤ 64) : mlx5Get r.out 0 f = mlx5Get r'.out 0 f :=
    mlx5Get_congr fun i _ hi => by
      unfold bit
      rw [hbyte (i / 8) (by omega)]
  have hstatus := hfield (f := MboxOut.status) (by decide)
  have hsyndrome := hfield (f := MboxOut.syndrome) (by decide)
  rw [hout, hout'] at hstatus hsyndrome
  refine ⟨?_, ⟨cmdLines (answer req).1 errno inb
    (replyIn K w inb inlen out QueryHcaCapOut.szBytes), ?_, ?_⟩, hbyte⟩
  · rw [← hr, ← hr', mlx5uCmd_ret, mlx5uCmd_ret, hreq, hlen, (hrpc w).1, (hrpc w').1]
    unfold cmdRet
    rw [hstatus]
  · rw [← hr, mlx5uCmd_lines, hreq, hlen, (hrpc w).1, hK.errno]
  · rw [← hr', mlx5uCmd_lines, hreq, hlen, (hrpc w').1, hK.errno]
    unfold cmdLines
    rw [hstatus, hsyndrome]

/-- Two results of a query with the same answer. -/
structure Same (w w' : World σ) (r r' : CapsResult σ) : Prop where
  found : r.found = r'.found
  lines : SameLines w w' r.w r'.w
  capability : capability r.out capBytes = capability r'.out capBytes

/-- A query does not depend on what was in the buffer, or on what happened before. -/
theorem queryCaps_same (hK : CapServer K answer errno) (capType : Nat) {capMode : Nat}
    (hmode : capMode < 2) (w w' : World σ) (out out' : Mem) :
    Same w w' (queryCaps K w (opMod capType capMode) out)
      (queryCaps K w' (opMod capType capMode) out') := by
  have hop := (capRequest_decodes capType hmode).1
  generalize hr : mlx5uCmd K w (queryCapsIn (opMod capType capMode)) QueryHcaCapIn.szBytes out
    QueryHcaCapOut.szBytes = r
  generalize hr' : mlx5uCmd K w' (queryCapsIn (opMod capType capMode)) QueryHcaCapIn.szBytes out'
    QueryHcaCapOut.szBytes = r'
  obtain ⟨hret, hlines, hbytes⟩ := mlx5uCmd_same hK w w' out out'
    (n := QueryHcaCapOut.capability + capBytes) (congrArg (load _ 0) (toU32_natCast (by decide)))
    hop (by decide) (by decide) (hK.covers _ hop) hr hr'
  have hfield {f : Field} (hf : f.off + f.sz ≤ 64) : mlx5Get r.out 0 f = mlx5Get r'.out 0 f :=
    mlx5Get_congr fun i _ hi => by
      unfold bit
      rw [hbytes (i / 8) (Nat.lt_of_lt_of_le (by omega : i / 8 < 8) (by decide))]
  have hcap : capability r.out capBytes = capability r'.out capBytes :=
    load_congr fun k hk => hbytes _ (Nat.add_lt_add_left hk _)
  unfold queryCaps
  dsimp only
  rw [hr, hr', hret, hfield (f := MboxOut.status) (by decide),
    hfield (f := MboxOut.syndrome) (by decide)]
  split_ifs
  · exact ⟨rfl, hlines.prints _, hcap⟩
  · exact ⟨rfl, hlines, hcap⟩

/-! ## The loop over all caps -/

/-- The heading of a cap. -/
def heading (capMode : Nat) (c : CapInfo) : Line :=
  .printf "MLX5_CAP_%s: (0x%x) (%s)\n"
    [.text c.name, .int c.type, .text (if capMode ≠ 0 then "cur" else "max")]

/-- What a single run comes to is printed under the heading, and a failure without. -/
def entry (capMode : Nat) (c : CapInfo) (o : Outcome σ Int) : List Line :=
  (if o.code = some 0 then [heading capMode c] else []) ++ o.w.out

/-- How a run ends that asks for one cap by its name. -/
def shown (print : Printcap) (r : CapsResult σ) : Outcome σ Int :=
  if r.found then .ret 0 (r.w.prints (printCap print (capability r.out 4096))) else .ret 1 r.w

theorem single_run (hK : CapServer K answer errno) {opts : List Opt} (hopts : ∀ o ∈ opts, Plain o)
    {c : CapInfo} (hc : c ∈ caps) {print : Printcap} (hp : c.print = some print) (t : σ) :
    ∃ block u, doDevcap K printCap ⟨t, []⟩ (opts ++ single c) =
      shown print (queryCaps K ⟨u, []⟩ (opMod c.type (modeOf opts)) block) := by
  obtain ⟨block, hblock⟩ := Option.ne_none_iff_exists'.mp (hK.malloc t)
  obtain ⟨hid, hprint⟩ := caps_found c hc print hp
  have hargs (w : World σ) : parseArgs w (opts ++ single c) =
      .ret { opts.foldl plainStep {} with capType := capId c.name.toList, prFormat := 'P' } w :=
    parseArgs_plain hopts (single c) w {}
  refine ⟨memset0 block QueryHcaCapOut.szBytes, (K.malloc t QueryHcaCapOut.szBytes).2, ?_⟩
  unfold doDevcap
  dsimp only
  rw [hblock]
  dsimp only
  rw [hargs, Outcome.bind_ret]
  dsimp only
  rw [hid, if_pos (Int.natCast_nonneg _), Int.toNat_natCast]
  unfold shown showCap modeOf
  dsimp only
  rw [if_pos rfl, hprint]

/-- A turn of the loop prints the entry of the single run. -/
theorem sweepTurn_entry (hK : CapServer K answer errno) {opts : List Opt}
    (hopts : ∀ o ∈ opts, Plain o) {c : CapInfo} (hc : c ∈ caps) (hp : c.print.isSome) (t : σ)
    (s : Mem × World σ) : (sweepTurn K printCap (modeOf opts) s c).2.out = s.2.out ++
      entry (modeOf opts) c (doDevcap K printCap ⟨t, []⟩ (opts ++ single c)) := by
  obtain ⟨print, hp⟩ := Option.isSome_iff_exists.mp hp
  obtain ⟨block, u, hsingle⟩ := single_run hK hopts hc hp t
  have hsame := queryCaps_same hK c.type (modeOf_lt opts) s.2 ⟨u, []⟩ s.1 block
  generalize hr : queryCaps K s.2 (opMod c.type (modeOf opts)) s.1 = r at hsame
  generalize queryCaps K ⟨u, []⟩ (opMod c.type (modeOf opts)) block = r' at hsame hsingle
  have hturn : sweepTurn K printCap (modeOf opts) s c = if r.found then
      (r.out, (r.w.print (heading (modeOf opts) c)).prints
        (printCap print (capability r.out 4096))) else (r.out, r.w) := by
    unfold sweepTurn
    rw [hp]
    dsimp only
    rw [hr]
    rfl
  obtain ⟨ls, hls, hls'⟩ := hsame.lines
  rw [hturn, hsingle, hsame.found]
  unfold entry shown
  by_cases hfound : r'.found
  · have hquiet : r.w.out = s.2.out := by
      rw [← hr]
      exact queryCaps_silent K (by rw [hr, hsame.found, hfound])
    have hnil : ls = [] := List.append_right_eq_self.mp (hls.symm.trans hquiet)
    rw [hnil] at hls'
    simp [hfound, Outcome.code, Outcome.w, World.prints, World.print, hquiet, hls',
      printCap_congr print hsame.capability]
  · simp [hfound, Outcome.code, Outcome.w, hls, hls']

theorem sweep_entries (hK : CapServer K answer errno) {opts : List Opt}
    (hopts : ∀ o ∈ opts, Plain o) (t : CapInfo → σ) {cs : List CapInfo} (hcs : ∀ c ∈ cs, c ∈ caps)
    (s : Mem × World σ) : (cs.foldl (sweepTurn K printCap (modeOf opts)) s).2.out = s.2.out ++
      (cs.filter fun c => c.print.isSome).flatMap fun c =>
        entry (modeOf opts) c (doDevcap K printCap ⟨t c, []⟩ (opts ++ single c)) := by
  induction cs generalizing s with
  | nil => simp
  | cons c cs ih =>
      obtain ⟨hc, hrest⟩ := List.forall_mem_cons.mp hcs
      rw [List.foldl_cons, ih hrest]
      by_cases hp : c.print.isSome
      · rw [sweepTurn_entry hK hopts hc hp (t c), List.filter_cons_of_pos (by exact hp),
          List.flatMap_cons, List.append_assoc]
      · have hturn : sweepTurn K printCap (modeOf opts) s c = s := by
          unfold sweepTurn
          rw [Option.not_isSome_iff_eq_none.mp hp]
        rw [hturn, List.filter_cons_of_neg (by exact hp)]

/-- **All caps at once are the caps one by one.** On a device whose replies cover what is printed,
    `cap` without an id returns 0 and prints, for each cap with a printer in the order of the table,
    what `cap --id=NAME -P` prints, under its heading where that returns 0: whatever states the
    single runs start in, and whatever mode or format is asked for. -/
theorem cap_sweep (hK : CapServer K answer errno) {opts : List Opt} (hopts : ∀ o ∈ opts, Plain o)
    (t : CapInfo → σ) (w : World σ) : ∃ v, doDevcap K printCap w opts = .ret 0 v ∧
      v.out = w.out ++ (caps.filter fun c => c.print.isSome).flatMap fun c =>
        entry (modeOf opts) c (doDevcap K printCap ⟨t c, []⟩ (opts ++ single c)) := by
  obtain ⟨block, hblock⟩ := Option.ne_none_iff_exists'.mp (hK.malloc w.sys)
  have hargs (v : World σ) : parseArgs v opts = .ret (opts.foldl plainStep {}) v := by
    have h := parseArgs_plain hopts [] v {}
    rwa [List.append_nil] at h
  have hneg : ¬ 0 ≤ (opts.foldl plainStep {}).capType := by
    rw [plainStep_capType]
    decide
  refine ⟨_, ?_, sweep_entries hK hopts t (fun _ h => h)
    (memset0 block QueryHcaCapOut.szBytes, ⟨(K.malloc w.sys QueryHcaCapOut.szBytes).2, w.out⟩)⟩
  unfold doDevcap
  dsimp only
  rw [hblock]
  dsimp only
  rw [hargs, Outcome.bind_ret, if_neg hneg]
  rfl

/-- The answers of a device that has two of the caps, at their maximum. -/
def twoCapsAnswer (req : List u8) : List u8 :=
  (if (requestField req 0 MboxIn.opMod).toNat ∈ [0, 2] then 0 else 3) :: List.replicate 271 0

/-- That device. -/
def twoCaps : Sys Unit :=
  { DiagCnt.filled 0 with rpc := fun _ req _ => (0, twoCapsAnswer req, ()) }

theorem twoCaps_serves : CapServer twoCaps (fun req => (0, twoCapsAnswer req)) 0 where
  rpc _ _ _ _ := ⟨rfl, rfl⟩
  covers req _ := by
    unfold twoCapsAnswer
    rw [List.length_cons, List.length_replicate]
    decide
  errno _ := rfl
  malloc _ := by
    show ((DiagCnt.filled 0).malloc () QueryHcaCapOut.szBytes).1 ≠ none
    rw [DiagCnt.filled_malloc 0 () (by decide)]
    simp

/-- `cap --mode=max` there: the two caps that a single run finds have a heading. -/
theorem twoCaps_swept :
    (∃ v, doDevcap twoCaps printCap ⟨(), []⟩ [⟨'m', some "max".toList⟩] = .ret 0 v ∧
      v.out = (caps.filter fun c => c.print.isSome).flatMap fun c =>
        entry 0 c (doDevcap twoCaps printCap ⟨(), []⟩ (⟨'m', some "max".toList⟩ :: single c))) ∧
    ((caps.filter fun c => c.print.isSome).map fun c =>
      (doDevcap twoCaps printCap ⟨(), []⟩ (⟨'m', some "max".toList⟩ :: single c)).code) =
      [some 0, some 0, some 1, some 1, some 1, some 1, some 1] :=
  ⟨cap_sweep twoCaps_serves (List.forall_mem_singleton.mpr (.inr (.inr (.inr ⟨rfl, .inl rfl⟩))))
    (fun _ => ()) ⟨(), []⟩, by decide +kernel⟩

end Mlx5ctl.DevCaps
