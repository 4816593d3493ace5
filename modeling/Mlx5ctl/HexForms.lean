/-
  reg.c and devcaps.c: the three forms of a register and of a capability.

  `reg` and `cap` print what the device answered as hex, as bytes or field by field. The size of the
  hex form covers every field of a pretty printer, so the hex form tells all: two devices that
  cannot be told apart by it cannot be told apart by any other (`forms_of_hex`).
-/
import Mlx5ctl.RegPretty
import Mlx5ctl.CapSweep
import Mlx5ctl.Names

namespace Mlx5ctl

open ByteMem CInt CString Ifc

variable {σ : Type}

/-- The same host, with another device. -/
def Sys.answeredBy (K : Sys σ) (rpc : σ → List u8 → Nat → Int × List u8 × σ) : Sys σ :=
  { K with rpc := rpc }

/-- What is seen of a run: the value it returned, and the output. -/
def seen (o : Outcome σ Int) : Option Int × List Line := (o.code, o.w.out)

/-- The form is hex, bytes or pretty. -/
def Form (c : Char) : Prop := c = 'B' ∨ c = 'H' ∨ c = 'P'

/-! ## reg -/

namespace RegDump

theorem parseOption_form (w : World σ) (args : RegArgs) {c : Char} (hc : Form c) :
    parseOption w args ⟨c, none⟩ = .ret { args with prFormat := c } w := by
  rcases hc with rfl | rfl | rfl <;> rfl

/-- What follows the options. -/
def afterOptions (K : Sys σ) (c : Char) (args : RegArgs) (w : World σ) : Outcome σ Int :=
  if args.regId < 0 then .exit 1 ((w.print (.eprintf "Missing register id\n" [])).prints help)
  else
    let r := mlx5RegDump K printReg w c (BitVec.ofInt 32 args.regId)
      (BitVec.ofInt 32 args.port) (BitVec.ofInt 32 args.argument)
    .ret r.1 r.2

/-- The form decides only what follows the options. -/
theorem doReg_form (K : Sys σ) (w : World σ) (opts : List Opt) {c : Char} (hc : Form c) :
    doReg K printReg w (opts ++ [⟨c, none⟩]) =
      (optionLoop parseOption w {} opts).bind (afterOptions K c) := by
  unfold doReg parseArgs
  rw [optionLoop_concat]
  cases optionLoop parseOption w {} opts with
  | exit code v => rfl
  | segv v => rfl
  | ret args v =>
      rw [Outcome.bind_ret, Outcome.bind_ret, parseOption_form v args hc, Outcome.bind_ret]
      unfold afterOptions
      dsimp only
      split_ifs <;> rfl

theorem parseOption_named (w : World σ) (args : RegArgs) (s : CStr) :
    parseOption w args ⟨'i', some s⟩ = .ret { args with regId := regIdOf s } w := rfl

theorem regIdOf_ptys : regIdOf "PTYS".toList = 0x5004 := by
  have hname := getRegIdFromStr_name
    (List.mem_cons_self : (⟨0x5004, "PTYS", 64, some .ptys⟩ : RegInfo) ∈ regs)
  unfold regIdOf
  rw [hname]
  rfl

theorem showReg_hex (w : World σ) (regId : Nat) (p : Mem) :
    (showReg printReg w 'H' regId p).out = w.out ++ [.hexdump (load p 0 (getRegSize regId))] := rfl

/-- What is printed of a register is what the hex form shows of it. -/
theorem showReg_out {v w : World σ} (hout : v.out = w.out) {c : Char} (hc : Form c) (regId : Nat)
    {p q : Mem} (h : load p 0 (getRegSize regId) = load q 0 (getRegSize regId)) :
    (showReg printReg v c regId p).out = (showReg printReg w c regId q).out := by
  rcases hc with rfl | rfl | rfl
  · show v.out ++ [.fwrite _] = w.out ++ [.fwrite _]
    rw [hout, h]
  · rw [showReg_hex, showReg_hex, hout, h]
  · cases hprint : getPrintFuncForReg regId with
    | none => simp [showReg, hprint, World.print, hout, h]
    | some print =>
        simp [showReg, hprint, World.print, World.prints, hout, printReg_congr hprint h]

/-- The form makes no difference to an access that fails. -/
theorem mlx5RegDump_cases (K : Sys σ) (w : World σ) (regId port argument : u32) :
    (∃ ret v, ret ≠ 0 ∧ ∀ c, mlx5RegDump K printReg w c regId port argument = (ret, v)) ∨
    ∃ v p, v.out = w.out ∧ ∀ c, mlx5RegDump K printReg w c regId port argument =
      (0, showReg printReg v c regId.toNat p) := by
  unfold mlx5RegDump
  dsimp only
  generalize hr : mlx5AccessReg K w (regDumpData port) documentBytes zeroMem documentBytes
    (regId.setWidth 16) (toInt argument.toNat) 0 = r
  by_cases herr : r.err = 0
  · have hsilent : r.w.out = w.out := by
      rw [← hr] at herr ⊢
      exact mlx5AccessReg_silent K herr
    exact .inr ⟨r.w, r.dataOut, hsilent, fun c => if_neg (not_not.mpr herr)⟩
  · exact .inl ⟨r.err, _, herr, fun c => if_pos herr⟩

/-- What follows the options, in another form. -/
theorem afterOptions_of_hex (K K' : Sys σ) (args : RegArgs) (w : World σ) {c : Char} (hc : Form c)
    (h : seen (afterOptions K 'H' args w) = seen (afterOptions K' 'H' args w)) :
    seen (afterOptions K c args w) = seen (afterOptions K' c args w) := by
  unfold afterOptions at h ⊢
  split_ifs at h ⊢
  · rfl
  · dsimp only at h ⊢
    rcases mlx5RegDump_cases K w (BitVec.ofInt 32 args.regId) (BitVec.ofInt 32 args.port)
      (BitVec.ofInt 32 args.argument) with ⟨ret, v, hret, hv⟩ | ⟨v, p, hout, hv⟩
    · rcases mlx5RegDump_cases K' w (BitVec.ofInt 32 args.regId) (BitVec.ofInt 32 args.port)
        (BitVec.ofInt 32 args.argument) with ⟨ret', v', -, hv'⟩ | ⟨v', p', -, hv'⟩
      · rw [hv, hv'] at h ⊢
        exact h
      · rw [hv, hv'] at h
        exact absurd (Option.some.inj (congrArg Prod.fst h)) hret
    · rcases mlx5RegDump_cases K' w (BitVec.ofInt 32 args.regId) (BitVec.ofInt 32 args.port)
        (BitVec.ofInt 32 args.argument) with ⟨ret', v', hret', hv'⟩ | ⟨v', p', hout', hv'⟩
      · rw [hv, hv'] at h
        exact absurd (Option.some.inj (congrArg Prod.fst h)).symm hret'
      · rw [hv, hv'] at h ⊢
        have hhex := congrArg Prod.snd h
        unfold seen at hhex
        dsimp only [Outcome.w] at hhex
        rw [showReg_hex, showReg_hex, hout, hout'] at hhex
        have hload := Line.hexdump.inj (List.singleton_inj.mp (List.append_cancel_left hhex))
        exact congrArg (Prod.mk (some 0)) (showReg_out (hout.trans hout'.symm) hc _ hload)

end RegDump

/-! ## cap -/

namespace DevCaps

theorem parseOption_form (w : World σ) (args : CapArgs) {c : Char} (hc : Form c) :
    parseOption w args ⟨c, none⟩ = .ret { args with prFormat := c } w := by
  rcases hc with rfl | rfl | rfl <;> rfl

/-- What follows the query of a cap. -/
def afterQuery (c : Char) (args : CapArgs) (r : CapsResult σ) : Outcome σ Int :=
  if r.found then
    let shown := showCap printCap { args with prFormat := c } r
    .ret shown.1 shown.2
  else .ret 1 r.w

/-- What follows the options. -/
def afterOptions (K : Sys σ) (out : Mem) (c : Char) (args : CapArgs) (w : World σ) :
    Outcome σ Int :=
  if 0 ≤ args.capType then
    afterQuery c args (queryCaps K w (opMod args.capType.toNat args.capMode) out)
  else .ret 0 (caps.foldl (sweepTurn K printCap args.capMode) (out, w)).2

theorem doDevcap_refused (K : Sys σ) (w : World σ)
    (h : (K.malloc w.sys QueryHcaCapOut.szBytes).1 = none) (opts : List Opt) :
    doDevcap K printCap w opts =
      .ret enomem ⟨(K.malloc w.sys QueryHcaCapOut.szBytes).2, w.out⟩ := by
  unfold doDevcap
  dsimp only
  rw [h]

/-- The form decides only what follows the options. -/
theorem doDevcap_form (K : Sys σ) (w : World σ) {block : Mem}
    (h : (K.malloc w.sys QueryHcaCapOut.szBytes).1 = some block) (opts : List Opt) {c : Char}
    (hc : Form c) : doDevcap K printCap w (opts ++ [⟨c, none⟩]) =
      (optionLoop parseOption ⟨(K.malloc w.sys QueryHcaCapOut.szBytes).2, w.out⟩ {} opts).bind
        (afterOptions K (memset0 block QueryHcaCapOut.szBytes) c) := by
  unfold doDevcap parseArgs
  dsimp only
  rw [h]
  dsimp only
  rw [optionLoop_concat]
  cases optionLoop parseOption ⟨(K.malloc w.sys QueryHcaCapOut.szBytes).2, w.out⟩ {} opts with
  | exit code v => rfl
  | segv v => rfl
  | ret args v =>
      rw [Outcome.bind_ret, Outcome.bind_ret, parseOption_form v args hc]
      rfl

theorem showCap_hex (args : CapArgs) (r : CapsResult σ) :
    showCap printCap { args with prFormat := 'H' } r =
      (0, r.w.print (.hexdump (capability r.out capBytes))) := rfl

/-- What is printed of a capability is what the hex form shows of it. -/
theorem showCap_out (args : CapArgs) {r r' : CapsResult σ} (hout : r.w.out = r'.w.out)
    {c : Char} (hc : Form c) (h : capability r.out capBytes = capability r'.out capBytes) :
    (showCap printCap { args with prFormat := c } r).1 =
      (showCap printCap { args with prFormat := c } r').1 ∧
    (showCap printCap { args with prFormat := c } r).2.out =
      (showCap printCap { args with prFormat := c } r').2.out := by
  rcases hc with rfl | rfl | rfl
  · refine ⟨rfl, ?_⟩
    show r.w.out ++ [.fwrite _] = r'.w.out ++ [.fwrite _]
    rw [hout, h]
  · rw [showCap_hex, showCap_hex, h]
    exact ⟨rfl, congrArg (· ++ _) hout⟩
  · cases hprint : getCapPrint args.capType with
    | none => simp [showCap, hprint, World.print, hout, h]
    | some print => simp [showCap, hprint, World.prints, hout, printCap_congr print h]

/-- What follows the query, in another form. -/
theorem afterQuery_of_hex {w : World σ} {r r' : CapsResult σ} (hr : r.found → r.w.out = w.out)
    (hr' : r'.found → r'.w.out = w.out) (args : CapArgs) {c : Char} (hc : Form c)
    (h : seen (afterQuery 'H' args r) = seen (afterQuery 'H' args r')) :
    seen (afterQuery c args r) = seen (afterQuery c args r') := by
  have hcode := congrArg Prod.fst h
  have hlines := congrArg Prod.snd h
  unfold afterQuery seen at h hcode hlines ⊢
  by_cases hf : r.found <;> by_cases hf' : r'.found
  · rw [if_pos hf, if_pos hf'] at hlines ⊢
    have hout : r.w.out = r'.w.out := (hr hf).trans (hr' hf').symm
    have hhex : r.w.out ++ [.hexdump (capability r.out capBytes)] =
        r'.w.out ++ [.hexdump (capability r'.out capBytes)] := hlines
    rw [hout] at hhex
    have hcap := Line.hexdump.inj (List.singleton_inj.mp (List.append_cancel_left hhex))
    obtain ⟨hret, hshown⟩ := showCap_out args hout hc hcap
    exact Prod.ext (congrArg some hret) hshown
  · rw [if_pos hf, if_neg hf'] at hcode
    exact absurd (show (0 : Int) = 1 from Option.some.inj hcode) (by decide)
  · rw [if_neg hf, if_pos hf'] at hcode
    exact absurd (show (1 : Int) = 0 from Option.some.inj hcode) (by decide)
  · rw [if_neg hf, if_neg hf'] at h ⊢
    exact h

/-- What follows the options, in another form. -/
theorem afterOptions_of_hex (K K' : Sys σ) (out : Mem) (args : CapArgs) (w : World σ) {c : Char}
    (hc : Form c)
    (h : seen (afterOptions K out 'H' args w) = seen (afterOptions K' out 'H' args w)) :
    seen (afterOptions K out c args w) = seen (afterOptions K' out c args w) := by
  unfold afterOptions at h ⊢
  by_cases hid : 0 ≤ args.capType
  · rw [if_pos hid, if_pos hid] at h ⊢
    exact afterQuery_of_hex (queryCaps_silent K) (queryCaps_silent K') args hc h
  · rw [if_neg hid, if_neg hid] at h ⊢
    exact h

end DevCaps

/-! ## Two devices -/

/-- What is common to two runs, in one form and in another. -/
theorem seen_bind {α : Type} (o : Outcome σ α) {f f' g g' : α → World σ → Outcome σ Int}
    (hfg : ∀ a w, seen (f a w) = seen (f' a w) → seen (g a w) = seen (g' a w))
    (h : seen (o.bind f) = seen (o.bind f')) : seen (o.bind g) = seen (o.bind g') := by
  cases o with
  | ret a w => exact hfg a w h
  | exit code w => rfl
  | segv w => rfl

/-- **The hex form tells all.** Two devices on one host that the hex form of `reg` or of `cap` does
    not tell apart, by what it prints and what it returns, are told apart by no other form: neither
    by the bytes nor by the fields, with whatever other options. -/
theorem forms_of_hex (K : Sys σ) (rpc rpc' : σ → List u8 → Nat → Int × List u8 × σ) (w : World σ)
    (opts : List Opt) {c : Char} (hc : Form c) :
    (seen (RegDump.doReg (K.answeredBy rpc) RegDump.printReg w (opts ++ [⟨'H', none⟩])) =
        seen (RegDump.doReg (K.answeredBy rpc') RegDump.printReg w (opts ++ [⟨'H', none⟩])) →
      seen (RegDump.doReg (K.answeredBy rpc) RegDump.printReg w (opts ++ [⟨c, none⟩])) =
        seen (RegDump.doReg (K.answeredBy rpc') RegDump.printReg w (opts ++ [⟨c, none⟩]))) ∧
    (seen (DevCaps.doDevcap (K.answeredBy rpc) DevCaps.printCap w (opts ++ [⟨'H', none⟩])) =
        seen (DevCaps.doDevcap (K.answeredBy rpc') DevCaps.printCap w (opts ++ [⟨'H', none⟩])) →
      seen (DevCaps.doDevcap (K.answeredBy rpc) DevCaps.printCap w (opts ++ [⟨c, none⟩])) =
        seen (DevCaps.doDevcap (K.answeredBy rpc') DevCaps.printCap w (opts ++ [⟨c, none⟩]))) := by
  have hhex : Form 'H' := .inr (.inl rfl)
  constructor
  · intro h
    rw [RegDump.doReg_form _ w opts hhex, RegDump.doReg_form _ w opts hhex] at h
    rw [RegDump.doReg_form _ w opts hc, RegDump.doReg_form _ w opts hc]
    exact seen_bind _ (fun args v => RegDump.afterOptions_of_hex _ _ args v hc) h
  · intro h
    cases hblock : (K.malloc w.sys QueryHcaCapOut.szBytes).1 with
    | none =>
        rw [DevCaps.doDevcap_refused (K.answeredBy rpc) w hblock,
          DevCaps.doDevcap_refused (K.answeredBy rpc') w hblock]
        rfl
    | some block =>
        rw [DevCaps.doDevcap_form (K.answeredBy rpc) w hblock opts hhex,
          DevCaps.doDevcap_form (K.answeredBy rpc') w hblock opts hhex] at h
        rw [DevCaps.doDevcap_form (K.answeredBy rpc) w hblock opts hc,
          DevCaps.doDevcap_form (K.answeredBy rpc') w hblock opts hc]
        exact seen_bind _ (fun args v => DevCaps.afterOptions_of_hex _ _ _ args v hc) h

/-- A device that answers everything with this many zeroes, and then the byte. -/
def zeroesThen (n : Nat) (b : u8) : Unit → List u8 → Nat → Int × List u8 × Unit :=
  fun _ _ _ => (0, List.replicate n 0 ++ [b], ())

/-- The byte behind a register is not in its hex form. -/
theorem ptys_hex : ∀ b ∈ ([1, 2] : List u8),
    seen (RegDump.doReg (DevCaps.twoCaps.answeredBy (zeroesThen 80 b)) RegDump.printReg ⟨(), []⟩
      ([⟨'i', some "PTYS".toList⟩] ++ [⟨'H', none⟩])) =
        (some 0, [.hexdump (List.replicate 64 0)]) := by
  intro b hb
  rw [RegDump.doReg_form _ _ _ (.inr (.inl rfl)), optionLoop, RegDump.parseOption_named,
    Outcome.bind_ret, RegDump.regIdOf_ptys, optionLoop, Outcome.bind_ret]
  revert b
  decide +kernel

/-- The byte behind a capability is not in its hex form. -/
theorem debug_hex : ∀ b ∈ ([1, 2] : List u8),
    seen (DevCaps.doDevcap (DevCaps.twoCaps.answeredBy (zeroesThen 272 b)) DevCaps.printCap
      ⟨(), []⟩ ([⟨'i', some "DEBUG".toList⟩] ++ [⟨'H', none⟩])) =
        (some 0, [.hexdump (List.replicate 256 0)]) := by decide +kernel

/-- The fields of PTYS and of the debug capability, of two devices that differ behind them. -/
theorem behind_unseen :
    seen (RegDump.doReg (DevCaps.twoCaps.answeredBy (zeroesThen 80 1)) RegDump.printReg ⟨(), []⟩
        ([⟨'i', some "PTYS".toList⟩] ++ [⟨'P', none⟩])) =
      seen (RegDump.doReg (DevCaps.twoCaps.answeredBy (zeroesThen 80 2)) RegDump.printReg ⟨(), []⟩
        ([⟨'i', some "PTYS".toList⟩] ++ [⟨'P', none⟩])) ∧
    seen (DevCaps.doDevcap (DevCaps.twoCaps.answeredBy (zeroesThen 272 1)) DevCaps.printCap
        ⟨(), []⟩ ([⟨'i', some "DEBUG".toList⟩] ++ [⟨'P', none⟩])) =
      seen (DevCaps.doDevcap (DevCaps.twoCaps.answeredBy (zeroesThen 272 2)) DevCaps.printCap
        ⟨(), []⟩ ([⟨'i', some "DEBUG".toList⟩] ++ [⟨'P', none⟩])) :=
  ⟨(forms_of_hex DevCaps.twoCaps _ _ ⟨(), []⟩ _ (.inr (.inr rfl))).1
      ((ptys_hex 1 (by simp)).trans (ptys_hex 2 (by simp)).symm),
    (forms_of_hex DevCaps.twoCaps _ _ ⟨(), []⟩ _ (.inr (.inr rfl))).2
      ((debug_hex 1 (by simp)).trans (debug_hex 2 (by simp)).symm)⟩

end Mlx5ctl
