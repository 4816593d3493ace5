/-
  The identifiers of the cap, reg and obj commands on the wire.

  Each command narrows the number of `--id` to the field of its request: 15 bits of op_mod for
  a cap type, 16 bits for a register, the width of its id field for an object. No number is
  refused for being too large, so two numbers make the same request exactly when they agree
  modulo that width (`identifiers_modulo`); `cap_aliased` has two that do.
-/
import Mlx5ctl.DevCaps
import Mlx5ctl.RegDump
import Mlx5ctl.QueryObj

namespace Mlx5ctl

open ByteMem CInt CString Ifc

variable {σ : Type} (K : Sys σ)

theorem toInt_mod (n : Nat) {k : Nat} (hk : k ∣ 4294967296) (h : 0 ≤ toInt n) :
    (toInt n).toNat % k = n % k := by
  have hval : ((toInt n).toNat : Int) = n % 4294967296 := by
    unfold toInt at h ⊢
    omega
  have hnat : (toInt n).toNat = n % 4294967296 := by omega
  rw [hnat, Nat.mod_mod_of_dvd _ hk]

/-! ## Cap types -/

/-- A number of `cap --id` is sent modulo 2 ^ 15; one that is negative as an `int` asks for all caps
    that can be printed. -/
theorem cap_number_sent (pretty : DevCaps.Printcap → List u8 → List Line)
    {w v : World (σ × List Rpc)} {opts : List Opt} {id : CStr} {args : DevCaps.CapArgs}
    {block : Mem} {s : σ} (hid : lastId opts = some id) (hnum : DevCaps.getCapType id < 0)
    (hm : K.malloc w.sys.1 QueryHcaCapOut.szBytes = (some block, s))
    (hargs : DevCaps.parseArgs { w with sys := (s, w.sys.2) } opts = .ret args v) :
    requests (DevCaps.doDevcap K.recorded pretty w opts).w = requests w ++
      if 0 ≤ toInt (strtoul id) then [DevCaps.capRequest (strtoul id) args.capMode]
      else DevCaps.sweepRequests args.capMode := by
  obtain ⟨hcap, hmode⟩ := DevCaps.parseArgs_id hargs
  have hval : args.capType = toInt (strtoul id) := by
    rw [hcap, hid]
    exact if_pos hnum
  rw [DevCaps.doDevcap_requests K pretty hm hargs, hval]
  split_ifs with hpos
  · rw [(DevCaps.capRequest_eq_iff _ (strtoul id) hmode hmode).mpr
      ⟨toInt_mod (strtoul id) (by decide) hpos, rfl⟩]
  · rfl

/-! ## Registers -/

/-- A command whose options do not return sends nothing. -/
theorem reg_refused (pretty : RegDump.PrintReg → List u8 → List Line) {w : World (σ × List Rpc)}
    {opts : List Opt} (h : ∀ args v, RegDump.parseArgs w opts ≠ .ret args v) :
    requests (RegDump.doReg K.recorded pretty w opts).w = requests w := by
  have hsys := RegDump.parseArgs_sys w opts
  unfold requests RegDump.doReg
  cases hargs : RegDump.parseArgs w opts with
  | ret args v => exact absurd hargs (h args v)
  | exit code v =>
      rw [hargs] at hsys
      exact congrArg (fun s : σ × List Rpc => s.2.map Rpc.request) hsys
  | segv v =>
      rw [hargs] at hsys
      exact congrArg (fun s : σ × List Rpc => s.2.map Rpc.request) hsys

/-- A number of `reg --id` that is negative as an `int` is refused. -/
theorem reg_negative {w : World (σ × List Rpc)} {opts : List Opt} {id : CStr}
    (hid : lastId opts = some id) (hnum : RegDump.getRegIdFromStr id < 0)
    (hneg : toInt (strtoul id) < 0) (args : RegDump.RegArgs) (v : World (σ × List Rpc)) :
    RegDump.parseArgs w opts ≠ .ret args v := by
  intro h
  obtain ⟨hreg, hpos⟩ := RegDump.parseArgs_id h
  have hval : args.regId = toInt (strtoul id) := by
    rw [hreg, hid]
    exact if_pos hnum
  omega

/-- Any other is sent modulo 2 ^ 16. -/
theorem reg_number_sent (pretty : RegDump.PrintReg → List u8 → List Line)
    {w v : World (σ × List Rpc)} {opts : List Opt} {id : CStr} {args : RegDump.RegArgs}
    {b c : Mem} {s t : σ} (hid : lastId opts = some id) (hnum : RegDump.getRegIdFromStr id < 0)
    (hb : K.malloc w.sys.1 (16 + RegDump.documentBytes) = (some b, s))
    (hc : K.malloc s (16 + RegDump.documentBytes) = (some c, t))
    (hargs : RegDump.parseArgs w opts = .ret args v) :
    ∃ req, requests (RegDump.doReg K.recorded pretty w opts).w = requests w ++ [req] ∧
      Carries (RegDump.regDumpData (BitVec.ofInt 32 args.port)) RegDump.documentBytes
        (BitVec.ofNat 16 (strtoul id)) (toInt (BitVec.ofInt 32 args.argument).toNat) 0 req := by
  obtain ⟨req, hreq, hcarries⟩ := RegDump.doReg_requests K pretty hb hc hargs
  obtain ⟨hreg, hpos⟩ := RegDump.parseArgs_id hargs
  have hval : args.regId = toInt (strtoul id) := by
    rw [hreg, hid]
    exact if_pos hnum
  have hid16 : (BitVec.ofInt 32 args.regId).setWidth 16 = BitVec.ofNat 16 (strtoul id) := by
    apply BitVec.eq_of_toNat_eq
    rw [BitVec.toNat_setWidth, BitVec.toNat_ofInt, BitVec.toNat_ofNat, hval]
    unfold toInt
    omega
  rw [hid16] at hcarries
  exact ⟨req, hreq, hcarries⟩

/-- Two requests for registers are the same when the registers are. -/
theorem Carries.eq_iff {dataIn : Mem} {n : Nat} {r r' : BitVec 16} {arg write : Int}
    {req req' : List u8} (h : Carries dataIn n r arg write req)
    (h' : Carries dataIn n r' arg write req') : req = req' ↔ r = r' := by
  constructor
  · rintro rfl
    have heq := congrArg BitVec.toNat (h.registerId.symm.trans h'.registerId)
    have hr := r.isLt
    have hr' := r'.isLt
    apply BitVec.eq_of_toNat_eq
    rw [BitVec.toNat_setWidth, BitVec.toNat_setWidth] at heq
    omega
  · rintro rfl
    exact h.unique h'

/-! ## All three -/

/-- **Identifiers are sent modulo the width of their field.** For every string of the last `--id`
    that is no name: cap sends op_mod with the number modulo 2 ^ 15 and the mode, or asks for
    all caps where the number is negative as an `int`; reg sends the number modulo 2 ^ 16 as
    the register, or nothing where it is negative as an `int`; obj sends it modulo the widths of
    the fields that name the object. None is refused for being too large: two numbers make the
    same request exactly when they agree modulo that width. -/
theorem identifiers_modulo (capPretty : DevCaps.Printcap → List u8 → List Line)
    (regPretty : RegDump.PrintReg → List u8 → List Line) (w : World (σ × List Rpc))
    {opts : List Opt} {id : CStr} (hid : lastId opts = some id) :
    (∀ block s args v, DevCaps.getCapType id < 0 →
      K.malloc w.sys.1 QueryHcaCapOut.szBytes = (some block, s) →
      DevCaps.parseArgs { w with sys := (s, w.sys.2) } opts = .ret args v →
      requests (DevCaps.doDevcap K.recorded capPretty w opts).w = requests w ++
        (if 0 ≤ toInt (strtoul id) then [DevCaps.capRequest (strtoul id) args.capMode]
        else DevCaps.sweepRequests args.capMode) ∧
      (requestField (DevCaps.capRequest (strtoul id) args.capMode) 0 MboxIn.opMod).toNat =
        2 * (strtoul id % 2 ^ 15) + args.capMode ∧ args.capMode < 2 ∧
      ∀ n m, m < 2 → (DevCaps.capRequest n m = DevCaps.capRequest (strtoul id) args.capMode ↔
        n % 2 ^ 15 = strtoul id % 2 ^ 15 ∧ m = args.capMode)) ∧
    (RegDump.getRegIdFromStr id < 0 → toInt (strtoul id) < 0 →
      requests (RegDump.doReg K.recorded regPretty w opts).w = requests w) ∧
    (∀ b c s t args v, RegDump.getRegIdFromStr id < 0 →
      K.malloc w.sys.1 (16 + RegDump.documentBytes) = (some b, s) →
      K.malloc s (16 + RegDump.documentBytes) = (some c, t) →
      RegDump.parseArgs w opts = .ret args v →
      ∃ req, requests (RegDump.doReg K.recorded regPretty w opts).w = requests w ++ [req] ∧
        (requestField req 0 AccessRegisterIn.registerId).toNat = strtoul id % 2 ^ 16 ∧
        ∀ n req', Carries (RegDump.regDumpData (BitVec.ofInt 32 args.port)) RegDump.documentBytes
          (BitVec.ofNat 16 n) (toInt (BitVec.ofInt 32 args.argument).toNat) 0 req' →
          (req' = req ↔ n % 2 ^ 16 = strtoul id % 2 ^ 16)) ∧
    (∀ block args v, ∀ e ∈ QueryObj.queryFuncs,
      (K.malloc w.sys.1 e.objFunc.outSz).1 = some block →
      QueryObj.parseArgs w (some e.objName.toList) opts = .ret args v →
      ∃ req, requests (QueryObj.queryObj K.recorded w (some e.objName.toList) opts).w =
          requests w ++ [req] ∧
        (∀ fv ∈ QueryObj.objectFields e.objName (strtoul id % 2 ^ 32),
          (requestField req 0 fv.1).toNat = fv.2) ∧
        ∀ n, e.objFunc.request (BitVec.ofNat 32 n) args.opMod = req ↔
          QueryObj.objectFields e.objName (n % 2 ^ 32) =
            QueryObj.objectFields e.objName (strtoul id % 2 ^ 32)) := by
  refine ⟨?_, ?_, ?_, ?_⟩
  · intro block s args v hnum hm hargs
    have hmode := (DevCaps.parseArgs_id hargs).2
    exact ⟨cap_number_sent K capPretty hid hnum hm hargs,
      (DevCaps.capRequest_decodes (strtoul id) hmode).2, hmode,
      fun n m hm => DevCaps.capRequest_eq_iff n (strtoul id) hm hmode⟩
  · intro hnum hneg
    exact reg_refused K regPretty (reg_negative hid hnum hneg)
  · intro b c s t args v hnum hb hc hargs
    obtain ⟨req, hreq, hcarries⟩ := reg_number_sent K regPretty hid hnum hb hc hargs
    refine ⟨req, hreq, ?_, fun n req' h' => ?_⟩
    · rw [hcarries.registerId, BitVec.toNat_setWidth, BitVec.toNat_ofNat]
      omega
    · rw [h'.eq_iff hcarries, ← BitVec.toNat_inj, BitVec.toNat_ofNat, BitVec.toNat_ofNat]
  · intro block args v e he hm hargs
    have hval : args.objId = BitVec.ofNat 32 (strtoul id) := by
      rw [QueryObj.parseArgs_id hargs, hid]
      rfl
    have hreq := QueryObj.queryObj_requests K he hargs hm
    rw [hval] at hreq
    refine ⟨_, hreq, ?_, fun n => ?_⟩
    · have hobject := QueryObj.request_object he (BitVec.ofNat 32 (strtoul id)) args.opMod
      rwa [BitVec.toNat_ofNat] at hobject
    · have hiff := QueryObj.request_eq_iff he (BitVec.ofNat 32 n)
        (BitVec.ofNat 32 (strtoul id)) args.opMod
      rwa [BitVec.toNat_ofNat, BitVec.toNat_ofNat] at hiff

theorem capId_32768 : DevCaps.capId "32768".toList = 32768 := by
  have hname : DevCaps.getCapType "32768".toList < 0 := by decide
  have hnumber : strtoul "32768".toList = 32768 := by decide
  unfold DevCaps.capId
  rw [if_pos hname, hnumber]
  decide

theorem capArgs_id (s : CStr) : DevCaps.parseArgs QueryObj.fresh [⟨'i', some s⟩] =
    .ret ⟨DevCaps.capId s, 1, 'H'⟩ QueryObj.fresh := rfl

/-- `cap --id=32768` sends op_mod 1, which is cap type 0 in mode cur; `obj cq --id=32768` sends
    that cqn. -/
theorem identifiers_32768 :
    requests (DevCaps.doDevcap QueryObj.accepting.recorded (fun _ _ => []) QueryObj.fresh
        [⟨'i', some "32768".toList⟩]).w = [DevCaps.capRequest 32768 1] ∧
    (requestField (DevCaps.capRequest 32768 1) 0 MboxIn.opMod).toNat = 1 ∧
    ∃ req, requests (QueryObj.queryObj QueryObj.accepting.recorded QueryObj.fresh
        (some "cq".toList) [⟨'i', some "32768".toList⟩]).w = [req] ∧
      ∀ fv ∈ QueryObj.objectFields "cq" 32768, (requestField req 0 fv.1).toNat = fv.2 := by
  have hnumber : strtoul "32768".toList = 32768 := by decide
  obtain ⟨hcap, -, -, hobj⟩ := identifiers_modulo QueryObj.accepting (fun _ _ => [])
    (fun _ _ => []) QueryObj.fresh
    (rfl : lastId [⟨'i', some "32768".toList⟩] = some "32768".toList)
  have hcap := hcap zeroMem 0 _ _ (by decide) (scripted_malloc _ 0 (by decide)) (capArgs_id _)
  have hmem : (⟨"cq", QueryObj.queryCq, "--id=cqn"⟩ : QueryObj.ObjNameFunc) ∈
      QueryObj.queryFuncs := List.mem_of_getElem? (i := 1) rfl
  obtain ⟨req, hreq, hfields, -⟩ := hobj zeroMem ⟨BitVec.ofNat 32 (strtoul "32768".toList), 0,
    false⟩ QueryObj.fresh _ hmem (QueryObj.accepting_malloc _ (by decide)) rfl
  rw [hnumber] at hcap hfields
  rw [if_pos (by decide)] at hcap
  exact ⟨hcap.1, hcap.2.1, req, hreq, hfields⟩

/-- `cap --id=32768` and `cap --id=0` make one request. -/
theorem cap_aliased :
    requests (DevCaps.doDevcap QueryObj.accepting.recorded (fun _ _ => []) QueryObj.fresh
        [⟨'i', some "32768".toList⟩]).w = [DevCaps.capRequest 0 1] ∧
    requests (DevCaps.doDevcap QueryObj.accepting.recorded (fun _ _ => []) QueryObj.fresh
        [⟨'i', some "0".toList⟩]).w = [DevCaps.capRequest 0 1] := by
  have hm := scripted_malloc (fun _ => (0, [])) 0 (n := QueryHcaCapOut.szBytes) (by decide)
  have hwide := DevCaps.doDevcap_requests QueryObj.accepting (fun _ _ => [])
    (w := QueryObj.fresh) hm (capArgs_id "32768".toList)
  have hzero := DevCaps.doDevcap_requests QueryObj.accepting (fun _ _ => [])
    (w := QueryObj.fresh) hm (capArgs_id "0".toList)
  have hsame : DevCaps.capRequest 32768 1 = DevCaps.capRequest 0 1 :=
    (DevCaps.capRequest_eq_iff 32768 0 Nat.one_lt_two Nat.one_lt_two).mpr ⟨rfl, rfl⟩
  have hid : DevCaps.capId "0".toList = 0 := by decide
  rw [capId_32768, if_pos (by decide)] at hwide
  rw [hid, if_pos (by decide)] at hzero
  exact ⟨hwide.trans (congrArg (fun r => [r]) hsame), hzero⟩

end Mlx5ctl
