/-
  devcaps.c and reg.c: `--id` as a name or a number.

  That a string is no name is told in band: by a -1 that `get_cap_type` returns as a plain `char`,
  and by the text that `reg2str` has for a register that is not in its table. The first is lost
  where plain `char` is unsigned, and the second is a string too (`resolution_exact_iff`).
-/
import Mlx5ctl.DevCaps
import Mlx5ctl.RegDump

namespace Mlx5ctl

open CInt CString

section Resolves

variable {α : Type} (l : List α) (name : α → String) (value : α → Nat)

/-- What `--id=s` is meant to stand for: the value of the entry it names, or its number. -/
structure Resolves (s : CStr) (id : Int) : Prop where
  named : ∀ e ∈ l, (name e).toList = s → id = value e
  number : (∀ e ∈ l, (name e).toList ≠ s) → id = toInt (strtoul s)

variable {l name value}

theorem resolves_name_iff (hd : (l.map name).Nodup) {e : α} (he : e ∈ l) (id : Int) :
    Resolves l name value (name e).toList id ↔ id = value e := by
  constructor
  · intro h
    exact h.named e he rfl
  · intro h
    refine ⟨fun d hd' hname => ?_, fun hno => absurd rfl (hno e he)⟩
    rw [h, List.inj_on_of_nodup_map hd hd' he (String.toList_inj.mp hname)]

theorem resolves_other_iff {s : CStr} (h : ∀ e ∈ l, (name e).toList ≠ s) (id : Int) :
    Resolves l name value s id ↔ id = toInt (strtoul s) := by
  constructor
  · intro hid
    exact hid.number h
  · intro hid
    exact ⟨fun e he hname => absurd hname (h e he), fun _ => hid⟩

end Resolves

/-! ## cap -/

namespace DevCaps

theorem caps_names_nodup : (caps.map CapInfo.name).Nodup := by simp [caps]

/-- `get_cap_type(name)`, where plain `char` is signed or not. -/
def getCapTypeOn (signed : Bool) (name : CStr) : Int :=
  match caps.find? fun c => c.name.toList = name with
  | some c => toPlainChar signed c.type
  | none => toPlainChar signed (-1)

/-- The cap type that `--id=s` stands for, where plain `char` is signed or not. -/
def capIdOn (signed : Bool) (s : CStr) : Int :=
  if getCapTypeOn signed s < 0 then toInt (strtoul s) else getCapTypeOn signed s

theorem capIdOn_true (s : CStr) : capIdOn true s = capId s := rfl

theorem getCapTypeOn_name (signed : Bool) {c : CapInfo} (hc : c ∈ caps) :
    getCapTypeOn signed c.name.toList = c.type := by
  have hsmall : ∀ c ∈ caps, c.type < 128 := by decide
  have hlt := hsmall c hc
  have hfind : (caps.find? fun d => d.name.toList = c.name.toList) = some c := by
    simpa only [String.toList_inj] using Table.find?_of_nodup caps_names_nodup hc
  unfold getCapTypeOn
  rw [hfind]
  exact toPlainChar_of_fits signed (by omega) (by omega)

theorem getCapTypeOn_other (signed : Bool) {s : CStr} (h : ∀ c ∈ caps, c.name.toList ≠ s) :
    getCapTypeOn signed s = if signed then -1 else 255 := by
  have hnone : (caps.find? fun c => c.name.toList = s) = none := by simpa using h
  unfold getCapTypeOn
  rw [hnone]
  cases signed <;> rfl

/-- A name stands for its type. -/
theorem capIdOn_name (signed : Bool) {c : CapInfo} (hc : c ∈ caps) :
    capIdOn signed c.name.toList = c.type := by
  unfold capIdOn
  rw [getCapTypeOn_name signed hc, if_neg (by omega)]

/-- Any other string stands for its number, or for 255 where plain `char` is unsigned. -/
theorem capIdOn_other (signed : Bool) {s : CStr} (h : ∀ c ∈ caps, c.name.toList ≠ s) :
    capIdOn signed s = if signed then toInt (strtoul s) else 255 := by
  unfold capIdOn
  rw [getCapTypeOn_other signed h]
  cases signed <;> rfl

/-- cap resolves a string as it is meant to exactly when plain `char` is signed, or the string is a
    name, or its number is 255. -/
theorem capIdOn_resolves_iff (signed : Bool) (s : CStr) :
    Resolves caps CapInfo.name CapInfo.type s (capIdOn signed s) ↔
      signed ∨ (∃ c ∈ caps, c.name.toList = s) ∨ toInt (strtoul s) = 255 := by
  by_cases hname : ∃ c ∈ caps, c.name.toList = s
  · obtain ⟨c, hc, rfl⟩ := hname
    rw [resolves_name_iff caps_names_nodup hc, capIdOn_name signed hc]
    exact iff_of_true rfl (.inr (.inl ⟨c, hc, rfl⟩))
  · have hno : ∀ c ∈ caps, c.name.toList ≠ s := by simpa using hname
    rw [resolves_other_iff hno, capIdOn_other signed hno]
    simp only [hname, false_or]
    cases signed <;> simp [eq_comm]

/-- The signedness of plain `char` makes no difference to a name, and to 255. -/
theorem capIdOn_eq_iff (s : CStr) :
    capIdOn true s = capIdOn false s ↔
      (∃ c ∈ caps, c.name.toList = s) ∨ toInt (strtoul s) = 255 := by
  by_cases hname : ∃ c ∈ caps, c.name.toList = s
  · obtain ⟨c, hc, rfl⟩ := hname
    rw [capIdOn_name true hc, capIdOn_name false hc]
    exact iff_of_true rfl (.inl ⟨c, hc, rfl⟩)
  · have hno : ∀ c ∈ caps, c.name.toList ≠ s := by simpa using hname
    rw [capIdOn_other true hno, capIdOn_other false hno]
    simp only [hname, false_or]
    simp

end DevCaps

/-! ## reg -/

namespace RegDump

/-- What `reg2str` returns for a register that is not in the table. -/
def unknownStr : String := "UNKNOWN_REG_STR"

theorem regs_ids_nodup : (regs.map RegInfo.regId).Nodup := by decide

theorem regs_names_nodup : (unknownStr :: regs.map RegInfo.str).Nodup := by
  simp [regs, unknownStr]

theorem name_ne_unknown {r : RegInfo} (hr : r ∈ regs) : r.str.toList ≠ unknownStr.toList := by
  intro h
  have hmem : r.str ∈ regs.map RegInfo.str := List.mem_map_of_mem hr
  rw [String.toList_inj.mp h] at hmem
  exact (List.nodup_cons.mp regs_names_nodup).1 hmem

/-- The scan covers the registers of the table. -/
theorem regs_ids_range :
    ∀ r ∈ regs, MLX5_REG_IDS_FIRST ≤ r.regId ∧ r.regId < MLX5_REG_LAST_ENUM := by
  decide

theorem reg2str_eq_read (regId : Nat) :
    reg2str regId = Table.read RegInfo.regId RegInfo.str unknownStr regs regId := rfl

theorem reg2str_name {r : RegInfo} (hr : r ∈ regs) : reg2str r.regId = r.str := by
  rw [reg2str_eq_read, Table.read_of_mem regs_ids_nodup hr]

/-- A name is that of its register only. -/
theorem reg2str_eq_iff {r : RegInfo} (hr : r ∈ regs) (i : Nat) :
    reg2str i = r.str ↔ i = r.regId := by
  rw [reg2str_eq_read, Table.read_eq_iff regs_ids_nodup regs_names_nodup hr]

theorem reg2str_cases (i : Nat) : reg2str i = unknownStr ∨ ∃ r ∈ regs, reg2str i = r.str := by
  have hread : Table.read RegInfo.regId RegInfo.str unknownStr regs i ∈
      unknownStr :: regs.map RegInfo.str := Table.read_mem regs i
  rw [← reg2str_eq_read, List.mem_cons, List.mem_map] at hread
  rcases hread with hread | ⟨r, hr, hread⟩
  · exact .inl hread
  · exact .inr ⟨r, hr, hread.symm⟩

/-- The scan stops at the first register whose name is the string. -/
theorem getRegIdFromStr_of_first {s : String} {i : Nat} (hs : reg2str i = s)
    (hfirst : MLX5_REG_IDS_FIRST ≤ i) (hlast : i ≤ MLX5_REG_LAST_ENUM)
    (hbefore : ∀ j, MLX5_REG_IDS_FIRST ≤ j → j < i → reg2str j ≠ s) :
    getRegIdFromStr s.toList = i := by
  have hfind : (List.range' MLX5_REG_IDS_FIRST
      (MLX5_REG_LAST_ENUM + 1 - MLX5_REG_IDS_FIRST)).find?
        (fun i => (reg2str i).toList = s.toList) = some i := by
    simp only [String.toList_inj]
    rw [List.find?_range'_eq_some, List.mem_range'_1]
    refine ⟨by simpa using hs, ⟨hfirst, by omega⟩, ?_⟩
    intro j hj hlt
    simpa using hbefore j hj hlt
  unfold getRegIdFromStr
  rw [hfind]

/-- A name is found at its register. -/
theorem getRegIdFromStr_name {r : RegInfo} (hr : r ∈ regs) :
    getRegIdFromStr r.str.toList = r.regId := by
  obtain ⟨hfirst, hlast⟩ := regs_ids_range r hr
  refine getRegIdFromStr_of_first ((reg2str_eq_iff hr r.regId).mpr rfl) hfirst (by omega) ?_
  intro j _ hj
  rw [Ne, reg2str_eq_iff hr]
  omega

/-- The text for an unknown register is found at the first one that is unknown. -/
theorem getRegIdFromStr_unknown : getRegIdFromStr unknownStr.toList = (0x4003 : Nat) := by
  refine getRegIdFromStr_of_first rfl (by decide) (by decide) ?_
  intro j hj hlt
  have hfirst : j = 0x4002 := by
    unfold MLX5_REG_IDS_FIRST at hj
    omega
  rw [hfirst, show reg2str 0x4002 = "QPTS" from rfl]
  simp [unknownStr]

/-- Any other string is found nowhere. -/
theorem getRegIdFromStr_other {s : CStr} (h : ∀ r ∈ regs, r.str.toList ≠ s)
    (hs : s ≠ unknownStr.toList) : getRegIdFromStr s = -1 := by
  have hfind : (List.range' MLX5_REG_IDS_FIRST
      (MLX5_REG_LAST_ENUM + 1 - MLX5_REG_IDS_FIRST)).find?
        (fun i => (reg2str i).toList = s) = none := by
    rw [List.find?_range'_eq_none]
    intro i _ _
    rcases reg2str_cases i with hread | ⟨r, hr, hread⟩
    · simp [hread, hs.symm]
    · simp [hread, h r hr]
  unfold getRegIdFromStr
  rw [hfind]

theorem regIdOf_unknown : regIdOf unknownStr.toList = (0x4003 : Nat) := by
  unfold regIdOf
  rw [getRegIdFromStr_unknown, if_neg (by omega)]

theorem strtoul_unknown : toInt (strtoul unknownStr.toList) = 0 := by
  have hchars : unknownStr.toList =
      ['U', 'N', 'K', 'N', 'O', 'W', 'N', '_', 'R', 'E', 'G', '_', 'S', 'T', 'R'] := by
    simp [unknownStr]
  rw [hchars]
  decide

/-- reg resolves a string as it is meant to, and has its name back, exactly when the string is not
    the text for an unknown register. -/
theorem regIdOf_resolves_iff (s : CStr) :
    (Resolves regs RegInfo.str RegInfo.regId s (regIdOf s) ∧
      ∀ r ∈ regs, r.str.toList = s → reg2str (regIdOf s).toNat = r.str) ↔
      s ≠ unknownStr.toList := by
  by_cases hname : ∃ r ∈ regs, r.str.toList = s
  · obtain ⟨r, hr, rfl⟩ := hname
    have hid : regIdOf r.str.toList = r.regId := by
      unfold regIdOf
      rw [getRegIdFromStr_name hr, if_neg (by omega)]
    refine iff_of_true ⟨?_, fun d hd hdr => ?_⟩ (name_ne_unknown hr)
    · rw [resolves_name_iff (List.nodup_cons.mp regs_names_nodup).2 hr, hid]
    · rw [hid, Int.toNat_natCast, reg2str_name hr]
      exact (String.toList_inj.mp hdr).symm
  · have hno : ∀ r ∈ regs, r.str.toList ≠ s := by simpa using hname
    rw [resolves_other_iff hno]
    by_cases hs : s = unknownStr.toList
    · have hnumber : toInt (strtoul unknownStr.toList) = 0 := strtoul_unknown
      subst hs
      refine iff_of_false (fun h => ?_) (fun h => h rfl)
      have hzero := regIdOf_unknown.symm.trans (h.1.trans hnumber)
      omega
    · have hid : regIdOf s = toInt (strtoul s) := by
        unfold regIdOf
        rw [getRegIdFromStr_other hno hs, if_pos (by decide)]
      exact iff_of_true ⟨hid, fun r hr hrs => absurd hrs (hno r hr)⟩ hs

end RegDump

/-! ## Both -/

/-- **Names and numbers.** cap resolves a string as it is meant to exactly when plain `char` is
    signed, or the string is a name, or its number is 255, and in the last two cases only is the
    result the same on every machine. reg does, and has its name back, exactly when the string is
    not the text for an unknown register. -/
theorem resolution_exact_iff (signed : Bool) (s : CStr) :
    (Resolves DevCaps.caps DevCaps.CapInfo.name DevCaps.CapInfo.type s
        (DevCaps.capIdOn signed s) ↔
      signed ∨ (∃ c ∈ DevCaps.caps, c.name.toList = s) ∨ toInt (strtoul s) = 255) ∧
    (DevCaps.capIdOn true s = DevCaps.capIdOn false s ↔
      (∃ c ∈ DevCaps.caps, c.name.toList = s) ∨ toInt (strtoul s) = 255) ∧
    (Resolves RegDump.regs RegDump.RegInfo.str RegDump.RegInfo.regId s (RegDump.regIdOf s) ∧
        (∀ r ∈ RegDump.regs, r.str.toList = s →
          RegDump.reg2str (RegDump.regIdOf s).toNat = r.str) ↔
      s ≠ RegDump.unknownStr.toList) :=
  ⟨DevCaps.capIdOn_resolves_iff signed s, DevCaps.capIdOn_eq_iff s, RegDump.regIdOf_resolves_iff s⟩

/-- `cap --id=5` asks for cap type 255 where plain `char` is unsigned, and
    `reg --id=UNKNOWN_REG_STR` reads register 0x4003. -/
theorem mistaken_for_names :
    DevCaps.capIdOn false "5".toList = 255 ∧ DevCaps.capIdOn true "5".toList = 5 ∧
    ¬ Resolves DevCaps.caps DevCaps.CapInfo.name DevCaps.CapInfo.type "5".toList 255 ∧
    RegDump.regIdOf "UNKNOWN_REG_STR".toList = (0x4003 : Nat) ∧
    ¬ Resolves RegDump.regs RegDump.RegInfo.str RegDump.RegInfo.regId
      "UNKNOWN_REG_STR".toList (0x4003 : Nat) := by
  have hcap : ∀ c ∈ DevCaps.caps, c.name.toList ≠ "5".toList := by simp [DevCaps.caps]
  have hreg : ∀ r ∈ RegDump.regs, r.str.toList ≠ "UNKNOWN_REG_STR".toList :=
    fun r hr => RegDump.name_ne_unknown hr
  have hfive : toInt (strtoul "5".toList) = 5 := by decide
  have hzero : toInt (strtoul "UNKNOWN_REG_STR".toList) = 0 := RegDump.strtoul_unknown
  refine ⟨DevCaps.capIdOn_other false hcap, ?_, ?_, RegDump.regIdOf_unknown, ?_⟩
  · exact (DevCaps.capIdOn_other true hcap).trans hfive
  · rw [resolves_other_iff hcap, hfive]
    decide
  · rw [resolves_other_iff hreg, hzero]
    decide

end Mlx5ctl
