/-
  rscdump.c and mlx5lib.c: the size of a umem, from `--umem=` to the dump request.

  The number of kilobytes is multiplied as an `int`, converted to `size_t`, rounded up to pages,
  programmed into the key as a `u32` and kept in `remain` as an `int` again. `umemLen` is the
  length an entry of the journal gives the umem; `UmemExact` says that all of them, `remain` and
  the size field of every request are one number.
-/
import Mlx5ctl.RscDump.SetupEvents
import Mlx5ctl.RscDump.Options
import Mlx5ctl.Lib.Align

namespace Mlx5ctl.RscDump

open Align ByteMem CInt CString Ifc Turn

variable {σ : Type} (K : UmemSys σ)

/-! ## The lengths in a journal -/

/-- The length that an entry of the journal gives a umem. -/
def umemLen : Event → Option Nat
  | .memalign n _ => some n
  | .umemReg _ len _ => some len
  | .rpc r => if opcodeOf r.request = MLX5_CMD_OP_CREATE_MKEY then some (keyLen r.request) else none
  | .malloc _ _ => none
  | .realloc _ _ => none
  | .umemUnreg _ => none

/-- Every length in an entry is `S`. -/
def Sized (S : Nat) (e : Event) : Prop := ∀ n, umemLen e = some n → n = S

theorem sized_of_none {S : Nat} {e : Event} (h : umemLen e = none) : Sized S e := fun n hn => by
  rw [h] at hn
  cases hn

theorem sized_of_some {S : Nat} {e : Event} (h : umemLen e = some S) : Sized S e := fun n hn => by
  rw [h] at hn
  exact (Option.some.inj hn).symm

/-- In a setup with a umem of `S` bytes, every length is `S`, where that is a `u32`. -/
theorem umemKind_sized {S : Nat} (hS : S < 4294967296) : UmemKind (Sized S) S where
  malloc _ _ := sized_of_none rfl
  memalign _ := sized_of_some rfl
  umemReg _ _ := sized_of_some rfl
  umemUnreg _ := sized_of_none rfl
  mkey r hopcode hlen := by
    refine sized_of_some ?_
    unfold umemLen
    dsimp only
    rw [if_pos hopcode, hlen, Nat.mod_eq_of_lt hS]
  other r hopcode := by
    refine sized_of_none ?_
    have hne : opcodeOf r.request ≠ MLX5_CMD_OP_CREATE_MKEY := by
      intro heq
      rw [heq] at hopcode
      exact absurd hopcode (by decide)
    unfold umemLen
    dsimp only
    rw [if_neg hne]

/-- The buffer has the rounded size. -/
theorem allocUmemMkeyBuff_size {L : UmemSys σ} {w v : World σ} {size : Nat} {pdn : u32}
    {b : UmemBuff} (h : mlx5libAllocUmemMkeyBuff L w size pdn = (some b, v)) :
    b.size = align size UMEM_PAGE_SIZE := by
  unfold mlx5libAllocUmemMkeyBuff at h
  dsimp only at h
  split at h
  · cases h
  · split at h
    · cases h
    · split_ifs at h <;> cases h
      rfl

/-- A setup that is ready has a buffer of the rounded size, if one is asked for. -/
theorem setupUmem_ready {L : UmemSys σ} {u v : World σ} {args : Args} {b : Option UmemBuff}
    {pdn : u32} (h : setupUmem L u args = .ready b pdn v) :
    if args.umem = 0 then b = none
    else ∃ umem, b = some umem ∧ umem.size = align (umemBuffSize args) UMEM_PAGE_SIZE := by
  unfold setupUmem at h
  dsimp only at h
  by_cases hask : args.umem = 0
  · rw [if_neg (not_not.mpr hask)] at h
    cases h
    rw [if_pos hask]
  · rw [if_pos hask] at h
    rw [if_neg hask]
    cases hb : mlx5libAllocUmemMkeyBuff L (mlx5libAllocPd L u 0 0).w
        (toSize (toInt (args.umem * 1024))) (mlx5libAllocPd L u 0 0).pdn with
    | mk umem w =>
        rw [hb] at h
        split_ifs at h
        cases umem with
        | none => cases h
        | some umem =>
            cases h
            exact ⟨umem, rfl, allocUmemMkeyBuff_size hb⟩

/-! ## The dump -/

/-- The next request asks for the same size. -/
theorem size_nextRequest (inb out : Mem) :
    mlx5Get (nextRequest inb out) 0 ResourceDump.size = mlx5Get inb 0 ResourceDump.size := by
  have hoff : 8 * 0 + ResourceDump.size.off = 288 := rfl
  refine mlx5Get_congr fun i hi _ => (bit_nextRequest inb out i).2 fun hcopied => ?_
  have := copied_lt hcopied
  omega

/-- Every request of a dump into a umem has the size of the first. -/
theorem size_requests {L : Sys σ} {w : World σ} {args : Args} {umem : UmemBuff} {n : Nat}
    {c : CollectUmem σ} (h : rscdumpCollectUmem L w args umem n = .again c) :
    mlx5Get c.inb 0 ResourceDump.size =
      mlx5Get (umemRequest args umem) 0 ResourceDump.size := by
  unfold rscdumpCollectUmem at h
  obtain ⟨c₀, hstart, hrun⟩ := bind_eq_again h
  refine run_again_invariant (P := fun c : CollectUmem σ => mlx5Get c.inb 0 ResourceDump.size =
    mlx5Get (umemRequest args umem) 0 ResourceDump.size) ?_ (fun c c' hc hturn => ?_) hrun
  · rw [collectUmemStart_inb L hstart]
  · obtain ⟨-, -, hin, -⟩ := collectUmemTurn_again L hturn
    rw [hin, size_nextRequest, hc]

theorem umemRequest_size (args : Args) (umem : UmemBuff) :
    (mlx5Get (umemRequest args umem) 0 ResourceDump.size).toNat =
      (BitVec.ofInt 32 (toInt umem.size)).toNat := by
  unfold umemRequest
  dsimp only
  rw [mlx5Get_set_self]
  exact Nat.mod_eq_of_lt (BitVec.isLt _)

theorem coreDumpIn_size (umem : UmemBuff) :
    (mlx5Get (coreDumpIn umem) 0 CoreDumpReg.size).toNat = umem.size % 4294967296 := by
  unfold coreDumpIn
  dsimp only
  rw [mlx5Get_set_ne _ _ _ _ _ (by decide), mlx5Get_set_self, BitVec.toNat_ofNat]
  exact Nat.mod_mod_of_dvd _ (dvd_refl _)

theorem collectUmemStart_remain {L : Sys σ} {w : World σ} {args : Args} {umem : UmemBuff}
    {c : CollectUmem σ} (h : collectUmemStart L w args umem = .again c) :
    c.remain = toInt umem.size := by
  unfold collectUmemStart at h
  dsimp only at h
  split at h
  · cases h
  · cases h
    rfl

/-- The size in the dump: `remain` when the loop starts and the size field of every request, or
    that of a core dump. -/
def DumpSized (v : World (σ × List Event)) (cmd : CStr) (args : Args) (umem : UmemBuff)
    (S : Nat) : Prop :=
  if cmd = "coredump".toList then (mlx5Get (coreDumpIn umem) 0 CoreDumpReg.size).toNat = S
  else (∀ c, collectUmemStart K.traced.toSys v args umem = .again c → c.remain = S) ∧
    ∀ n c, rscdumpCollectUmem K.traced.toSys v args umem n = .again c →
      (mlx5Get c.inb 0 ResourceDump.size).toNat = S

/-- From its setup in `u` on, the command uses a umem of `S` bytes: it is allocated, registered and
    put under a key with this length, and dumped into with this length. -/
structure UmemExact (u : World (σ × List Event)) (cmd : CStr) (args : Args) (S : Nat) : Prop where
  lens : Adds (Sized S) u (setupUmem K.traced u args).w
  buff : ∀ b pdn v, setupUmem K.traced u args = .ready b pdn v →
    ∃ umem, b = some umem ∧ umem.size = S ∧ DumpSized K v cmd args umem S

/-- The command gets to its dump. -/
def GetsToDump (u : World (σ × List Event)) (cmd : CStr) (args : Args) : Prop :=
  ∃ b pdn v, setupUmem K.traced u args = .ready b pdn v ∧
    (cmd ≠ "coredump".toList → ∀ umem, b = some umem →
      ∃ c, collectUmemStart K.traced.toSys v args umem = .again c)

/-- The kilobytes up to which the sizes are right: for a dump of resources, the rounded size is an
    `int`; for a core dump, the size is one before it is rounded. -/
def umemLimit (cmd : CStr) : Int := if cmd = "coredump".toList then 2097151 else 2097148

theorem align_page (n : Nat) :
    align n UMEM_PAGE_SIZE = (n + 4095) % 18446744073709551616 / 4096 * 4096 :=
  toNat_align (w := 64) (k := 12) (by decide) n

/-- The size the command is asked for, in pages. -/
def umemPages (s : CStr) : Nat := roundUp UMEM_PAGE_SIZE (1024 * (integer s).toNat)

theorem umemPages_eq (s : CStr) :
    umemPages s = (1024 * (integer s).toNat + 4095) / 4096 * 4096 := rfl

/-- Up to 2 ^ 31 bytes before rounding, every size is exact. -/
theorem align_umemBuffSize {s : CStr} {args : Args} (hargs : args.umem = atoi s)
    (hpos : 0 < integer s) (hle : integer s ≤ 2097151) :
    args.umem = integer s ∧ align (umemBuffSize args) UMEM_PAGE_SIZE = umemPages s := by
  have hatoi := atoi_of_fits (s := s) (by omega) (by omega)
  have hint : toInt (integer s * 1024) = integer s * 1024 :=
    toInt_of_fits (by omega) (by omega)
  refine ⟨hargs.trans hatoi, ?_⟩
  unfold umemBuffSize
  rw [align_page, umemPages_eq, hargs, hatoi, hint]
  unfold toSize
  omega

theorem umemExact_of_le {s : CStr} {args : Args} (hargs : args.umem = atoi s)
    (hpos : 0 < integer s) {cmd : CStr} (hle : integer s ≤ umemLimit cmd)
    (u : World (σ × List Event)) : UmemExact K u cmd args (umemPages s) := by
  have hlimit : integer s ≤ 2097151 ∧ (cmd ≠ "coredump".toList → integer s ≤ 2097148) := by
    unfold umemLimit at hle
    split_ifs at hle with hcmd
    · exact ⟨hle, fun h => absurd hcmd h⟩
    · exact ⟨by omega, fun _ => hle⟩
  obtain ⟨humem, halign⟩ := align_umemBuffSize hargs hpos hlimit.1
  have hpages := umemPages_eq s
  constructor
  · rw [← halign]
    exact setupUmem_adds K u (umemKind_sized (by omega))
  · intro b pdn v h
    have hready := setupUmem_ready h
    rw [if_neg (by omega), halign] at hready
    obtain ⟨umem, rfl, hsize⟩ := hready
    refine ⟨umem, rfl, hsize, ?_⟩
    unfold DumpSized
    split_ifs with hcmd
    · rw [coreDumpIn_size, hsize]
      omega
    · have hfits := hlimit.2 hcmd
      have hint : toInt (umemPages s) = umemPages s := toInt_of_fits (by omega) (by omega)
      refine ⟨fun c hc => ?_, fun n c hc => ?_⟩
      · rw [collectUmemStart_remain hc, hsize, hint]
      · rw [size_requests hc, umemRequest_size, hsize, hint, BitVec.toNat_ofInt]
        omega

/-- A command that gets to its dump with the right sizes stays below the limit. -/
theorem UmemExact.le {s : CStr} {args : Args} (hargs : args.umem = atoi s)
    (hpos : 0 < integer s) {cmd : CStr} {u : World (σ × List Event)}
    (hdump : GetsToDump K u cmd args) (h : UmemExact K u cmd args (umemPages s)) :
    integer s ≤ umemLimit cmd := by
  obtain ⟨b, pdn, v, hready, hstart⟩ := hdump
  obtain ⟨umem, rfl, hsize, hsized⟩ := h.buff b pdn v hready
  have hpages := umemPages_eq s
  unfold DumpSized at hsized
  unfold umemLimit
  split_ifs at hsized ⊢ with hcmd
  · -- the size is a `u32`, so the number was read as it is
    rw [coreDumpIn_size, hsize] at hsized
    have hatoi := atoi_of_fits (s := s) (by omega) (by omega)
    by_contra hgt
    have hsetup := setupUmem_ready hready
    rw [if_neg (by omega)] at hsetup
    obtain ⟨_, hb, hsame⟩ := hsetup
    cases hb
    rw [hsize, align_page] at hsame
    unfold umemBuffSize toSize toInt at hsame
    rw [hargs, hatoi] at hsame
    omega
  · obtain ⟨c, hc⟩ := hstart hcmd umem rfl
    have hremain := hsized.1 c hc
    rw [collectUmemStart_remain hc, hsize] at hremain
    have hint : toInt (umemPages s) < 2147483648 := by
      unfold toInt
      omega
    omega

/-- **The size of a umem.** For `--umem=N` with a positive number `N`, the memory that is allocated
    and registered, its key, and the dump requests have the least multiple of the page size that
    holds `N` kilobytes, where `N` is within the limit; a command that gets to its dump has these
    sizes exactly then. -/
theorem umem_exact_iff {w v : World (σ × List Event)} {argv : List CStr} {args : Args} {s : CStr}
    (hargs : parseArgs w argv = .ret args v)
    (hs : (optionValues "--umem=" argv.tail).getLast? = some s) (hpos : 0 < integer s)
    (u : World (σ × List Event)) :
    ∃ S, IsLeast {m | UMEM_PAGE_SIZE ∣ m ∧ 1024 * (integer s).toNat ≤ m} S ∧
      (integer s ≤ umemLimit (argv.headD []) →
        UmemExact K u (argv.headD []) args.withType S) ∧
      (GetsToDump K u (argv.headD []) args.withType →
        (UmemExact K u (argv.headD []) args.withType S ↔
          integer s ≤ umemLimit (argv.headD []))) := by
  have humem : args.withType.umem = atoi s := by
    have hfields := (parseArgs_fields hargs).1.umem
    unfold lastOf at hfields
    rw [List.getLast?_map, hs] at hfields
    unfold Args.withType
    split_ifs <;> exact hfields
  have hexact : integer s ≤ umemLimit (argv.headD []) →
      UmemExact K u (argv.headD []) args.withType (umemPages s) :=
    fun hle => umemExact_of_le K humem hpos hle u
  exact ⟨umemPages s, roundUp_isLeast (by decide) _, hexact,
    fun hdump => ⟨fun h => h.le K humem hpos hdump, hexact⟩⟩

/-- `rscdump --umem=2000` -/
theorem umem_2000 : ∃ S, IsLeast {m | UMEM_PAGE_SIZE ∣ m ∧ 1024 * 2000 ≤ m} S ∧
    UmemExact granting ⟨(0, []), []⟩ "rscdump".toList ⟨2000, 65535, 0, 0, 0⟩ S := by
  have hargs : parseArgs (⟨(0, []), []⟩ : World (Nat × List Event))
      ["rscdump".toList, "--umem=2000".toList] =
        .ret ⟨atoi "2000".toList, -1, 0, 0, 0⟩ ⟨(0, []), []⟩ := rfl
  rw [show atoi "2000".toList = 2000 by decide] at hargs
  obtain ⟨S, hleast, hexact, -⟩ := umem_exact_iff granting hargs (s := "2000".toList) rfl
    (by decide) ⟨(0, []), []⟩
  exact ⟨S, hleast, hexact (by decide)⟩

/-- `rscdump --umem=2097151`: the pages are 2 ^ 31 bytes. -/
theorem umem_remain_negative :
    parseArgs (⟨(0, []), []⟩ : World (Nat × List Event))
      ["rscdump".toList, "--umem=2097151".toList] =
        .ret ⟨2097151, -1, 0, 0, 0⟩ ⟨(0, []), []⟩ ∧
    ∀ S, IsLeast {m | UMEM_PAGE_SIZE ∣ m ∧ 1024 * 2097151 ≤ m} S →
      ¬ UmemExact granting ⟨(0, []), []⟩ "rscdump".toList ⟨2097151, 65535, 0, 0, 0⟩ S := by
  have hatoi : atoi "2097151".toList = 2097151 := by decide
  rw [← hatoi]
  refine ⟨rfl, fun S hS h => ?_⟩
  have hpages : S = umemPages "2097151".toList :=
    hS.unique (roundUp_isLeast (show 0 < UMEM_PAGE_SIZE by decide) (1024 * 2097151))
  have hdump : GetsToDump granting ⟨(0, []), []⟩ "rscdump".toList
      ⟨atoi "2097151".toList, 65535, 0, 0, 0⟩ := by
    refine ⟨_, _, _, rfl, fun _ umem humem => ?_⟩
    cases humem
    exact ⟨_, rfl⟩
  rw [hpages] at h
  exact absurd (h.le granting rfl (by decide) hdump) (by decide)

end Mlx5ctl.RscDump
