/-
  mlx5ctl_misc.c: the listing, the lookup and `info`.

  The help lists the devices found, each by its node and by its path as it was stored. A name that
  opens nothing in /dev/fwctl is looked up among the same devices: what a line shows is taken back,
  and opens the first line with this path that can be opened (`mlx5uOpen_listed`). `info` then
  prints the line again, and a path of no line is refused (`listing_round_trip`).
-/
import Mlx5ctl.CommandLines

namespace Mlx5ctl

open ByteMem CString

variable {σ : Type}

/-! ## The listing -/

/-- A line of the listing: a node and the path of its parent device. -/
def listedDev : Line → Option Mlx5ctlDev
  | .printf fmt [.text node, .text parent] =>
      if fmt = "%s %s\n" then some ⟨node.toList, parent.toList⟩ else none
  | _ => none

/-- The devices listed in some lines. -/
def listedDevs (ls : List Line) : List Mlx5ctlDev := ls.filterMap listedDev

theorem listedDevs_lines (devs : List Mlx5ctlDev) :
    listedDevs (devs.map fun d => .printf "%s %s\n" [textArg d.ctldev, textArg d.mdev]) =
      devs := by
  unfold listedDevs
  rw [List.filterMap_map]
  refine (List.filterMap_congr fun d _ => ?_).trans List.filterMap_some
  simp [listedDev, textArg]

/-- A line that names no parent lists no device. -/
theorem listedDevs_unnamed {ls : List Line} (h : ls.filterMap parentName = []) :
    listedDevs ls = [] := by
  rw [List.filterMap_eq_nil_iff] at h
  refine List.filterMap_eq_nil_iff.mpr fun l hl => ?_
  have hnone := h l hl
  unfold listedDev
  split
  · cases hnone
  · rfl

theorem listedDevs_cmdLines {φ : Type} (cmds : List (Cmd φ)) : listedDevs (cmdLines cmds) = [] := by
  unfold listedDevs cmdLines
  rw [List.filterMap_map]
  exact List.filterMap_eq_nil_iff.mpr fun c _ => by simp [listedDev]

/-- There is memory for a device and for the list of a scan. -/
structure Granted (K : Sys σ) (F : FileSys) : Prop where
  dev : ∀ s, (K.malloc s 68).1 ≠ none
  scan : ∀ s, (K.malloc s ((F.glob "/sys/class/fwctl/*".toList).2.length *
    (2 * DEV_NAME_MAX))).1 ≠ none

section Scan

variable {K : Sys σ} {F : FileSys} (hK : Granted K F) (stale : Nat → List Char)

include hK

/-- `mlx5u_lsdevs` lists the devices found, in order. -/
theorem mlx5uLsdevs_listed (w : World σ) : ∃ v new, mlx5uLsdevs K F stale w = .ret 0 v ∧
    v.out = w.out ++ new ∧ listedDevs new = (foundDevs F stale).map FwctlDev.stored := by
  obtain ⟨v, msgs, hscan, hout, hmsgs⟩ := scanCtlDevs_found K stale F w (hK.scan w.sys)
  have hnothing := listedDevs_unnamed hmsgs
  unfold mlx5uLsdevs
  rw [hscan, Outcome.bind_ret]
  split_ifs with hnone
  · exact ⟨v, msgs, rfl, hout, by rw [hnothing, hnone, List.map_nil]⟩
  · refine ⟨_, _, rfl, by rw [World.prints, hout, List.append_assoc], ?_⟩
    unfold listedDevs at hnothing ⊢
    rw [List.filterMap_append, hnothing, List.nil_append]
    exact listedDevs_lines _

/-- So does the help. -/
theorem doHelp_listed (helpCmd : CStr) (w : World σ) : ∃ v new,
    doHelp K F stale helpCmd w = .ret 0 v ∧ v.out = w.out ++ new ∧
      listedDevs new = (foundDevs F stale).map FwctlDev.stored := by
  unfold doHelp
  dsimp only
  generalize hu : w.prints _ = u
  obtain ⟨v, new, hls, hout, hlisted⟩ := mlx5uLsdevs_listed hK stale u
  rw [hls, Outcome.bind_ret]
  refine ⟨v, _, rfl, by rw [hout, ← hu, World.prints, List.append_assoc], ?_⟩
  have husage := listedDevs_cmdLines commands
  unfold listedDevs at hlisted husage ⊢
  rw [List.filterMap_append, List.filterMap_append, husage, hlisted]
  rfl

/-- A path of the listing opens the first line with it that can be opened. -/
theorem mlx5uOpen_listed {str : CStr} (hs : LookedUp F str) (w : World σ) :
    ∃ v, mlx5uOpen K F stale w str =
      .ret (lookup F str ((foundDevs F stale).map FwctlDev.stored)) v := by
  unfold mlx5uOpen
  dsimp only
  cases hm : (K.malloc w.sys 68).1 with
  | none => exact absurd hm (hK.dev w.sys)
  | some block =>
      obtain ⟨v, hfind⟩ :=
        findDev_lookedUp K stale hs ⟨(K.malloc w.sys 68).2, w.out⟩ (hK.scan _)
      dsimp only
      rw [hfind, Outcome.bind_ret]
      cases lookup F str ((foundDevs F stale).map FwctlDev.stored) with
      | none => exact ⟨_, rfl⟩
      | some dev => exact ⟨v, rfl⟩

end Scan

/-! ## The round trip -/

/-- `info` is answered for the device at this node, which is the one of this path: its driver is
    mlx5, and the sysfs directory of its character device is that of the device. -/
structure Answers (F : FileSys) (stale : List Char) (d : Mlx5ctlDev) : Prop where
  info : (F.fwctlInfo (F.openRdwr d.ctldev)).ret = 0
  type : (F.fwctlInfo (F.openRdwr d.ctldev)).outDeviceType = FWCTL_DEVICE_TYPE_MLX5
  sysfs : ∃ major minor desc, F.fstat (F.openRdwr d.ctldev) = some (major, minor) ∧
    checkFwctl F stale (sysfsDev major minor) = some desc ∧ desc.mdev = d.mdev

/-- What `info` prints of a device. -/
def infoLines (F : FileSys) (d : Mlx5ctlDev) : List Line :=
  let fd := F.openRdwr d.ctldev
  [.printf "ctldev: %s\n" [textArg d.ctldev],
    .printf "Parent dev: %s\n" [textArg d.mdev],
    .printf "UCTX UID: %d\n" [.int (F.fwctlInfo fd).uid],
    .printf "UCTX CAP: 0x%x\n" [.int (F.fwctlInfo fd).uctxCaps],
    .printf "Current PID: %d FD %d\n" [.int F.getpid, .int fd]]

theorem devinfo_answers (K : Sys σ) {F : FileSys} {stale : List Char} {d : Mlx5ctlDev}
    (h : Answers F stale d) (w : World σ) :
    mlx5uDevinfo K F stale w ⟨d.ctldev, F.openRdwr d.ctldev⟩ = (0, w.prints (infoLines F d)) := by
  obtain ⟨hinfo, htype, major, minor, desc, hstat, hcheck, hmdev⟩ := h
  unfold mlx5uDevinfo infoLines
  dsimp only
  rw [if_neg (not_not.mpr hinfo), if_neg (not_not.mpr htype), hstat]
  dsimp only
  rw [hcheck]
  dsimp only
  rw [hmdev]

section Main

variable {τ : Type} (E : Env σ) (E' : Env τ)

/-- **The listing is taken back.** One run of the tool lists the devices found, in order, and a
    later run finds the same ones. A path of the listing, if it opens nothing in /dev/fwctl itself,
    opens the first line with this path whose node can be opened: `info` prints the node and the
    path of this line. With any other name `main` returns 1. -/
theorem listing_round_trip (hfiles : E'.files = E.files)
    (hdevs : foundDevs E.files E'.stale = foundDevs E.files E.stale)
    (hK : Granted E.sys.toSys E.files) (hK' : Granted E'.sys.toSys E.files)
    (n : Nat) (w : World σ) (tool : CStr) :
    ∃ v new, main E n w [tool] = some (.ret 0 v) ∧ v.out = w.out ++ new ∧
      listedDevs new = (foundDevs E.files E.stale).map FwctlDev.stored ∧
      ∀ str argv words, LookedUp E.files str → deviceWords words = some (str, argv) →
        ∀ m (u : World τ),
          match (listedDevs new).find? fun d =>
            decide (d.mdev = str ∧ E.files.openRdwr d.ctldev ≠ -1) with
          | some d => argv = ["info".toList] → Answers E.files (E'.stale 0) d →
              ∃ x, main E' m u words = some (.ret 0 x) ∧ x.out = u.out ++ infoLines E.files d
          | none => ∃ x, main E' m u words = some (.ret 1 x) := by
  obtain ⟨v, new, hhelp, hout, hlisted⟩ := doHelp_listed hK E.stale tool w
  refine ⟨v, new, congrArg some hhelp, hout, hlisted, fun str argv words hs hwords m u => ?_⟩
  obtain ⟨x, hopen⟩ := mlx5uOpen_listed hK' E'.stale hs u
  rw [hdevs, ← hlisted, ← hfiles] at hopen
  unfold lookup at hopen
  rw [main_device E' hwords]
  unfold runMain
  dsimp only
  rw [← hfiles, hopen]
  cases hfound : (listedDevs new).find? fun d =>
      decide (d.mdev = str ∧ E'.files.openRdwr d.ctldev ≠ -1) with
  | none => exact ⟨_, rfl⟩
  | some d =>
      rintro rfl hanswers
      rw [hfound, Option.map_some] at hopen
      have hrun : runCommand E' (words.headD []) ⟨d.ctldev, E'.files.openRdwr d.ctldev⟩ m x
          ["info".toList] = some (.ret 0 (x.prints (infoLines E'.files d))) := by
        have hinfo := devinfo_answers E'.sys.toSys hanswers x
        refine (runCommand_found E' _ (c := commands.headD ⟨"", .doHelp, ""⟩) rfl fun h => by
          cases h).trans ?_
        show some (Outcome.ret _ _) = _
        rw [hinfo]
      rw [Option.map_some]
      dsimp only
      rw [hrun]
      exact ⟨_, rfl, congrArg (· ++ _) (mlx5uOpen_out hopen)⟩

/-- One device, whose character device leads to its directory in sysfs. -/
def oneAdapter : FileSys :=
  { sysfs [⟨"fwctl0".toList, "pci0000:00/0000:00:01.0".toList⟩] with
    realpath _ _ := some "/sys/devices/pci0000:00/0000:00:01.0".toList
    fstat _ := some (240, 0) }

/-- `mlx5ctl pci0000:00/0000:00:01.0 info` -/
theorem adapter_listed : ∃ x,
    main { answering fun _ => 0 with files := oneAdapter } 1 ⟨0, []⟩
      ["mlx5ctl".toList, "pci0000:00/0000:00:01.0".toList, "info".toList] = some (.ret 0 x) ∧
    x.out = infoLines oneAdapter
      ⟨"/dev/fwctl/fwctl0".toList, "pci0000:00/0000:00:01.0".toList⟩ := by
  have hgranted : Granted (scripted fun _ => (0, [0])) oneAdapter :=
    ⟨fun s => scripted_malloc_ne _ s (by decide), fun s => scripted_malloc_ne _ s (by decide)⟩
  obtain ⟨v, new, -, -, hlisted, hall⟩ := listing_round_trip
    { answering fun _ => 0 with files := oneAdapter }
    { answering fun _ => 0 with files := oneAdapter } rfl rfl hgranted hgranted 1 ⟨0, []⟩
    "mlx5ctl".toList
  have hinfo := hall "pci0000:00/0000:00:01.0".toList ["info".toList]
    ["mlx5ctl".toList, "pci0000:00/0000:00:01.0".toList, "info".toList]
    ⟨fun h => absurd h (by decide), by decide⟩ rfl 1 ⟨0, []⟩
  have hfound : (listedDevs new).find? (fun d => decide
      (d.mdev = "pci0000:00/0000:00:01.0".toList ∧ oneAdapter.openRdwr d.ctldev ≠ -1)) =
      some ⟨"/dev/fwctl/fwctl0".toList, "pci0000:00/0000:00:01.0".toList⟩ := by
    rw [hlisted]
    decide +kernel
  have hanswers : Answers oneAdapter []
      ⟨"/dev/fwctl/fwctl0".toList, "pci0000:00/0000:00:01.0".toList⟩ :=
    ⟨rfl, rfl, 240, 0, _, rfl, rfl, by decide +kernel⟩
  dsimp only at hinfo
  rw [hfound] at hinfo
  exact hinfo rfl hanswers

end Main

end Mlx5ctl
