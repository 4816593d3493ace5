/-
  mlx5ctl_misc.c: finding and opening a device.

  The file system is a parameter: what glob, open, readlinkat and realpath return for a path. The
  scan of /sys/class/fwctl keeps of each mlx5 device its node below /dev/fwctl and its path below
  /sys/devices/, each in `DEV_NAME_MAX` bytes. A name is tried as an entry of /dev/fwctl first, as
  far as these bytes go, and is then looked up by the first 63 characters of the paths: `Clear` says
  when that is the device that was named.
-/
import Mathlib.Data.List.Find
import Mlx5ctl.Cli

namespace Mlx5ctl

open ByteMem CString Table

variable {σ : Type}

/-- What `ioctl(FWCTL_INFO)` returns, and what it fills in. -/
structure FwctlInfo where
  ret : Int
  outDeviceType : Nat
  uid : Nat
  uctxCaps : Nat

/-- What the file-system calls return. -/
structure FileSys where
  /-- `glob(pattern, ..)`: the return value, and the paths that match. -/
  glob : CStr → Int × List CStr
  /-- `open(path, O_DIRECTORY)` -/
  openDir : CStr → Int
  /-- `fchdir`, to the directory opened at a path. -/
  fchdir : CStr → Int
  /-- `readlinkat`, below the directory opened at a path: the target of the link. -/
  readlinkat : CStr → CStr → Option CStr
  /-- `realpath`, from a directory. -/
  realpath : CStr → CStr → Option CStr
  /-- `open(path, O_RDWR)` -/
  openRdwr : CStr → Int
  /-- `ioctl(fd, FWCTL_INFO, ..)` -/
  fwctlInfo : Int → FwctlInfo
  /-- `fstat`: the major and the minor of `st_rdev`. -/
  fstat : Int → Option (Nat × Nat)
  getpid : Int
  glob_match : ∀ p ∈ (glob "/sys/class/fwctl/*".toList).2, "/sys/class/fwctl/".toList <+: p

/-- `PATH_MAX` -/
def PATH_MAX : Nat := 4096

def DEV_NAME_MAX : Nat := 64

/-- `struct mlx5u_dev` -/
structure Mlx5uDev where
  devname : CStr
  fd : Int
  deriving DecidableEq

/-- `struct mlx5ctl_dev` -/
structure Mlx5ctlDev where
  ctldev : CStr
  mdev : CStr
  deriving DecidableEq

/-! ## The scan -/

/-- `realpathat(dirfd, path, resolved_path)` -/
def realpathat (F : FileSys) (dir path : CStr) : Option CStr :=
  if F.openDir ".".toList = -1 then none
  else if F.fchdir dir ≠ 0 then none
  else F.realpath dir path

/-- The tests of `check_fwctl`: what `tmp` holds when they all pass. `stale` is what it held
    before; `readlinkat` does not end the target with a NUL. -/
def checkSysfs (F : FileSys) (stale : List Char) (sysfsPath : CStr) : Option CStr :=
  if F.openDir sysfsPath = -1 then none
  else
    match F.readlinkat sysfsPath "device/driver".toList with
    | none => none
    | some target =>
        if PATH_MAX ≤ target.length then none
        else if strstr (cstrAt (target ++ stale.drop target.length))
            "drivers/mlx5_core".toList = none then none
        else
          match realpathat F sysfsPath "device".toList with
          | none => none
          | some tmp => if strstr tmp "/sys/devices/".toList ≠ some 0 then none else some tmp

/-- `check_fwctl(sysfs_path, dev)` -/
def checkFwctl (F : FileSys) (stale : List Char) (sysfsPath : CStr) : Option Mlx5ctlDev :=
  (checkSysfs F stale sysfsPath).map fun tmp =>
    ⟨snprintf DEV_NAME_MAX
        ("/dev/fwctl/".toList ++ sysfsPath.drop "/sys/class/fwctl/".toList.length),
      snprintf DEV_NAME_MAX (tmp.drop "/sys/devices/".toList.length)⟩

/-- The loop of `_scan_ctl_devs`; `stale i` is what the stack holds at its turn `i`. -/
def scanLoop (F : FileSys) (stale : Nat → List Char) (paths : List CStr) : Slots Mlx5ctlDev :=
  paths.zipIdx.foldl (fun s p => s.add (checkFwctl F (stale p.2) p.1))
    ⟨List.replicate paths.length ⟨[], []⟩, 0⟩

/-- `_scan_ctl_devs(count)`. Where `calloc` fails, a device that passes the tests is written
    through a null pointer. -/
def scanCtlDevs (K : Sys σ) (F : FileSys) (stale : Nat → List Char) (w : World σ) :
    Outcome σ (Option (List Mlx5ctlDev)) :=
  let g := F.glob "/sys/class/fwctl/*".toList
  if g.1 ≠ 0 then
    .ret none (w.print (.errMsg "Error while searching for files: %d\n" [.int g.1]))
  else
    let m := K.malloc w.sys (g.2.length * (2 * DEV_NAME_MAX))
    let w := { w with sys := m.2 }
    let s := scanLoop F stale g.2
    if s.count = 0 then .ret none w
    else
      match m.1 with
      | none => .segv w
      | some _ => .ret (some s.filled) w

/-! ## The lookup -/

/-- `is_a_number(str)` -/
def isANumber (str : CStr) : Bool := str.all isDigit

/-- The loop of `find_dev` over the devices of the scan. -/
def openFirst (F : FileSys) (str : CStr) : List Mlx5ctlDev → Option Mlx5uDev
  | [] => none
  | d :: devs =>
      if d.mdev ≠ str then openFirst F str devs
      else
        let devname := snprintf DEV_NAME_MAX d.ctldev
        let fd := F.openRdwr devname
        if fd ≠ -1 then some ⟨devname, fd⟩ else openFirst F str devs

/-- `find_dev(str, dev)`: the device when it returns 0. -/
def findDev (K : Sys σ) (F : FileSys) (stale : Nat → List Char) (w : World σ) (str : CStr) :
    Outcome σ (Option Mlx5uDev) :=
  let numbered := snprintf DEV_NAME_MAX ("/dev/fwctl/fwctl".toList ++ str)
  if isANumber str ∧ F.openRdwr numbered ≠ -1 then
    .ret (some ⟨numbered, F.openRdwr numbered⟩) w
  else
    let named := snprintf DEV_NAME_MAX ("/dev/fwctl/".toList ++ str)
    if F.openRdwr named ≠ -1 then .ret (some ⟨named, F.openRdwr named⟩) w
    else
      (scanCtlDevs K F stale w).bind fun devs w =>
        match devs with
        | none => .ret none w
        | some devs => .ret (openFirst F str devs) w

/-- `mlx5u_lsdevs()` -/
def mlx5uLsdevs (K : Sys σ) (F : FileSys) (stale : Nat → List Char) (w : World σ) :
    Outcome σ Int :=
  (scanCtlDevs K F stale w).bind fun devs w =>
    match devs with
    | none => .ret 0 w
    | some devs =>
        .ret 0 (w.prints (.printf "Found %d mlx5ctl devices:\n" [.int devs.length] ::
          devs.map fun d => .printf "%s %s\n" [textArg d.ctldev, textArg d.mdev]))

/-- `mlx5u_open(name)` -/
def mlx5uOpen (K : Sys σ) (F : FileSys) (stale : Nat → List Char) (w : World σ) (name : CStr) :
    Outcome σ (Option Mlx5uDev) :=
  let m := K.malloc w.sys 68
  let w := { w with sys := m.2 }
  match m.1 with
  | none => .ret none w
  | some _ =>
      (findDev K F stale w name).bind fun dev w =>
        match dev with
        | none =>
            .ret none (w.prints [.errMsg "device %s not found\n" [textArg name],
              .errMsg "please insmod fwctl_mlx5.ko and make sure the device file exists\n" []])
        | some dev => .ret (some dev) w

/-- `FWCTL_DEVICE_TYPE_MLX5` -/
def FWCTL_DEVICE_TYPE_MLX5 : Nat := 1

/-- The path of a character device in sysfs. -/
def sysfsDev (major minor : Nat) : CStr :=
  snprintf PATH_MAX ("/sys/dev/char/".toList ++ (toString major).toList ++ ':' ::
    (toString minor).toList)

/-- `mlx5u_devinfo(dev)` -/
def mlx5uDevinfo (K : Sys σ) (F : FileSys) (stale : List Char) (w : World σ) (dev : Mlx5uDev) :
    Int × World σ :=
  let info := F.fwctlInfo dev.fd
  if info.ret ≠ 0 then
    (info.ret, w.print (.errMsg "ioctl failed: %d errno(%d): %s\n"
      [.int info.ret, .int (K.errno w.sys)]))
  else if info.outDeviceType ≠ FWCTL_DEVICE_TYPE_MLX5 then
    (-1, w.print (.errMsg "Not a MLX5 device" []))
  else
    match F.fstat dev.fd with
    | none => (-1, w)
    | some (major, minor) =>
        match checkFwctl F stale (sysfsDev major minor) with
        | none => (-1, w.print (.errMsg "Problem parsing sysfs" []))
        | some desc =>
            (0, w.prints
              [.printf "ctldev: %s\n" [textArg dev.devname],
                .printf "Parent dev: %s\n" [textArg desc.mdev],
                .printf "UCTX UID: %d\n" [.int info.uid],
                .printf "UCTX CAP: 0x%x\n" [.int info.uctxCaps],
                .printf "Current PID: %d FD %d\n" [.int F.getpid, .int dev.fd]])

/-! ## What a lookup is for -/

/-- A device found in sysfs: its entry of /sys/class/fwctl, and its path below /sys/devices/. -/
structure FwctlDev where
  entry : CStr
  path : CStr
  deriving DecidableEq

namespace FwctlDev

/-- Its node below /dev/fwctl. -/
def node (d : FwctlDev) : CStr := "/dev/fwctl/".toList ++ d.entry

/-- What the scan keeps of it. -/
def stored (d : FwctlDev) : Mlx5ctlDev :=
  ⟨snprintf DEV_NAME_MAX d.node, snprintf DEV_NAME_MAX d.path⟩

end FwctlDev

/-- The device at a path of /sys/class/fwctl, if it passes the tests. -/
def deviceAt (F : FileSys) (stale : List Char) (sysfsPath : CStr) : Option FwctlDev :=
  (checkSysfs F stale sysfsPath).map fun tmp =>
    ⟨sysfsPath.drop "/sys/class/fwctl/".toList.length, tmp.drop "/sys/devices/".toList.length⟩

/-- The devices found in sysfs. -/
def foundDevs (F : FileSys) (stale : Nat → List Char) : List FwctlDev :=
  let g := F.glob "/sys/class/fwctl/*".toList
  if g.1 ≠ 0 then [] else g.2.zipIdx.filterMap fun p => deviceAt F (stale p.2) p.1

/-- The device whose path is `str`, if there is one that opens. -/
def namedDev (F : FileSys) (devs : List FwctlDev) (str : CStr) : Option Mlx5uDev :=
  (devs.find? fun d => decide (d.path = str ∧ F.openRdwr d.node ≠ -1)).map fun d =>
    ⟨d.node, F.openRdwr d.node⟩

/-- The parent device in a line of the listing. -/
def parentName : Line → Option String
  | .printf _ [.text _, .text name] => some name
  | _ => none

/-- The nodes of the devices have short names, as the kernel gives them: fwctl and a number. -/
def ShortNodes (devs : List FwctlDev) : Prop := ∀ d ∈ devs, d.node.length < DEV_NAME_MAX - 1

instance (devs : List FwctlDev) : Decidable (ShortNodes devs) :=
  inferInstanceAs (Decidable (∀ d ∈ devs, d.node.length < DEV_NAME_MAX - 1))

/-- The name is neither a number nor an entry of /dev/fwctl. The empty string, which
    `is_a_number` takes for a number, is none where there is no node fwctl. -/
structure NoShortcut (F : FileSys) (str : CStr) : Prop where
  number : isANumber str → str = [] ∧ F.openRdwr "/dev/fwctl/fwctl".toList = -1
  entry : F.openRdwr ("/dev/fwctl/".toList ++ str) = -1

/-- The name is looked up among the devices: neither path that `find_dev` makes of it below
    /dev/fwctl can be opened, as far as the field holds it. -/
structure LookedUp (F : FileSys) (str : CStr) : Prop where
  number : isANumber str →
    F.openRdwr (snprintf DEV_NAME_MAX ("/dev/fwctl/fwctl".toList ++ str)) = -1
  entry : F.openRdwr (snprintf DEV_NAME_MAX ("/dev/fwctl/".toList ++ str)) = -1

theorem NoShortcut.lookedUp {F : FileSys} {str : CStr} (h : NoShortcut F str)
    (hentry : F.openRdwr (snprintf DEV_NAME_MAX ("/dev/fwctl/".toList ++ str)) = -1) :
    LookedUp F str where
  number hnum := by
    obtain ⟨rfl, hnode⟩ := h.number hnum
    exact hnode
  entry := hentry

/-- The device that was named is the one that is opened: what is left of the name below /dev/fwctl
    is no entry either, the path of the device is stored whole, and a device whose path only starts
    with the name comes after it. -/
structure Clear (F : FileSys) (devs : List FwctlDev) (str : CStr) : Prop where
  entry : F.openRdwr (snprintf DEV_NAME_MAX ("/dev/fwctl/".toList ++ str)) = -1
  fits : ∀ d ∈ devs, d.path = str → F.openRdwr d.node ≠ -1 → str.length < DEV_NAME_MAX
  first : ∀ before d after, devs = before ++ d :: after → F.openRdwr d.node ≠ -1 →
    d.path ≠ str → d.path.take (DEV_NAME_MAX - 1) = str →
      ∃ e ∈ before, e.path = str ∧ F.openRdwr e.node ≠ -1

/-- Where every path and the name are stored whole, no name hides another. -/
theorem clear_of_short {F : FileSys} {devs : List FwctlDev}
    (h : ∀ d ∈ devs, d.path.length < DEV_NAME_MAX) {str : CStr} (hs : NoShortcut F str)
    (hstr : str.length ≤ 52) : Clear F devs str where
  entry := by
    rw [snprintf_of_fits]
    · exact hs.entry
    · rw [List.length_append]
      exact Nat.add_le_add_left hstr 11
  fits d hd hpath _ := hpath ▸ h d hd
  first before d after hdevs _ hne hcut := by
    have hd : d ∈ devs := by
      rw [hdevs]
      exact List.mem_append_right _ List.mem_cons_self
    exact absurd ((List.take_of_length_le (Nat.le_pred_of_lt (h d hd))).symm.trans hcut) hne

/-! ## The scan and the lookup -/

section Lookup

variable (K : Sys σ) {F : FileSys} (stale : Nat → List Char)

theorem checkFwctl_stored (F : FileSys) (stale : List Char) (p : CStr) :
    checkFwctl F stale p = (deviceAt F stale p).map FwctlDev.stored := by
  unfold checkFwctl deviceAt
  rw [Option.map_map]
  rfl

/-- The slots the loop of the scan fills are the devices found, in order. -/
theorem scanLoop_filled (F : FileSys) (paths : List CStr) :
    (scanLoop F stale paths).filled =
      (paths.zipIdx.filterMap fun p => deviceAt F (stale p.2) p.1).map FwctlDev.stored := by
  have hroom : 0 + paths.zipIdx.length ≤
      (List.replicate paths.length (⟨[], []⟩ : Mlx5ctlDev)).length := by
    rw [List.length_zipIdx, List.length_replicate, Nat.zero_add]
  unfold scanLoop
  rw [Slots.fill_filled (fun p : CStr × Nat => checkFwctl F (stale p.2) p.1) _ _ hroom,
    List.map_filterMap]
  simp only [checkFwctl_stored]
  rfl

theorem scanLoop_count (F : FileSys) (paths : List CStr) :
    (scanLoop F stale paths).count =
      (paths.zipIdx.filterMap fun p => deviceAt F (stale p.2) p.1).length := by
  unfold scanLoop
  rw [Slots.fill_count (fun p : CStr × Nat => checkFwctl F (stale p.2) p.1), Nat.zero_add]
  simp only [checkFwctl_stored]
  rw [← List.map_filterMap, List.length_map]

/-- Where there is memory for it, the scan returns the devices found, as it stored them. -/
theorem scanCtlDevs_found (F : FileSys) (w : World σ)
    (hm : (K.malloc w.sys ((F.glob "/sys/class/fwctl/*".toList).2.length *
      (2 * DEV_NAME_MAX))).1 ≠ none) :
    ∃ v msgs, scanCtlDevs K F stale w = .ret (if foundDevs F stale = [] then none
      else some ((foundDevs F stale).map FwctlDev.stored)) v ∧
      v.out = w.out ++ msgs ∧ msgs.filterMap parentName = [] := by
  unfold scanCtlDevs foundDevs
  dsimp only
  by_cases hglob : (F.glob "/sys/class/fwctl/*".toList).1 ≠ 0
  · rw [if_pos hglob, if_pos hglob, if_pos rfl]
    exact ⟨_, _, rfl, rfl, rfl⟩
  · rw [if_neg hglob, if_neg hglob, scanLoop_count, scanLoop_filled]
    simp only [List.length_eq_zero_iff]
    split_ifs with hnone
    · exact ⟨_, [], rfl, (List.append_nil _).symm, rfl⟩
    · cases hmalloc : (K.malloc w.sys ((F.glob "/sys/class/fwctl/*".toList).2.length *
          (2 * DEV_NAME_MAX))).1 with
      | none => exact absurd hmalloc hm
      | some _ => exact ⟨_, [], rfl, (List.append_nil _).symm, rfl⟩

/-- The loop of `find_dev` opens the first device with the name that opens. -/
theorem openFirst_eq (F : FileSys) (str : CStr) (devs : List Mlx5ctlDev) :
    openFirst F str devs =
      (devs.find? fun d => decide (d.mdev = str ∧
        F.openRdwr (snprintf DEV_NAME_MAX d.ctldev) ≠ -1)).map fun d =>
          ⟨snprintf DEV_NAME_MAX d.ctldev, F.openRdwr (snprintf DEV_NAME_MAX d.ctldev)⟩ := by
  induction devs with
  | nil => rfl
  | cons d devs ih =>
      unfold openFirst
      dsimp only
      rw [ih]
      by_cases hname : d.mdev = str
      · rw [if_neg (not_not.mpr hname)]
        split_ifs with hopen
        · rw [List.find?_cons_of_pos (by simp [hname, hopen])]
          rfl
        · rw [List.find?_cons_of_neg (by simp [hopen])]
      · rw [if_pos hname, List.find?_cons_of_neg (by simp [hname])]

/-- The path of a device is what `realpath` makes of its entry. -/
theorem checkSysfs_realpath {F : FileSys} {stale : List Char} {p tmp : CStr}
    (h : checkSysfs F stale p = some tmp) :
    realpathat F p "device".toList = some tmp := by
  unfold checkSysfs at h
  split_ifs at h
  cases hlink : F.readlinkat p "device/driver".toList with
  | none =>
      rw [hlink] at h
      cases h
  | some target =>
      rw [hlink] at h
      dsimp only at h
      split_ifs at h
      cases hreal : realpathat F p "device".toList with
      | none =>
          rw [hreal] at h
          cases h
      | some tmp' =>
          rw [hreal] at h
          dsimp only at h
          split_ifs at h
          exact h

theorem mem_foundDevs {F : FileSys} {d : FwctlDev} (hd : d ∈ foundDevs F stale) :
    ∃ tmp, realpathat F ("/sys/class/fwctl/".toList ++ d.entry) "device".toList = some tmp ∧
      d.path = tmp.drop "/sys/devices/".toList.length := by
  unfold foundDevs at hd
  dsimp only at hd
  split_ifs at hd
  · cases hd
  · obtain ⟨⟨p, i⟩, hp, hdev⟩ := List.mem_filterMap.mp hd
    obtain ⟨tmp, htmp, rfl⟩ := Option.map_eq_some_iff.mp hdev
    obtain ⟨entry, rfl⟩ := F.glob_match p (List.fst_mem_of_mem_zipIdx hp)
    refine ⟨tmp, ?_, rfl⟩
    rw [List.drop_left]
    exact checkSysfs_realpath htmp

/-- Devices with one node are one device. -/
theorem found_node_inj {F : FileSys} {d e : FwctlDev} (hd : d ∈ foundDevs F stale)
    (he : e ∈ foundDevs F stale) (h : d.node = e.node) : d = e := by
  obtain ⟨tmp, htmp, hpath⟩ := mem_foundDevs stale hd
  obtain ⟨tmp', htmp', hpath'⟩ := mem_foundDevs stale he
  have hentry : d.entry = e.entry := List.append_cancel_left h
  rw [hentry, htmp'] at htmp
  cases htmp
  have hpaths : d.path = e.path := hpath.trans hpath'.symm
  cases d
  cases e
  cases hentry
  cases hpaths
  rfl

/-- The device of a lookup, among those of a scan: the first with the name that can be opened. -/
def lookup (F : FileSys) (str : CStr) (devs : List Mlx5ctlDev) : Option Mlx5uDev :=
  (devs.find? fun d => decide (d.mdev = str ∧ F.openRdwr d.ctldev ≠ -1)).map fun d =>
    ⟨d.ctldev, F.openRdwr d.ctldev⟩

theorem openFirst_stored (F : FileSys) (str : CStr) (devs : List FwctlDev) :
    openFirst F str (devs.map FwctlDev.stored) = lookup F str (devs.map FwctlDev.stored) := by
  have hcut (d : FwctlDev) : snprintf DEV_NAME_MAX d.stored.ctldev = d.stored.ctldev :=
    snprintf_of_fits (snprintf_length_le DEV_NAME_MAX d.node)
  rw [openFirst_eq]
  unfold lookup
  rw [List.find?_map, List.find?_map, Option.map_map, Option.map_map]
  simp only [Function.comp_def, hcut]

/-- Behind /dev/fwctl, the lookup is among the devices of the scan. -/
theorem findDev_lookedUp {str : CStr} (hs : LookedUp F str) (w : World σ)
    (hm : (K.malloc w.sys ((F.glob "/sys/class/fwctl/*".toList).2.length *
      (2 * DEV_NAME_MAX))).1 ≠ none) : ∃ v, findDev K F stale w str =
        .ret (lookup F str ((foundDevs F stale).map FwctlDev.stored)) v := by
  obtain ⟨v, -, hscan, -, -⟩ := scanCtlDevs_found K stale F w hm
  unfold findDev
  dsimp only
  rw [if_neg fun h => h.2 (hs.number h.1), if_neg (not_not.mpr hs.entry), hscan, Outcome.bind_ret]
  split_ifs with hnone
  · rw [hnone]
    exact ⟨v, rfl⟩
  · exact ⟨v, by rw [← openFirst_stored]⟩

/-- An entry of /dev/fwctl, as far as the field holds it, is opened at once. -/
theorem findDev_entry {str : CStr} (hs : NoShortcut F str) (w : World σ)
    (hentry : F.openRdwr (snprintf DEV_NAME_MAX ("/dev/fwctl/".toList ++ str)) ≠ -1) :
    findDev K F stale w str = .ret (some ⟨snprintf DEV_NAME_MAX ("/dev/fwctl/".toList ++ str),
      F.openRdwr (snprintf DEV_NAME_MAX ("/dev/fwctl/".toList ++ str))⟩) w := by
  have hnumbered : ¬ (isANumber str ∧ F.openRdwr (snprintf DEV_NAME_MAX
      ("/dev/fwctl/fwctl".toList ++ str)) ≠ -1) := by
    rintro ⟨hnum, hopen⟩
    obtain ⟨rfl, hnode⟩ := hs.number hnum
    exact hopen hnode
  unfold findDev
  dsimp only
  rw [if_neg hnumbered, if_pos hentry]

/-- That is no node with a short name: something of the name was cut. -/
theorem entry_ne_node {devs : List FwctlDev} (hshort : ShortNodes devs) {str : CStr}
    (hs : NoShortcut F str)
    (hentry : F.openRdwr (snprintf DEV_NAME_MAX ("/dev/fwctl/".toList ++ str)) ≠ -1) :
    ∀ d ∈ devs, d.node ≠ snprintf DEV_NAME_MAX ("/dev/fwctl/".toList ++ str) := by
  intro d hd hnode
  have hlen := hshort d hd
  rw [hnode] at hlen
  unfold snprintf at hlen
  rw [List.length_take] at hlen
  rw [snprintf_of_fits (by omega)] at hentry
  exact hentry hs.entry

/-- The device a lookup opens: the first whose path starts with the name, up to what is stored of
    it, and that opens. -/
def cutDev (F : FileSys) (devs : List FwctlDev) (str : CStr) : Option Mlx5uDev :=
  (devs.find? fun d => decide (snprintf DEV_NAME_MAX d.path = str ∧ F.openRdwr d.node ≠ -1)).map
    fun d => ⟨d.node, F.openRdwr d.node⟩

/-- Short nodes are stored whole. -/
theorem lookup_stored (F : FileSys) {devs : List FwctlDev} (hshort : ShortNodes devs) (str : CStr) :
    lookup F str (devs.map FwctlDev.stored) = cutDev F devs str := by
  have hnode (d : FwctlDev) (hd : d ∈ devs) : d.stored.ctldev = d.node :=
    snprintf_of_fits (Nat.le_of_lt (hshort d hd))
  unfold lookup cutDev
  rw [List.find?_map, Option.map_map, List.find?_congr fun d hd => by
    rw [Function.comp_apply, hnode d hd]]
  refine Option.map_congr fun d hd => ?_
  rw [Function.comp_apply, hnode d (List.mem_of_find?_eq_some hd)]

/-- Two searches among devices with distinct nodes open the same device when they find the same. -/
theorem opened_inj {F : FileSys} {devs : List FwctlDev} {p q : FwctlDev → Bool}
    (hinj : ∀ d ∈ devs, ∀ e ∈ devs, d.node = e.node → d = e) :
    ((devs.find? p).map fun d => (⟨d.node, F.openRdwr d.node⟩ : Mlx5uDev)) =
        (devs.find? q).map (fun d => ⟨d.node, F.openRdwr d.node⟩) ↔
      devs.find? p = devs.find? q := by
  refine ⟨fun h => ?_, fun h => by rw [h]⟩
  cases hp : devs.find? p with
  | none =>
      rw [hp] at h
      exact (Option.map_eq_none_iff.mp h.symm).symm
  | some d =>
      rw [hp] at h
      obtain ⟨e, he, hde⟩ := Option.map_eq_some_iff.mp h.symm
      have hnode : e.node = d.node := congrArg Mlx5uDev.devname hde
      rw [he, hinj e (List.mem_of_find?_eq_some he) d (List.mem_of_find?_eq_some hp) hnode]

/-- The lookup opens the device that was named exactly when no other hides it. -/
theorem cutDev_eq_iff {F : FileSys} {devs : List FwctlDev}
    (hinj : ∀ d ∈ devs, ∀ e ∈ devs, d.node = e.node → d = e) {str : CStr}
    (hentry : F.openRdwr (snprintf DEV_NAME_MAX ("/dev/fwctl/".toList ++ str)) = -1) :
    cutDev F devs str = namedDev F devs str ↔ Clear F devs str := by
  have hmax : DEV_NAME_MAX = 64 := rfl
  unfold cutDev namedDev
  rw [opened_inj hinj]
  by_cases hlen : str.length < DEV_NAME_MAX
  · have hstored : snprintf DEV_NAME_MAX str = str := snprintf_of_fits (by omega)
    rw [find?_coarser_iff fun d hd => by
      obtain ⟨rfl, hopen⟩ := of_decide_eq_true hd
      exact decide_eq_true ⟨hstored, hopen⟩]
    constructor
    · intro h
      refine ⟨hentry, fun _ _ _ _ => hlen, fun before d after hdevs hopen hne hcut => ?_⟩
      obtain ⟨e, he, hq⟩ := h before d after hdevs (decide_eq_true ⟨hcut, hopen⟩)
        fun hq => hne (of_decide_eq_true hq).1
      exact ⟨e, he, of_decide_eq_true hq⟩
    · intro h before d after hdevs hp hq
      obtain ⟨hcut, hopen⟩ := of_decide_eq_true hp
      have hne : d.path ≠ str := fun hpath => hq (decide_eq_true ⟨hpath, hopen⟩)
      obtain ⟨e, he, hnamed⟩ := h.first before d after hdevs hopen hne hcut
      exact ⟨e, he, decide_eq_true hnamed⟩
  · have hcut : ∀ d : FwctlDev, snprintf DEV_NAME_MAX d.path ≠ str := by
      intro d h
      have := snprintf_length_le DEV_NAME_MAX d.path
      rw [h] at this
      omega
    have hnone : devs.find? (fun d => decide (snprintf DEV_NAME_MAX d.path = str ∧
        F.openRdwr d.node ≠ -1)) = none :=
      List.find?_eq_none.mpr fun d _ hd => hcut d (of_decide_eq_true hd).1
    rw [hnone, eq_comm, List.find?_eq_none]
    constructor
    · intro h
      exact ⟨hentry, fun d hd hpath hopen => absurd (decide_eq_true ⟨hpath, hopen⟩) (h d hd),
        fun _ d _ _ _ _ h' => absurd h' (hcut d)⟩
    · intro h d hd hq
      obtain ⟨hpath, hopen⟩ := of_decide_eq_true hq
      exact hlen (h.fits d hd hpath hopen)

/-- The listing names each device by the stored part of its path. -/
theorem mlx5uLsdevs_names (w : World σ)
    (hm : (K.malloc w.sys ((F.glob "/sys/class/fwctl/*".toList).2.length *
      (2 * DEV_NAME_MAX))).1 ≠ none) :
    ∃ v new, mlx5uLsdevs K F stale w = .ret 0 v ∧ v.out = w.out ++ new ∧
      new.filterMap parentName = (foundDevs F stale).map fun d =>
        String.ofList (snprintf DEV_NAME_MAX d.path) := by
  obtain ⟨v, msgs, hscan, hout, hmsgs⟩ := scanCtlDevs_found K stale F w hm
  unfold mlx5uLsdevs
  rw [hscan, Outcome.bind_ret]
  split_ifs with hnone
  · exact ⟨v, msgs, rfl, hout, by rw [hmsgs, hnone, List.map_nil]⟩
  · refine ⟨_, _, rfl, by rw [World.prints, hout, List.append_assoc], ?_⟩
    rw [List.filterMap_append, hmsgs, List.nil_append, List.map_map]
    show List.filterMap parentName (List.map _ _) = _
    rw [List.filterMap_map, ← List.filterMap_eq_map]
    rfl

/-- **A device is looked up by the first 63 characters of its path.** A name is looked up to the
    device whose path it is exactly when no other device and no node of /dev/fwctl hides it; no two
    devices are listed under one parent name exactly when their paths differ in the first 63
    characters. -/
theorem device_named_iff (F : FileSys) (hshort : ShortNodes (foundDevs F stale)) (w : World σ)
    (hm : (K.malloc w.sys ((F.glob "/sys/class/fwctl/*".toList).2.length *
      (2 * DEV_NAME_MAX))).1 ≠ none) :
    (∀ str, NoShortcut F str →
      ((∃ v, findDev K F stale w str = .ret (namedDev F (foundDevs F stale) str) v) ↔
        Clear F (foundDevs F stale) str)) ∧
    ∃ v new, mlx5uLsdevs K F stale w = .ret 0 v ∧ v.out = w.out ++ new ∧
      ((new.filterMap parentName).Nodup ↔
        (foundDevs F stale).Pairwise fun d e =>
          d.path.take (DEV_NAME_MAX - 1) ≠ e.path.take (DEV_NAME_MAX - 1)) := by
  refine ⟨fun str hs => ?_, ?_⟩
  · by_cases hentry : F.openRdwr (snprintf DEV_NAME_MAX ("/dev/fwctl/".toList ++ str)) = -1
    · obtain ⟨v, hfind⟩ := findDev_lookedUp K stale (hs.lookedUp hentry) w hm
      rw [← cutDev_eq_iff (fun d hd e he => found_node_inj stale hd he) hentry, hfind,
        lookup_stored F hshort]
      constructor
      · rintro ⟨_, h⟩
        injection h
      · intro h
        exact ⟨v, by rw [h]⟩
    · -- a node opens before any device is looked up
      refine iff_of_false ?_ fun h => hentry h.entry
      rintro ⟨v, h⟩
      rw [findDev_entry K stale hs w hentry] at h
      injection h with hdev
      obtain ⟨d, hd, hnode⟩ := Option.map_eq_some_iff.mp hdev.symm
      exact entry_ne_node hshort hs hentry d (List.mem_of_find?_eq_some hd)
        (congrArg Mlx5uDev.devname hnode)
  · obtain ⟨v, new, hls, hout, hnames⟩ := mlx5uLsdevs_names K stale (F := F) w hm
    refine ⟨v, new, hls, hout, ?_⟩
    rw [hnames, List.Nodup, List.pairwise_map]
    have hne : ∀ d e : FwctlDev, String.ofList (snprintf DEV_NAME_MAX d.path) ≠
        String.ofList (snprintf DEV_NAME_MAX e.path) ↔
          d.path.take (DEV_NAME_MAX - 1) ≠ e.path.take (DEV_NAME_MAX - 1) := fun d e =>
      not_congr String.ofList_inj
    simp only [hne]

end Lookup

/-! ## Two functions of one adapter -/

/-- A file system with these mlx5 devices. -/
def sysfs (devs : List FwctlDev) : FileSys where
  glob _ := (0, devs.map fun d => "/sys/class/fwctl/".toList ++ d.entry)
  openDir _ := 3
  fchdir _ := 0
  readlinkat _ _ := some "../../../bus/pci/drivers/mlx5_core".toList
  realpath dir _ := (devs.find? fun d => decide ("/sys/class/fwctl/".toList ++ d.entry = dir)).map
    fun d => "/sys/devices/".toList ++ d.path
  openRdwr p := if p ∈ devs.map FwctlDev.node then 3 else -1
  fwctlInfo _ := ⟨0, FWCTL_DEVICE_TYPE_MLX5, 1, 0⟩
  fstat _ := none
  getpid := 1
  glob_match p hp := by
    obtain ⟨d, -, rfl⟩ := List.mem_map.mp hp
    exact ⟨d.entry, rfl⟩

/-- Two functions below one bridge: their paths are stored whole. -/
def shallow : List FwctlDev :=
  [⟨"fwctl0".toList, "pci0000:00/0000:00:01.0/0000:01:00.0".toList⟩,
    ⟨"fwctl1".toList, "pci0000:00/0000:00:01.0/0000:01:00.1".toList⟩]

/-- The path of a bus below four bridges. -/
def deepBus : CStr := "pci0000:00/0000:00:01.0/0000:01:00.0/0000:02:00.0/0000:03:00.0/".toList

/-- Two functions of one adapter on it. -/
def siblings : List FwctlDev :=
  [⟨"fwctl0".toList, deepBus ++ "0000:04:00.0".toList⟩,
    ⟨"fwctl1".toList, deepBus ++ "0000:04:00.1".toList⟩]

/-- The second function of a shallow adapter is opened by its path. -/
theorem shallow_named : ∃ v, findDev (scripted fun _ => (0, [])) (sysfs shallow) (fun _ => [])
    ⟨0, []⟩ "pci0000:00/0000:00:01.0/0000:01:00.1".toList =
      .ret (some ⟨"/dev/fwctl/fwctl1".toList, 3⟩) v := by
  have hs : NoShortcut (sysfs shallow) "pci0000:00/0000:00:01.0/0000:01:00.1".toList :=
    ⟨fun h => absurd h (by decide), by decide⟩
  have hnamed := (device_named_iff (scripted fun _ => (0, [])) (fun _ => []) (sysfs shallow)
    (by decide +kernel) ⟨0, []⟩ (scripted_malloc_ne _ 0 (by decide))).1
      "pci0000:00/0000:00:01.0/0000:01:00.1".toList hs
  obtain ⟨v, hv⟩ := hnamed.mpr (clear_of_short (by decide +kernel) hs (by decide))
  have hdev : namedDev (sysfs shallow) (foundDevs (sysfs shallow) fun _ => [])
      "pci0000:00/0000:00:01.0/0000:01:00.1".toList = some ⟨"/dev/fwctl/fwctl1".toList, 3⟩ := by
    decide +kernel
  rw [hdev] at hv
  exact ⟨v, hv⟩

/-- A path without the "./" at its start. -/
def skipDots : CStr → CStr
  | '.' :: '/' :: s => skipDots s
  | s => s

/-- The shallow adapter, where "./" below /dev/fwctl leads back to it. -/
def dotted : FileSys :=
  { sysfs shallow with
    openRdwr := fun p => (sysfs shallow).openRdwr (if "/dev/fwctl/".toList.isPrefixOf p then
      "/dev/fwctl/".toList ++ skipDots (p.drop 11) else p) }

/-- A name that is no entry of /dev/fwctl but for its last character, which is cut. -/
def dottedName : CStr := (List.replicate 23 "./".toList).flatten ++ "fwctl0X".toList

/-- The functions of a deep adapter have different paths. Neither is found by its own, both are
    listed under one name, and that name, which is the path of no device, opens the first. A long
    name opens a node that it names without its last character. -/
theorem names_confused :
    foundDevs (sysfs siblings) (fun _ => []) = siblings ∧
    (siblings.map FwctlDev.path).Nodup ∧
    (∀ d ∈ siblings, NoShortcut (sysfs siblings) d.path ∧
      namedDev (sysfs siblings) siblings d.path = some ⟨d.node, 3⟩ ∧
      ∃ v, findDev (scripted fun _ => (0, [])) (sysfs siblings) (fun _ => []) ⟨0, []⟩ d.path =
        .ret none v) ∧
    (∃ v new, mlx5uLsdevs (scripted fun _ => (0, [])) (sysfs siblings) (fun _ => []) ⟨0, []⟩ =
      .ret 0 v ∧ v.out = new ∧ ¬ (new.filterMap parentName).Nodup) ∧
    NoShortcut (sysfs siblings) deepBus ∧ namedDev (sysfs siblings) siblings deepBus = none ∧
    (∃ v, findDev (scripted fun _ => (0, [])) (sysfs siblings) (fun _ => []) ⟨0, []⟩ deepBus =
      .ret (some ⟨"/dev/fwctl/fwctl0".toList, 3⟩) v) ∧
    NoShortcut dotted dottedName ∧ namedDev dotted (foundDevs dotted fun _ => []) dottedName = none ∧
    findDev (scripted fun _ => (0, [])) dotted (fun _ => []) ⟨0, []⟩ dottedName =
      .ret (some ⟨snprintf DEV_NAME_MAX ("/dev/fwctl/".toList ++ dottedName), 3⟩) ⟨0, []⟩ := by
  have hfound : foundDevs (sysfs siblings) (fun _ => []) = siblings := by decide +kernel
  have hm := scripted_malloc_ne (fun _ => (0, [])) 0
    (show (siblings.map fun d => "/sys/class/fwctl/".toList ++ d.entry).length *
      (2 * DEV_NAME_MAX) ≤ CInt.ptrdiffMax by decide)
  have hfind {str : CStr} (hs : LookedUp (sysfs siblings) str) : ∃ v,
      findDev (scripted fun _ => (0, [])) (sysfs siblings) (fun _ => []) ⟨0, []⟩ str =
        .ret (cutDev (sysfs siblings) siblings str) v := by
    obtain ⟨v, hv⟩ := findDev_lookedUp _ (fun _ => []) hs ⟨0, []⟩ hm
    rw [hfound, lookup_stored _ (by decide)] at hv
    exact ⟨v, hv⟩
  have hpaths : ∀ d ∈ siblings, ¬ isANumber d.path ∧
      (sysfs siblings).openRdwr ("/dev/fwctl/".toList ++ d.path) = -1 ∧
      (sysfs siblings).openRdwr (snprintf DEV_NAME_MAX ("/dev/fwctl/".toList ++ d.path)) = -1 ∧
      namedDev (sysfs siblings) siblings d.path = some ⟨d.node, 3⟩ ∧
      cutDev (sysfs siblings) siblings d.path = none := by decide +kernel
  have hbus : NoShortcut (sysfs siblings) deepBus :=
    ⟨fun h => absurd h (by decide), by decide +kernel⟩
  refine ⟨hfound, by decide +kernel, fun d hd => ?_, ?_, hbus, by decide +kernel, ?_,
    ⟨fun h => absurd h (by decide), by decide +kernel⟩, by decide +kernel, rfl⟩
  · obtain ⟨hnumber, hentry, hleft, hnamed, hcut⟩ := hpaths d hd
    have hs : NoShortcut (sysfs siblings) d.path := ⟨fun h => absurd h hnumber, hentry⟩
    obtain ⟨v, hv⟩ := hfind (hs.lookedUp hleft)
    rw [hcut] at hv
    exact ⟨hs, hnamed, v, hv⟩
  · obtain ⟨v, new, hls, hout, hnames⟩ := mlx5uLsdevs_names (scripted fun _ => (0, []))
      (fun _ => []) (F := sysfs siblings) ⟨0, []⟩ hm
    refine ⟨v, new, hls, hout, ?_⟩
    rw [hnames, hfound]
    decide +kernel
  · obtain ⟨v, hv⟩ := hfind (hbus.lookedUp (by decide +kernel))
    have hcut : cutDev (sysfs siblings) siblings deepBus =
        some ⟨"/dev/fwctl/fwctl0".toList, 3⟩ := by decide +kernel
    rw [hcut] at hv
    exact ⟨v, hv⟩

end Mlx5ctl
