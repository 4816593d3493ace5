/-
  mlx5ctl_misc.c: the driver test of `check_fwctl`.

  `readlinkat` puts the target of the link in front of what the stack buffer `tmp` held and does
  not end it with a NUL, so the search for the driver goes on behind the target where it is not
  found in it. `driver_check_iff`: the test is exact, and does not depend on what the buffer held,
  when the target contains the driver; another target leaves the decision to the buffer
  (`leftover_decides`).
-/
import Mlx5ctl.Devices
import Mlx5ctl.Lib.Search

namespace Mlx5ctl

open ByteMem CString

/-- What the target of a link to the driver contains. -/
def mlx5Driver : CStr := "drivers/mlx5_core".toList

/-- What `tmp` holds when `check_fwctl` searches it for the driver, if it gets there. -/
def driverTmp (F : FileSys) (stale : List Char) (sysfsPath : CStr) : Option (List Char) :=
  if F.openDir sysfsPath = -1 then none
  else
    match F.readlinkat sysfsPath "device/driver".toList with
    | none => none
    | some target =>
        if PATH_MAX ≤ target.length then none else some (target ++ stale.drop target.length)

/-- The driver test. -/
def PassesDriver (F : FileSys) (stale : List Char) (sysfsPath : CStr) : Prop :=
  ∃ tmp ∈ driverTmp F stale sysfsPath, strstr (cstrAt tmp) mlx5Driver ≠ none

/-- The test of the parent device: what `tmp` holds when it passes. -/
def parentPath (F : FileSys) (sysfsPath : CStr) : Option CStr :=
  match realpathat F sysfsPath "device".toList with
  | none => none
  | some tmp => if strstr tmp "/sys/devices/".toList ≠ some 0 then none else some tmp

/-- The driver, and then the parent device. -/
theorem checkSysfs_eq (F : FileSys) (stale : List Char) (sysfsPath : CStr) :
    checkSysfs F stale sysfsPath = (driverTmp F stale sysfsPath).bind fun tmp =>
      if strstr (cstrAt tmp) mlx5Driver = none then none else parentPath F sysfsPath := by
  unfold checkSysfs driverTmp
  split_ifs
  · rfl
  · cases F.readlinkat sysfsPath "device/driver".toList with
    | none => rfl
    | some target =>
        dsimp only
        by_cases hlong : PATH_MAX ≤ target.length
        · rw [if_pos hlong, if_pos hlong]
          rfl
        · rw [if_neg hlong, if_neg hlong]
          rfl

/-- The test is the same whatever `tmp` held, passes exactly for the driver, and looks at the
    target only. -/
structure DriverExact (F : FileSys) (sysfsPath target : CStr) : Prop where
  decision (stale stale' : List Char) : stale.length = PATH_MAX → stale'.length = PATH_MAX →
    checkFwctl F stale sysfsPath = checkFwctl F stale' sysfsPath
  driver (stale : List Char) : stale.length = PATH_MAX →
    (PassesDriver F stale sysfsPath ↔ mlx5Driver <:+: target)
  reads (stale : List Char) : stale.length = PATH_MAX →
    ∀ tmp ∈ driverTmp F stale sysfsPath, strstrReads tmp mlx5Driver ≤ target.length

section Link

variable {F : FileSys} {sysfsPath target : CStr} (hopen : F.openDir sysfsPath ≠ -1)
  (hlink : F.readlinkat sysfsPath "device/driver".toList = some target)
  (hlen : target.length < PATH_MAX)

include hopen hlink hlen

theorem driverTmp_eq (stale : List Char) :
    driverTmp F stale sysfsPath = some (target ++ stale.drop target.length) := by
  unfold driverTmp
  rw [if_neg hopen, hlink]
  exact if_neg (Nat.not_le.mpr hlen)

theorem checkSysfs_of_link (stale : List Char) :
    checkSysfs F stale sysfsPath =
      if strstr (cstrAt (target ++ stale.drop target.length)) mlx5Driver = none then none
      else parentPath F sysfsPath := by
  rw [checkSysfs_eq, driverTmp_eq hopen hlink hlen]
  rfl

theorem passesDriver_iff (stale : List Char) :
    PassesDriver F stale sysfsPath ↔
      strstr (cstrAt (target ++ stale.drop target.length)) mlx5Driver ≠ none := by
  unfold PassesDriver
  rw [driverTmp_eq hopen hlink hlen]
  simp

variable (hstr : '\x00' ∉ target)

include hstr

/-- A link to another driver: where the parent device passes and the driver fits behind the
    target, the decision is that of the buffer. -/
theorem leftover_decides (hother : ¬ mlx5Driver <:+: target)
    (hparent : parentPath F sysfsPath ≠ none)
    (hroom : target.length + mlx5Driver.length ≤ PATH_MAX) :
    ∃ stale stale', stale.length = PATH_MAX ∧ stale'.length = PATH_MAX ∧
      checkFwctl F stale sysfsPath = none ∧ checkFwctl F stale' sysfsPath ≠ none := by
  have hnul : '\x00' ∉ mlx5Driver := by decide
  refine ⟨List.replicate PATH_MAX '\x00', List.replicate target.length '.' ++ mlx5Driver ++
    List.replicate (PATH_MAX - target.length - mlx5Driver.length) '\x00',
    List.length_replicate, ?_, ?_, ?_⟩
  · simp only [List.length_append, List.length_replicate]
    omega
  · -- zeros behind the target end it
    have hzeros : cstrAt ((List.replicate PATH_MAX '\x00').drop target.length) = [] := by
      rw [List.drop_replicate]
      unfold cstrAt
      cases PATH_MAX - target.length with
      | zero => rfl
      | succ n => rfl
    have hsearch : strstr (cstrAt (target ++ (List.replicate PATH_MAX '\x00').drop
        target.length)) mlx5Driver = none := by
      rw [cstrAt_append hstr, hzeros, List.append_nil]
      exact not_not.mp (mt strstr_found_iff.mp hother)
    unfold checkFwctl
    rw [checkSysfs_of_link hopen hlink hlen, if_pos hsearch]
    rfl
  · -- the driver behind the target is found
    have hdrop : (List.replicate target.length '.' ++ mlx5Driver ++
        List.replicate (PATH_MAX - target.length - mlx5Driver.length) '\x00').drop target.length =
        mlx5Driver ++ List.replicate (PATH_MAX - target.length - mlx5Driver.length) '\x00' := by
      rw [List.append_assoc]
      exact List.drop_left' List.length_replicate
    have hsearch : strstr (cstrAt (target ++ (mlx5Driver ++
        List.replicate (PATH_MAX - target.length - mlx5Driver.length) '\x00'))) mlx5Driver ≠
        none := by
      rw [strstr_found_iff, cstrAt_append hstr, cstrAt_append hnul, ← List.append_assoc]
      exact ⟨target, _, rfl⟩
    unfold checkFwctl
    rw [checkSysfs_of_link hopen hlink hlen, hdrop, if_neg hsearch]
    exact mt Option.map_eq_none_iff.mp hparent

/-- **The driver test depends on the target only** exactly for a link to the driver: then the
    decision is the same whatever the buffer held, and the search does not leave the target. -/
theorem driver_check_iff : DriverExact F sysfsPath target ↔ mlx5Driver <:+: target := by
  constructor
  · intro h
    have hreads := h.reads (List.replicate PATH_MAX '\x00') List.length_replicate _
      (driverTmp_eq hopen hlink hlen _)
    exact (strstrReads_le_iff hstr _ _).mp hreads
  · intro hdriver
    have hfound (stale : List Char) := strstr_append hstr (stale.drop target.length) _ hdriver
    refine ⟨fun stale stale' _ _ => ?_, fun stale _ => ?_, fun stale _ tmp htmp => ?_⟩
    · unfold checkFwctl
      rw [checkSysfs_of_link hopen hlink hlen, checkSysfs_of_link hopen hlink hlen,
        if_neg (hfound stale), if_neg (hfound stale')]
    · rw [passesDriver_iff hopen hlink hlen]
      exact iff_of_true (hfound stale) hdriver
    · rw [driverTmp_eq hopen hlink hlen] at htmp
      cases htmp
      exact (strstrReads_le_iff hstr _ _).mpr hdriver

end Link

/-- A device of the driver. -/
theorem shallow_driver : DriverExact (sysfs shallow) "/sys/class/fwctl/fwctl0".toList
    "../../../bus/pci/drivers/mlx5_core".toList := by
  have hdriver : mlx5Driver <:+: "../../../bus/pci/drivers/mlx5_core".toList :=
    ⟨"../../../bus/pci/".toList, [], by decide +kernel⟩
  have hopen : (sysfs shallow).openDir "/sys/class/fwctl/fwctl0".toList ≠ -1 := by decide
  exact (driver_check_iff hopen rfl (by decide +kernel) (by decide)).mpr hdriver

/-- The same devices, of another driver. -/
def otherDriver : FileSys :=
  { sysfs shallow with readlinkat := fun _ _ => some "../../../bus/pci/drivers/mlx4_core".toList }

/-- A link to another driver, and two contents of the buffer with different decisions. -/
theorem other_driver_passes :
    ¬ mlx5Driver <:+: "../../../bus/pci/drivers/mlx4_core".toList ∧
    (∃ stale stale', stale.length = PATH_MAX ∧ stale'.length = PATH_MAX ∧
      checkFwctl otherDriver stale "/sys/class/fwctl/fwctl0".toList = none ∧
      checkFwctl otherDriver stale' "/sys/class/fwctl/fwctl0".toList ≠ none) ∧
    ¬ DriverExact otherDriver "/sys/class/fwctl/fwctl0".toList
      "../../../bus/pci/drivers/mlx4_core".toList := by
  have hother : ¬ mlx5Driver <:+: "../../../bus/pci/drivers/mlx4_core".toList := by
    decide +kernel
  have hopen : otherDriver.openDir "/sys/class/fwctl/fwctl0".toList ≠ -1 := by decide
  have hparent : parentPath otherDriver "/sys/class/fwctl/fwctl0".toList ≠ none := by
    decide +kernel
  have hdecides := leftover_decides hopen rfl (by decide +kernel) (by decide) hother hparent
    (by decide +kernel)
  refine ⟨hother, hdecides, fun h => ?_⟩
  obtain ⟨stale, stale', hstale, hstale', hrejected, hpasses⟩ := hdecides
  exact hpasses ((h.decision stale' stale hstale' hstale).trans hrejected)

end Mlx5ctl
