/-
  mlx5ctlu.c: how a command line is run.

  `main` looks for a device among its words, opens it, and runs the command behind the `sleep`s on
  it, once (`main_opens`, `runCommand_innermost`). Opening a device prints nothing
  (`mlx5uOpen_out`), and the value of the command is what `main` returns, without its sign.
-/
import Mlx5ctl.Dispatch

namespace Mlx5ctl

open ByteMem CString

variable {σ : Type}

/-! ## What is returned -/

/-- What `main` returned, if it did. -/
def Outcome.code : Outcome σ Int → Option Int
  | .ret v _ => some v
  | .exit _ _ => none
  | .segv _ => none

/-- The value of a command as `main` returns it. -/
theorem fold_code (ret : Int) :
    (some (if 0 < ret then ret else -ret) = some (0 : Int)) ↔ some ret = some (0 : Int) := by
  simp only [Option.some.injEq]
  split_ifs <;> omega

/-- What returned went on from what returned. -/
theorem Outcome.bind_eq_ret {α β : Type} {o : Outcome σ α} {f : α → World σ → Outcome σ β} {b : β}
    {v : World σ} (h : o.bind f = .ret b v) : ∃ a u, o = .ret a u ∧ f a u = .ret b v := by
  cases o with
  | ret a u => exact ⟨a, u, rfl, h⟩
  | exit code u => cases h
  | segv u => cases h

/-! ## Opening a device -/

theorem scanCtlDevs_out {K : Sys σ} {F : FileSys} {stale : Nat → List Char} {w v : World σ}
    {devs : List Mlx5ctlDev} (h : scanCtlDevs K F stale w = .ret (some devs) v) :
    v.out = w.out := by
  unfold scanCtlDevs at h
  dsimp only at h
  split_ifs at h
  · cases h
  · cases h
  · split at h
    · cases h
    · cases h
      rfl

theorem findDev_out {K : Sys σ} {F : FileSys} {stale : Nat → List Char} {w v : World σ}
    {str : CStr} {dev : Mlx5uDev} (h : findDev K F stale w str = .ret (some dev) v) :
    v.out = w.out := by
  unfold findDev at h
  dsimp only at h
  split_ifs at h
  · cases h
    rfl
  · cases h
    rfl
  · obtain ⟨devs, u, hscan, hopen⟩ := Outcome.bind_eq_ret h
    cases devs with
    | none => cases hopen
    | some devs =>
        injection hopen with _ hv
        rw [← hv]
        exact scanCtlDevs_out hscan

/-- A device that is found is opened in silence. -/
theorem mlx5uOpen_out {K : Sys σ} {F : FileSys} {stale : Nat → List Char} {w v : World σ}
    {name : CStr} {dev : Mlx5uDev} (h : mlx5uOpen K F stale w name = .ret (some dev) v) :
    v.out = w.out := by
  unfold mlx5uOpen at h
  dsimp only at h
  split at h
  · cases h
  · obtain ⟨found, u, hfind, hret⟩ := Outcome.bind_eq_ret h
    cases found with
    | none => cases hret
    | some d =>
        injection hret with _ hv
        have hout := findDev_out hfind
        rwa [hv] at hout

/-! ## The command -/

section Line

variable (E : Env σ)

theorem innermost_length (argv : List CStr) : (innermost argv).length ≤ argv.length := by
  induction argv using innermost.induct with
  | case1 time argv ih =>
      show (innermost argv).length ≤ argv.length + 2
      omega
  | case2 name time argv hname => rw [innermost, if_neg hname]
  | case3 argv hshort => rw [innermost.eq_2 argv hshort]

/-- The command behind the `sleep`s is run, and a `sleep` drops what it returned. -/
theorem runCommand_innermost {helpCmd : CStr} {dev : Mlx5uDev} {n : Nat} {w : World σ}
    {argv : List CStr} {o : Outcome σ Int} (h : runCommand E helpCmd dev n w argv = some o) :
    ∃ o', runCommand E helpCmd dev n w (innermost argv) = some o' ∧ o'.w = o.w ∧
      (innermost argv = argv → o' = o) := by
  induction argv using innermost.induct generalizing o with
  | case1 time argv ih =>
      obtain ⟨o₁, ho₁, rfl⟩ := Option.map_eq_some_iff.mp h
      obtain ⟨o', ho', hw, -⟩ := ih ho₁
      refine ⟨o', ho', hw.trans (by cases o₁ <;> rfl), fun heq => ?_⟩
      have hlen := innermost_length argv
      have heq : innermost argv = "sleep".toList :: time :: argv := heq
      rw [heq] at hlen
      simp only [List.length_cons] at hlen
      omega
  | case2 name time argv hname =>
      have hin : innermost (name :: time :: argv) = name :: time :: argv := if_neg hname
      rw [hin]
      exact ⟨o, h, rfl, fun _ => rfl⟩
  | case3 argv hshort =>
      rw [innermost.eq_2 argv hshort]
      exact ⟨o, h, rfl, fun _ => rfl⟩

/-- `main` with a device. -/
theorem main_device {words : List CStr} {name : CStr} {argv : List CStr}
    (h : deviceWords words = some (name, argv)) (n : Nat) (w : World σ) :
    main E n w words = runMain E (words.headD []) n w (name :: argv) := by
  match words with
  | [] => cases h
  | [_] => cases h
  | helpCmd :: word :: rest =>
      unfold deviceWords at h
      unfold main
      dsimp only at h ⊢
      split_ifs at h ⊢ with hword hverbose
      · match rest with
        | [] => cases h
        | _ :: _ =>
            cases h
            rfl
      · cases h
        rfl

/-- A command line with a device: it is opened, and the command run on it, or `main` does not
    return 0. -/
theorem main_opens {words : List CStr} {name : CStr} {argv : List CStr}
    (hdev : deviceWords words = some (name, argv)) {n : Nat} {w : World σ} {o : Outcome σ Int}
    (h : main E n w words = some o) :
    (∃ dev v o', mlx5uOpen E.sys.toSys E.files E.stale w name = .ret (some dev) v ∧
      runCommand E (words.headD []) dev n v argv = some o' ∧
      o = o'.bind fun ret w => .ret (if 0 < ret then ret else -ret) w) ∨
    (o.w.sys = (mlx5uOpen E.sys.toSys E.files E.stale w name).w.sys ∧ o.code ≠ some 0) := by
  rw [main_device E hdev] at h
  unfold runMain at h
  dsimp only at h
  cases ho : mlx5uOpen E.sys.toSys E.files E.stale w name with
  | exit code v =>
      rw [ho] at h
      cases h
      exact .inr ⟨rfl, by simp [Outcome.code]⟩
  | segv v =>
      rw [ho] at h
      cases h
      exact .inr ⟨rfl, by simp [Outcome.code]⟩
  | ret dev v =>
      rw [ho] at h
      cases dev with
      | none =>
          cases h
          exact .inr ⟨rfl, by simp [Outcome.code]⟩
      | some dev =>
          obtain ⟨o', hrun, rfl⟩ := Option.map_eq_some_iff.mp h
          exact .inl ⟨dev, v, o', rfl, hrun, rfl⟩

end Line

end Mlx5ctl
