/-
  Options and exits.

  `getopt_long` belongs to the C library: an option loop is run on the list of what its calls
  return. A loop may end the process, or read `optarg` where there is none.
-/
import Mlx5ctl.Request
import Mlx5ctl.Lib.CString
import Mlx5ctl.Lib.Table

namespace Mlx5ctl

open ByteMem CString

variable {σ α β : Type}

/-- What one call of `getopt_long` returns: the option, and `optarg`. -/
structure Opt where
  c : Char
  optarg : Option CStr

/-- How a function ends: it returns, `exit` is called, or a null pointer is read. -/
inductive Outcome (σ α : Type) where
  | ret (a : α) (w : World σ)
  | exit (code : Int) (w : World σ)
  | segv (w : World σ)

namespace Outcome

/-- The world when it ends. -/
def w : Outcome σ α → World σ
  | ret _ w => w
  | exit _ w => w
  | segv w => w

/-- Go on with `f` if it returned. -/
def bind (o : Outcome σ α) (f : α → World σ → Outcome σ β) : Outcome σ β :=
  match o with
  | ret a w => f a w
  | exit code w => exit code w
  | segv w => segv w

@[simp] theorem bind_ret (a : α) (w : World σ) (f : α → World σ → Outcome σ β) :
    (ret a w).bind f = f a w := rfl

end Outcome

/-- The world after several lines of output. -/
def World.prints (w : World σ) (ls : List Line) : World σ := { w with out := w.out ++ ls }

@[simp] theorem World.print_sys (w : World σ) (l : Line) : (w.print l).sys = w.sys := rfl

@[simp] theorem World.prints_sys (w : World σ) (ls : List Line) : (w.prints ls).sys = w.sys := rfl

/-- A C string as an argument of a `printf`. -/
def textArg (s : CStr) : Arg := .text (String.ofList s)

/-- An option loop: `step` on each option, from the values so far. -/
def optionLoop (step : World σ → α → Opt → Outcome σ α) (w : World σ) (a : α) :
    List Opt → Outcome σ α
  | [] => .ret a w
  | o :: os => (step w a o).bind fun a w => optionLoop step w a os

/-- The last option is handled last. -/
theorem optionLoop_concat (step : World σ → α → Opt → Outcome σ α) (w : World σ) (a : α)
    (os : List Opt) (o : Opt) : optionLoop step w a (os ++ [o]) =
      (optionLoop step w a os).bind fun b v => step v b o := by
  induction os generalizing w a with
  | nil =>
      show (step w a o).bind _ = step w a o
      cases step w a o <;> rfl
  | cons p os ih =>
      rw [List.cons_append, optionLoop, optionLoop]
      cases step w a p with
      | ret b v => exact ih v b
      | exit code v => rfl
      | segv v => rfl

/-- A loop whose steps only print leaves the outside world alone. -/
theorem optionLoop_sys {step : World σ → α → Opt → Outcome σ α}
    (hstep : ∀ w a o, (step w a o).w.sys = w.sys) (w : World σ) (a : α) (os : List Opt) :
    (optionLoop step w a os).w.sys = w.sys := by
  induction os generalizing w a with
  | nil => rfl
  | cons o os ih =>
      have h := hstep w a o
      unfold optionLoop
      cases ho : step w a o with
      | ret b v =>
          rw [ho] at h
          exact (ih v b).trans h
      | exit code v =>
          rw [ho] at h
          exact h
      | segv v =>
          rw [ho] at h
          exact h

/-- What a loop that returns has made of its options: a relation of the values to a fold over the
    options, kept by every step that returns. -/
theorem optionLoop_ret {γ : Type} {step : World σ → α → Opt → Outcome σ α} {f : γ → Opt → γ}
    {R : α → γ → Prop} (hstep : ∀ w a c o b v, R a c → step w a o = .ret b v → R b (f c o))
    {w v : World σ} {a b : α} {c : γ} {os : List Opt} (h0 : R a c)
    (h : optionLoop step w a os = .ret b v) : R b (os.foldl f c) := by
  induction os generalizing w a c with
  | nil =>
      cases h
      exact h0
  | cons o os ih =>
      unfold optionLoop at h
      cases ho : step w a o with
      | ret a' w' =>
          rw [ho] at h
          exact ih (hstep w a c o a' w' h0 ho) h
      | exit code w' =>
          rw [ho] at h
          cases h
      | segv w' =>
          rw [ho] at h
          cases h

/-- The `optarg` of the last `--id`. -/
def lastId (opts : List Opt) : Option CStr :=
  opts.foldl (fun s o => if o.c = 'i' then o.optarg else s) none

/-- The value the last `--id` gives, in a loop where no other option touches it. -/
theorem optionLoop_lastId {step : World σ → α → Opt → Outcome σ α} {g : α → β} {value : CStr → β}
    (hstep : ∀ w a o b v, step w a o = .ret b v →
      if o.c = 'i' then ∃ s, o.optarg = some s ∧ g b = value s else g b = g a)
    {w v : World σ} {a b : α} {os : List Opt} (h : optionLoop step w a os = .ret b v) :
    g b = (lastId os).elim (g a) value := by
  refine optionLoop_ret (R := fun (x : α) (s : Option CStr) => g x = s.elim (g a) value)
    (c := none) (fun w x s o y v hR ho => ?_) rfl h
  have hid := hstep w x o y v ho
  split_ifs at hid ⊢
  · obtain ⟨t, ht, hy⟩ := hid
    rw [ht, hy]
    rfl
  · rw [hid, hR]

end Mlx5ctl
