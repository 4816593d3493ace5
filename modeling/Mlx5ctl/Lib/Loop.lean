/-
  Loops that may run forever.

  A loop body maps a state to a `Turn`: it leaves the loop with a result or goes round again.
  `run body n s` is what is known after at most `n` turns from `s`. Every state of a run is
  some `run body n s = .again t`, and the loop ends exactly when some `run body n s` is an
  `exit`; nothing here assumes that it does.

  * `run_invariant`: a property of the state that a turn keeps holds after every number of
    turns, and of what the loop leaves with.
  * `bind_run_invariant`: the same, with what comes before the loop.
  * `run_step_iff`: where a state that satisfies an invariant is good exactly when its input fits,
    and fitting inputs keep the invariant, all states of a run are good exactly when all their
    inputs fit.
  * `ends_of_measure`: a turn that goes round again lowers a measure, so the loop ends within
    that many turns.
  * `not_ends_of_closed`: a set of states that no turn leaves is never left.
-/
import Mathlib.Tactic.Common

/-- What one turn of a loop body does. -/
inductive Turn (σ ρ : Type) where
  | exit (r : ρ)
  | again (s : σ)

namespace Turn

variable {σ ρ : Type}

/-- Go on with `f` if the loop was not left. -/
def bind (t : Turn σ ρ) (f : σ → Turn σ ρ) : Turn σ ρ :=
  match t with
  | exit r => exit r
  | again s => f s

@[simp] theorem bind_exit (r : ρ) (f : σ → Turn σ ρ) : (exit r).bind f = exit r := rfl

@[simp] theorem bind_again (s : σ) (f : σ → Turn σ ρ) : (again s).bind f = f s := rfl

theorem bind_eq_again {t : Turn σ ρ} {f : σ → Turn σ ρ} {u : σ} (h : t.bind f = again u) :
    ∃ s, t = again s ∧ f s = again u := by
  cases t with
  | exit r => cases h
  | again s => exact ⟨s, rfl, h⟩

theorem bind_assoc (t : Turn σ ρ) (f g : σ → Turn σ ρ) :
    (t.bind f).bind g = t.bind fun s => (f s).bind g := by
  cases t <;> rfl

/-- At most `n` turns of `body` from `s`. -/
def run (body : σ → Turn σ ρ) : Nat → σ → Turn σ ρ
  | 0, s => again s
  | n + 1, s => (body s).bind (run body n)

variable {body : σ → Turn σ ρ}

@[simp] theorem run_zero (s : σ) : run body 0 s = again s := rfl

theorem run_succ (n : Nat) (s : σ) : run body (n + 1) s = (body s).bind (run body n) := rfl

theorem run_add (m n : Nat) (s : σ) : run body (m + n) s = (run body m s).bind (run body n) := by
  induction m generalizing s with
  | zero => simp
  | succ m ih =>
      rw [Nat.succ_add, run_succ, run_succ]
      cases body s with
      | exit r => rfl
      | again t => exact ih t

/-- The last turn taken apart. -/
theorem run_succ' (n : Nat) (s : σ) : run body (n + 1) s = (run body n s).bind body := by
  rw [run_add]
  congr 1
  funext t
  rw [run_succ]
  cases body t <;> rfl

/-- A run that is still going took each of its turns. -/
theorem run_succ_again {n : Nat} {s u : σ} (h : run body (n + 1) s = again u) :
    ∃ t, run body n s = again t ∧ body t = again u := by
  rw [run_succ'] at h
  exact bind_eq_again h

/-- More turns change nothing once the loop is left. -/
theorem run_exit_mono {m n : Nat} {s : σ} {r : ρ} (h : run body m s = exit r) (hmn : m ≤ n) :
    run body n s = exit r := by
  obtain ⟨k, rfl⟩ := Nat.exists_eq_add_of_le hmn
  rw [run_add, h, bind_exit]

/-- The same, with a `start` before the loop. -/
theorem bind_run_exit_mono {m n : Nat} {start : Turn σ ρ} {r : ρ}
    (h : start.bind (run body m) = exit r) (hmn : m ≤ n) : start.bind (run body n) = exit r := by
  cases start with
  | exit r' => exact h
  | again s => exact run_exit_mono h hmn

/-- The loop from `s` ends. -/
def Ends (body : σ → Turn σ ρ) (s : σ) : Prop := ∃ n r, run body n s = exit r

/-- `P` of the state a turn goes round with, `Q` of what it leaves with. -/
def Post (P : σ → Prop) (Q : ρ → Prop) : Turn σ ρ → Prop
  | exit r => Q r
  | again s => P s

instance {P : σ → Prop} {Q : ρ → Prop} [DecidablePred P] [DecidablePred Q] (t : Turn σ ρ) :
    Decidable (Post P Q t) :=
  match t with
  | exit r => inferInstanceAs (Decidable (Q r))
  | again s => inferInstanceAs (Decidable (P s))

theorem Post.mono {P P' : σ → Prop} {Q Q' : ρ → Prop} {t : Turn σ ρ} (h : Post P Q t)
    (hP : ∀ s, P s → P' s) (hQ : ∀ r, Q r → Q' r) : Post P' Q' t := by
  cases t with
  | exit r => exact hQ r h
  | again s => exact hP s h

/-- A property kept by every turn taken in the run holds after every number of turns. A turn
    may use that its state is one the run reaches. -/
theorem run_invariant {P : σ → Prop} {Q : ρ → Prop} {s : σ} (h0 : P s)
    (step : ∀ n t, run body n s = again t → P t → Post P Q (body t)) (n : Nat) :
    Post P Q (run body n s) := by
  induction n with
  | zero => exact h0
  | succ n ih =>
      rw [run_succ']
      cases h : run body n s with
      | exit r => rw [h] at ih; exact ih
      | again t => rw [h] at ih; exact step n t h ih

/-- The same for a loop with a `start` before it, which may leave at once. -/
theorem bind_run_invariant {P : σ → Prop} {Q : ρ → Prop} {start : Turn σ ρ}
    (h0 : Post P Q start)
    (step : ∀ n t, start.bind (run body n) = again t → P t → Post P Q (body t)) (n : Nat) :
    Post P Q (start.bind (run body n)) := by
  cases start with
  | exit r => exact h0
  | again s => exact run_invariant (show P s from h0) step n

/-- The same, for the states of the run only. -/
theorem run_again_invariant {P : σ → Prop} {s u : σ} {n : Nat} (h0 : P s)
    (step : ∀ t t', P t → body t = again t' → P t') (h : run body n s = again u) : P u := by
  induction n generalizing u with
  | zero => cases h; exact h0
  | succ n ih =>
      obtain ⟨t, ht, hu⟩ := run_succ_again h
      exact step t u (ih ht) hu

/-- A state that satisfies `P` is good exactly when it fits, and one that fits goes on to a state
    that satisfies `P`: the states of the first `n` turns are good exactly when they fit. -/
theorem run_step_iff {P Good Fits : σ → Prop} {s : σ} (h0 : P s)
    (good : ∀ t, P t → (Good t ↔ Fits t))
    (step : ∀ t t', P t → Fits t → body t = again t' → P t') (n : Nat) :
    (∀ k < n, ∀ t, run body k s = again t → Good t) ↔
      ∀ k < n, ∀ t, run body k s = again t → Fits t := by
  have reached : ∀ k ≤ n, (∀ j < k, ∀ t, run body j s = again t → P t → Fits t) →
      ∀ t, run body k s = again t → P t := by
    intro k
    induction k with
    | zero =>
        intro _ _ t ht
        cases ht
        exact h0
    | succ k ih =>
        intro hk hfits t' ht'
        obtain ⟨t, ht, hbody⟩ := run_succ_again ht'
        have hP := ih (by omega) (fun j hj => hfits j (by omega)) t ht
        exact step t t' hP (hfits k (by omega) t ht hP) hbody
  constructor
  · intro h k hk t ht
    have hP := reached k (Nat.le_of_lt hk)
      (fun j hj u hu hPu => (good u hPu).mp (h j (by omega) u hu)) t ht
    exact (good t hP).mp (h k hk t ht)
  · intro h k hk t ht
    have hP := reached k (Nat.le_of_lt hk) (fun j hj u hu _ => h j (by omega) u hu) t ht
    exact (good t hP).mpr (h k hk t ht)

/-- Each turn that goes round again lowers `m`: the loop ends within `m s + 1` turns. -/
theorem ends_of_measure (m : σ → Nat) {P : σ → Prop}
    (step : ∀ t t', P t → body t = again t' → P t' ∧ m t' < m t) (s : σ) (h0 : P s) :
    ∃ r, run body (m s + 1) s = exit r := by
  generalize hk : m s = k
  induction k using Nat.strongRecOn generalizing s with
  | ind k ih =>
      rw [run_succ]
      cases hb : body s with
      | exit r => exact ⟨r, rfl⟩
      | again t =>
          obtain ⟨hP, hlt⟩ := step s t h0 hb
          obtain ⟨r, hr⟩ := ih (m t) (by omega) t hP rfl
          exact ⟨r, run_exit_mono hr (by omega)⟩

/-- A set of states that no turn leaves is never left. -/
theorem not_ends_of_closed {P : σ → Prop} (step : ∀ t, P t → ∃ t', body t = again t' ∧ P t')
    {s : σ} (h0 : P s) : ¬ Ends body s := by
  have all : ∀ n, ∃ t, run body n s = again t ∧ P t := by
    intro n
    induction n with
    | zero => exact ⟨s, rfl, h0⟩
    | succ n ih =>
        obtain ⟨t, ht, hP⟩ := ih
        obtain ⟨t', hb, hP'⟩ := step t hP
        exact ⟨t', by rw [run_succ', ht, bind_again, hb], hP'⟩
  rintro ⟨n, r, hr⟩
  obtain ⟨t, ht, _⟩ := all n
  rw [hr] at ht
  cases ht

/-- A loop that a later state of its run never leaves is never left. -/
theorem not_ends_of_run {s t : σ} {n : Nat} (h : run body n s = again t)
    (ht : ¬ Ends body t) : ¬ Ends body s := by
  rintro ⟨k, r, hr⟩
  have := run_exit_mono hr (Nat.le_add_left k n)
  rw [run_add, h, bind_again] at this
  exact ht ⟨k, r, this⟩

end Turn
