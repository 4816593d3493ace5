/-
  Loops that share a state and take their turns in any order.

  `Loops` is a family of loops with the state they share. An entry of a schedule is a turn of one
  of them, which finds the shared state as the others left it, or something else that happens to
  that state. A loop that was left stays as it is.

  `turns_state` is the rule for such runs: where a turn of a loop takes what holds of it after `k`
  turns to what holds after `k + 1`, whatever the shared state, then after any schedule that holds
  of each loop which its own number of turns says.
-/
import Mathlib.Data.List.Count
import Mathlib.Logic.Function.Basic
import Mathlib.Data.Sum.Basic
import Mlx5ctl.Lib.Loop

namespace Turn

variable {ι σ τ ρ : Type}

/-- What the loops share, and what each has come to. -/
structure Loops (ι σ τ ρ : Type) where
  shared : σ
  state : ι → Turn τ ρ

/-- How often a loop is named in a schedule. -/
def turnsOf [DecidableEq ι] (schedule : List (ι ⊕ (σ → σ))) (i : ι) : Nat :=
  (schedule.filterMap Sum.getLeft?).count i

namespace Loops

variable [DecidableEq ι] (body : ι → σ → τ → Turn τ ρ × σ)

/-- One entry of a schedule. -/
def turn (m : Loops ι σ τ ρ) : ι ⊕ (σ → σ) → Loops ι σ τ ρ
  | .inl i =>
      match m.state i with
      | exit _ => m
      | again t => ⟨(body i m.shared t).2, Function.update m.state i (body i m.shared t).1⟩
  | .inr f => { m with shared := f m.shared }

/-- The entries of a schedule, one after the other. -/
def turns (m : Loops ι σ τ ρ) (schedule : List (ι ⊕ (σ → σ))) : Loops ι σ τ ρ :=
  schedule.foldl (turn body) m

variable {P : ι → Nat → Turn τ ρ → Prop}

/-- What one entry does to each loop. -/
theorem turn_state (step : ∀ i k s t, P i k (again t) → P i (k + 1) (body i s t).1)
    (left : ∀ i k r, P i k (exit r) → P i (k + 1) (exit r))
    {m : Loops ι σ τ ρ} {k : ι → Nat} (h : ∀ i, P i (k i) (m.state i)) (e : ι ⊕ (σ → σ)) (i : ι) :
    P i (k i + turnsOf [e] i) ((m.turn body e).state i) := by
  cases e with
  | inr f => exact h i
  | inl j =>
      have hone : turnsOf (σ := σ) [.inl j] i = if j = i then 1 else 0 := by
        simp [turnsOf, List.count_singleton, beq_iff_eq]
      have hi := h i
      rw [hone]
      unfold turn
      dsimp only
      by_cases hji : j = i
      · subst hji
        rw [if_pos rfl]
        cases hm : m.state j with
        | exit r =>
            rw [hm] at hi
            simpa [hm] using left j (k j) r hi
        | again t =>
            rw [hm] at hi
            simpa using step j (k j) m.shared t hi
      · rw [if_neg hji]
        split
        · exact hi
        · simpa [Function.update_of_ne (Ne.symm hji)] using hi

/-- After any schedule each loop is where its own number of turns takes it. -/
theorem turns_state (step : ∀ i k s t, P i k (again t) → P i (k + 1) (body i s t).1)
    (left : ∀ i k r, P i k (exit r) → P i (k + 1) (exit r))
    {m : Loops ι σ τ ρ} {k : ι → Nat} (h : ∀ i, P i (k i) (m.state i))
    (schedule : List (ι ⊕ (σ → σ))) (i : ι) :
    P i (k i + turnsOf schedule i) ((m.turns body schedule).state i) := by
  induction schedule generalizing m k with
  | nil => exact h i
  | cons e schedule ih =>
      have hrest := ih (turn_state body step left h e)
      have hsplit : turnsOf (e :: schedule) i = turnsOf [e] i + turnsOf schedule i := by
        unfold turnsOf
        rw [← List.count_append, ← List.filterMap_append]
        rfl
      rw [hsplit, ← Nat.add_assoc]
      exact hrest

end Loops

end Turn
