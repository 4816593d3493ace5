/-
  Labelled runs.

  `Run step l s t`: the steps with the labels of `l`, one after another, lead from `s` to `t`. A
  run splits where its labels do (`run_append`), a run of one system is a run of another that has
  each of its steps through a map of the states (`Run.map`), and what each of its steps keeps is
  kept (`Run.keeps`).
-/
import Mathlib.Tactic.Common

namespace Transition

variable {σ τ ι : Type}

/-- The steps with these labels, one after another. -/
inductive Run (step : ι → σ → σ → Prop) : List ι → σ → σ → Prop
  | nil (s : σ) : Run step [] s s
  | cons {i : ι} {l : List ι} {s t u : σ} : step i s t → Run step l t u → Run step (i :: l) s u

variable {step : ι → σ → σ → Prop}

theorem run_append {l m : List ι} {s u : σ} :
    Run step (l ++ m) s u ↔ ∃ t, Run step l s t ∧ Run step m t u := by
  constructor
  · induction l generalizing s with
    | nil => exact fun h => ⟨s, .nil s, h⟩
    | cons i l ih =>
        intro h
        cases h with
        | cons hstep hrest =>
            obtain ⟨t, hl, hm⟩ := ih hrest
            exact ⟨t, .cons hstep hl, hm⟩
  · rintro ⟨t, hl, hm⟩
    induction hl with
    | nil => exact hm
    | cons hstep _ ih => exact .cons hstep (ih hm)

/-- The same labels in another system. -/
theorem Run.map {step' : ι → τ → τ → Prop} {f : σ → τ}
    (h : ∀ i s t, step i s t → step' i (f s) (f t)) {l : List ι} {s t : σ} (hrun : Run step l s t) :
    Run step' l (f s) (f t) := by
  induction hrun with
  | nil s => exact .nil (f s)
  | cons hstep _ ih => exact .cons (h _ _ _ hstep) ih

/-- What each step of the run keeps. -/
theorem Run.keeps {P : σ → Prop} {l : List ι} {s t : σ} (hrun : Run step l s t)
    (h : ∀ i ∈ l, ∀ s t, step i s t → P s → P t) (hs : P s) : P t := by
  induction hrun with
  | nil => exact hs
  | cons hstep _ ih =>
      refine ih (fun i hi => h i (List.mem_cons_of_mem _ hi)) ?_
      exact h _ List.mem_cons_self _ _ hstep hs

end Transition
