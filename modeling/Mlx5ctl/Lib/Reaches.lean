/-
  States that are reached by calls.

  `after s c` is the state after the call `c` in the state `s`. `Reaches after A s t` says that `t`
  is the state after some list of calls from `s`, all of kind `A`. It is reflexive and transitive
  and has every call of the kind, so it goes through any composition of functions that call. What
  each call of the kind keeps is kept (`Reaches.keeps`).
-/
import Mathlib.Tactic.Common

namespace Transition

variable {σ τ ι κ : Type}

/-- The state is reached by calls of the kind. -/
def Reaches (after : σ → ι → σ) (A : ι → Prop) (s t : σ) : Prop :=
  ∃ calls : List ι, t = calls.foldl after s ∧ ∀ c ∈ calls, A c

namespace Reaches

variable {after : σ → ι → σ} {A B : ι → Prop} {s t u : σ}

theorem refl (s : σ) : Reaches after A s s := ⟨[], rfl, by simp⟩

theorem trans (h : Reaches after A s t) (h' : Reaches after A t u) : Reaches after A s u := by
  obtain ⟨calls, rfl, hA⟩ := h
  obtain ⟨calls', rfl, hA'⟩ := h'
  refine ⟨calls ++ calls', by simp, fun c hc => ?_⟩
  rcases List.mem_append.mp hc with hc | hc
  · exact hA c hc
  · exact hA' c hc

theorem one {c : ι} (h : A c) (s : σ) : Reaches after A s (after s c) := ⟨[c], rfl, by simpa⟩

theorem mono (hAB : ∀ c, A c → B c) (h : Reaches after A s t) : Reaches after B s t := by
  obtain ⟨calls, ht, hA⟩ := h
  exact ⟨calls, ht, fun c hc => hAB c (hA c hc)⟩

/-- What each call of the kind keeps. -/
theorem keeps {P : σ → Prop} (step : ∀ s c, A c → P s → P (after s c))
    (h : Reaches after A s t) (hs : P s) : P t := by
  obtain ⟨calls, rfl, hA⟩ := h
  exact List.foldlRecOn calls after hs fun s hP c hc => step s c (hA c hc) hP

/-- A value that no call of the kind changes. -/
theorem same {f : σ → κ} (step : ∀ s c, A c → f (after s c) = f s) (h : Reaches after A s t) :
    f t = f s :=
  h.keeps (P := fun u => f u = f s) (fun u c hc hu => (step u c hc).trans hu) rfl

end Reaches

end Transition
