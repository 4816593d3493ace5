/-
  Ledgers of things that are acquired and released.

  A run is the list of its `Step`s. `replay` keeps the stack of what is held: a release must name
  what was acquired last of all that is still held. So a run from an empty stack to an empty
  stack releases everything it acquired once, under the handle it was acquired with, nothing
  else, and each before whatever it was acquired after.

  `bracket hs` acquires the handles in order and releases them in the opposite order.
-/
import Mathlib.Tactic.Common

namespace Ledger

variable {H : Type}

/-- One entry of a ledger. -/
inductive Step (H : Type) where
  | acquire (h : H)
  | release (h : H)
  deriving DecidableEq

/-- What is held after the steps, the last acquired first; `none` where a step releases
    something else. -/
def replay [DecidableEq H] : List H → List (Step H) → Option (List H)
  | held, [] => some held
  | held, .acquire h :: l => replay (h :: held) l
  | [], .release _ :: _ => none
  | h' :: held, .release h :: l => if h = h' then replay held l else none

/-- Acquire in order, release in the opposite order. -/
def bracket (hs : List H) : List (Step H) := hs.map .acquire ++ hs.reverse.map .release

@[simp] theorem bracket_nil : bracket ([] : List H) = [] := rfl

/-- One more handle outside. -/
theorem bracket_cons (h : H) (hs : List H) :
    bracket (h :: hs) = .acquire h :: (bracket hs ++ [.release h]) := by
  simp [bracket]

variable [DecidableEq H]

theorem replay_append (held : List H) (l m : List (Step H)) :
    replay held (l ++ m) = (replay held l).bind fun held => replay held m := by
  induction l generalizing held with
  | nil => rfl
  | cons s l ih =>
      cases s with
      | acquire h => exact ih (h :: held)
      | release h =>
          cases held with
          | nil => rfl
          | cons h' held =>
              simp only [List.cons_append, replay]
              split_ifs
              · exact ih held
              · rfl

/-- A bracket leaves what was held before it. -/
theorem replay_bracket (held hs : List H) : replay held (bracket hs) = some held := by
  induction hs generalizing held with
  | nil => rfl
  | cons h hs ih =>
      rw [bracket_cons, replay, replay_append, ih]
      simp [replay]

end Ledger
