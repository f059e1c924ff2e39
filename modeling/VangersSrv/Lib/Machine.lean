/-
Machines that answer.

A machine takes an input, moves to its next state and gives an answer.  What it does is seen
in its answers only: two machines whose steps keep a relation between their states, and that
answer alike in related states, cannot be told apart by any sequence of inputs.
-/
import Mathlib.Data.List.Basic

/-- A state to start in, and for each input the next state and the answer. -/
structure Machine (σ ι ο : Type*) where
  start : σ
  step : σ → ι → σ × ο

namespace Machine

variable {σ τ ι ο : Type*}

/-- The state after inputs, the first of them first. -/
def after (M : Machine σ ι ο) : σ → List ι → σ
  | s, [] => s
  | s, i :: rest => M.after (M.step s i).1 rest

/-- The answers to inputs. -/
def answers (M : Machine σ ι ο) : σ → List ι → List ο
  | _, [] => []
  | s, i :: rest => (M.step s i).2 :: M.answers (M.step s i).1 rest

/-- `M` refines `N`: each step keeps the states related, and the answers are the same. -/
structure Refines (M : Machine σ ι ο) (N : Machine τ ι ο) (R : σ → τ → Prop) : Prop where
  start : R M.start N.start
  step : ∀ s t i, R s t → R (M.step s i).1 (N.step t i).1
  answer : ∀ s t i, R s t → (M.step s i).2 = (N.step t i).2

variable {M : Machine σ ι ο} {N : Machine τ ι ο} {R : σ → τ → Prop} {s : σ} {t : τ}

/-- Related states stay related. -/
theorem Refines.after (h : M.Refines N R) (hR : R s t) (inputs : List ι) :
    R (M.after s inputs) (N.after t inputs) := by
  induction inputs generalizing s t with
  | nil => exact hR
  | cons i rest ih => exact ih (h.step s t i hR)

/-- From related states on the answers are the same. -/
theorem Refines.answers (h : M.Refines N R) (hR : R s t) (inputs : List ι) :
    M.answers s inputs = N.answers t inputs := by
  induction inputs generalizing s t with
  | nil => rfl
  | cons i rest ih =>
      have hrest : M.answers (M.step s i).1 rest = N.answers (N.step t i).1 rest :=
        ih (h.step s t i hR)
      rw [Machine.answers, Machine.answers, h.answer s t i hR, hrest]

end Machine
