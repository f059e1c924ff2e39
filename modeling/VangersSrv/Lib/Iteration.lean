/-
Loops as partial functions.

One round of a loop leads to the next state or ends it.  A loop whose rounds raise a measure
that has a bound ends, and one that comes back to a state at once does not.
-/
import Mathlib.Data.Option.Basic

namespace Iteration

variable {σ : Type*}

/-- The state after some rounds, unless the loop has ended by then. -/
def after (next : σ → Option σ) (s : σ) : Nat → Option σ
  | 0 => some s
  | rounds + 1 => (after next s rounds).bind next

def Ends (next : σ → Option σ) (s : σ) : Prop := ∃ rounds, after next s rounds = none

variable {next : σ → Option σ} {s a b : σ} {n : Nat}

theorem after_succ : after next s (n + 1) = some b ↔ ∃ a, after next s n = some a ∧ next a = some b :=
  Option.bind_eq_some_iff

/-- Rounds from the front. -/
theorem after_succ' : after next s (n + 1) = (next s).bind fun a => after next a n := by
  induction n with
  | zero => cases hs : next s <;> simp [after, hs]
  | succ n ih =>
      rw [after, ih, Option.bind_assoc]
      rfl

/-- Where every round raises the measure, it has counted the rounds. -/
theorem le_measure (μ : σ → Nat)
    (h : ∀ n a b, after next s n = some a → next a = some b → μ a < μ b) :
    ∀ n a, after next s n = some a → n ≤ μ a := by
  intro n
  induction n with
  | zero => exact fun a _ => Nat.zero_le _
  | succ n ih =>
      intro b hb
      obtain ⟨a, ha, hnext⟩ := after_succ.mp hb
      have hle := ih a ha
      have hlt := h n a b ha hnext
      omega

/-- **Progress below a bound ends the loop.** -/
theorem ends_of_measure (μ : σ → Nat) (bound : Nat)
    (h : ∀ n a b, after next s n = some a → next a = some b → μ a < μ b ∧ μ b ≤ bound) :
    Ends next s := by
  by_contra hnever
  have hsome : ∀ n, ∃ a, after next s n = some a := fun n =>
    Option.ne_none_iff_exists'.mp fun hn => hnever ⟨n, hn⟩
  obtain ⟨b, hb⟩ := hsome (bound + 1)
  obtain ⟨a, ha, hnext⟩ := after_succ.mp hb
  have hle := le_measure μ (fun n a b ha hnext => (h n a b ha hnext).1) (bound + 1) b hb
  have hbound := (h bound a b ha hnext).2
  omega

/-- A round that leads back to its state comes again for ever. -/
theorem after_of_fixed (h : after next s n = some a) (hfix : next a = some a) (k : Nat) :
    after next s (n + k) = some a := by
  induction k with
  | zero => exact h
  | succ k ih => exact after_succ.mpr ⟨a, ih, hfix⟩

theorem after_none_mono (h : after next s n = none) (k : Nat) : after next s (n + k) = none := by
  induction k with
  | zero => exact h
  | succ k ih =>
      rw [← Nat.add_assoc, after, ih]
      rfl

theorem not_ends_of_fixed (h : after next s n = some a) (hfix : next a = some a) :
    ¬ Ends next s := by
  rintro ⟨rounds, hnone⟩
  have hnone' := after_none_mono hnone n
  rw [Nat.add_comm, after_of_fixed h hfix rounds] at hnone'
  cases hnone'

end Iteration
