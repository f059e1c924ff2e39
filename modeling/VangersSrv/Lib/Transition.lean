/-
Runs of a labelled transition system.

A system is a relation `step s e s'`: from `s` the event `e` leads to `s'`.  A run
is recorded with its events in order, the latest last, so that a property of a run
may speak of its whole history.  The rules here are the inductions every safety
proof starts with: an invariant that each step preserves holds at the end of a run,
and so does one about the state together with the events so far.
-/
import Mathlib.Logic.Basic

namespace Transition

variable {σ ε : Type*} {step : σ → ε → σ → Prop}

/-- `Run step s tr s'`: the events `tr` lead from `s` to `s'`. -/
inductive Run (step : σ → ε → σ → Prop) (s : σ) : List ε → σ → Prop
  | nil : Run step s [] s
  | snoc {tr : List ε} {mid last : σ} {e : ε} :
      Run step s tr mid → step mid e last → Run step s (tr ++ [e]) last

namespace Run

variable {s s' : σ} {tr : List ε}

/-- **The invariant rule.** -/
theorem invariant {P : σ → Prop} (h : Run step s tr s') (hinit : P s)
    (hstep : ∀ a e b, step a e b → P a → P b) : P s' := by
  induction h with
  | nil => exact hinit
  | snoc _ hlast ih => exact hstep _ _ _ hlast ih

/-- An invariant of the state and the events that led to it. -/
theorem history {P : List ε → σ → Prop} (h : Run step s tr s') (hinit : P [] s)
    (hstep : ∀ tr a e b, Run step s tr a → step a e b → P tr a → P (tr ++ [e]) b) : P tr s' := by
  induction h with
  | nil => exact hinit
  | snoc hrun hlast ih => exact hstep _ _ _ _ hrun hlast ih

/-- A run of a system is a run of every system with more steps. -/
theorem mono {step' : σ → ε → σ → Prop} (h : Run step s tr s')
    (himp : ∀ a e b, step a e b → step' a e b) : Run step' s tr s' := by
  induction h with
  | nil => exact Run.nil
  | snoc _ hlast ih => exact ih.snoc (himp _ _ _ hlast)

theorem append {tr₂ : List ε} {s'' : σ} (h₁ : Run step s tr s') (h₂ : Run step s' tr₂ s'') :
    Run step s (tr ++ tr₂) s'' := by
  induction h₂ with
  | nil => simpa using h₁
  | snoc _ hlast ih =>
      rw [← List.append_assoc]
      exact ih.snoc hlast

/-- A run over a split trace passes through a state in the middle. -/
theorem split {tr₁ tr₂ : List ε} (h : Run step s (tr₁ ++ tr₂) s') :
    ∃ mid, Run step s tr₁ mid ∧ Run step mid tr₂ s' := by
  generalize htr : tr₁ ++ tr₂ = tr at h
  induction h generalizing tr₂ with
  | nil =>
      obtain ⟨rfl, rfl⟩ := List.append_eq_nil_iff.mp htr
      exact ⟨s, Run.nil, Run.nil⟩
  | @snoc tr' mid last e hrun hlast ih =>
      rcases List.eq_nil_or_concat tr₂ with rfl | ⟨init, x, rfl⟩
      · rw [List.append_nil] at htr
        subst htr
        exact ⟨last, hrun.snoc hlast, Run.nil⟩
      · rw [List.concat_eq_append, ← List.append_assoc] at htr
        obtain ⟨hinit, hx⟩ := List.append_inj' htr rfl
        simp only [List.cons.injEq, and_true] at hx
        subst hx
        obtain ⟨m, hm₁, hm₂⟩ := ih hinit
        exact ⟨m, hm₁, by rw [List.concat_eq_append]; exact hm₂.snoc hlast⟩

/-- An invariant holds before every step of the run. -/
theorem guarded {P : σ → Prop} (h : Run step s tr s') (hinit : P s)
    (hstep : ∀ a e b, step a e b → P a → P b) : Run (fun a e b => step a e b ∧ P a) s tr s' := by
  induction h with
  | nil => exact Run.nil
  | snoc hrun hlast ih => exact ih.snoc ⟨hlast, hrun.invariant hinit hstep⟩

/-- **Projection.**  The steps of one kind are steps of another system, and what the others do is
not seen there. -/
theorem project {τ δ : Type*} {step' : τ → δ → τ → Prop} {f : σ → τ} {g : ε → Option δ}
    (h : Run step s tr s') (hkept : ∀ a e b d, step a e b → g e = some d → step' (f a) d (f b))
    (hquiet : ∀ a e b, step a e b → g e = none → f b = f a) :
    Run step' (f s) (tr.filterMap g) (f s') := by
  induction h with
  | nil => exact Run.nil
  | @snoc tr mid last e _ hlast ih =>
      rw [List.filterMap_append]
      cases hg : g e with
      | none =>
          rw [hquiet mid e last hlast hg, List.filterMap_cons_none hg, List.filterMap_nil,
            List.append_nil]
          exact ih
      | some d =>
          rw [List.filterMap_cons_some hg, List.filterMap_nil]
          exact ih.snoc (hkept mid e last d hlast hg)

/-- **The rule backwards.**  What every step takes over from the state before it held all along. -/
theorem backward {P : σ → Prop} (h : Run step s tr s') (hlast : P s')
    (hback : ∀ a e b, step a e b → P b → P a) :
    P s ∧ Run (fun a e b => step a e b ∧ P b) s tr s' := by
  induction h with
  | nil => exact ⟨hlast, Run.nil⟩
  | snoc _ hstep ih =>
      obtain ⟨hfirst, hrun⟩ := ih (hback _ _ _ hstep hlast)
      exact ⟨hfirst, hrun.snoc ⟨hstep, hlast⟩⟩

/-- **The first step of a kind**, if the run takes one. -/
theorem exists_first (W : σ → ε → σ → Prop) (h : Run step s tr s') :
    Run (fun a e b => step a e b ∧ ¬ W a e b) s tr s' ∨
      ∃ before e after a b, tr = before ++ e :: after ∧
        Run (fun a e b => step a e b ∧ ¬ W a e b) s before a ∧ step a e b ∧ W a e b ∧
        Run step b after s' := by
  induction h with
  | nil => exact Or.inl Run.nil
  | @snoc tr mid last e hrun hlast ih =>
      rcases ih with hnone | ⟨before, e', after, a, b, rfl, hbefore, hstep, hkind, hafter⟩
      · by_cases hW : W mid e last
        · exact Or.inr ⟨tr, e, [], mid, last, rfl, hnone, hlast, hW, Run.nil⟩
        · exact Or.inl (hnone.snoc ⟨hlast, hW⟩)
      · exact Or.inr ⟨before, e', after ++ [e], a, b, by simp, hbefore, hstep, hkind,
          hafter.snoc hlast⟩

/-- **The last step of a kind**, if the run takes one. -/
theorem exists_last (W : σ → ε → σ → Prop) (h : Run step s tr s') :
    Run (fun a e b => step a e b ∧ ¬ W a e b) s tr s' ∨
      ∃ before e after a b, tr = before ++ e :: after ∧ Run step s before a ∧ step a e b ∧ W a e b ∧
        Run (fun a e b => step a e b ∧ ¬ W a e b) b after s' := by
  induction h with
  | nil => exact Or.inl Run.nil
  | @snoc tr mid last e hrun hlast ih =>
      by_cases hW : W mid e last
      · exact Or.inr ⟨tr, e, [], mid, last, rfl, hrun, hlast, hW, Run.nil⟩
      · rcases ih with hnone | ⟨before, e', after, a, b, rfl, hbefore, hstep, hkind, hafter⟩
        · exact Or.inl (hnone.snoc ⟨hlast, hW⟩)
        · exact Or.inr ⟨before, e', after ++ [e], a, b, by simp, hbefore, hstep, hkind,
            hafter.snoc ⟨hlast, hW⟩⟩

/-- **The turning point.**  A run from a state without a property to one with it takes a step
that brings the property about. -/
theorem exists_turn {P : σ → Prop} (h : Run step s tr s') (hs : ¬ P s) (hs' : P s') :
    ∃ before e after a b, tr = before ++ e :: after ∧ Run step s before a ∧ step a e b ∧
      Run step b after s' ∧ ¬ P a ∧ P b := by
  rcases h.exists_first (fun _ _ b => P b) with hnone |
    ⟨before, e, after, a, b, htr, hbefore, hturn, hb, hafter⟩
  · exact absurd hs' (hnone.invariant (P := fun s => ¬ P s) hs fun _ _ _ hstep _ => hstep.2)
  · exact ⟨before, e, after, a, b, htr, hbefore.mono fun _ _ _ hstep => hstep.1, hturn, hafter,
      hbefore.invariant (P := fun s => ¬ P s) hs fun _ _ _ hstep _ => hstep.2, hb⟩

/-- A run over a trace that is not empty takes its first step. -/
theorem uncons {e : ε} (h : Run step s (e :: tr) s') : ∃ mid, step s e mid ∧ Run step mid tr s' := by
  obtain ⟨mid, hfirst, hrest⟩ := split (show Run step s ([e] ++ tr) s' from h)
  refine ⟨mid, ?_, hrest⟩
  generalize htr : [e] = tr' at hfirst
  cases hfirst with
  | nil => cases htr
  | snoc hnil hstep =>
      obtain ⟨hempty, he⟩ := List.append_inj' (show [] ++ [e] = _ from htr) rfl
      cases he
      rw [← hempty] at hnil
      generalize hnone : ([] : List ε) = tr'' at hnil
      cases hnil with
      | nil => exact hstep
      | snoc _ _ => simp at hnone

/-- A run of a system whose steps lower a measure is no longer than the measure is great. -/
theorem length_le {μ : σ → Nat} (h : Run step s tr s') (hlower : ∀ a e b, step a e b → μ b < μ a) :
    tr.length + μ s' ≤ μ s := by
  induction h with
  | nil => simp
  | @snoc tr mid last e _ hlast ih =>
      have hstep := hlower mid e last hlast
      rw [List.length_append, List.length_singleton]
      omega

/-- **Where a measure is lowered and only rest is stuck, there is a run to rest.** -/
theorem exists_rest {μ : σ → Nat} {P Rest : σ → Prop} (hlower : ∀ a e b, step a e b → μ b < μ a)
    (hkept : ∀ a e b, step a e b → P a → P b)
    (hprogress : ∀ a, P a → ¬ Rest a → ∃ e b, step a e b) (s : σ) (hs : P s) :
    ∃ tr s', Run step s tr s' ∧ Rest s' := by
  induction hμ : μ s using Nat.strongRecOn generalizing s with
  | _ n ih =>
      by_cases hrest : Rest s
      · exact ⟨[], s, nil, hrest⟩
      · obtain ⟨e, mid, hstep⟩ := hprogress s hs hrest
        have hless : μ mid < n := hμ ▸ hlower s e mid hstep
        obtain ⟨tr, s', hrun, hend⟩ := ih (μ mid) hless mid (hkept s e mid hstep hs) rfl
        exact ⟨_, s', (nil.snoc hstep).append hrun, hend⟩

end Run

/-- A state that some run reaches. -/
def Reachable (step : σ → ε → σ → Prop) (s s' : σ) : Prop := ∃ tr, Run step s tr s'

theorem Reachable.invariant {P : σ → Prop} {s s' : σ} (h : Reachable step s s') (hinit : P s)
    (hstep : ∀ a e b, step a e b → P a → P b) : P s' := by
  obtain ⟨tr, hrun⟩ := h
  exact hrun.invariant hinit hstep

end Transition
