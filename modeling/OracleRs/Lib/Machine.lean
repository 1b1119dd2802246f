import Mathlib.Tactic

set_option relaxedAutoImplicit false
set_option autoImplicit false

/-!
# Runs of a state machine

A state machine is given by a step function that takes a state and an event, and is not defined
where the event cannot happen. This module has its runs, whose steps may be required to meet a
condition, and the rule by which an invariant holds in every state of a run.

## Main definitions

* `Machine.Run step good s events s'` — the events lead from `s` to `s'`, each in a state where
  it is good.

## Main results

* `Machine.Run.invariant` — what holds at the beginning and is kept by good steps holds at the end.
* `Machine.Run.exists_step` — what holds at the end only has come to hold in some step.
-/

namespace Machine

variable {σ ε : Type} {step : σ → ε → Option σ} {good : σ → ε → Prop}

/-- The events lead from one state to another, each in a state where it is good. -/
inductive Run (step : σ → ε → Option σ) (good : σ → ε → Prop) : σ → List ε → σ → Prop
  /-- no event -/
  | nil (s : σ) : Run step good s [] s
  /-- one event and then others -/
  | cons {s s' s'' : σ} {e : ε} {es : List ε} (hgood : good s e) (hstep : step s e = some s')
      (hrun : Run step good s' es s'') : Run step good s (e :: es) s''

/-- What holds at the beginning and is kept by good steps holds at the end. -/
lemma Run.invariant {P : σ → Prop} (hkeep : ∀ s e s', P s → good s e → step s e = some s' → P s')
    {s s' : σ} {es : List ε} (hrun : Run step good s es s') (h : P s) : P s' := by
  induction hrun with
  | nil => exact h
  | cons hgood hstep _ ih => exact ih (hkeep _ _ _ h hgood hstep)

/-- What holds at the end, but not at the beginning, has come to hold in some step. -/
lemma Run.exists_step {P : σ → Prop} {s s' : σ} {es : List ε} (hrun : Run step good s es s')
    (hs : ¬ P s) (hs' : P s') :
    ∃ before e after s₁ s₂, es = before ++ e :: after ∧ Run step good s before s₁ ∧ good s₁ e ∧
      step s₁ e = some s₂ ∧ Run step good s₂ after s' ∧ ¬ P s₁ ∧ P s₂ := by
  induction hrun with
  | nil => exact absurd hs' hs
  | @cons s s₂ _ e es hgood hstep hrun ih =>
    by_cases h₂ : P s₂
    · exact ⟨[], e, es, s, s₂, rfl, .nil s, hgood, hstep, hrun, hs, h₂⟩
    · obtain ⟨before, e', after, s₃, s₄, rfl, hbefore, hrest⟩ := ih h₂ hs'
      exact ⟨e :: before, e', after, s₃, s₄, rfl, .cons hgood hstep hbefore, hrest⟩

end Machine
