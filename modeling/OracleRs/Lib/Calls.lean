import Mathlib.Tactic

set_option relaxedAutoImplicit false
set_option autoImplicit false

/-!
# Programs of calls

A program that calls a service: it ends with a result, or it makes a call and goes on with the reply. What a call
may do to the state of the service, and what it may reply, is a relation; the runs of a program are made of what
its calls do. If all that the calls do is done by the calls of another service on related states, then the runs
are runs on the other service.

## Main definitions

* `Calls.Program` — programs, `Calls.Program.All` — all their calls have a property.
* `Calls.Runs` — their runs.
* `Calls.Holds` — pre- and postconditions.

## Main results

* `Calls.Runs.simulates` — the runs on one service are runs on another one.
* `Calls.exists_runs` — a program comes to its end if all its calls do.
* `Calls.Holds.bind`, `Calls.Holds.bindExcept` — programs behind one another.
-/

namespace Calls

/-- A program that makes calls `γ` with replies `ρ`. -/
inductive Program (γ ρ α : Type) where
  /-- a result -/
  | done (a : α)
  /-- a call, and what its reply leads to -/
  | call (c : γ) (next : ρ → Program γ ρ α)

variable {γ ρ ε σ τ α β : Type}

namespace Program

/-- A program behind another one. -/
def bind : Program γ ρ α → (α → Program γ ρ β) → Program γ ρ β
  | done a, f => f a
  | call c next, f => call c fun r => (next r).bind f

instance : Monad (Program γ ρ) where
  pure := done
  bind := bind

/-- All calls of a program have the property, whatever the replies. -/
inductive All (P : γ → Prop) : Program γ ρ α → Prop
  /-- a result -/
  | done (a : α) : All P (.done a)
  /-- a call, and what comes behind it -/
  | call {c : γ} {next : ρ → Program γ ρ α} (hc : P c) (h : ∀ r, All P (next r)) : All P (.call c next)

lemma All.bind {P : γ → Prop} {p : Program γ ρ α} {f : α → Program γ ρ β} (h : p.All P) (hf : ∀ a, (f a).All P) :
    (p.bind f).All P := by
  induction h with
  | done a => exact hf a
  | call hc _ ih => exact .call hc ih

/-- All calls of a program that may fail. -/
lemma All.bindExcept {P : γ → Prop} {m : ExceptT ε (Program γ ρ) α} {f : α → ExceptT ε (Program γ ρ) β}
    (h : All P m.run) (hf : ∀ a, All P (f a).run) : All P (m >>= f).run := by
  refine All.bind h fun r => ?_
  cases r with
  | ok a => exact hf a
  | error e => exact .done _

end Program

/-- A program that may fail, with its failure as a result. -/
def Program.caught (m : ExceptT ε (Program γ ρ) α) : ExceptT ε (Program γ ρ) (Except ε α) :=
  ExceptT.mk (m.run.bind fun r => .done (.ok r))

/-- The runs of a program, if `does` is what a call may do. -/
inductive Runs (does : σ → γ → σ → ρ → Prop) : σ → Program γ ρ α → σ → α → Prop
  /-- the result -/
  | done (s : σ) (a : α) : Runs does s (.done a) s a
  /-- a call, and what comes behind it -/
  | call {s s₁ s' : σ} {c : γ} {next : ρ → Program γ ρ α} {r : ρ} {a : α} (hdoes : does s c s₁ r)
      (h : Runs does s₁ (next r) s' a) : Runs does s (.call c next) s' a

section Runs

variable {does : σ → γ → σ → ρ → Prop} {does' : τ → γ → τ → ρ → Prop} {P : γ → Prop} {R : σ → τ → Prop}

/-- **The runs on one service are runs on another one** that can do whatever the first one does. -/
theorem Runs.simulates {p : Program γ ρ α} {s s' : σ} {t : τ} {a : α} (h : Runs does s p s' a)
    (hstep : ∀ {s s' : σ} {t : τ} {c : γ} {r : ρ}, P c → R s t → does s c s' r → ∃ t', does' t c t' r ∧ R s' t')
    (hp : p.All P) (hR : R s t) : ∃ t', Runs does' t p t' a ∧ R s' t' := by
  induction h generalizing t with
  | done s a => exact ⟨t, .done t a, hR⟩
  | call hdoes _ ih =>
    cases hp with
    | call hc hnext =>
      obtain ⟨t₁, hdoes', hR₁⟩ := hstep hc hR hdoes
      obtain ⟨t', hruns, hR'⟩ := ih (hnext _) hR₁
      exact ⟨t', .call hdoes' hruns, hR'⟩

/-- A program comes to its end where all its calls do, and its states keep an invariant. -/
theorem exists_runs {I : σ → Prop} {p : Program γ ρ α} (hp : p.All P)
    (hstep : ∀ {s : σ} {c : γ}, P c → I s → ∃ s' r, does s c s' r ∧ I s') {s : σ} (hs : I s) :
    ∃ s' a, Runs does s p s' a ∧ I s' := by
  induction hp generalizing s with
  | done a => exact ⟨s, a, .done s a, hs⟩
  | call hc _ ih =>
    obtain ⟨s₁, r, hdoes, hs₁⟩ := hstep hc hs
    obtain ⟨s', a, hruns, hs'⟩ := ih r hs₁
    exact ⟨s', a, .call hdoes hruns, hs'⟩

/-- A run of two programs behind one another is a run of each. -/
lemma Runs.exists_of_bind {p : Program γ ρ α} {f : α → Program γ ρ β} {s s' : σ} {b : β}
    (h : Runs does s (p.bind f) s' b) : ∃ s₁ a, Runs does s p s₁ a ∧ Runs does s₁ (f a) s' b := by
  induction p generalizing s with
  | done a => exact ⟨s, a, .done s a, h⟩
  | call c next ih =>
    cases h with
    | call hdoes h =>
      obtain ⟨s₁, a, hfirst, hlast⟩ := ih _ h
      exact ⟨s₁, a, .call hdoes hfirst, hlast⟩

end Runs

/-! ## Pre- and postconditions -/

/-- From a state that meets `P` the runs of the program end with a result and a state that meet `Q`. -/
def Holds (does : σ → γ → σ → ρ → Prop) (P : σ → Prop) (p : Program γ ρ α) (Q : α → σ → Prop) : Prop :=
  ∀ s s' a, P s → Runs does s p s' a → Q a s'

section Rules

variable {does : σ → γ → σ → ρ → Prop} {P P' : σ → Prop} {Q Q' : α → σ → Prop} {R : β → σ → Prop}

lemma Holds.done {a : α} (h : ∀ s, P s → Q a s) : Holds does P (.done a) Q := by
  intro s s' a' hs hruns
  cases hruns
  exact h s hs

lemma Holds.call {c : γ} {Q : ρ → σ → Prop} (h : ∀ s s' r, P s → does s c s' r → Q r s') :
    Holds does P (.call c .done) Q := by
  intro s s' r hs hruns
  cases hruns with
  | call hdoes hrest =>
    cases hrest
    exact h _ _ _ hs hdoes

lemma Holds.bind {p : Program γ ρ α} {f : α → Program γ ρ β} (hp : Holds does P p Q)
    (hf : ∀ a, Holds does (Q a) (f a) R) : Holds does P (p.bind f) R := by
  intro s s' b hs hruns
  obtain ⟨s₁, a, hfirst, hlast⟩ := hruns.exists_of_bind
  exact hf a s₁ s' b (hp s s₁ a hs hfirst) hlast

lemma Holds.conseq {p : Program γ ρ α} (h : Holds does P p Q) (hP : ∀ s, P' s → P s)
    (hQ : ∀ a s, Q a s → Q' a s) : Holds does P' p Q' :=
  fun s s' a hs hruns => hQ a s' (h s s' a (hP s hs) hruns)

/-- What the precondition implies may be assumed. -/
lemma Holds.assume {p : Program γ ρ α} {fact : Prop} (hfact : ∀ s, P s → fact) (h : fact → Holds does P p Q) :
    Holds does P p Q := fun s s' a hs => h (hfact s hs) s s' a hs

/-- A failure ends a program that may fail. -/
lemma Holds.bindExcept {m : ExceptT ε (Program γ ρ) α} {f : α → ExceptT ε (Program γ ρ) β}
    {Q : Except ε α → σ → Prop} {R : Except ε β → σ → Prop} (hm : Holds does P m.run Q)
    (hf : ∀ a, Holds does (Q (.ok a)) (f a).run R) (he : ∀ e s, Q (.error e) s → R (.error e) s) :
    Holds does P (m >>= f).run R := by
  refine Holds.bind hm fun r => ?_
  cases r with
  | ok a => exact hf a
  | error e => exact Holds.done (he e)

/-- The failure is caught. -/
lemma Holds.caught {m : ExceptT ε (Program γ ρ) α} {Q : Except ε (Except ε α) → σ → Prop}
    (h : Holds does P m.run fun r s => Q (.ok r) s) : Holds does P (Program.caught m).run Q :=
  Holds.bind h fun _ => Holds.done fun _ hs => hs

end Rules

end Calls
