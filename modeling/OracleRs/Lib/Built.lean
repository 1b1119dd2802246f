import Mathlib.Tactic

set_option relaxedAutoImplicit false
set_option autoImplicit false

/-!
# Programs over primitive operations

Programs that touch their state only through some primitive operations: what such operations keep, every
program built from them keeps, whatever it does with their results.

## Main definitions

* `Built.Keeps P E m` — the program `m` keeps the invariant `P`, and its errors meet `E`.
* `Built.By prim m` — the program `m` is built from the primitive operations.

## Main results

* `Built.By.keeps` — a program keeps what its primitive operations keep.
* `Built.By.repeated` — a loop with a bound is built from what its turns are built from.
-/

namespace Built

variable {ε σ τ : Type} {P : σ → Prop} {E : ε → Prop}

section Outcome

variable {α β : Type} {m : EStateM ε σ α} {s s' : σ} {a : α} {e : ε}

/-- A program behind one that succeeds. -/
lemma bind_ok {f : α → EStateM ε σ β} (h : m s = .ok a s') : (m >>= f) s = f a s' := by
  show EStateM.bind m f s = _
  rw [EStateM.bind, h]

/-- Nothing is caught. -/
lemma tryCatch_ok {f : ε → EStateM ε σ α} (h : m s = .ok a s') : tryCatch m f s = .ok a s' := by
  show EStateM.tryCatch m f s = _
  rw [EStateM.tryCatch]
  simp only [h]

/-- The error is caught in the state where it was raised. -/
lemma tryCatch_error {f : ε → EStateM ε σ α} (h : m s = .error e s') : tryCatch m f s = f e s' := by
  show EStateM.tryCatch m f s = _
  rw [EStateM.tryCatch]
  simp only [h]
  rfl

end Outcome

/-- The state behind an outcome meets `P`, and its error meets `E`. -/
def Kept (P : σ → Prop) (E : ε → Prop) {α : Type} : EStateM.Result ε σ α → Prop
  | .ok _ s => P s
  | .error e s => P s ∧ E e

/-- From a state that meets `P` the program ends in one that does, and only with errors that meet
`E`. -/
def Keeps (P : σ → Prop) (E : ε → Prop) {α : Type} (m : EStateM ε σ α) : Prop :=
  ∀ s, P s → Kept P E (m s)

section Keeps

variable {α β : Type} {m : EStateM ε σ α} {f : α → EStateM ε σ β}

lemma Keeps.pure (a : α) : Keeps P E (pure a : EStateM ε σ α) := fun _ h => h

lemma Keeps.get : Keeps P E (get : EStateM ε σ σ) := fun _ h => h

lemma Keeps.throw {e : ε} (h : E e) : Keeps P E (throw e : EStateM ε σ α) := fun _ hs => ⟨hs, h⟩

lemma Keeps.modify {g : σ → σ} (h : ∀ s, P s → P (g s)) :
    Keeps P E (modify g : EStateM ε σ Unit) := h

/-- Both branches keep it. -/
lemma Keeps.ite {c : Prop} [Decidable c] {m' : EStateM ε σ α} (hm : Keeps P E m)
    (hm' : Keeps P E m') : Keeps P E (if c then m else m') := by
  split_ifs
  · exact hm
  · exact hm'

lemma Keeps.mono {E' : ε → Prop} (hm : Keeps P E m) (hE : ∀ e, E e → E' e) : Keeps P E' m := by
  intro s hs
  have hms := hm s hs
  cases hrun : m s with
  | ok a s₁ =>
    rw [hrun] at hms
    exact hms
  | error e s₁ =>
    rw [hrun] at hms
    exact ⟨hms.1, hE e hms.2⟩

/-- The second program begins where the first one has ended. -/
lemma Keeps.bind (hm : Keeps P E m) (hf : ∀ a, Keeps P E (f a)) : Keeps P E (m >>= f) := by
  intro s hs
  have hms := hm s hs
  show Kept P E (EStateM.bind m f s)
  rw [EStateM.bind]
  cases hrun : m s with
  | ok a s₁ =>
    rw [hrun] at hms
    exact hf a s₁ hms
  | error e s₁ =>
    rw [hrun] at hms
    exact hms

end Keeps

/-- The programs that are built from primitive operations. -/
inductive By (prim : (α : Type) → EStateM ε σ α → Prop) : (α : Type) → EStateM ε σ α → Prop
  /-- nothing is done -/
  | pure {α : Type} (a : α) : By prim α (pure a)
  /-- one operation -/
  | prim {α : Type} {m : EStateM ε σ α} (h : prim α m) : By prim α m
  /-- one program behind another one -/
  | bind {α β : Type} {m : EStateM ε σ α} {f : α → EStateM ε σ β} (hm : By prim α m)
      (hf : ∀ a, By prim β (f a)) : By prim β (m >>= f)

variable {prim : (α : Type) → EStateM ε σ α → Prop}

/-- Both branches are built. -/
lemma By.ite {α : Type} {c : Prop} [Decidable c] {m m' : EStateM ε σ α} (hm : By prim α m)
    (hm' : By prim α m') : By prim α (if c then m else m') := by
  split_ifs
  · exact hm
  · exact hm'

/-- What the primitive operations keep, the program keeps. -/
theorem By.keeps (hprim : ∀ (α : Type) (m : EStateM ε σ α), prim α m → Keeps P E m) {α : Type}
    {m : EStateM ε σ α} (h : By prim α m) : Keeps P E m := by
  induction h with
  | pure a => exact Keeps.pure a
  | prim h => exact hprim _ _ h
  | bind _ _ hm hf => exact hm.bind hf

/-- A loop with a bound on the number of turns. The body returns the next loop state, or the result with
which the loop ends; `stuck` is raised when the bound is reached. -/
def repeated {α : Type} (stuck : ε) (body : τ → EStateM ε σ (τ ⊕ α)) : ℕ → τ → EStateM ε σ α
  | 0, _ => throw stuck
  | n + 1, t => do
    match ← body t with
    | .inl t' => repeated stuck body n t'
    | .inr a => pure a

lemma By.repeated {α : Type} {stuck : ε} {body : τ → EStateM ε σ (τ ⊕ α)}
    (hstuck : By prim α (throw stuck)) (hbody : ∀ t, By prim (τ ⊕ α) (body t)) (n : ℕ) (t : τ) :
    By prim α (repeated stuck body n t) := by
  induction n generalizing t with
  | zero => exact hstuck
  | succ n ih =>
    refine (hbody t).bind fun r => ?_
    cases r with
    | inl t' => exact ih t'
    | inr a => exact By.pure a

end Built
