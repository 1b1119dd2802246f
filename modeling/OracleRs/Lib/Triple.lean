import Mathlib.Tactic

set_option relaxedAutoImplicit false
set_option autoImplicit false

/-!
# Pre- and postconditions

Hoare triples for computations with a state that may fail: a precondition on the state, a
postcondition on the result and the state in which a success leaves it, and a condition on the
errors. The rules follow the ways in which such computations are built.

## Main definitions

* `Triple.Holds P m Q E` — from a state that meets `P` the computation `m` ends with a result and a
  state that meet `Q`, or with an error that meets `E`.

## Main results

* `Triple.Holds.bind` — a computation followed by another one.
* `Triple.Holds.conseq` — stronger preconditions, weaker postconditions.
-/

namespace Triple

variable {ε σ α β : Type}

/-- An outcome is a success whose result and state meet `Q`, or an error that meets `E`. -/
def Ends (Q : α → σ → Prop) (E : ε → Prop) : EStateM.Result ε σ α → Prop
  | .ok a s => Q a s
  | .error e _ => E e

/-- From a state that meets `P` the computation `m` ends with a result and a state that meet `Q`, or
with an error that meets `E`. -/
def Holds (P : σ → Prop) (m : EStateM ε σ α) (Q : α → σ → Prop) (E : ε → Prop) : Prop :=
  ∀ s, P s → Ends Q E (m s)

variable {P P' : σ → Prop} {Q Q' : α → σ → Prop} {R : β → σ → Prop} {E E' : ε → Prop}
  {m : EStateM ε σ α} {f : α → EStateM ε σ β}

lemma Holds.pure {a : α} (h : ∀ s, P s → Q a s) : Holds P (pure a) Q E := h

lemma Holds.throw {e : ε} (h : E e) : Holds P (throw e : EStateM ε σ α) Q E := fun _ _ => h

/-- The state is read. -/
lemma Holds.get {Q : σ → σ → Prop} (h : ∀ s, P s → Q s s) :
    Holds P (get : EStateM ε σ σ) Q E := h

/-- The state is read, and known behind that. -/
lemma Holds.get_bind {f : σ → EStateM ε σ β} (h : ∀ s, P s → Holds (fun s' => s' = s) (f s) R E) :
    Holds P (MonadState.get >>= f) R E := fun s hs => h s hs s rfl

/-- The state is changed. -/
lemma Holds.modify {g : σ → σ} {Q : Unit → σ → Prop} (h : ∀ s, P s → Q () (g s)) :
    Holds P (modify g : EStateM ε σ Unit) Q E := h

/-- The second computation begins where the first one has ended. -/
lemma Holds.bind (hm : Holds P m Q E) (hf : ∀ a, Holds (Q a) (f a) R E) :
    Holds P (m >>= f) R E := by
  intro s hs
  have hms := hm s hs
  show Ends R E (EStateM.bind m f s)
  rw [EStateM.bind]
  cases hrun : m s with
  | ok a s₁ =>
    rw [hrun] at hms
    exact hf a s₁ hms
  | error e s₁ =>
    rw [hrun] at hms
    exact hms

/-- One triple for each branch. -/
lemma Holds.ite {c : Prop} [Decidable c] {m' : EStateM ε σ α} (h : c → Holds P m Q E)
    (h' : ¬ c → Holds P m' Q E) : Holds P (if c then m else m') Q E := by
  split_ifs with hc
  · exact h hc
  · exact h' hc

lemma Ends.imp {r : EStateM.Result ε σ α} (h : Ends Q E r) (hQ : ∀ a s, Q a s → Q' a s)
    (hE : ∀ e, E e → E' e) : Ends Q' E' r := by
  cases r with
  | ok a s => exact hQ a s h
  | error e s => exact hE e h

lemma Holds.conseq (hm : Holds P m Q E) (hP : ∀ s, P' s → P s) (hQ : ∀ a s, Q a s → Q' a s)
    (hE : ∀ e, E e → E' e) : Holds P' m Q' E' := fun s hs => (hm s (hP s hs)).imp hQ hE

/-- Nothing is said of the outcome. -/
lemma Holds.unspecified : Holds P m (fun _ _ => True) (fun _ => True) := by
  intro s _
  cases m s <;> trivial

/-- A weaker postcondition. -/
lemma Holds.weaken (hm : Holds P m Q E) (hQ : ∀ a s, Q a s → Q' a s) : Holds P m Q' E :=
  hm.conseq (fun _ h => h) hQ fun _ h => h

/-- A stronger precondition. -/
lemma Holds.strengthen (hm : Holds P m Q E) (hP : ∀ s, P' s → P s) : Holds P' m Q E :=
  hm.conseq hP (fun _ _ h => h) fun _ h => h

/-- What does not depend on the state may be assumed. -/
lemma Holds.assume {p : Prop} (h : p → Holds P m Q E) : Holds (fun s => p ∧ P s) m Q E :=
  fun s hs => h hs.1 s hs.2

/-- What a success says. -/
lemma Holds.of_ok (hm : Holds P m Q E) {s s' : σ} {a : α} (hs : P s) (h : m s = .ok a s') :
    Q a s' := by
  have hms := hm s hs
  rwa [h] at hms

/-- What a failure says. -/
lemma Holds.of_error (hm : Holds P m Q E) {s s' : σ} {e : ε} (hs : P s) (h : m s = .error e s') :
    E e := by
  have hms := hm s hs
  rwa [h] at hms

end Triple
