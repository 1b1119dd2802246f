import OracleRs.Lib.Cursor

set_option relaxedAutoImplicit false
set_option autoImplicit false

/-!
# Computations with checks

Two renderings of one computation with a state: one that knows only the errors of the program, and one that
also checks what the language checks, and so has more ways to fail. Where no check fails the second one does
what the first one does, with the same errors in a larger type.

## Main definitions

* `Checked.embed` — an outcome with its error in the larger type.
* `Checked.Does f E P m m' Q` — from a state that meets `P` the computation with checks does what the other one
  does, whose successes meet `Q` and whose failures meet `E`.

## Main results

* `Checked.Does.bind`, `Checked.Does.ite`, `Checked.Does.iterate`, `Checked.Does.times` — how computations are composed.
* `Checked.Does.outcome` — no check fails.
-/

namespace Checked

variable {ε δ σ α β : Type}

/-- An outcome with its error in a larger type. -/
def embed (f : ε → δ) : EStateM.Result ε σ α → EStateM.Result δ σ α
  | .ok a s => .ok a s
  | .error e s => .error (f e) s

/-- A success meets `Q`, a failure meets `E`. -/
def Meets (E : ε → σ → Prop) (Q : α → σ → Prop) : EStateM.Result ε σ α → Prop
  | .ok a s => Q a s
  | .error e s => E e s

/-- From a state that meets `P` the computation `m` does what `m'` does. -/
def Does (f : ε → δ) (E : ε → σ → Prop) (P : σ → Prop) (m : EStateM δ σ α) (m' : EStateM ε σ α)
    (Q : α → σ → Prop) : Prop :=
  ∀ s, P s → m s = embed f (m' s) ∧ Meets E Q (m' s)

section Compose

variable {f : ε → δ} {E : ε → σ → Prop} {P P' : σ → Prop} {Q Q' : α → σ → Prop} {R : β → σ → Prop}
  {m : EStateM δ σ α} {m' : EStateM ε σ α} {k : α → EStateM δ σ β} {k' : α → EStateM ε σ β}

lemma Does.pure {a : α} (h : ∀ s, P s → Q a s) : Does f E P (pure a) (pure a) Q := fun s hs => ⟨rfl, h s hs⟩

lemma Does.throw {e : ε} (h : ∀ s, P s → E e s) : Does f E P (throw (f e)) (throw e) Q :=
  fun s hs => ⟨rfl, h s hs⟩

/-- The second computation begins where the first one has ended. -/
lemma Does.bind (hm : Does f E P m m' Q) (hk : ∀ a, Does f E (Q a) (k a) (k' a) R) :
    Does f E P (m >>= k) (m' >>= k') R := by
  intro s hs
  obtain ⟨heq, hmeets⟩ := hm s hs
  change EStateM.bind m k s = embed f (EStateM.bind m' k' s) ∧ Meets E R (EStateM.bind m' k' s)
  rw [EStateM.bind, EStateM.bind, heq]
  cases hrun : m' s with
  | ok a s₁ =>
    rw [hrun] at hmeets
    exact hk a s₁ hmeets
  | error e s₁ =>
    rw [hrun] at hmeets
    exact ⟨rfl, hmeets⟩

/-- Both take the same branch. -/
lemma Does.ite {c : Prop} [Decidable c] {n : EStateM δ σ α} {n' : EStateM ε σ α}
    (h : c → Does f E P m m' Q) (h' : ¬ c → Does f E P n n' Q) :
    Does f E P (if c then m else n) (if c then m' else n') Q := by
  by_cases hc : c
  · rw [if_pos hc, if_pos hc]
    exact h hc
  · rw [if_neg hc, if_neg hc]
    exact h' hc

lemma Meets.imp {r : EStateM.Result ε σ α} (h : Meets E Q r) (hQ : ∀ a s, Q a s → Q' a s) :
    Meets E Q' r := by
  cases r with
  | ok a s => exact hQ a s h
  | error e s => exact h

/-- Stronger preconditions, weaker postconditions. -/
lemma Does.mono (hm : Does f E P m m' Q) (hP : ∀ s, P' s → P s) (hQ : ∀ a s, Q a s → Q' a s) :
    Does f E P' m m' Q' := fun s hs => ⟨(hm s (hP s hs)).1, (hm s (hP s hs)).2.imp hQ⟩

/-- The computation with checks ends with a success, or with an error of the program. -/
lemma Does.outcome (hm : Does f E P m m' Q) {s : σ} (hs : P s) :
    (∃ a s', m s = .ok a s' ∧ Q a s') ∨ ∃ e s', m s = .error (f e) s' ∧ E e s' := by
  obtain ⟨heq, hmeets⟩ := hm s hs
  cases hrun : m' s with
  | ok a s₁ =>
    rw [hrun] at heq hmeets
    exact .inl ⟨a, s₁, heq, hmeets⟩
  | error e s₁ =>
    rw [hrun] at heq hmeets
    exact .inr ⟨e, s₁, heq, hmeets⟩

end Compose

/-! ## Loops -/

section Loops

variable {τ : Type} {f : ε → δ} {E : ε → Cursor β → Prop} {J : τ → Cursor β → Prop} {Q : α → Cursor β → Prop}
  {stuck : ε} {body : τ → EStateM δ (Cursor β) (τ ⊕ α)} {body' : τ → EStateM ε (Cursor β) (τ ⊕ α)}

open Cursor

/-- A loop whose turns keep an invariant and consume something. Its bound is not reached.

**Proof sketch.** Induction on the bound, which stays above the number of remaining items. -/
lemma Does.iterate (hbody : ∀ t, Does f E (J t) (body t) (body' t) fun x c => x.elim (J · c) (Q · c))
    (hlt : ∀ t c t' c', body' t c = .ok (.inl t') c' → c'.rest.length < c.rest.length) (t : τ) :
    Does f E (J t) (iterate (f stuck) body t) (iterate stuck body' t) Q := by
  have hloop : ∀ n t c, c.rest.length < n → J t c →
      loop (f stuck) body n t c = embed f (loop stuck body' n t c) ∧ Meets E Q (loop stuck body' n t c) := by
    intro n
    induction n with
    | zero => intro t c hn; omega
    | succ n ih =>
      intro t c hn hJ
      obtain ⟨heq, hmeets⟩ := hbody t c hJ
      cases hrun : body' t c with
      | error e c₁ =>
        rw [hrun] at heq hmeets
        rw [loop, loop, bind_error heq, bind_error hrun]
        exact ⟨rfl, hmeets⟩
      | ok x c₁ =>
        rw [hrun] at heq hmeets
        rw [loop, loop, bind_ok heq, bind_ok hrun]
        cases x with
        | inr a => exact ⟨rfl, hmeets⟩
        | inl t' =>
          have hless := hlt t c t' c₁ hrun
          exact ih t' c₁ (by omega) hmeets
  exact fun c hJ => hloop _ t c (Nat.lt_succ_self _) hJ

/-- A number of equal reads. -/
lemma Does.times {P : Cursor β → Prop} {m : EStateM δ (Cursor β) α} {m' : EStateM ε (Cursor β) α}
    (hm : Does f E P m m' fun _ => P) (n : ℕ) : Does f E P (times m n) (times m' n) fun _ => P := by
  induction n with
  | zero => exact .pure fun _ => id
  | succ n ih => exact hm.bind fun a => ih.bind fun as => .pure fun _ => id

end Loops

end Checked
