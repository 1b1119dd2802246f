import Mathlib.Computability.Language
import Mathlib.Tactic

set_option relaxedAutoImplicit false
set_option autoImplicit false

/-!
# What a computation emits

Computations with a state that may fail, and with a trace in their state of what they have emitted. A
language says what a computation emits: a success extends the trace by one of its words, a failure by the
beginning of one. What one computation and the next emit is the product of their languages.

## Main definitions

* `Emission.Emits trace P m L Q E` — from a state that meets `P` the computation `m` emits a word of `L`.

## Main results

* `Emission.Emits.bind` — a computation behind another one emits the product.
* `Emission.Emits.mono`, `Emission.Emits.conseq` — larger languages, weaker postconditions.
-/

namespace Emission

variable {ε σ τ α β : Type}

/-- An outcome whose trace goes on behind `before`: a success by a word of the language, with a result and a
state that meet `Q`, a failure by the beginning of a word, with an error and a state that meet `E`. -/
def Ends (trace : σ → List τ) (before : List τ) (L : Language τ) (Q : α → σ → Prop) (E : ε → σ → Prop) :
    EStateM.Result ε σ α → Prop
  | .ok a s => (∃ w ∈ L, trace s = before ++ w) ∧ Q a s
  | .error e s => (∃ w w', w ++ w' ∈ L ∧ trace s = before ++ w) ∧ E e s

/-- From a state that meets `P` the computation emits a word of the language, or the beginning of one if it
fails. -/
structure Emits (trace : σ → List τ) (P : σ → Prop) (m : EStateM ε σ α) (L : Language τ) (Q : α → σ → Prop)
    (E : ε → σ → Prop) : Prop where
  /-- there is a word -/
  nonempty : ∃ w, w ∈ L
  /-- the outcomes -/
  ends : ∀ s, P s → Ends trace (trace s) L Q E (m s)

variable {trace : σ → List τ} {P P' : σ → Prop} {Q Q' : α → σ → Prop} {R : β → σ → Prop}
  {E E' : ε → σ → Prop} {L L' : Language τ} {m : EStateM ε σ α} {f : α → EStateM ε σ β} {before w : List τ}

/-- A trace that has not changed. -/
lemma exists_nil (s : σ) : ∃ w ∈ (1 : Language τ), trace s = trace s ++ w :=
  ⟨[], Language.nil_mem_one, (List.append_nil _).symm⟩

lemma Emits.pure {a : α} (h : ∀ s, P s → Q a s) : Emits trace P (pure a) 1 Q E :=
  ⟨⟨[], Language.nil_mem_one⟩, fun s hs => ⟨exists_nil s, h s hs⟩⟩

/-- A failure has not emitted anything. -/
lemma Emits.throw {e : ε} (hL : ∃ w, w ∈ L) (h : ∀ s, P s → E e s) :
    Emits trace P (throw e : EStateM ε σ α) L Q E := by
  obtain ⟨w, hw⟩ := hL
  exact ⟨⟨w, hw⟩, fun s hs => ⟨⟨[], w, hw, (List.append_nil _).symm⟩, h s hs⟩⟩

/-- The state is read, and known behind that. -/
lemma Emits.get {f : σ → EStateM ε σ α} (hL : ∃ w, w ∈ L)
    (h : ∀ s, P s → Emits trace (fun s' => s' = s) (f s) L Q E) : Emits trace P (get >>= f) L Q E :=
  ⟨hL, fun s hs => (h s hs).ends s rfl⟩

/-- The state is replaced, but not its trace. -/
lemma Emits.set {s : σ} {Q : Unit → σ → Prop} (h : ∀ s', P s' → trace s = trace s' ∧ Q () s) :
    Emits trace P (set s : EStateM ε σ Unit) 1 Q E :=
  ⟨⟨[], Language.nil_mem_one⟩,
    fun s' hs => ⟨⟨[], Language.nil_mem_one, (h s' hs).1.trans (List.append_nil _).symm⟩, (h s' hs).2⟩⟩

/-- The state is changed, but not its trace. -/
lemma Emits.modify {g : σ → σ} {Q : Unit → σ → Prop} (htrace : ∀ s, trace (g s) = trace s)
    (h : ∀ s, P s → Q () (g s)) : Emits trace P (modify g : EStateM ε σ Unit) 1 Q E :=
  ⟨⟨[], Language.nil_mem_one⟩,
    fun s hs => ⟨⟨[], Language.nil_mem_one, (htrace s).trans (List.append_nil _).symm⟩, h s hs⟩⟩

/-- The second computation begins where the first one has ended. -/
lemma Emits.bind_of_nonempty (hm : Emits trace P m L Q E) (hL' : ∃ w, w ∈ L')
    (hf : ∀ a, Emits trace (Q a) (f a) L' R E) : Emits trace P (m >>= f) (L * L') R E := by
  obtain ⟨w₁, hw₁⟩ := hm.nonempty
  obtain ⟨w₂, hw₂⟩ := hL'
  refine ⟨⟨w₁ ++ w₂, Language.mem_mul.mpr ⟨w₁, hw₁, w₂, hw₂, rfl⟩⟩, fun s hs => ?_⟩
  have hms := hm.ends s hs
  show Ends trace (trace s) (L * L') R E (EStateM.bind m f s)
  rw [EStateM.bind]
  cases hrun : m s with
  | error e s₁ =>
    rw [hrun] at hms
    obtain ⟨⟨w, w', hw, htrace⟩, he⟩ := hms
    refine ⟨⟨w, w' ++ w₂, ?_, htrace⟩, he⟩
    rw [← List.append_assoc]
    exact Language.mem_mul.mpr ⟨w ++ w', hw, w₂, hw₂, rfl⟩
  | ok a s₁ =>
    rw [hrun] at hms
    obtain ⟨⟨w, hw, htrace⟩, ha⟩ := hms
    have hfs := (hf a).ends s₁ ha
    show Ends trace (trace s) (L * L') R E (f a s₁)
    cases hrun' : f a s₁ with
    | ok b s₂ =>
      rw [hrun'] at hfs
      obtain ⟨⟨v, hv, htrace'⟩, hb⟩ := hfs
      refine ⟨⟨w ++ v, Language.mem_mul.mpr ⟨w, hw, v, hv, rfl⟩, ?_⟩, hb⟩
      rw [htrace', htrace, List.append_assoc]
    | error e s₂ =>
      rw [hrun'] at hfs
      obtain ⟨⟨v, v', hv, htrace'⟩, he⟩ := hfs
      refine ⟨⟨w ++ v, v', ?_, ?_⟩, he⟩
      · rw [List.append_assoc]
        exact Language.mem_mul.mpr ⟨w, hw, v ++ v', hv, rfl⟩
      · rw [htrace', htrace, List.append_assoc]

/-- Behind a computation that may have a result. -/
lemma Emits.bind [Nonempty α] (hm : Emits trace P m L Q E) (hf : ∀ a, Emits trace (Q a) (f a) L' R E) :
    Emits trace P (m >>= f) (L * L') R E :=
  hm.bind_of_nonempty (hf (Classical.arbitrary α)).nonempty hf

/-- Behind a computation that emits nothing. -/
lemma Emits.bind_quiet [Nonempty α] (hm : Emits trace P m 1 Q E)
    (hf : ∀ a, Emits trace (Q a) (f a) L R E) : Emits trace P (m >>= f) L R E := by
  have hboth := hm.bind hf
  rwa [one_mul] at hboth

/-- Nothing is emitted behind a computation. -/
lemma Emits.then_quiet (hm : Emits trace P m L Q E) (hf : ∀ a, Emits trace (Q a) (f a) 1 R E) :
    Emits trace P (m >>= f) L R E := by
  have hboth := hm.bind_of_nonempty ⟨[], Language.nil_mem_one⟩ hf
  rwa [mul_one] at hboth

/-- Both branches emit words of the language. -/
lemma Emits.ite {c : Prop} [Decidable c] {m' : EStateM ε σ α} (h : c → Emits trace P m L Q E)
    (h' : ¬ c → Emits trace P m' L Q E) : Emits trace P (if c then m else m') L Q E := by
  split_ifs with hc
  · exact h hc
  · exact h' hc

lemma Ends.imp {r : EStateM.Result ε σ α} (h : Ends trace before L Q E r) (hL : ∀ w ∈ L, w ∈ L')
    (hQ : ∀ a s, Q a s → Q' a s) (hE : ∀ e s, E e s → E' e s) : Ends trace before L' Q' E' r := by
  cases r with
  | ok a s =>
    obtain ⟨⟨w, hw, htrace⟩, ha⟩ := h
    exact ⟨⟨w, hL w hw, htrace⟩, hQ a s ha⟩
  | error e s =>
    obtain ⟨⟨w, w', hw, htrace⟩, he⟩ := h
    exact ⟨⟨w, w', hL (w ++ w') hw, htrace⟩, hE e s he⟩

/-- A larger language. -/
lemma Emits.mono (hm : Emits trace P m L Q E) (hL : ∀ w ∈ L, w ∈ L') : Emits trace P m L' Q E := by
  obtain ⟨w, hw⟩ := hm.nonempty
  exact ⟨⟨w, hL w hw⟩, fun s hs => (hm.ends s hs).imp hL (fun _ _ h => h) fun _ _ h => h⟩

lemma Emits.conseq (hm : Emits trace P m L Q E) (hP : ∀ s, P' s → P s) (hQ : ∀ a s, Q a s → Q' a s)
    (hE : ∀ e s, E e s → E' e s) : Emits trace P' m L Q' E' :=
  ⟨hm.nonempty, fun s hs => (hm.ends s (hP s hs)).imp (fun _ h => h) hQ hE⟩

/-- A weaker postcondition. -/
lemma Emits.weaken (hm : Emits trace P m L Q E) (hQ : ∀ a s, Q a s → Q' a s) :
    Emits trace P m L Q' E := hm.conseq (fun _ h => h) hQ fun _ _ h => h

/-- A stronger precondition. -/
lemma Emits.strengthen (hm : Emits trace P m L Q E) (hP : ∀ s, P' s → P s) : Emits trace P' m L Q E :=
  hm.conseq hP (fun _ _ h => h) fun _ _ h => h

/-- What does not depend on the state may be assumed. -/
lemma Emits.assume {p : Prop} (hL : ∃ w, w ∈ L) (h : p → Emits trace P m L Q E) :
    Emits trace (fun s => p ∧ P s) m L Q E :=
  ⟨hL, fun s hs => (h hs.1).ends s hs.2⟩

/-- A computation that emits nothing leaves the trace as it was. -/
lemma Emits.frame (hm : Emits trace P m 1 Q E) (T : List τ → Prop) :
    Emits trace (fun s => P s ∧ T (trace s)) m 1 (fun a s => Q a s ∧ T (trace s)) E := by
  refine ⟨hm.nonempty, fun s hs => ?_⟩
  have hms := hm.ends s hs.1
  cases hrun : m s with
  | error e s₁ =>
    rw [hrun] at hms
    exact hms
  | ok a s₁ =>
    rw [hrun] at hms
    obtain ⟨⟨w, hw, htrace⟩, ha⟩ := hms
    rw [(Language.mem_one w).mp hw, List.append_nil] at htrace
    exact ⟨htrace ▸ exists_nil s₁, ha, htrace ▸ hs.2⟩

end Emission
