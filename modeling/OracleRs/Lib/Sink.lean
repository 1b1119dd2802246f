import Mathlib.Tactic

set_option relaxedAutoImplicit false
set_option autoImplicit false

/-!
# Sinks and the writers that fill them

A *sink* is a finite sequence that grows at its end, with an optional limit on its length; a
*writer* is a computation on a sink that can fail. This module has the calculus used to compose
writers: what it means that a writer appends one exact piece, and how that composes.

## Main definitions

* `Sink` — a sequence with a limit, `Sink.HasRoom` — the limit leaves room for some more items.
* `Sink.Writes m b` — the writer `m` appends exactly the items `b`, where there is room for them.
* `Sink.Appends m` — the writer `m` only appends items.
* `Sink.Yields m P`, `Sink.Grows m n`, `Sink.Puts m b` — where the writer `m` succeeds it has appended
  a piece with the property `P`, or of `n` items; it can succeed with the piece `b`.
* `Sink.written` — what a writer leaves in an empty sink without a limit.

## Main results

* `Sink.Writes.bind`, `Sink.Writes.forM` — exact writes compose by concatenation.
* `Sink.Writes.written_eq` — a writer leaves in an empty sink what it appends.
* `Sink.Grows.bind`, `Sink.Grows.forM` — the numbers of appended items add up.
* `Sink.Yields.forM` — what one write for every item of a list appends, piece by piece.
-/

/-- A finite sequence that grows at its end. -/
structure Sink (β : Type) where
  /-- the items written so far -/
  data : List β
  /-- the largest number of items, if there is one -/
  limit : Option ℕ
deriving DecidableEq, Repr, Inhabited

namespace Sink

variable {α β γ ε σ : Type}

/-- The sink with nothing in it and no limit. -/
def empty : Sink β := ⟨[], none⟩

/-- There is room for `n` more items. -/
def HasRoom (s : Sink β) (n : ℕ) : Prop := ∀ limit ∈ s.limit, s.data.length + n ≤ limit

/-- Append items. -/
def push (s : Sink β) (b : List β) : Sink β := { s with data := s.data ++ b }

@[simp] lemma data_push (s : Sink β) (b : List β) : (s.push b).data = s.data ++ b := rfl

@[simp] lemma limit_push (s : Sink β) (b : List β) : (s.push b).limit = s.limit := rfl

@[simp] lemma push_nil (s : Sink β) : s.push [] = s := by simp [push]

@[simp] lemma push_push (s : Sink β) (b b' : List β) : (s.push b).push b' = s.push (b ++ b') := by
  simp [push]

@[simp] lemma hasRoom_empty (n : ℕ) : (empty : Sink β).HasRoom n := nofun

/-- Room for some items is room for fewer. -/
lemma HasRoom.mono {s : Sink β} {m n : ℕ} (h : s.HasRoom n) (hmn : m ≤ n) : s.HasRoom m := by
  intro limit hl
  have := h limit hl
  omega

/-- What is left of the room behind some of the items. -/
lemma HasRoom.push {s : Sink β} {b : List β} {n : ℕ} (h : s.HasRoom (b.length + n)) :
    (s.push b).HasRoom n := by
  intro limit hl
  have := h limit hl
  simp only [data_push, List.length_append]
  omega

/-! ## Exact writes -/

/-- The writer `m` appends exactly the items `b`, where there is room for them. -/
def Writes (m : EStateM ε (Sink β) Unit) (b : List β) : Prop :=
  ∀ s : Sink β, s.HasRoom b.length → m s = .ok () (s.push b)

/-- Doing nothing appends nothing. -/
lemma Writes.pure : Writes (pure () : EStateM ε (Sink β) Unit) [] := by
  intro s _
  rw [push_nil]
  rfl

/-- Exact writes compose: the second writer appends behind the first one. -/
lemma Writes.bind {m m' : EStateM ε (Sink β) Unit} {b b' : List β} (hm : Writes m b)
    (hm' : Writes m' b') : Writes (m >>= fun _ => m') (b ++ b') := by
  intro s hs
  rw [List.length_append] at hs
  have h₁ := hm s (hs.mono (Nat.le_add_right _ _))
  have h₂ := hm' (s.push b) hs.push
  simp only [Bind.bind, EStateM.bind, h₁, h₂, push_push]

/-- One write for every item of a list. -/
lemma Writes.forM {f : σ → EStateM ε (Sink β) Unit} {enc : σ → List β} {xs : List σ}
    (h : ∀ x ∈ xs, Writes (f x) (enc x)) : Writes (xs.forM f) (xs.flatMap enc) := by
  induction xs with
  | nil => exact Writes.pure
  | cons x xs ih =>
    exact (h x List.mem_cons_self).bind (ih fun y hy => h y (List.mem_cons_of_mem x hy))

/-! ## Writers that only append -/

/-- Where the writer `m` succeeds, it has only appended items. -/
def Appends (m : EStateM ε (Sink β) α) : Prop :=
  ∀ (s : Sink β) (a : α) (s' : Sink β), m s = .ok a s' → ∃ b, s' = s.push b

lemma Appends.pure (a : α) : Appends (pure a : EStateM ε (Sink β) α) := by
  intro s _ s' h
  cases h
  exact ⟨[], (push_nil s).symm⟩

lemma Appends.throw (e : ε) : Appends (throw e : EStateM ε (Sink β) α) := nofun

lemma Appends.bind {m : EStateM ε (Sink β) α} {f : α → EStateM ε (Sink β) γ} (hm : Appends m)
    (hf : ∀ a, Appends (f a)) : Appends (m >>= f) := by
  intro s c s' h
  simp only [Bind.bind, EStateM.bind] at h
  split at h
  · next a s₁ hs₁ =>
    obtain ⟨b, rfl⟩ := hm s a s₁ hs₁
    obtain ⟨b', rfl⟩ := hf a _ c s' h
    exact ⟨b ++ b', push_push s b b'⟩
  · cases h

lemma Appends.forM {f : σ → EStateM ε (Sink β) Unit} (h : ∀ x, Appends (f x)) (xs : List σ) :
    Appends (xs.forM f) := by
  induction xs with
  | nil => exact Appends.pure ()
  | cons x xs ih => exact (h x).bind fun _ => ih

/-! ## Properties of what is appended -/

/-- Where the writer `m` succeeds in a sink without a limit, it has appended a piece with the
property `P`. -/
def Yields (m : EStateM ε (Sink β) α) (P : List β → Prop) : Prop :=
  ∀ (s : Sink β) (a : α) (s' : Sink β), s.limit = none → m s = .ok a s' → ∃ b, s' = s.push b ∧ P b

/-- Where the writer `m` succeeds in a sink without a limit, it has appended `n` items. -/
def Grows (m : EStateM ε (Sink β) α) (n : ℕ) : Prop := Yields m fun b => b.length = n

/-- The writer `m` can succeed, and then with the piece `b`. -/
def Puts (m : EStateM ε (Sink β) α) (b : List β) : Prop :=
  ∃ (s : Sink β) (a : α), s.limit = none ∧ m s = .ok a (s.push b)

lemma hasRoom_of_limit {s : Sink β} (h : s.limit = none) (n : ℕ) : s.HasRoom n := by
  intro limit hl
  rw [h] at hl
  cases hl

lemma Yields.mono {m : EStateM ε (Sink β) α} {P Q : List β → Prop} (h : Yields m P)
    (hPQ : ∀ b, P b → Q b) : Yields m Q := by
  intro s a s' hs hm
  obtain ⟨b, hb, hP⟩ := h s a s' hs hm
  exact ⟨b, hb, hPQ b hP⟩

lemma Yields.pure (a : α) : Yields (pure a : EStateM ε (Sink β) α) fun b => b = [] := by
  intro s _ s' _ h
  cases h
  exact ⟨[], (push_nil s).symm, rfl⟩

/-- The pieces of two writers, one behind the other. -/
lemma Yields.bind {m : EStateM ε (Sink β) α} {f : α → EStateM ε (Sink β) γ} {P Q : List β → Prop}
    (hm : Yields m P) (hf : ∀ a, Yields (f a) Q) :
    Yields (m >>= f) fun b => ∃ b₁ b₂, b = b₁ ++ b₂ ∧ P b₁ ∧ Q b₂ := by
  intro s c s' hs h
  simp only [Bind.bind, EStateM.bind] at h
  split at h
  · next a s₁ hs₁ =>
    obtain ⟨b, rfl, hP⟩ := hm s a s₁ hs hs₁
    obtain ⟨b', rfl, hQ⟩ := hf a (s.push b) c s' hs h
    exact ⟨b ++ b', push_push s b b', b, b', rfl, hP, hQ⟩
  · cases h

/-- An exact writer yields what it appends. -/
lemma Writes.yields {m : EStateM ε (Sink β) Unit} {b : List β} (h : Writes m b) :
    Yields m fun b' => b' = b := by
  intro s _ s' hs hm
  rw [h s (hasRoom_of_limit hs _)] at hm
  cases hm
  exact ⟨b, rfl, rfl⟩

/-- What a writer can succeed with has the property that it yields. -/
lemma Yields.of_puts {m : EStateM ε (Sink β) α} {P : List β → Prop} {b : List β} (h : Yields m P)
    (hb : Puts m b) : P b := by
  obtain ⟨s, a, hs, hm⟩ := hb
  obtain ⟨b', hb', hP⟩ := h s a _ hs hm
  have heq : b = b' := List.append_cancel_left (congrArg data hb')
  exact heq ▸ hP

/-- An exact writer can succeed with nothing but what it appends. -/
lemma Writes.puts_iff {m : EStateM ε (Sink β) Unit} {b b' : List β} (h : Writes m b) :
    Puts m b' ↔ b' = b := by
  constructor
  · exact h.yields.of_puts
  · rintro rfl
    exact ⟨empty, (), rfl, h empty (hasRoom_empty _)⟩

/-- What one write for every item of a list appends is a piece for every item. -/
lemma Yields.forM {f : σ → EStateM ε (Sink β) Unit} {R : σ → List β → Prop} (xs : List σ)
    (h : ∀ x ∈ xs, Yields (f x) (R x)) :
    Yields (xs.forM f) fun b => ∃ bs, b = bs.flatten ∧ List.Forall₂ R xs bs := by
  induction xs with
  | nil => exact (Yields.pure ()).mono fun b hb => ⟨[], by simp [hb], .nil⟩
  | cons x xs ih =>
    refine ((h x List.mem_cons_self).bind fun _ =>
      ih fun y hy => h y (List.mem_cons_of_mem x hy)).mono ?_
    rintro _ ⟨b, _, rfl, hb, bs, rfl, hbs⟩
    exact ⟨b :: bs, by simp, .cons hb hbs⟩

lemma Grows.pure (a : α) : Grows (pure a : EStateM ε (Sink β) α) 0 :=
  (Yields.pure a).mono fun b hb => by rw [hb, List.length_nil]

lemma Grows.throw (e : ε) (n : ℕ) : Grows (throw e : EStateM ε (Sink β) α) n := nofun

lemma Writes.grows {m : EStateM ε (Sink β) Unit} {b : List β} (h : Writes m b) :
    Grows m b.length := h.yields.mono fun _ hb => congrArg List.length hb

/-- The numbers of items that two writers append add up. -/
lemma Grows.bind {m : EStateM ε (Sink β) α} {f : α → EStateM ε (Sink β) γ} {n n' : ℕ}
    (hm : Grows m n) (hf : ∀ a, Grows (f a) n') : Grows (m >>= f) (n + n') := by
  refine (Yields.bind hm hf).mono ?_
  rintro _ ⟨b, b', rfl, rfl, rfl⟩
  exact List.length_append

/-- A writer that appends so many items yields pieces that it can succeed with. -/
lemma Grows.puts {m : EStateM ε (Sink β) α} {n : ℕ} (h : Grows m n) : Yields m (Puts m) := by
  intro s a s' hs hm
  obtain ⟨b, rfl, _⟩ := h s a s' hs hm
  exact ⟨b, rfl, s, a, hs, hm⟩

lemma Grows.congr {m : EStateM ε (Sink β) α} {n n' : ℕ} (h : Grows m n) (hn : n = n') :
    Grows m n' := hn ▸ h

lemma Grows.ite {c : Prop} [Decidable c] {m m' : EStateM ε (Sink β) α} {n n' : ℕ}
    (h : Grows m n) (h' : Grows m' n') :
    Grows (if c then m else m') (if c then n else n') := by
  split_ifs
  · exact h
  · exact h'

/-- One write for every item of a list. -/
lemma Grows.forM {f : σ → EStateM ε (Sink β) Unit} {size : σ → ℕ} (xs : List σ)
    (h : ∀ x ∈ xs, Grows (f x) (size x)) : Grows (xs.forM f) (xs.map size).sum := by
  induction xs with
  | nil => exact Grows.pure ()
  | cons x xs ih =>
    exact (h x List.mem_cons_self).bind fun _ => ih fun y hy => h y (List.mem_cons_of_mem x hy)

/-! ## What is left in a sink -/

/-- What a writer leaves in an empty sink without a limit, up to its failure. -/
def written (m : EStateM ε (Sink β) Unit) : List β :=
  match m empty with
  | .ok _ s => s.data
  | .error _ s => s.data

/-- A writer leaves in an empty sink what it appends. -/
lemma Writes.written_eq {m : EStateM ε (Sink β) Unit} {b : List β} (h : Writes m b) :
    written m = b := by
  rw [written, h empty (hasRoom_empty _)]
  simp [empty]

end Sink
