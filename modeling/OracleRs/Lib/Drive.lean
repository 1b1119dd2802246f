import Mathlib.Tactic

set_option relaxedAutoImplicit false
set_option autoImplicit false

/-!
# Loops driven by a sequence of items

A *driven* loop takes one item of an incoming sequence per turn. A turn either goes on with a
new loop state or returns; a loop that has taken every item without returning is waiting for
the next one. This module has what is needed to say where such a loop stops: how a run splits
at a point of the sequence, and that a loop with a stopping test returns at the first item
that passes the test.

## Main definitions

* `Drive.Driven` — the outcome of a loop: waiting, or returned with the items left over.
* `Drive.drive` — the run of a loop over a sequence.
* `Drive.StopsAt` — the turns of a loop that goes on until an item passes a test.
* `Drive.Early` — some item before the end of the sequence passes the test.
* `Drive.Embeds` — the turns of a loop that runs another one.

## Main results

* `Drive.drive_append_of_waiting`, `Drive.drive_append_of_returned` — a run over a longer
  sequence goes on where the run over its beginning stopped.
* `Drive.StopsAt.drive_eq_waiting_iff` — a loop waits if and only if no item has passed.
* `Drive.StopsAt.drive_concat_eq_returned_iff` — a loop returns at the last item if and only if
  that item is the first to pass.
* `Drive.Embeds.waiting`, `Drive.Embeds.more`, `Drive.Embeds.done` — a run of the outer loop
  follows that of the inner one.
-/

namespace Drive

variable {σ π π' ρ ρ' : Type}

/-- The outcome of a driven loop. -/
inductive Driven (σ π ρ : Type) where
  /-- every item has been taken, and the loop asks for another one -/
  | waiting (s : σ)
  /-- the loop has returned; the items left over have not been taken -/
  | returned (r : ρ) (left : List π)
deriving DecidableEq, Repr

/-- Run a loop over a sequence of items. A turn returns the next loop state or the result. -/
def drive (step : σ → π → σ ⊕ ρ) : σ → List π → Driven σ π ρ
  | s, [] => .waiting s
  | s, p :: ps =>
    match step s p with
    | .inl s' => drive step s' ps
    | .inr r => .returned r ps

section Run

variable {step : σ → π → σ ⊕ ρ}

@[simp] lemma drive_nil (s : σ) : drive step s [] = .waiting s := rfl

/-- A turn that goes on. -/
lemma drive_cons_of_more {s s' : σ} {p : π} (h : step s p = .inl s') (ps : List π) :
    drive step s (p :: ps) = drive step s' ps := by
  rw [drive, h]

/-- A turn that returns. -/
lemma drive_cons_of_done {s : σ} {p : π} {r : ρ} (h : step s p = .inr r) (ps : List π) :
    drive step s (p :: ps) = .returned r ps := by
  rw [drive, h]

/-- A loop that waits goes on with what arrives next. -/
lemma drive_append_of_waiting {s s' : σ} {ps : List π} (h : drive step s ps = .waiting s')
    (qs : List π) : drive step s (ps ++ qs) = drive step s' qs := by
  induction ps generalizing s with
  | nil => cases h; rfl
  | cons p ps ih =>
    cases hp : step s p with
    | inl t =>
      rw [drive_cons_of_more hp] at h
      rw [List.cons_append, drive_cons_of_more hp, ih h]
    | inr r => rw [drive_cons_of_done hp] at h; cases h

/-- A loop that has returned takes nothing of what arrives next. -/
lemma drive_append_of_returned {s : σ} {ps left : List π} {r : ρ}
    (h : drive step s ps = .returned r left) (qs : List π) :
    drive step s (ps ++ qs) = .returned r (left ++ qs) := by
  induction ps generalizing s with
  | nil => cases h
  | cons p ps ih =>
    cases hp : step s p with
    | inl t =>
      rw [drive_cons_of_more hp] at h
      rw [List.cons_append, drive_cons_of_more hp, ih h]
    | inr x =>
      rw [drive_cons_of_done hp] at h
      cases h
      rw [List.cons_append, drive_cons_of_done hp]

/-- A loop that has returned took a beginning of the sequence, the last item of which made it
return. -/
lemma exists_of_drive_eq_returned {s : σ} {ps left : List π} {r : ρ}
    (h : drive step s ps = .returned r left) :
    ∃ pre p s', ps = pre ++ p :: left ∧ drive step s pre = .waiting s' ∧ step s' p = .inr r := by
  induction ps generalizing s with
  | nil => cases h
  | cons p ps ih =>
    cases hp : step s p with
    | inl t =>
      rw [drive_cons_of_more hp] at h
      obtain ⟨pre, q, s', rfl, hpre, hq⟩ := ih h
      exact ⟨p :: pre, q, s', rfl, by rw [drive_cons_of_more hp, hpre], hq⟩
    | inr x =>
      rw [drive_cons_of_done hp] at h
      cases h
      exact ⟨[], p, s, rfl, rfl, hp⟩

/-- A loop returns at the last item of a sequence if and only if it waits for that item and
then returns. -/
lemma drive_concat_eq_returned_iff {s : σ} {ps : List π} {p : π} {r : ρ} :
    drive step s (ps ++ [p]) = .returned r [] ↔
      ∃ s', drive step s ps = .waiting s' ∧ step s' p = .inr r := by
  constructor
  · intro h
    obtain ⟨pre, q, s', hsplit, hpre, hq⟩ := exists_of_drive_eq_returned h
    obtain ⟨rfl, hlast⟩ := List.append_inj' hsplit rfl
    cases hlast
    exact ⟨s', hpre, hq⟩
  · rintro ⟨s', hs, hp⟩
    rw [drive_append_of_waiting hs, drive_cons_of_done hp]

end Run

/-! ## Converting the result -/

/-- The same loop with a converted result. -/
def Driven.map (f : ρ → ρ') : Driven σ π ρ → Driven σ π ρ'
  | .waiting s => .waiting s
  | .returned r left => .returned (f r) left

lemma Driven.map_eq_returned_iff {f : ρ → ρ'} {d : Driven σ π ρ} {x : ρ'} {left : List π} :
    d.map f = .returned x left ↔ ∃ r, d = .returned r left ∧ f r = x := by
  cases d with
  | waiting s => simp [Driven.map]
  | returned r l =>
    simp only [Driven.map, Driven.returned.injEq]
    constructor
    · rintro ⟨rfl, rfl⟩
      exact ⟨r, ⟨rfl, rfl⟩, rfl⟩
    · rintro ⟨r', ⟨rfl, rfl⟩, rfl⟩
      exact ⟨rfl, rfl⟩

/-! ## Loops with a stopping test -/

/-- The turns of a loop that goes on to the state `next s p` until an item passes the test
`stop`, and then returns `out s p`. The items are the images `f p` of the sequence's own. -/
structure StopsAt (step : σ → π' → σ ⊕ ρ) (f : π → π') (next : σ → π → σ) (stop : σ → π → Prop)
    (out : σ → π → ρ) : Prop where
  /-- an item that does not pass -/
  more : ∀ s p, ¬ stop s p → step s (f p) = .inl (next s p)
  /-- an item that passes -/
  done : ∀ s p, stop s p → step s (f p) = .inr (out s p)

/-- Some item of the sequence passes the test in the state that the items before it lead to. -/
def Early (next : σ → π → σ) (stop : σ → π → Prop) (s : σ) (ps : List π) : Prop :=
  ∃ pre p post, ps = pre ++ p :: post ∧ stop (pre.foldl next s) p

section Stops

variable {step : σ → π' → σ ⊕ ρ} {f : π → π'} {next : σ → π → σ} {stop : σ → π → Prop}
  {out : σ → π → ρ}

@[simp] lemma not_early_nil (s : σ) : ¬ Early next stop s [] := by
  rintro ⟨pre, p, post, h, -⟩
  cases pre <;> cases h

/-- The first item passes, or one behind it does. -/
lemma early_cons_iff {s : σ} {p : π} {ps : List π} :
    Early next stop s (p :: ps) ↔ stop s p ∨ Early next stop (next s p) ps := by
  constructor
  · rintro ⟨pre, q, post, h, hstop⟩
    cases pre with
    | nil => cases h; exact .inl hstop
    | cons a pre => cases h; exact .inr ⟨pre, q, post, rfl, hstop⟩
  · rintro (h | ⟨pre, q, post, rfl, hstop⟩)
    · exact ⟨[], p, ps, rfl, h⟩
    · exact ⟨p :: pre, q, post, rfl, hstop⟩

/-- A loop with a stopping test waits if and only if no item has passed, and then it is in the
state that the items lead to. -/
lemma StopsAt.drive_eq_waiting_iff (h : StopsAt step f next stop out) {s s' : σ} {ps : List π} :
    drive step s (ps.map f) = .waiting s' ↔ ¬ Early next stop s ps ∧ s' = ps.foldl next s := by
  induction ps generalizing s with
  | nil => simp [eq_comm]
  | cons p ps ih =>
    rw [early_cons_iff, List.map_cons, List.foldl_cons]
    by_cases hp : stop s p
    · rw [drive_cons_of_done (h.done s p hp)]
      simp [hp]
    · rw [drive_cons_of_more (h.more s p hp), ih]
      simp [hp]

/-- A loop with a stopping test returns at the last item if and only if that item is the first
one to pass. -/
lemma StopsAt.drive_concat_eq_returned_iff (h : StopsAt step f next stop out) {s : σ}
    {ps : List π} {p : π} {r : ρ} :
    drive step s ((ps ++ [p]).map f) = .returned r [] ↔
      ¬ Early next stop s ps ∧ stop (ps.foldl next s) p ∧ r = out (ps.foldl next s) p := by
  rw [List.map_append, List.map_singleton, Drive.drive_concat_eq_returned_iff]
  constructor
  · rintro ⟨s', hs, hp⟩
    obtain ⟨hearly, rfl⟩ := h.drive_eq_waiting_iff.mp hs
    refine ⟨hearly, ?_⟩
    by_cases hstop : stop (ps.foldl next s) p
    · rw [h.done _ _ hstop] at hp
      cases hp
      exact ⟨hstop, rfl⟩
    · rw [h.more _ _ hstop] at hp
      cases hp
  · rintro ⟨hearly, hstop, rfl⟩
    exact ⟨_, h.drive_eq_waiting_iff.mpr ⟨hearly, rfl⟩, h.done _ _ hstop⟩

/-- A loop with a stopping test returns at the first item that passes the test, and leaves what
is behind it. -/
lemma StopsAt.drive_eq_returned_iff (h : StopsAt step f next stop out) {s : σ} {ps : List π}
    {r : ρ} {left : List π'} :
    drive step s (ps.map f) = .returned r left ↔
      ∃ pre p post, ps = pre ++ p :: post ∧ left = post.map f ∧ ¬ Early next stop s pre ∧
        stop (pre.foldl next s) p ∧ r = out (pre.foldl next s) p := by
  constructor
  · intro hreturned
    obtain ⟨front, item, s', hsplit, hfront, hitem⟩ := exists_of_drive_eq_returned hreturned
    obtain ⟨pre, behind, rfl, rfl, hbehind⟩ := List.map_eq_append_iff.mp hsplit
    obtain ⟨p, post, rfl, rfl, rfl⟩ := List.map_eq_cons_iff.mp hbehind
    have hlast : drive step s ((pre ++ [p]).map f) = .returned r [] := by
      rw [List.map_append, List.map_singleton, drive_append_of_waiting hfront,
        drive_cons_of_done hitem]
    exact ⟨pre, p, post, rfl, rfl, h.drive_concat_eq_returned_iff.mp hlast⟩
  · rintro ⟨pre, p, post, rfl, rfl, hlast⟩
    have hreturned := h.drive_concat_eq_returned_iff.mpr hlast
    have hsplit : (pre ++ p :: post).map f = (pre ++ [p]).map f ++ post.map f := by simp
    rw [hsplit, drive_append_of_returned hreturned, List.nil_append]

end Stops

/-! ## Loops inside of loops -/

section Inside

variable {τ : Type} {step : σ → π → σ ⊕ ρ} {step' : τ → π → τ ⊕ ρ'} {g : σ → τ}
  {k : ρ → τ ⊕ ρ'}

/-- From its states `g s` on, the outer loop with the turns `step'` does the turns `step` of the
inner one; when that one returns `r`, the outer loop has made the turn `k r`. -/
def Embeds (step : σ → π → σ ⊕ ρ) (step' : τ → π → τ ⊕ ρ') (g : σ → τ) (k : ρ → τ ⊕ ρ') :
    Prop :=
  ∀ s p, step' (g s) p = (step s p).elim (fun s' => .inl (g s')) k

/-- While the inner loop waits, the outer one does. -/
lemma Embeds.waiting (h : Embeds step step' g k) {s s' : σ} {ps : List π}
    (hs : drive step s ps = .waiting s') : drive step' (g s) ps = .waiting (g s') := by
  induction ps generalizing s with
  | nil => cases hs; rfl
  | cons p ps ih =>
    have hturn := h s p
    cases hp : step s p with
    | inl t =>
      rw [hp] at hturn
      rw [drive_cons_of_more hp] at hs
      rw [drive_cons_of_more hturn, ih hs]
    | inr r => rw [drive_cons_of_done hp] at hs; cases hs

/-- The inner loop returns, and the outer one goes on. -/
lemma Embeds.more (h : Embeds step step' g k) {s : σ} {t : τ} {ps left : List π} {r : ρ}
    (hs : drive step s ps = .returned r left) (hk : k r = .inl t) :
    drive step' (g s) ps = drive step' t left := by
  obtain ⟨pre, p, s', rfl, hpre, hp⟩ := exists_of_drive_eq_returned hs
  have hturn := h s' p
  rw [hp, Sum.elim_inr, hk] at hturn
  rw [drive_append_of_waiting (h.waiting hpre), drive_cons_of_more hturn]

/-- Both loops return. -/
lemma Embeds.done (h : Embeds step step' g k) {s : σ} {ps left : List π} {r : ρ} {x : ρ'}
    (hs : drive step s ps = .returned r left) (hk : k r = .inr x) :
    drive step' (g s) ps = .returned x left := by
  obtain ⟨pre, p, s', rfl, hpre, hp⟩ := exists_of_drive_eq_returned hs
  have hturn := h s' p
  rw [hp, Sum.elim_inr, hk] at hturn
  rw [drive_append_of_waiting (h.waiting hpre), drive_cons_of_done hturn]

end Inside

end Drive
