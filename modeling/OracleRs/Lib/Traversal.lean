import Mathlib.Tactic
import Mathlib.Order.SuccPred.Relation

set_option relaxedAutoImplicit false
set_option autoImplicit false

/-!
# Depth-first traversals of graphs that may have loops

A traversal that begins at a place, goes to its children one after the other, and stops at the
first child that cannot be located. Nothing keeps the children from leading back to a place that is
still being visited, so that a bound on the depth stands for the calls that are open at a time.
This module says when a bound is enough, and where a traversal fails.

## Main definitions

* `Traversal.Graph` — places with their children, some of which cannot be located.
* `Traversal.Graph.visit` — the traversal from a place, with a bound on the depth.
* `Traversal.Graph.Complete` — everything below a place can be located.
* `Traversal.Graph.Visits`, `Traversal.Graph.FailsAt` — the places to which the traversal goes from
  a place, and the failure that it meets there.

## Main results

* `Traversal.Graph.exists_failsAt`, `Traversal.Graph.visit_of_failsAt` — the outcome of a traversal
  is a failure that it meets at one of its places.
* `Traversal.Graph.exists_visit_iff_acc` — some bound is enough if and only if the children lead
  down in a well-founded way.
* `Traversal.Graph.exists_visit_iff` — where only finitely many places have children, this means that
  no place of the traversal is among its own descendants.
-/

namespace Traversal

open Relation

/-! ## Relations with finitely many sources -/

/-- A relation that only finitely many elements are the sources of is well-founded below an element
if and only if it has no loop there. -/
theorem acc_iff_of_finite {π : Type} {r : π → π → Prop} (hfin : {p | ∃ q, r p q}.Finite) {p : π} :
    Acc (fun a b => r b a) p ↔ ∀ q, ReflTransGen r p q → ¬ TransGen r q q := by
  constructor
  · intro hacc q hpq hloop
    have hq : Acc (fun a b => r b a) q := by
      clear hloop
      induction hpq with
      | refl => exact hacc
      | tail _ hstep ih => exact ih.inv hstep
    -- an element below itself is not accessible
    have hself : ∀ a, Acc (TransGen fun a b => r b a) a → ¬ TransGen (fun a b => r b a) a a := by
      intro a ha
      induction ha with
      | intro a _ ih => exact fun h => ih a h h
    exact hself q hq.transGen hloop.swap
  · intro hloop
    by_contra hacc
    obtain ⟨f, rfl, hf⟩ := not_acc_iff_exists_descending_chain.mp hacc
    have hmem : ∀ n, f n ∈ {p | ∃ q, r p q} := fun n => ⟨f (n + 1), hf n⟩
    obtain ⟨m, n, hmn, heq⟩ := hfin.exists_lt_map_eq_of_forall_mem hmem
    have hreach : ReflTransGen r (f 0) (f m) :=
      (reflTransGen_of_succ_of_le (fun a b => r (f a) (f b)) (fun i _ => hf i)
        (Nat.zero_le m)).lift f fun _ _ h => h
    have hcycle : TransGen r (f m) (f n) :=
      (transGen_of_succ_of_lt (fun a b => r (f a) (f b)) (fun i _ => hf i) hmn).lift f
        fun _ _ h => h
    rw [← heq] at hcycle
    exact hloop _ hreach hcycle

/-! ## Graphs -/

/-- Places with children, each of which has a place or cannot be located. -/
structure Graph (π ε : Type) where
  /-- the number of children of a place -/
  arity : π → ℕ
  /-- the places of the children -/
  child : π → ℕ → Except ε π

/-- One call for each of a number of children, up to the first failure. -/
def each {π ε : Type} (f : π → Except ε Unit) : ℕ → (ℕ → Except ε π) → Except ε Unit
  | 0, _ => .ok ()
  | n + 1, child => do
    f (← child 0)
    each f n fun i => child (i + 1)

section Each

variable {π ε : Type} {f g : π → Except ε Unit} {n : ℕ} {child : ℕ → Except ε π}

lemma each_eq_ok_iff :
    each f n child = .ok () ↔ ∀ i < n, ∃ q, child i = .ok q ∧ f q = .ok () := by
  induction n generalizing child with
  | zero => simp [each]
  | succ n ih =>
    rw [each, Nat.forall_lt_succ_left]
    cases hc : child 0 with
    | error e => simp [bind, Except.bind]
    | ok q =>
      cases hq : f q with
      | error e => simp [bind, Except.bind, hq]
      | ok u => simpa [bind, Except.bind, hq] using ih

lemma each_eq_error_iff {e : ε} :
    each f n child = .error e ↔
      ∃ i < n, (∀ j < i, ∃ q, child j = .ok q ∧ f q = .ok ()) ∧
        (child i = .error e ∨ ∃ q, child i = .ok q ∧ f q = .error e) := by
  induction n generalizing child with
  | zero => simp [each]
  | succ n ih =>
    rw [each, Nat.exists_lt_succ_left]
    simp only [Nat.forall_lt_succ_left]
    cases hc : child 0 with
    | error e' => simp [bind, Except.bind]
    | ok q =>
      cases hq : f q with
      | error e' => simp [bind, Except.bind, hq]
      | ok u => simpa [bind, Except.bind, hq] using ih

/-- Calls that do not fail with `stuck` may be replaced by others with the same outcomes. -/
lemma each_congr {stuck : ε} (hfg : ∀ q, f q ≠ .error stuck → g q = f q)
    (h : each f n child ≠ .error stuck) : each g n child = each f n child := by
  induction n generalizing child with
  | zero => rfl
  | succ n ih =>
    rw [each] at h ⊢
    rw [each]
    cases hc : child 0 with
    | error e => rfl
    | ok q =>
      rw [hc] at h
      cases hq : f q with
      | error e =>
        have hne : f q ≠ .error stuck := fun hs => h (by simp [bind, Except.bind, hs])
        simp [bind, Except.bind, hfg q hne, hq]
      | ok u =>
        have hne : f q ≠ .error stuck := by simp [hq]
        simp only [bind, Except.bind, hfg q hne, hq] at h ⊢
        exact ih h

end Each

namespace Graph

variable {π ε : Type} (G : Graph π ε) (stuck : ε)

/-- The traversal from a place: it fails with `stuck` where the bound on the depth is reached. -/
def visit : ℕ → π → Except ε Unit
  | 0, _ => .error stuck
  | k + 1, p => each (visit k) (G.arity p) (G.child p)

/-- All children of the place, their children and so on can be located. -/
inductive Complete : π → Prop
  | mk {p : π} (place : ℕ → π) (hchild : ∀ i < G.arity p, G.child p i = .ok (place i))
      (h : ∀ i < G.arity p, Complete (place i)) : Complete p

/-- The traversal of a place comes to its child number `i`: those in front of it are complete. -/
def Tries (p : π) (i : ℕ) : Prop :=
  i < G.arity p ∧ ∀ j < i, ∃ q, G.child p j = .ok q ∧ G.Complete q

/-- The traversal of a place goes to the place `q` of a child. -/
def Visits (p q : π) : Prop := ∃ i, G.Tries p i ∧ G.child p i = .ok q

/-- The traversal of a place comes to a child that cannot be located. -/
def FailsAt (p : π) (e : ε) : Prop := ∃ i, G.Tries p i ∧ G.child p i = .error e

variable {G stuck} {p q : π} {e : ε} {k : ℕ}

/-! ## Bounds -/

/-- A bound that is enough may be raised. -/
lemma visit_succ (h : G.visit stuck k p ≠ .error stuck) :
    G.visit stuck (k + 1) p = G.visit stuck k p := by
  induction k generalizing p with
  | zero => exact absurd rfl h
  | succ k ih => exact each_congr (fun q hq => ih hq) h

lemma visit_mono {k' : ℕ} (hk : k ≤ k') (h : G.visit stuck k p ≠ .error stuck) :
    G.visit stuck k' p = G.visit stuck k p := by
  induction k', hk using Nat.le_induction with
  | base => rfl
  | succ k' _ ih => rw [visit_succ (by rwa [ih]), ih]

/-- Two bounds that are enough have the same outcome. -/
lemma visit_unique {k' : ℕ} (h : G.visit stuck k p ≠ .error stuck)
    (h' : G.visit stuck k' p ≠ .error stuck) : G.visit stuck k p = G.visit stuck k' p := by
  rcases Nat.le_total k k' with hk | hk
  · exact (visit_mono hk h).symm
  · exact visit_mono hk h'

/-! ## Complete places -/

lemma complete_of_visit (h : G.visit stuck k p = .ok ()) : G.Complete p := by
  induction k generalizing p with
  | zero => cases h
  | succ k ih =>
    have hall := each_eq_ok_iff.mp h
    have : Nonempty π := ⟨p⟩
    choose! place hchild hvisit using hall
    exact .mk place hchild fun i hi => ih (hvisit i hi)

/-- A finite number of places for each of which some bound is enough have a bound together. -/
lemma exists_bound {place : ℕ → π} {n : ℕ}
    (h : ∀ i < n, ∃ k, G.visit stuck k (place i) = .ok ()) :
    ∃ k, ∀ i < n, G.visit stuck k (place i) = .ok () := by
  choose! bound hbound using h
  refine ⟨(Finset.range n).sup bound, fun i hi => ?_⟩
  have hle : bound i ≤ (Finset.range n).sup bound := Finset.le_sup (Finset.mem_range.mpr hi)
  rw [visit_mono hle (by simp [hbound i hi]), hbound i hi]

lemma Complete.exists_visit (h : G.Complete p) : ∃ k, G.visit stuck k p = .ok () := by
  induction h with
  | mk place hchild _ ih =>
    obtain ⟨k, hk⟩ := exists_bound ih
    exact ⟨k + 1, each_eq_ok_iff.mpr fun i hi => ⟨place i, hchild i hi, hk i hi⟩⟩

/-- A complete place has been visited wherever the bound was enough. -/
lemma Complete.visit_eq (h : G.Complete p) (hk : G.visit stuck k p ≠ .error stuck) :
    G.visit stuck k p = .ok () := by
  obtain ⟨k', hk'⟩ : ∃ k', G.visit stuck k' p = .ok () := h.exists_visit
  have hne : G.visit stuck k' p ≠ .error stuck := by simp [hk']
  rw [visit_unique hk hne, hk']

/-- A traversal comes to the child behind those that it has visited. -/
lemma tries_of_visit {i : ℕ} (hi : i < G.arity p)
    (h : ∀ j < i, ∃ q, G.child p j = .ok q ∧ G.visit stuck k q = .ok ()) : G.Tries p i :=
  ⟨hi, fun j hj => (h j hj).imp fun _ hq => ⟨hq.1, complete_of_visit hq.2⟩⟩

/-- Where the bound is enough, it was enough for the children in front of one that is tried. -/
lemma Tries.visit_eq {i : ℕ} (hi : G.Tries p i) (h : G.visit stuck (k + 1) p ≠ .error stuck) :
    ∀ j < i, ∃ q, G.child p j = .ok q ∧ G.visit stuck k q = .ok () := by
  intro j
  induction j using Nat.strong_induction_on with
  | _ j ih =>
    intro hj
    obtain ⟨q, hq, hcomplete⟩ := hi.2 j hj
    refine ⟨q, hq, hcomplete.visit_eq fun hstuck => h ?_⟩
    exact each_eq_error_iff.mpr ⟨j, hj.trans hi.1, fun l hl => ih l hl (hl.trans hj),
      .inr ⟨q, hq, hstuck⟩⟩

/-- Where the bound is enough, it was enough for the places to which the traversal went. -/
lemma Visits.visit_ne_stuck (hpq : G.Visits p q) (h : G.visit stuck (k + 1) p ≠ .error stuck) :
    G.visit stuck k q ≠ .error stuck := by
  intro hstuck
  obtain ⟨i, hi, hq⟩ := hpq
  exact h (each_eq_error_iff.mpr ⟨i, hi.1, hi.visit_eq h, .inr ⟨q, hq, hstuck⟩⟩)

/-! ## Failures -/

/-- A traversal that fails has met the failure at one of its places. -/
theorem exists_failsAt (h : G.visit stuck k p = .error e) (he : e ≠ stuck) :
    ∃ q, ReflTransGen G.Visits p q ∧ G.FailsAt q e := by
  induction k generalizing p with
  | zero =>
    cases h
    exact absurd rfl he
  | succ k ih =>
    obtain ⟨i, hi, hbefore, hfail⟩ := each_eq_error_iff.mp h
    have htries := tries_of_visit hi hbefore
    rcases hfail with hchild | ⟨q, hchild, hq⟩
    · exact ⟨p, .refl, i, htries, hchild⟩
    · obtain ⟨q', hreach, hfails⟩ := ih hq
      exact ⟨q', .head ⟨i, htries, hchild⟩ hreach, hfails⟩

/-- A failure that the traversal meets is its outcome.

**Proof sketch.** Induction on the way to the place: the children in front of the one on the way
are complete, so that the outcome at this child is the outcome of all. -/
theorem visit_of_failsAt (hreach : ReflTransGen G.Visits p q) (hfails : G.FailsAt q e)
    (h : G.visit stuck k p ≠ .error stuck) : G.visit stuck k p = .error e := by
  induction hreach using ReflTransGen.head_induction_on generalizing k with
  | refl =>
    obtain ⟨i, hi, hchild⟩ := hfails
    cases k with
    | zero => exact absurd rfl h
    | succ k => exact each_eq_error_iff.mpr ⟨i, hi.1, hi.visit_eq h, .inl hchild⟩
  | head hstep _ ih =>
    cases k with
    | zero => exact absurd rfl h
    | succ k =>
      have hq := ih (hstep.visit_ne_stuck h)
      obtain ⟨i, hi, hchild⟩ := hstep
      exact each_eq_error_iff.mpr ⟨i, hi.1, hi.visit_eq h, .inr ⟨_, hchild, hq⟩⟩

/-! ## Termination -/

/-- Below a bound for every place to which the traversal goes there is a bound for the place itself.

**Proof sketch.** The largest bound for one of the finitely many children is enough: a child at which
it were not enough would be one to which the traversal goes. -/
lemma exists_visit_of_visits (hstuck : ¬ G.FailsAt p stuck)
    (h : ∀ q, G.Visits p q → ∃ k, G.visit stuck k q ≠ .error stuck) :
    ∃ k, G.visit stuck k p ≠ .error stuck := by
  have hbound : ∀ i, ∃ k, ∀ q, G.Tries p i → G.child p i = .ok q →
      G.visit stuck k q ≠ .error stuck := by
    intro i
    by_cases hi : ∃ q, G.Tries p i ∧ G.child p i = .ok q
    · obtain ⟨q, htries, hq⟩ := hi
      obtain ⟨k, hk⟩ := h q ⟨i, htries, hq⟩
      refine ⟨k, fun q' _ hq' => ?_⟩
      obtain rfl : q = q' := Except.ok.inj (hq.symm.trans hq')
      exact hk
    · exact ⟨0, fun q htries hq => absurd ⟨q, htries, hq⟩ hi⟩
  choose bound hbound using hbound
  refine ⟨(Finset.range (G.arity p)).sup bound + 1, fun hvisit => ?_⟩
  obtain ⟨i, hi, hbefore, hfail⟩ := each_eq_error_iff.mp hvisit
  have htries := tries_of_visit hi hbefore
  rcases hfail with hchild | ⟨q, hchild, hq⟩
  · exact hstuck ⟨i, htries, hchild⟩
  · have hne := hbound i q htries hchild
    have hle : bound i ≤ (Finset.range (G.arity p)).sup bound :=
      Finset.le_sup (Finset.mem_range.mpr hi)
    exact hne (by rw [← visit_mono hle hne, hq])

/-- Some bound is enough if and only if the places to which the traversal goes lead down in a
well-founded way. -/
theorem exists_visit_iff_acc (hstuck : ∀ q, ReflTransGen G.Visits p q → ¬ G.FailsAt q stuck) :
    (∃ k, G.visit stuck k p ≠ .error stuck) ↔ Acc (fun a b => G.Visits b a) p := by
  constructor
  · rintro ⟨k, hk⟩
    clear hstuck
    induction k generalizing p with
    | zero => exact absurd rfl hk
    | succ k ih => exact .intro p fun q hq => ih (hq.visit_ne_stuck hk)
  · intro hacc
    induction hacc with
    | intro p _ ih =>
      refine exists_visit_of_visits (hstuck p .refl) fun q hq => ih q hq fun q' hq' => ?_
      exact hstuck q' (.head hq hq')

/-- Where only finitely many places have children, some bound is enough if and only if no place of
the traversal is among its own descendants. -/
theorem exists_visit_iff (hstuck : ∀ q, ReflTransGen G.Visits p q → ¬ G.FailsAt q stuck)
    (hfin : {p | ∃ q, G.Visits p q}.Finite) :
    (∃ k, G.visit stuck k p ≠ .error stuck) ↔
      ∀ q, ReflTransGen G.Visits p q → ¬ TransGen G.Visits q q :=
  (exists_visit_iff_acc hstuck).trans (acc_iff_of_finite hfin)

end Graph

end Traversal
