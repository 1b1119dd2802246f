import Mathlib.Tactic

set_option relaxedAutoImplicit false
set_option autoImplicit false

/-!
# Numbering a list

A map that gets an entry for every item of a list, one after the other, with the number of its position.

## Main definitions

* `Numbering.assign number i ks m` — the map `m` with the entries of the items `ks`, which are numbered from `i`
  on.

## Main results

* `Numbering.assign_of_mem`, `Numbering.assign_of_not_mem` — the entries of the map.
* `Numbering.bijOn_idxOf` — the positions number the items.
-/

namespace Numbering

variable {κ ν : Type} [DecidableEq κ] {number : ℕ → ν}

/-- Every item is mapped to the number of its position. -/
def assign (number : ℕ → ν) : ℕ → List κ → (κ → Option ν) → κ → Option ν
  | _, [], m => m
  | i, k :: ks, m => assign number (i + 1) ks (Function.update m k (some (number i)))

/-- The other entries stay. -/
lemma assign_of_not_mem {ks : List κ} {k : κ} (h : k ∉ ks) (i : ℕ) (m : κ → Option ν) :
    assign number i ks m k = m k := by
  induction ks generalizing i m with
  | nil => rfl
  | cons k' ks ih =>
    rw [List.mem_cons, not_or] at h
    rw [assign, ih h.2, Function.update_of_ne h.1]

/-- An item that occurs once has the number of its position. -/
lemma assign_of_mem {ks : List κ} (hnodup : ks.Nodup) {k : κ} (h : k ∈ ks) (i : ℕ) (m : κ → Option ν) :
    assign number i ks m k = some (number (i + ks.idxOf k)) := by
  induction ks generalizing i m with
  | nil => cases h
  | cons k' ks ih =>
    obtain ⟨hnew, hnodup⟩ := List.nodup_cons.mp hnodup
    by_cases heq : k = k'
    · subst heq
      rw [assign, assign_of_not_mem hnew, Function.update_self, List.idxOf_cons_self, Nat.add_zero]
    · have hmem : k ∈ ks := (List.mem_cons.mp h).resolve_left heq
      rw [assign, ih hnodup hmem, List.idxOf_cons_ne _ (Ne.symm heq), Nat.succ_eq_add_one, Nat.add_right_comm,
        Nat.add_assoc]

/-- The positions number the items of a list without repetitions. -/
theorem bijOn_idxOf {ks : List κ} (hnodup : ks.Nodup) :
    Set.BijOn (fun k => ks.idxOf k + 1) {k | k ∈ ks} (Set.Icc 1 ks.length) := by
  refine ⟨fun k hk => ⟨Nat.le_add_left 1 _, List.idxOf_lt_length_of_mem hk⟩, fun k hk k' hk' heq => ?_, ?_⟩
  · exact (List.idxOf_inj hk).mp (Nat.succ.inj heq)
  · rintro n ⟨hpos, hle⟩
    have hlt : n - 1 < ks.length := by omega
    refine ⟨ks[n - 1], List.getElem_mem hlt, ?_⟩
    show ks.idxOf ks[n - 1] + 1 = n
    rw [hnodup.idxOf_getElem]
    omega

end Numbering
