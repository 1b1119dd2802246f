import Mathlib.Tactic

set_option relaxedAutoImplicit false
set_option autoImplicit false

/-!
# Sequences cut into parts

A sequence that is cut at some of its positions: the parts joined by a separator are the sequence, and the
positions of the separators are those of the cuts.

## Main definitions

* `Cutting.closed d parts` — the parts with a separator behind each.
* `Cutting.cutPositions parts` — where the separators stand when the parts are joined.

## Main results

* `Cutting.intercalate_concat` — the parts in front of the last one are closed.
* `Cutting.closed_concat_take`, `Cutting.positions_concat_take` — a part that reaches up to a separator in
  the sequence.
-/

namespace Cutting

variable {α : Type} {d : α} {parts : List (List α)} {s part : List α}

/-- The parts, each with a separator behind it. -/
def closed (d : α) (parts : List (List α)) : List α := parts.flatMap fun part => part ++ [d]

/-- The positions of the separators behind the parts, from a position on. -/
def positions : ℕ → List (List α) → List ℕ
  | _, [] => []
  | n, part :: parts => (n + part.length) :: positions (n + part.length + 1) parts

/-- The positions of the separators between the parts. -/
def cutPositions (parts : List (List α)) : List ℕ := positions 0 parts.dropLast

lemma intercalate_concat (d : α) (parts : List (List α)) (last : List α) :
    [d].intercalate (parts ++ [last]) = closed d parts ++ last := by
  induction parts with
  | nil => simp [closed]
  | cons part parts ih =>
    have hne : parts ++ [last] ≠ [] := by simp
    rw [List.cons_append, List.intercalate_cons_of_ne_nil hne, ih, closed, closed, List.flatMap_cons]
    simp

lemma positions_concat (n : ℕ) (parts : List (List α)) (part : List α) :
    positions n (parts ++ [part]) = positions n parts ++ [n + (closed d parts).length + part.length] := by
  induction parts generalizing n with
  | nil => rfl
  | cons p parts ih =>
    rw [List.cons_append, positions, ih, positions, List.cons_append, closed, closed, List.flatMap_cons]
    simp only [List.length_append, List.length_singleton, List.cons.injEq, List.append_cancel_left_eq, and_true,
      true_and]
    omega

/-- A part that reaches up to a separator is closed by it. -/
lemma closed_concat_take {start i : ℕ} (hclosed : closed d parts = s.take start) (hstart : start ≤ i)
    (hi : s[i]? = some d) : closed d (parts ++ [(s.drop start).take (i - start)]) = s.take (i + 1) := by
  have htake : s.take start ++ (s.drop start).take (i - start) = s.take i := by
    rw [← List.take_add, Nat.add_sub_cancel' hstart]
  rw [closed, List.flatMap_append, ← closed, hclosed, List.flatMap_singleton, ← List.append_assoc, htake,
    List.take_add_one, hi]
  rfl

/-- Its separator is one more cut. -/
lemma positions_concat_take {start i : ℕ} (hclosed : closed d parts = s.take start) (hstart : start ≤ i)
    (hi : i < s.length) :
    positions 0 (parts ++ [(s.drop start).take (i - start)]) = positions 0 parts ++ [i] := by
  rw [positions_concat (d := d), hclosed, List.length_take, List.length_take, List.length_drop]
  congr 2
  omega

end Cutting
