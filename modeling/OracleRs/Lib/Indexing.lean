import Mathlib.Tactic

set_option relaxedAutoImplicit false
set_option autoImplicit false

/-!
# Indexing with bounds

Items and slices of a finite sequence, for languages in which a position outside of the sequence is an
error: `out position length` is the error of a position. Inside of the sequence the operations are those
of lists.

## Main definitions

* `Indexing.item`, `Indexing.items` — the item at a position, and a number of items from a position on.
* `Indexing.slice`, `Indexing.sliceFrom` — the items between two positions, and those behind one.

## Main results

* `Indexing.items_eq_ok`, `Indexing.slice_eq_ok`, `Indexing.sliceFrom_eq_ok` — what is read inside of
  the sequence.
-/

namespace Indexing

variable {ε α : Type} (out : ℕ → ℕ → ε) {l : List α} {start stop n : ℕ}

/-- The item at a position. -/
def item (l : List α) (i : ℕ) : Except ε α :=
  match l[i]? with
  | some a => .ok a
  | none => .error (out i l.length)

/-- The items at `n` positions, the first of which is `start`. -/
def items (l : List α) (start : ℕ) : ℕ → Except ε (List α)
  | 0 => .ok []
  | n + 1 => do
    let a ← item out l start
    let as ← items l (start + 1) n
    return a :: as

/-- The items from `start` on that stand before `stop`. -/
def slice (l : List α) (start stop : ℕ) : Except ε (List α) :=
  if start ≤ stop ∧ stop ≤ l.length then .ok ((l.drop start).take (stop - start))
  else .error (out stop l.length)

/-- The items from `start` on. -/
def sliceFrom (l : List α) (start : ℕ) : Except ε (List α) :=
  if start ≤ l.length then .ok (l.drop start) else .error (out start l.length)

lemma item_eq_ok (h : start < l.length) (d : α) : item out l start = .ok (l.getD start d) := by
  rw [item, List.getD_eq_getElem?_getD, List.getElem?_eq_getElem h]
  rfl

lemma items_eq_ok (h : start + n ≤ l.length) : items out l start n = .ok ((l.drop start).take n) := by
  induction n generalizing start with
  | zero => rfl
  | succ n ih =>
    have hlt : start < l.length := by omega
    have hitem : item out l start = .ok l[start] := by rw [item, List.getElem?_eq_getElem hlt]
    rw [items, hitem, ih (by omega), List.drop_eq_getElem_cons hlt]
    rfl

lemma slice_eq_ok (h : start + n ≤ l.length) :
    slice out l start (start + n) = .ok ((l.drop start).take n) := by
  rw [slice, if_pos ⟨Nat.le_add_right start n, h⟩, Nat.add_sub_cancel_left]

lemma sliceFrom_eq_ok (h : start ≤ l.length) : sliceFrom out l start = .ok (l.drop start) := if_pos h

lemma sliceFrom_eq_error (h : l.length < start) :
    sliceFrom out l start = .error (out start l.length) := if_neg (not_le.mpr h)

end Indexing
