import OracleRs.Lib.Cursor
import OracleRs.Lib.Sink

set_option relaxedAutoImplicit false
set_option autoImplicit false

/-!
# Values that are conveyed

A writer at one end of a wire and a reader at the other one. The writer conveys a value to the reader if the
reader takes what the writer appends, all of it and nothing else, for the value.

## Main definitions

* `Conveys w r a` — the writer `w` conveys the value `a` to the reader `r`.

## Main results

* `Conveys.bind` — fields behind one another.
* `Conveys.times` — the items of a list, if the reader knows how many there are.
-/

open Cursor (Reads)
open Sink (Writes)

/-- The reader `r` takes exactly what the writer `w` appends, for the value `a`. -/
def Conveys {ε ε' β α : Type} (w : EStateM ε (Sink β) Unit) (r : EStateM ε' (Cursor β) α) (a : α) : Prop :=
  ∃ b, Writes w b ∧ Reads r b a

namespace Conveys

variable {ε ε' β α γ σ : Type} {w w' : EStateM ε (Sink β) Unit} {r r' : EStateM ε' (Cursor β) α}
  {f : α → EStateM ε' (Cursor β) γ} {a : α} {c : γ} {b : List β}

lemma pure (a : α) : Conveys (pure () : EStateM ε (Sink β) Unit) (pure a : EStateM ε' (Cursor β) α) a :=
  ⟨[], Writes.pure, Reads.pure a⟩

/-- The reader goes on with the value where the writer goes on. -/
lemma bind (h : Conveys w r a) (h' : Conveys w' (f a) c) : Conveys (w >>= fun _ => w') (r >>= f) c := by
  obtain ⟨b, hw, hr⟩ := h
  obtain ⟨b', hw', hr'⟩ := h'
  exact ⟨b ++ b', hw.bind hw', hr.bind hr'⟩

/-- The reader reads nothing more. -/
lemma bind_nil (h : Conveys w r a) (hf : Reads (f a) [] c) : Conveys w (r >>= f) c := by
  obtain ⟨b, hw, hr⟩ := h
  exact ⟨b, hw, hr.bind_nil hf⟩

lemma map (h : Conveys w r a) (g : α → γ) : Conveys w (g <$> r) (g a) := by
  obtain ⟨b, hw, hr⟩ := h
  exact ⟨b, hw, hr.map g⟩

/-- Both ends know which case it is. -/
lemma ite {p : Prop} [Decidable p] (h : p → Conveys w r a) (h' : ¬ p → Conveys w' r' a) :
    Conveys (if p then w else w') (if p then r else r') a := by
  split_ifs with hp
  · exact h hp
  · exact h' hp

/-- The items of a list one behind the other. -/
lemma times {f : σ → EStateM ε (Sink β) Unit} {g : σ → α} (xs : List σ)
    (h : ∀ x ∈ xs, Conveys (f x) r (g x)) : Conveys (xs.forM f) (Cursor.times r xs.length) (xs.map g) := by
  induction xs with
  | nil => exact ⟨[], Writes.pure, Reads.pure []⟩
  | cons x xs ih =>
    obtain ⟨b, hw, hr⟩ := h x List.mem_cons_self
    obtain ⟨bs, hws, hrs⟩ := ih fun y hy => h y (List.mem_cons_of_mem x hy)
    exact ⟨b ++ bs, hw.bind hws, hr.bind (hrs.map (g x :: ·))⟩

end Conveys
