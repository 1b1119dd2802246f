import OracleRs.Lib.Cursor

set_option relaxedAutoImplicit false
set_option autoImplicit false

/-!
# Readers that jump

A reader that follows offsets does not find the pieces of a sequence one behind the other. What is known
then is where a piece stands, and what a reader returns that begins there.

## Main definitions

* `Cursor.StandsAt` — a piece of a sequence stands at a position.
* `Cursor.ReadsAt` — a reader consumes a piece wherever it stands.
* `Cursor.YieldsAt` — what a reader returns from a position, wherever it ends.

## Main results

* `Cursor.StandsAt.append` — the parts of a piece stand one behind the other.
* `Cursor.ReadsAt.bind`, `Cursor.ReadsAt.times` — readers of pieces compose by concatenation.
* `Cursor.ReadsAt.bind_yieldsAt` — a reader goes on behind a piece that has been consumed.
-/

namespace Cursor

variable {β ε α γ : Type} {d : List β} {p : ℕ} {b b' : List β}

/-! ## Pieces of a sequence -/

/-- The items stand at the position of the sequence. -/
def StandsAt (d : List β) (p : ℕ) (b : List β) : Prop :=
  ∃ front back, d = front ++ (b ++ back) ∧ front.length = p

lemma standsAt_self (b : List β) : StandsAt b 0 b := ⟨[], [], (List.append_nil b).symm, rfl⟩

lemma StandsAt.append (h : StandsAt d p (b ++ b')) : StandsAt d p b ∧ StandsAt d (p + b.length) b' := by
  obtain ⟨front, back, rfl, rfl⟩ := h
  refine ⟨⟨front, b' ++ back, by rw [List.append_assoc], rfl⟩, front ++ b, back, ?_, List.length_append⟩
  rw [List.append_assoc, List.append_assoc]

lemma StandsAt.cons {x : β} (h : StandsAt d p (x :: b)) : StandsAt d p [x] ∧ StandsAt d (p + 1) b :=
  StandsAt.append (b := [x]) h

lemma StandsAt.take (h : StandsAt d p b) (n : ℕ) : StandsAt d p (b.take n) := by
  rw [← List.take_append_drop n b] at h
  exact h.append.1

lemma StandsAt.length_le (h : StandsAt d p b) : p + b.length ≤ d.length := by
  obtain ⟨front, back, rfl, rfl⟩ := h
  rw [List.length_append, List.length_append]
  omega

lemma StandsAt.take_drop (h : StandsAt d p b) : (d.drop p).take b.length = b := by
  obtain ⟨front, back, rfl, rfl⟩ := h
  rw [List.drop_left, List.take_left]

lemma StandsAt.getD {x : β} (h : StandsAt d p [x]) (y : β) : d.getD p y = x := by
  obtain ⟨front, back, rfl, rfl⟩ := h
  simp

/-! ## Reading a piece -/

/-- The reader consumes exactly the items `b` and returns `a`, wherever they stand. -/
def ReadsAt (m : EStateM ε (Cursor β) α) (b : List β) (a : α) : Prop :=
  ∀ d p, StandsAt d p b → m ⟨d, p⟩ = .ok a ⟨d, p + b.length⟩

/-- The reader returns `a` from the position, wherever it ends. -/
def YieldsAt (m : EStateM ε (Cursor β) α) (d : List β) (p : ℕ) (a : α) : Prop :=
  ∃ q, m ⟨d, p⟩ = .ok a ⟨d, q⟩

variable {m : EStateM ε (Cursor β) α} {f : α → EStateM ε (Cursor β) γ} {a : α} {r : γ}

lemma ReadsAt.pure (a : α) : ReadsAt (pure a : EStateM ε (Cursor β) α) [] a := fun _ _ _ => rfl

lemma ReadsAt.bind (hm : ReadsAt m b a) (hf : ReadsAt (f a) b' r) : ReadsAt (m >>= f) (b ++ b') r := by
  intro d p h
  obtain ⟨hb, hb'⟩ := h.append
  rw [bind_ok (hm d p hb), hf d _ hb', List.length_append, Nat.add_assoc]

/-- A reader behind which nothing more is consumed. -/
lemma ReadsAt.bind_nil (hm : ReadsAt m b a) (hf : ReadsAt (f a) [] r) : ReadsAt (m >>= f) b r := by
  have h := hm.bind hf
  rwa [List.append_nil] at h

/-- One piece behind the other, each consumed by the same reader. -/
lemma ReadsAt.times {ω : Type} {enc : ω → List β} {val : ω → α} {ws : List ω}
    (h : ∀ w ∈ ws, ReadsAt m (enc w) (val w)) :
    ReadsAt (Cursor.times m ws.length) (ws.flatMap enc) (ws.map val) := by
  induction ws with
  | nil => exact .pure []
  | cons w ws ih =>
    obtain ⟨hw, hws⟩ := List.forall_mem_cons.mp h
    exact hw.bind ((ih hws).bind_nil (.pure _))

/-- A reader goes on behind a piece that has been consumed. -/
lemma ReadsAt.bind_yieldsAt (hm : ReadsAt m b a) (h : StandsAt d p b)
    (hf : YieldsAt (f a) d (p + b.length) r) : YieldsAt (m >>= f) d p r := by
  obtain ⟨q, hq⟩ := hf
  exact ⟨q, (bind_ok (hm d p h)).trans hq⟩

lemma ReadsAt.yieldsAt (hm : ReadsAt m b a) (h : StandsAt d p b) : YieldsAt m d p a := ⟨_, hm d p h⟩

end Cursor
