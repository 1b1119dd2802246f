import OracleRs.Lib.Cursor

set_option relaxedAutoImplicit false
set_option autoImplicit false

/-!
# Computations that record

A computation that changes a state and, besides, a record that it never looks at. It does to the state
what a computation without the record does, and the state alone decides how the record is changed, also
when the computation fails.

## Main definitions

* `Recording.lift`, `Recording.record` — a computation that records nothing, and one that only records.
* `Recording.Follows m' m log` — the recording computation `m'` is `m` besides changing the record by `log`.
* `Recording.ReadsAs m b a r r'` — a recording reader consumes exactly the items `b`, and changes the record.

## Main results

* `Recording.Follows.bind` — what a sequence of two computations records.
* `Recording.ReadsAs.bind` — recording readers compose by concatenation.
-/

namespace Recording

variable {ε σ R α β : Type}

/-- Put a record beside the state of an outcome. -/
def withRecord (r : R) : EStateM.Result ε σ α → EStateM.Result ε (σ × R) α
  | .ok a s => .ok a (s, r)
  | .error e s => .error e (s, r)

/-- The state of an outcome. -/
def final : EStateM.Result ε σ α → σ
  | .ok _ s => s
  | .error _ s => s

@[simp] lemma final_withRecord (r : R) (x : EStateM.Result ε σ α) :
    final (withRecord r x) = (final x, r) := by
  cases x <;> rfl

/-- A computation that records nothing. -/
def lift (m : EStateM ε σ α) : EStateM ε (σ × R) α := fun s => withRecord s.2 (m s.1)

/-- Change the record. -/
def record (f : R → R) : EStateM ε (σ × R) Unit := fun s => .ok () (s.1, f s.2)

/-- The computation `m'` is `m`, besides changing the record by `log`. -/
def Follows (m' : EStateM ε (σ × R) α) (m : EStateM ε σ α) (log : σ → R → R) : Prop :=
  ∀ s r, m' (s, r) = withRecord (log s r) (m s)

lemma follows_lift (m : EStateM ε σ α) : Follows (lift m) m fun _ (r : R) => r := fun _ _ => rfl

lemma follows_record (f : R → R) :
    Follows (record f : EStateM ε (σ × R) Unit) (pure ()) fun _ => f := fun _ _ => rfl

lemma follows_pure (a : α) :
    Follows (pure a : EStateM ε (σ × R) α) (pure a) fun _ r => r := fun _ _ => rfl

/-- What the second of two computations records comes behind what the first one does, if that
succeeds. -/
def andThen (m : EStateM ε σ α) (log : σ → R → R) (log' : α → σ → R → R) (s : σ) (r : R) : R :=
  match m s with
  | .ok a s' => log' a s' (log s r)
  | .error _ _ => log s r

/-- Nothing is recorded behind the first computation. -/
@[simp] lemma andThen_nothing (m : EStateM ε σ α) (log : σ → R → R) :
    andThen m log (fun _ _ r => r) = log := by
  funext s r
  rw [andThen]
  cases m s <;> rfl

/-- Computations that record nothing in sequence. -/
lemma lift_bind (m : EStateM ε σ α) (f : α → EStateM ε σ β) :
    (lift (m >>= f) : EStateM ε (σ × R) β) = lift m >>= fun a => lift (f a) := by
  funext s
  show withRecord s.2 (EStateM.bind m f s.1) = EStateM.bind (lift m) (fun a => lift (f a)) s
  rw [EStateM.bind, EStateM.bind, lift]
  cases m s.1 <;> rfl

/-- A sequence of two computations records what both do. -/
lemma Follows.bind {m' : EStateM ε (σ × R) α} {m : EStateM ε σ α} {log : σ → R → R}
    {f' : α → EStateM ε (σ × R) β} {f : α → EStateM ε σ β} {log' : α → σ → R → R}
    (hm : Follows m' m log) (hf : ∀ a, Follows (f' a) (f a) (log' a)) :
    Follows (m' >>= f') (m >>= f) (andThen m log log') := by
  intro s r
  have hbind : (m' >>= f') (s, r) = EStateM.bind m' f' (s, r) := rfl
  have hbind' : (m >>= f) s = EStateM.bind m f s := rfl
  rw [hbind, hbind', EStateM.bind, EStateM.bind, hm s r, andThen]
  cases m s with
  | ok a s' => exact hf a s' (log s r)
  | error e s' => rfl

/-! ## Recording readers -/

open Cursor

variable {τ : Type} {b b' : List τ} {a : α} {r r' r'' : R}

/-- The recording reader `m` consumes exactly the items `b`, returns `a` and changes the record `r` to `r'`. -/
def ReadsAs (m : EStateM ε (Cursor τ × R) α) (b : List τ) (a : α) (r r' : R) : Prop :=
  ∀ (c : Cursor τ) (rest : List τ), c.rest = b ++ rest → m (c, r) = .ok a (c.advance b.length, r')

lemma readsAs_lift {m : EStateM ε (Cursor τ) α} (h : Reads m b a) (r : R) :
    ReadsAs (lift m : EStateM ε (Cursor τ × R) α) b a r r := by
  intro c rest hc
  rw [lift, h c rest hc]
  rfl

lemma readsAs_record (f : R → R) (r : R) :
    ReadsAs (record f : EStateM ε (Cursor τ × R) Unit) [] () r (f r) := fun _ _ _ => rfl

/-- Recording readers compose by concatenation. -/
lemma ReadsAs.bind {m : EStateM ε (Cursor τ × R) α} {k : α → EStateM ε (Cursor τ × R) β} {c : β}
    (hm : ReadsAs m b a r r') (hk : ReadsAs (k a) b' c r' r'') : ReadsAs (m >>= k) (b ++ b') c r r'' := by
  intro buf rest hbuf
  rw [List.append_assoc] at hbuf
  have hbind : (m >>= k) (buf, r) = EStateM.bind m k (buf, r) := rfl
  rw [hbind, EStateM.bind, hm buf _ hbuf]
  show k a (buf.advance b.length, r') = _
  rw [hk _ rest (rest_advance_of_append hbuf), advance_advance, List.length_append]

/-- Behind the first reader nothing is consumed. -/
lemma ReadsAs.bind_nil {m : EStateM ε (Cursor τ × R) α} {k : α → EStateM ε (Cursor τ × R) β} {c : β}
    (hm : ReadsAs m b a r r') (hk : ReadsAs (k a) [] c r' r'') : ReadsAs (m >>= k) b c r r'' := by
  have hboth := hm.bind hk
  rwa [List.append_nil] at hboth

/-- A change of the record in front of a reader. -/
lemma ReadsAs.record {f : R → R} {k : Unit → EStateM ε (Cursor τ × R) β} {c : β}
    (hk : ReadsAs (k ()) b c (f r) r') : ReadsAs (Recording.record f >>= k) b c r r' :=
  (readsAs_record f r).bind hk

end Recording
