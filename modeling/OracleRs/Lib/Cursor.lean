import Mathlib.Tactic

set_option relaxedAutoImplicit false
set_option autoImplicit false

/-!
# Cursors over finite sequences and the readers that move them

A *cursor* is a finite sequence together with a position in it; a *reader* is a computation
that moves a cursor, can fail, and keeps the cursor it has reached when it fails. This module
has the calculus used to compose readers: what it means that a reader reads one exact piece of
the sequence, how that composes, and how a loop over a cursor is run.

## Main definitions

* `Cursor` — a sequence with a position, `Cursor.rest` — what has not been consumed yet.
* `Cursor.Reads m b a` — the reader `m` consumes exactly the items `b` and returns `a`,
  whatever stands behind them.
* `Cursor.FailsOn m b` — the reader `m` fails on every sequence that begins with `b`.
* `Cursor.Throws m b e` — the reader `m` consumes exactly the items `b` and fails with `e`.
* `Cursor.Exact m` — every success of the reader `m` is an exact read.
* `Cursor.each`, `Cursor.times` — one read for every item of a list, and a number of equal reads.
* `Cursor.iterate` — a loop whose body returns either a new loop state or the result.
* `Cursor.Turns` — the turns of a loop that read a piece and lead to another loop state.
* `Cursor.Ends` — the outcome of a loop from a given cursor.
* `Cursor.Tracks` — a loop over messages that goes on behind those it handles.

## Main results

* `Cursor.Reads.bind`, `Cursor.Reads.map` — exact reads compose by concatenation.
* `Cursor.Reads.each`, `Cursor.Reads.times`, `Cursor.ReadsLoop.more`, `Cursor.Turns.more` — the
  same for repeated reads and for loops.
* `Cursor.Ends.more`, `Cursor.Ends.done`, `Cursor.Ends.fail`, `Cursor.iterate_of_ends` — running
  a loop one turn at a time.
* `Cursor.Tracks.run`, `Cursor.Tracks.stops` — a loop over messages takes those that it handles and
  ends at the first other one.
* `Cursor.Reads.unique` — two readings of one sequence agree.
* `Cursor.Exact.bind`, `Cursor.Exact.iterate` — exactness is compositional.
-/

/-- A finite sequence and the number of its items that have been consumed. -/
structure Cursor (β : Type) where
  /-- the whole sequence -/
  data : List β
  /-- how many items have been consumed -/
  pos : ℕ
deriving DecidableEq, Repr, Inhabited

namespace Cursor

variable {β ε α γ σ : Type}

/-! ## Cursors -/

/-- The items that have not been consumed. -/
def rest (c : Cursor β) : List β := c.data.drop c.pos

/-- The number of items that have not been consumed. -/
def remaining (c : Cursor β) : ℕ := c.data.length - c.pos

/-- Consume `n` items. -/
def advance (c : Cursor β) (n : ℕ) : Cursor β := { c with pos := c.pos + n }

@[simp] lemma data_advance (c : Cursor β) (n : ℕ) : (c.advance n).data = c.data := rfl

@[simp] lemma pos_advance (c : Cursor β) (n : ℕ) : (c.advance n).pos = c.pos + n := rfl

@[simp] lemma rest_advance (c : Cursor β) (n : ℕ) : (c.advance n).rest = c.rest.drop n := by
  simp [rest, advance, List.drop_drop]

@[simp] lemma advance_zero (c : Cursor β) : c.advance 0 = c := rfl

@[simp] lemma advance_advance (c : Cursor β) (m n : ℕ) :
    (c.advance m).advance n = c.advance (m + n) := by
  simp [advance, Nat.add_assoc]

lemma advance_inj {c : Cursor β} {m n : ℕ} : c.advance m = c.advance n ↔ m = n := by
  simp [advance]

/-- The number of remaining items is the length of the rest. -/
lemma remaining_eq (c : Cursor β) : c.remaining = c.rest.length := by
  simp [remaining, rest]

/-- Consuming a known prefix of the rest leaves what stands behind it. -/
lemma rest_advance_of_append {c : Cursor β} {b r : List β} (h : c.rest = b ++ r) :
    (c.advance b.length).rest = r := by
  simp [h]

/-- The rest of a cursor at the start of a sequence. -/
@[simp] lemma rest_mk_zero (l : List β) : (⟨l, 0⟩ : Cursor β).rest = l := by simp [rest]

/-! ## Sequencing readers -/

/-- Run the second reader after a first one that succeeded. -/
lemma bind_ok {m : EStateM ε (Cursor β) α} {f : α → EStateM ε (Cursor β) γ} {c c' : Cursor β}
    {a : α} (h : m c = .ok a c') : (m >>= f) c = f a c' := by
  simp [bind, EStateM.bind, h]

/-- A failure of the first reader is the outcome of the sequence. -/
lemma bind_error {m : EStateM ε (Cursor β) α} {f : α → EStateM ε (Cursor β) γ}
    {c c' : Cursor β} {e : ε} (h : m c = .error e c') : (m >>= f) c = .error e c' := by
  simp [bind, EStateM.bind, h]

/-- A successful sequence splits into two successes. -/
lemma exists_of_bind_ok {m : EStateM ε (Cursor β) α} {f : α → EStateM ε (Cursor β) γ}
    {c c' : Cursor β} {g : γ} (h : (m >>= f) c = .ok g c') :
    ∃ a c₁, m c = .ok a c₁ ∧ f a c₁ = .ok g c' := by
  cases hm : m c with
  | ok a c₁ => exact ⟨a, c₁, rfl, by rwa [bind_ok hm] at h⟩
  | error e c₁ => rw [bind_error hm] at h; cases h

/-! ## Exact reads -/

/-- The reader `m` consumes exactly the items `b` and returns `a`, whatever stands behind
them. -/
def Reads (m : EStateM ε (Cursor β) α) (b : List β) (a : α) : Prop :=
  ∀ (c : Cursor β) (r : List β), c.rest = b ++ r → m c = .ok a (c.advance b.length)

/-- The reader `m` fails on every sequence that begins with the items `b`. -/
def FailsOn (m : EStateM ε (Cursor β) α) (b : List β) : Prop :=
  ∀ (c : Cursor β) (r : List β), c.rest = b ++ r → ∃ e c', m c = .error e c'

/-- Returning a value consumes nothing. -/
lemma Reads.pure (a : α) : Reads (pure a : EStateM ε (Cursor β) α) [] a := fun _ _ _ => rfl

/-- Exact reads compose: the second reader goes on where the first one stopped. -/
lemma Reads.bind {m : EStateM ε (Cursor β) α} {f : α → EStateM ε (Cursor β) γ} {b b' : List β}
    {a : α} {g : γ} (hm : Reads m b a) (hf : Reads (f a) b' g) : Reads (m >>= f) (b ++ b') g := by
  intro c r hr
  rw [List.append_assoc] at hr
  rw [bind_ok (hm c _ hr), hf _ r (rest_advance_of_append hr)]
  simp

/-- An exact read of one item, followed by the rest of the reader. -/
lemma Reads.cons {m : EStateM ε (Cursor β) α} {f : α → EStateM ε (Cursor β) γ} {x : β}
    {b : List β} {a : α} {g : γ} (hm : Reads m [x] a) (hf : Reads (f a) b g) :
    Reads (m >>= f) (x :: b) g :=
  hm.bind hf

/-- An exact read followed by a reader that consumes nothing. -/
lemma Reads.bind_nil {m : EStateM ε (Cursor β) α} {f : α → EStateM ε (Cursor β) γ}
    {b : List β} {a : α} {g : γ} (hm : Reads m b a) (hf : Reads (f a) [] g) :
    Reads (m >>= f) b g := by
  simpa using hm.bind hf

/-- A reader whose result is then only converted. -/
lemma Reads.map {m : EStateM ε (Cursor β) α} {b : List β} {a : α} (f : α → γ)
    (hm : Reads m b a) : Reads (f <$> m) b (f a) := by
  intro c r hr
  simp [Functor.map, EStateM.map, hm c r hr]

/-- An exact read followed by a failing reader fails. -/
lemma Reads.bind_failsOn {m : EStateM ε (Cursor β) α} {f : α → EStateM ε (Cursor β) γ}
    {b b' : List β} {a : α} (hm : Reads m b a) (hf : FailsOn (f a) b') :
    FailsOn (m >>= f) (b ++ b') := by
  intro c r hr
  rw [List.append_assoc] at hr
  rw [bind_ok (hm c _ hr)]
  exact hf _ r (rest_advance_of_append hr)

/-- The reader `m` consumes exactly the items `b` and fails there. -/
def Throws (m : EStateM ε (Cursor β) α) (b : List β) (e : ε) : Prop :=
  ∀ (c : Cursor β) (r : List β), c.rest = b ++ r → m c = .error e (c.advance b.length)

lemma Throws.throw (e : ε) : Throws (throw e : EStateM ε (Cursor β) α) [] e := fun _ _ _ => rfl

/-- An exact read followed by a reader that fails. -/
lemma Reads.bind_throws {m : EStateM ε (Cursor β) α} {f : α → EStateM ε (Cursor β) γ}
    {b b' : List β} {a : α} {e : ε} (hm : Reads m b a) (hf : Throws (f a) b' e) :
    Throws (m >>= f) (b ++ b') e := by
  intro c r hr
  rw [List.append_assoc] at hr
  rw [bind_ok (hm c _ hr), hf _ r (rest_advance_of_append hr)]
  simp

/-- A sequence fails as its first reader does. -/
lemma Throws.bind {m : EStateM ε (Cursor β) α} {f : α → EStateM ε (Cursor β) γ} {b : List β}
    {e : ε} (hm : Throws m b e) : Throws (m >>= f) b e := by
  intro c r hr
  rw [bind_error (hm c r hr)]

/-- A sequence fails where its first reader does. -/
lemma FailsOn.bind {m : EStateM ε (Cursor β) α} {f : α → EStateM ε (Cursor β) γ} {b : List β}
    (hm : FailsOn m b) : FailsOn (m >>= f) b := by
  intro c r hr
  obtain ⟨e, c', h⟩ := hm c r hr
  exact ⟨e, c', bind_error h⟩

/-- Two exact readings by one reader that meet in a common sequence agree. -/
lemma Reads.unique {m : EStateM ε (Cursor β) α} {b b' r r' : List β} {a a' : α}
    (h : Reads m b a) (h' : Reads m b' a') (e : b ++ r = b' ++ r') :
    a = a' ∧ b.length = b'.length := by
  have h₁ := h ⟨b ++ r, 0⟩ r (by simp)
  have h₂ := h' ⟨b ++ r, 0⟩ r' (by simp [e])
  rw [h₁] at h₂
  simpa [advance] using h₂

/-- Two exact readings of the same items agree. -/
lemma Reads.right_unique {m : EStateM ε (Cursor β) α} {b : List β} {a a' : α} (h : Reads m b a)
    (h' : Reads m b a') : a = a' :=
  (h.unique (r := []) h' rfl).1

/-! ## Repeated reads -/

/-- One read for every item of a list. -/
def each (f : σ → EStateM ε (Cursor β) α) : List σ → EStateM ε (Cursor β) (List α)
  | [] => pure []
  | x :: xs => do
    let a ← f x
    let as ← each f xs
    return a :: as

/-- A number of equal reads. -/
def times (m : EStateM ε (Cursor β) α) (n : ℕ) : EStateM ε (Cursor β) (List α) :=
  each (fun _ => m) (List.replicate n ())

/-- The pieces of the items are read one behind the other. The items `ws` are those that have
been written, `key w` is what the reader is told about the item `w`. -/
lemma Reads.each {ω : Type} {f : σ → EStateM ε (Cursor β) α} {key : ω → σ} {enc : ω → List β}
    {val : ω → α} {ws : List ω} (h : ∀ w ∈ ws, Reads (f (key w)) (enc w) (val w)) :
    Reads (Cursor.each f (ws.map key)) (ws.flatMap enc) (ws.map val) := by
  induction ws with
  | nil => exact Reads.pure []
  | cons w ws ih =>
    have htail := ih fun x hx => h x (List.mem_cons_of_mem _ hx)
    exact (h w List.mem_cons_self).bind (htail.map (val w :: ·))

lemma Reads.times {ω : Type} {m : EStateM ε (Cursor β) α} {enc : ω → List β} {val : ω → α}
    {ws : List ω} (h : ∀ w ∈ ws, Reads m (enc w) (val w)) :
    Reads (Cursor.times m ws.length) (ws.flatMap enc) (ws.map val) := by
  have : Reads (Cursor.each (fun _ => m) (ws.map fun _ => ())) (ws.flatMap enc) (ws.map val) :=
    Reads.each h
  rwa [List.map_const'] at this

/-- Behind the first of repeated reads the others go on. -/
lemma each_cons_eq_ok_iff {f : σ → EStateM ε (Cursor β) α} {x : σ} {xs : List σ} {a : α}
    {as : List α} {c c₁ c₂ : Cursor β} (h : f x c = .ok a c₁) :
    each f (x :: xs) c = .ok (a :: as) c₂ ↔ each f xs c₁ = .ok as c₂ := by
  rw [each, bind_ok h]
  cases htail : each f xs c₁ with
  | error e c' => simp [bind_error htail]
  | ok as' c' => simp [bind_ok htail, Pure.pure, EStateM.pure]

/-- Items that stand one behind the other are read one after the other, each from its own piece,
if and only if each of them is read from its piece: `P` says when one is.

**Proof sketch.** Induction on the items. The reading of the first one is known from the piece of
length one, and from it where all the others begin. -/
lemma each_take_iff {ω : Type} {f : σ → EStateM ε (Cursor β) α} {key : ω → σ} {enc : ω → List β}
    (val : ω → α) (P : ω → Prop) {ws : List ω}
    (hitem : ∀ w ∈ ws, ∀ (c : Cursor β) (r : List β), c.rest = enc w ++ r →
      (f (key w) c = .ok (val w) (c.advance (enc w).length) ↔ P w))
    {c : Cursor β} {r : List β} (hc : c.rest = ws.flatMap enc ++ r) :
    (∀ k ≤ ws.length, each f ((ws.take k).map key) c =
      .ok ((ws.take k).map val) (c.advance ((ws.take k).flatMap enc).length)) ↔
      ∀ w ∈ ws, P w := by
  induction ws generalizing c with
  | nil => exact iff_of_true (fun k _ => by rw [List.take_nil]; rfl) nofun
  | cons w ws ih =>
    rw [List.flatMap_cons, List.append_assoc] at hc
    have hw := hitem w List.mem_cons_self c _ hc
    have htail := ih (fun x hx => hitem x (List.mem_cons_of_mem w hx)) (rest_advance_of_append hc)
    have hsucc : ∀ k, P w → (each f (((w :: ws).take (k + 1)).map key) c =
        .ok (((w :: ws).take (k + 1)).map val)
          (c.advance (((w :: ws).take (k + 1)).flatMap enc).length) ↔
        each f ((ws.take k).map key) (c.advance (enc w).length) =
          .ok ((ws.take k).map val)
            ((c.advance (enc w).length).advance ((ws.take k).flatMap enc).length)) := by
      intro k hP
      rw [List.take_succ_cons, List.map_cons, List.map_cons, List.flatMap_cons,
        each_cons_eq_ok_iff (hw.mpr hP), advance_advance, List.length_append]
    constructor
    · intro h
      have hone := h 1 (by simp)
      simp only [List.take_succ_cons, List.take_zero, List.map_cons, List.map_nil,
        List.flatMap_cons, List.flatMap_nil, List.append_nil] at hone
      obtain ⟨a, c₁, ha, hrest⟩ := exists_of_bind_ok hone
      cases hrest
      have hP := hw.mp ha
      refine List.forall_mem_cons.mpr ⟨hP, htail.mp fun k hk => ?_⟩
      exact (hsucc k hP).mp (h (k + 1) (by simpa using hk))
    · intro h k hk
      obtain ⟨hP, hPs⟩ := List.forall_mem_cons.mp h
      cases k with
      | zero => rfl
      | succ k => exact (hsucc k hP).mpr (htail.mpr hPs k (by simpa using hk))

/-- Items that are read one after the other meet `P` if an item that does not is not read from its piece.

**Proof sketch.** Induction on the items: what is read first is the first one, so it meets `P`, and the others
are read behind its piece. -/
lemma forall_of_each_eq_ok {ω : Type} {f : σ → EStateM ε (Cursor β) α} {key : ω → σ} {enc : ω → List β}
    {val : ω → α} {P : ω → Prop} {ws : List ω}
    (hgood : ∀ w ∈ ws, P w → Reads (f (key w)) (enc w) (val w))
    (hbad : ∀ w ∈ ws, ¬ P w → ∀ (c : Cursor β) (r : List β), c.rest = enc w ++ r →
      ∀ c', f (key w) c ≠ .ok (val w) c') {c c' : Cursor β} {r : List β}
    (hc : c.rest = ws.flatMap enc ++ r) (hrun : each f (ws.map key) c = .ok (ws.map val) c') :
    ∀ w ∈ ws, P w := by
  induction ws generalizing c with
  | nil => exact nofun
  | cons w ws ih =>
    rw [List.flatMap_cons, List.append_assoc] at hc
    obtain ⟨a, c₁, ha, htail⟩ := exists_of_bind_ok hrun
    obtain ⟨as, c₂, has, hpure⟩ := exists_of_bind_ok htail
    cases hpure
    have hP : P w := by
      by_contra hnot
      exact hbad w List.mem_cons_self hnot c _ hc _ ha
    rw [hgood w List.mem_cons_self hP c _ hc] at ha
    cases ha
    exact List.forall_mem_cons.mpr ⟨hP, ih (fun x hx => hgood x (List.mem_cons_of_mem w hx))
      (fun x hx => hbad x (List.mem_cons_of_mem w hx)) (rest_advance_of_append hc) has⟩

/-- Equal reads take the items from their pieces if and only if all of them meet `P`. -/
lemma reads_times_iff {ω : Type} {m : EStateM ε (Cursor β) α} {enc : ω → List β} {val : ω → α}
    {P : ω → Prop} {ws : List ω} (hgood : ∀ w ∈ ws, P w → Reads m (enc w) (val w))
    (hbad : ∀ w ∈ ws, ¬ P w → ∀ (c : Cursor β) (r : List β), c.rest = enc w ++ r →
      ∀ c', m c ≠ .ok (val w) c') :
    Reads (Cursor.times m ws.length) (ws.flatMap enc) (ws.map val) ↔ ∀ w ∈ ws, P w := by
  constructor
  · intro hreads
    have hrun := hreads ⟨ws.flatMap enc, 0⟩ [] (by simp)
    rw [Cursor.times, ← List.map_const'] at hrun
    have hrest : (⟨ws.flatMap enc, 0⟩ : Cursor β).rest = ws.flatMap enc ++ [] := by simp
    exact forall_of_each_eq_ok (by exact hgood) (by exact hbad) hrest hrun
  · exact fun hP => Reads.times fun w hw => hgood w hw (hP w hw)

/-! ## Exact readers -/

/-- Every success of the reader is an exact read: what it returns and how far it moves depends
on nothing but the items it consumes. -/
def Exact (m : EStateM ε (Cursor β) α) : Prop :=
  ∀ (c c' : Cursor β) (a : α), m c = .ok a c' →
    ∃ b r, c.rest = b ++ r ∧ c' = c.advance b.length ∧ Reads m b a

lemma Exact.pure (a : α) : Exact (pure a : EStateM ε (Cursor β) α) := by
  intro c c' x h
  cases h
  exact ⟨[], c.rest, rfl, rfl, Reads.pure a⟩

lemma Exact.throw (e : ε) : Exact (throw e : EStateM ε (Cursor β) α) := by
  intro c c' x h
  cases h

lemma Exact.bind {m : EStateM ε (Cursor β) α} {f : α → EStateM ε (Cursor β) γ} (hm : Exact m)
    (hf : ∀ a, Exact (f a)) : Exact (m >>= f) := by
  intro c c' g h
  obtain ⟨a, c₁, hma, hfa⟩ := exists_of_bind_ok h
  obtain ⟨b, r, hr, rfl, hb⟩ := hm c c₁ a hma
  obtain ⟨b', r', hr', rfl, hb'⟩ := hf a _ _ g hfa
  rw [rest_advance_of_append hr] at hr'
  exact ⟨b ++ b', r', by rw [hr, hr', List.append_assoc], by simp, hb.bind hb'⟩

lemma Exact.map {m : EStateM ε (Cursor β) α} (hm : Exact m) (f : α → γ) : Exact (f <$> m) := by
  intro c c' g h
  simp only [Functor.map, EStateM.map] at h
  split at h
  · next a c₁ hma =>
    cases h
    obtain ⟨b, r, hr, hc', hb⟩ := hm c _ a hma
    exact ⟨b, r, hr, hc', hb.map f⟩
  · cases h

/-- If an exact reader succeeds and moves as far as `b` is long, then it reads `b`. -/
lemma Exact.reads_of_ok {m : EStateM ε (Cursor β) α} (hm : Exact m) {c : Cursor β} {b r : List β}
    {a : α} (hc : c.rest = b ++ r) (h : m c = .ok a (c.advance b.length)) : Reads m b a := by
  obtain ⟨b', r', hr, hadvance, hread⟩ := hm c _ a h
  have hlen : b.length = b'.length := by
    have := congrArg Cursor.pos hadvance
    simpa [advance] using this
  rw [hc] at hr
  obtain ⟨rfl, -⟩ := List.append_inj hr hlen
  exact hread

/-! ## Loops -/

/-- A loop over a cursor with a bound on the number of turns. The body returns the next loop
state, or the result with which the loop ends; `stuck` is raised when the bound is reached. -/
def loop (stuck : ε) (body : σ → EStateM ε (Cursor β) (σ ⊕ α)) :
    ℕ → σ → EStateM ε (Cursor β) α
  | 0, _ => throw stuck
  | n + 1, s => do
    match ← body s with
    | .inl s' => loop stuck body n s'
    | .inr a => pure a

/-- A loop every turn of which consumes at least one item: one turn more than there are items
is never reached. -/
def iterate (stuck : ε) (body : σ → EStateM ε (Cursor β) (σ ⊕ α)) (s : σ) :
    EStateM ε (Cursor β) α :=
  fun c => loop stuck body (c.rest.length + 1) s c

section Loop

variable {stuck : ε} {body : σ → EStateM ε (Cursor β) (σ ⊕ α)}

/-- `R` is the outcome of the loop from the cursor `c`, under every sufficient bound. -/
def Ends (stuck : ε) (body : σ → EStateM ε (Cursor β) (σ ⊕ α)) (s : σ) (c : Cursor β)
    (R : EStateM.Result ε (Cursor β) α) : Prop :=
  ∀ n, c.rest.length < n → loop stuck body n s c = R

/-- A turn that goes on, having consumed something. -/
lemma Ends.more {s s' : σ} {c c' : Cursor β} {R : EStateM.Result ε (Cursor β) α}
    (h : body s c = .ok (.inl s') c') (hlt : c'.rest.length < c.rest.length)
    (hR : Ends stuck body s' c' R) : Ends stuck body s c R := by
  intro n hn
  obtain ⟨n, rfl⟩ : ∃ k, n = k + 1 := ⟨n - 1, by omega⟩
  rw [loop, bind_ok h]
  exact hR n (by omega)

/-- A turn with which the loop ends. -/
lemma Ends.done {s : σ} {c c' : Cursor β} {a : α} (h : body s c = .ok (.inr a) c') :
    Ends stuck body s c (.ok a c') := by
  intro n hn
  obtain ⟨n, rfl⟩ : ∃ k, n = k + 1 := ⟨n - 1, by omega⟩
  rw [loop, bind_ok h]
  rfl

/-- A turn that fails. -/
lemma Ends.fail {s : σ} {c c' : Cursor β} {e : ε} (h : body s c = .error e c') :
    Ends stuck body s c (.error e c') := by
  intro n hn
  obtain ⟨n, rfl⟩ : ∃ k, n = k + 1 := ⟨n - 1, by omega⟩
  rw [loop, bind_error h]

/-- The outcome of a loop is what `iterate` computes. -/
lemma iterate_of_ends {s : σ} {c : Cursor β} {R : EStateM.Result ε (Cursor β) α}
    (h : Ends stuck body s c R) : iterate stuck body s c = R :=
  h _ (Nat.lt_succ_self _)

/-- Exact reads by a loop, stated for every bound. -/
def ReadsLoop (stuck : ε) (body : σ → EStateM ε (Cursor β) (σ ⊕ α)) (s : σ) (b : List β)
    (a : α) : Prop :=
  ∀ (c : Cursor β) (r : List β), c.rest = b ++ r → Ends stuck body s c (.ok a (c.advance b.length))

/-- A last turn that reads `b`. -/
lemma ReadsLoop.done {s : σ} {b : List β} {a : α} (h : Reads (body s) b (.inr a)) :
    ReadsLoop stuck body s b a := fun c r hr => Ends.done (h c r hr)

/-- A turn that reads `b`, followed by the turns that read `b'`. -/
lemma ReadsLoop.more {s s' : σ} {b b' : List β} {a : α} (h : Reads (body s) b (.inl s'))
    (hb : b ≠ []) (h' : ReadsLoop stuck body s' b' a) : ReadsLoop stuck body s (b ++ b') a := by
  intro c r hr
  rw [List.append_assoc] at hr
  have hrest : (c.advance b.length).rest = b' ++ r := rest_advance_of_append hr
  have hpos : 0 < b.length := List.length_pos_iff.mpr hb
  have hlt : (c.advance b.length).rest.length < c.rest.length := by
    rw [hrest, hr]
    simp only [List.length_append]
    omega
  have hend := Ends.more (h c _ hr) hlt (h' _ r hrest)
  simpa using hend

/-- A loop that reads `b` under every bound is a reader of `b`. -/
lemma ReadsLoop.reads {s : σ} {b : List β} {a : α} (h : ReadsLoop stuck body s b a) :
    Reads (iterate stuck body s) b a := fun c r hr => iterate_of_ends (h c r hr)

/-- Turns of the loop read the piece `b` and lead from the loop state `s` to `s'`: what the loop
comes to from `s` is what it comes to from `s'` behind `b`. -/
def Turns (stuck : ε) (body : σ → EStateM ε (Cursor β) (σ ⊕ α)) (s : σ) (b : List β) (s' : σ) :
    Prop :=
  ∀ (c : Cursor β) (r : List β), c.rest = b ++ r → ∀ R,
    Ends stuck body s' (c.advance b.length) R → Ends stuck body s c R

lemma Turns.refl (s : σ) : Turns stuck body s [] s := fun _ _ _ _ h => h

/-- A turn that reads `b`, followed by the turns that read `b'`. -/
lemma Turns.more {s s' s'' : σ} {b b' : List β} (h : Reads (body s) b (.inl s')) (hb : b ≠ [])
    (h' : Turns stuck body s' b' s'') : Turns stuck body s (b ++ b') s'' := by
  intro c r hr R hR
  rw [List.append_assoc] at hr
  have hrest : (c.advance b.length).rest = b' ++ r := rest_advance_of_append hr
  have hpos : 0 < b.length := List.length_pos_iff.mpr hb
  refine Ends.more (h c _ hr) ?_ (h' _ r hrest R ?_)
  · rw [hrest, hr]
    simp only [List.length_append]
    omega
  · simpa using hR

/-- Turns follow one another. -/
lemma Turns.trans {s s' s'' : σ} {b b' : List β} (h : Turns stuck body s b s')
    (h' : Turns stuck body s' b' s'') : Turns stuck body s (b ++ b') s'' := by
  intro c r hr R hR
  rw [List.append_assoc] at hr
  refine h c _ hr R (h' _ r (rest_advance_of_append hr) R ?_)
  simpa using hR

/-- The loop fails from the state `s` on every sequence that begins with `b`. -/
def LoopFails (stuck : ε) (body : σ → EStateM ε (Cursor β) (σ ⊕ α)) (s : σ) (b : List β) : Prop :=
  ∀ (c : Cursor β) (r : List β), c.rest = b ++ r → ∃ e c', Ends stuck body s c (.error e c')

/-- A turn that fails. -/
lemma LoopFails.now {s : σ} {b b' : List β} (h : FailsOn (body s) b) :
    LoopFails stuck body s (b ++ b') := by
  intro c r hr
  rw [List.append_assoc] at hr
  obtain ⟨e, c', he⟩ := h c _ hr
  exact ⟨e, c', Ends.fail he⟩

/-- Turns that lead to a state from which the loop fails. -/
lemma Turns.fails {s s' : σ} {b b' : List β} (h : Turns stuck body s b s')
    (h' : LoopFails stuck body s' b') : LoopFails stuck body s (b ++ b') := by
  intro c r hr
  rw [List.append_assoc] at hr
  obtain ⟨e, c', he⟩ := h' _ r (rest_advance_of_append hr)
  exact ⟨e, c', h c _ hr _ he⟩

/-- One turn that reads `b`. -/
lemma Turns.one {s s' : σ} {b : List β} (h : Reads (body s) b (.inl s')) (hb : b ≠ []) :
    Turns stuck body s b s' := by
  have : Turns stuck body s (b ++ []) s' := Turns.more h hb (Turns.refl s')
  rwa [List.append_nil] at this

/-- A success of a loop with exact turns, each of which consumes something, is an exact read by
the loop.

**Proof sketch.** Induction on the bound: a turn that goes on is an exact read of a nonempty
piece, and what follows is an exact read by the loop from the new state. -/
lemma readsLoop_of_ok (hbody : ∀ s, Exact (body s))
    (hpos : ∀ s s' b, Reads (body s) b (.inl s') → b ≠ []) (n : ℕ) :
    ∀ (s : σ) (c c' : Cursor β) (a : α), loop stuck body n s c = .ok a c' →
      ∃ b r, c.rest = b ++ r ∧ c' = c.advance b.length ∧ ReadsLoop stuck body s b a := by
  induction n with
  | zero => intro s c c' a h; cases h
  | succ n ih =>
    intro s c c' a h
    obtain ⟨x, c₁, hx, hrun⟩ := exists_of_bind_ok h
    obtain ⟨b, r, hr, rfl, hb⟩ := hbody s c c₁ x hx
    cases x with
    | inr y =>
      cases hrun
      exact ⟨b, r, hr, rfl, ReadsLoop.done hb⟩
    | inl s' =>
      obtain ⟨b', r', hr', rfl, hb'⟩ := ih s' _ c' a hrun
      rw [rest_advance_of_append hr] at hr'
      exact ⟨b ++ b', r', by rw [hr, hr', List.append_assoc], by simp,
        ReadsLoop.more hb (hpos s s' b hb) hb'⟩

lemma Exact.iterate (hbody : ∀ s, Exact (body s))
    (hpos : ∀ s s' b, Reads (body s) b (.inl s') → b ≠ []) (s : σ) :
    Exact (Cursor.iterate stuck body s) := by
  intro c c' a h
  obtain ⟨b, r, hr, hc, hb⟩ := readsLoop_of_ok hbody hpos _ s c c' a h
  exact ⟨b, r, hr, hc, hb.reads⟩

/-- A loop each of whose turns consumes something is never stuck on a failure of its own: the
bound of `iterate` is out of reach.

**Proof sketch.** Induction on the bound, which stays above the number of remaining items. -/
lemma loop_ne_stuck (hstuck : ∀ s c c', body s c ≠ .error stuck c')
    (hlt : ∀ s c s' c', body s c = .ok (.inl s') c' → c'.rest.length < c.rest.length) (n : ℕ) :
    ∀ (s : σ) (c c' : Cursor β), c.rest.length < n → loop stuck body n s c ≠ .error stuck c' := by
  induction n with
  | zero => intro s c c' h; omega
  | succ n ih =>
    intro s c c' hn h
    cases hs : body s c with
    | error e c₁ =>
      rw [loop, bind_error hs] at h
      cases h
      exact hstuck s c _ hs
    | ok x c₁ =>
      rw [loop, bind_ok hs] at h
      cases x with
      | inr y => cases h
      | inl s' =>
        have := hlt s c s' c₁ hs
        exact ih s' c₁ c' (by omega) h

end Loop

/-! ## Loops over messages -/

section Messages

variable {κ μ : Type} {stuck : ε} {body : σ → EStateM ε (Cursor β) (σ ⊕ α)} {enc : μ → List β}
  {next : κ → μ → κ} {good handled : κ → μ → Prop} {inStep : κ → σ → Prop}

/-- The condition `P` holds of every message, in the context that the messages before it lead
to. -/
def Along (next : κ → μ → κ) (P : κ → μ → Prop) : κ → List μ → Prop
  | _, [] => True
  | k, m :: ms => P k m ∧ Along next P (next k m) ms

/-- A condition that does not look at the context. -/
lemma along_const_iff {P : μ → Prop} {k : κ} {ms : List μ} :
    Along next (fun _ m => P m) k ms ↔ ∀ m ∈ ms, P m := by
  induction ms generalizing k with
  | nil => simp [Along]
  | cons m ms ih => rw [Along, ih, List.forall_mem_cons]

/-- A loop that takes one message in each turn and keeps in step with a context of the messages:
it goes on behind the messages that it handles and ends at the others. -/
structure Tracks (body : σ → EStateM ε (Cursor β) (σ ⊕ α)) (enc : μ → List β) (next : κ → μ → κ)
    (good handled : κ → μ → Prop) (inStep : κ → σ → Prop) : Prop where
  /-- a message has at least one item -/
  ne_nil : ∀ m, enc m ≠ []
  /-- a message that is handled -/
  more : ∀ k s m, inStep k s → good k m → handled k m →
    ∃ s', Reads (body s) (enc m) (.inl s') ∧ inStep (next k m) s'
  /-- a message that is not handled -/
  done : ∀ k s m, inStep k s → good k m → ¬ handled k m →
    ∀ (c : Cursor β) (r : List β), c.rest = enc m ++ r → ∃ a c', body s c = .ok (.inr a) c'

/-- The loop takes messages that it handles. -/
lemma Tracks.run (H : Tracks body enc next good handled inStep) {k : κ} {s : σ} {ms : List μ}
    (hs : inStep k s) (hgood : Along next good k ms) (hhandled : Along next handled k ms) :
    ∃ k' s', inStep k' s' ∧ Turns stuck body s (ms.flatMap enc) s' := by
  induction ms generalizing k s with
  | nil => exact ⟨k, s, hs, Turns.refl s⟩
  | cons m ms ih =>
    obtain ⟨s₁, hread, hs₁⟩ := H.more k s m hs hgood.1 hhandled.1
    obtain ⟨k', s', hs', hturns⟩ := ih hs₁ hgood.2 hhandled.2
    exact ⟨k', s', hs', Turns.more hread (H.ne_nil m) hturns⟩

/-- The loop ends at the first message that it does not handle.

**Proof sketch.** Induction on the messages: the first one is handled, and the loop goes on to
the rest, or it is not, and the loop ends there. -/
lemma Tracks.stops (H : Tracks body enc next good handled inStep) {k : κ} {s : σ} {ms : List μ}
    (hs : inStep k s) (hgood : Along next good k ms) (hnot : ¬ Along next handled k ms)
    {c : Cursor β} {r : List β} (hc : c.rest = ms.flatMap enc ++ r) :
    ∃ a c', Ends stuck body s c (.ok a c') := by
  induction ms generalizing k s c with
  | nil => exact absurd trivial hnot
  | cons m ms ih =>
    rw [List.flatMap_cons, List.append_assoc] at hc
    by_cases hm : handled k m
    · have htail : ¬ Along next handled (next k m) ms := fun h => hnot ⟨hm, h⟩
      obtain ⟨s', hread, hs'⟩ := H.more k s m hs hgood.1 hm
      obtain ⟨a, c', hend⟩ := ih hs' hgood.2 htail (rest_advance_of_append hc)
      exact ⟨a, c', Turns.one hread (H.ne_nil m) c _ hc _ hend⟩
    · obtain ⟨a, c', hturn⟩ := H.done k s m hs hgood.1 hm c _ hc
      exact ⟨a, c', Ends.done hturn⟩

end Messages

end Cursor
