import OracleRs.Lib.Cursor

set_option relaxedAutoImplicit false
set_option autoImplicit false

/-!
# Agreement of readers

Two readers *agree* at a cursor if both succeed there with the same result at the same place, or both
fail. Agreement is kept by sequencing, and readers of lists agree on every beginning of a list if and
only if the readers of the items agree wherever they are reached. More generally, two readers agree on a
relation if it holds between their results.

## Main definitions

* `Cursor.SameOutcome` — two outcomes are the same, up to the error and a relation between the results.
* `Cursor.Agree` — two readers have the same outcome at a cursor.
* `Cursor.AgreeOn` — two readers agree up to a relation between their results.
* `Cursor.Fails` — a reader fails, `Cursor.Takes` — a reader takes a known number of items.
* `Cursor.After` — a condition on the result of a reader and the place where it stops.

## Main results

* `Cursor.Agree.bind`, `Cursor.AgreeOn.bind` — sequencing.
* `Cursor.forall_agree_each_iff`, `Cursor.agreeOn_times` — readers of lists.
-/

namespace Cursor

variable {ε β α α' γ γ' σ : Type}

/-- Both outcomes are successes at the same place with related results, or both are failures. -/
def SameOutcome (R : α → α' → Prop) :
    EStateM.Result ε (Cursor β) α → EStateM.Result ε (Cursor β) α' → Prop
  | .ok a c, .ok a' c' => R a a' ∧ c = c'
  | .error _ _, .error _ _ => True
  | _, _ => False

/-- Two readers have the same outcome at a cursor, up to a relation between the results. -/
def AgreeOn (R : α → α' → Prop) (m : EStateM ε (Cursor β) α) (m' : EStateM ε (Cursor β) α')
    (c : Cursor β) : Prop := SameOutcome R (m c) (m' c)

/-- Two readers have the same outcome at a cursor. -/
def Agree (m m' : EStateM ε (Cursor β) α) (c : Cursor β) : Prop := SameOutcome Eq (m c) (m' c)

lemma SameOutcome.refl (r : EStateM.Result ε (Cursor β) α) : SameOutcome Eq r r := by
  cases r with
  | ok a c => exact ⟨rfl, rfl⟩
  | error e c => trivial

lemma SameOutcome.symm {r r' : EStateM.Result ε (Cursor β) α} (h : SameOutcome Eq r r') :
    SameOutcome Eq r' r := by
  cases r with
  | ok a c =>
    cases r' with
    | ok a' c' => exact ⟨h.1.symm, h.2.symm⟩
    | error e c' => exact h
  | error e c => cases r' <;> exact h

section Agree

variable {m m' : EStateM ε (Cursor β) α} {f f' : α → EStateM ε (Cursor β) γ} {c c' : Cursor β}

lemma Agree.of_eq (h : m c = m' c) : Agree m m' c := by
  rw [Agree, h]
  exact SameOutcome.refl _

lemma agree_comm : Agree m m' c ↔ Agree m' m c := ⟨SameOutcome.symm, SameOutcome.symm⟩

/-- The success of an outcome. -/
def outcome : EStateM.Result ε (Cursor β) α → Option (α × Cursor β)
  | .ok a c => some (a, c)
  | .error _ _ => none

lemma mem_outcome_iff {r : EStateM.Result ε (Cursor β) α} {p : α × Cursor β} :
    p ∈ outcome r ↔ r = .ok p.1 p.2 := by
  cases r with
  | ok a c =>
    constructor
    · rintro ⟨⟩
      rfl
    · rintro ⟨⟩
      rfl
  | error e c => exact iff_of_false (fun h => by cases h) fun h => by cases h

/-- Readers agree if and only if their successes are the same. -/
lemma agree_iff_outcome_eq : Agree m m' c ↔ outcome (m c) = outcome (m' c) := by
  rw [Agree]
  cases m c with
  | ok a c₁ =>
    cases m' c with
    | ok a' c₂ => exact Iff.trans (by rw [SameOutcome, Prod.mk.injEq]) Option.some_inj.symm
    | error e c₂ => exact iff_of_false id fun h => by cases h
  | error e c₁ =>
    cases m' c with
    | ok a c₂ => exact iff_of_false id fun h => by cases h
    | error e' c₂ => exact iff_of_true trivial rfl

/-- The success of a sequence. -/
lemma outcome_bind :
    outcome ((m >>= f) c) = (outcome (m c)).bind fun p => outcome (f p.1 p.2) := by
  cases hm : m c with
  | ok a c₁ =>
    rw [bind_ok hm]
    rfl
  | error e c₁ =>
    rw [bind_error hm]
    rfl

/-- What succeeds in one reader succeeds in the other one. -/
lemma Agree.eq_ok (h : Agree m m' c) {a : α} (hm : m c = .ok a c') : m' c = .ok a c' := by
  rw [Agree, hm] at h
  cases hm' : m' c with
  | ok a' c'' =>
    rw [hm'] at h
    rw [h.1, h.2]
  | error e c'' =>
    rw [hm'] at h
    exact h.elim

/-- What fails in one reader fails in the other one. -/
lemma Agree.exists_error (h : Agree m m' c) {e : ε} (hm : m c = .error e c') :
    ∃ e' c'', m' c = .error e' c'' := by
  rw [Agree, hm] at h
  cases hm' : m' c with
  | ok a c'' =>
    rw [hm'] at h
    exact h.elim
  | error e' c'' => exact ⟨e', c'', rfl⟩

/-- Readers that agree, followed by readers that agree. -/
lemma Agree.bind (h : Agree m m' c) (hf : ∀ a c', m c = .ok a c' → Agree (f a) (f' a) c') :
    Agree (m >>= f) (m' >>= f') c := by
  cases hm : m c with
  | ok a c' =>
    rw [Agree, bind_ok hm, bind_ok (h.eq_ok hm)]
    exact hf a c' hm
  | error e c' =>
    obtain ⟨e', c'', hm'⟩ := h.exists_error hm
    rw [Agree, bind_error hm, bind_error hm']
    trivial

/-- The results are only converted, each to another one. -/
lemma agree_map_iff {g : α → γ} (hg : Function.Injective g) :
    Agree (g <$> m) (g <$> m') c ↔ Agree m m' c := by
  simp only [Agree, Functor.map, EStateM.map]
  cases m c with
  | ok a c₁ =>
    cases m' c with
    | ok a' c₂ => exact and_congr_left' hg.eq_iff
    | error e c₂ => exact Iff.rfl
  | error e c₁ => cases m' c <;> exact Iff.rfl

end Agree

section Each

variable {f f' : σ → EStateM ε (Cursor β) α} {x : σ} {xs : List σ} {c c₁ : Cursor β} {a : α}

/-- Readers of a list of one item. -/
lemma agree_each_singleton_iff : Agree (each f [x]) (each f' [x]) c ↔ Agree (f x) (f' x) c := by
  have hsingle : ∀ g : σ → EStateM ε (Cursor β) α, each g [x] = (fun a => [a]) <$> g x := fun g => rfl
  rw [hsingle, hsingle]
  exact agree_map_iff fun a b h => List.head_eq_of_cons_eq h

/-- Behind a first item that both read, the others are read from where it stops. -/
lemma agree_each_cons_iff (h : f x c = .ok a c₁) (h' : f' x c = .ok a c₁) :
    Agree (each f (x :: xs)) (each f' (x :: xs)) c ↔ Agree (each f xs) (each f' xs) c₁ := by
  have htail : ∀ g : σ → EStateM ε (Cursor β) α, g x c = .ok a c₁ →
      each g (x :: xs) c = ((a :: ·) <$> each g xs) c₁ := by
    intro g hg
    rw [each, bind_ok hg]
    rfl
  have hinj : Function.Injective fun as : List α => a :: as := fun as bs h => List.tail_eq_of_cons_eq h
  refine Iff.trans ?_ (agree_map_iff hinj)
  rw [Agree, Agree, htail f h, htail f' h']

/-- Readers of lists agree on every beginning of a list if and only if the readers of the items agree
wherever they are reached.

**Proof sketch.** Induction on the list. The beginning of one item is its reader, and the other
beginnings are read from where it stops. -/
theorem forall_agree_each_iff :
    (∀ n, Agree (each f (xs.take n)) (each f' (xs.take n)) c) ↔
      ∀ i x, xs[i]? = some x → ∀ as c', each f (xs.take i) c = .ok as c' → Agree (f x) (f' x) c' := by
  induction xs generalizing c with
  | nil =>
    refine iff_of_true (fun n => ?_) fun i x hx => ?_
    · rw [List.take_nil]
      exact Agree.of_eq rfl
    · cases hx
  | cons y ys ih =>
    constructor
    · intro hall
      have hfirst : Agree (f y) (f' y) c := agree_each_singleton_iff.mp (hall 1)
      intro i x hx as c' hreach
      cases i with
      | zero =>
        cases hx
        cases hreach
        exact hfirst
      | succ i =>
        obtain ⟨a, c₁, hy, hrest⟩ := exists_of_bind_ok hreach
        obtain ⟨as', c₂, htail, hresult⟩ := exists_of_bind_ok hrest
        cases hresult
        refine ih.mp (fun n => ?_) i x hx as' c' htail
        exact (agree_each_cons_iff hy (hfirst.eq_ok hy)).mp (hall (n + 1))
    · intro hitems n
      cases n with
      | zero => exact Agree.of_eq rfl
      | succ n =>
        have hfirst : Agree (f y) (f' y) c := hitems 0 y rfl [] c rfl
        cases hy : f y c with
        | error e c₁ =>
          obtain ⟨e', c₂, hy'⟩ := hfirst.exists_error hy
          rw [Agree, List.take_succ_cons, each, each, bind_error hy, bind_error hy']
          trivial
        | ok a c₁ =>
          refine (agree_each_cons_iff hy (hfirst.eq_ok hy)).mpr (ih.mpr ?_ n)
          intro i x hx as c' hreach
          exact hitems (i + 1) x hx (a :: as) c' ((each_cons_eq_ok_iff hy).mpr hreach)

end Each

/-! ## Related results -/

/-- A condition on the result of a reader and the place where it stops, if it succeeds. -/
def After (m : EStateM ε (Cursor β) α) (P : α → Cursor β → Prop) (c : Cursor β) : Prop :=
  ∀ p ∈ outcome (m c), P p.1 p.2

instance {m : EStateM ε (Cursor β) α} {P : α → Cursor β → Prop} [∀ a c, Decidable (P a c)]
    (c : Cursor β) : Decidable (After m P c) :=
  inferInstanceAs (Decidable (∀ p ∈ outcome (m c), P p.1 p.2))

lemma After.mono {m : EStateM ε (Cursor β) α} {P Q : α → Cursor β → Prop} {c : Cursor β}
    (h : After m P c) (hPQ : ∀ a c', P a c' → Q a c') : After m Q c :=
  fun p hp => hPQ p.1 p.2 (h p hp)

lemma After.ok {m : EStateM ε (Cursor β) α} {P : α → Cursor β → Prop} {c c' : Cursor β} {a : α}
    (h : After m P c) (hm : m c = .ok a c') : P a c' := by
  refine h (a, c') ?_
  rw [hm]
  rfl

/-- A condition on the place where a reader starts, and one on its result and the place where it
stops. -/
def Stage (P : Cursor β → Prop) (m : EStateM ε (Cursor β) α) (Q : α → Cursor β → Prop)
    (c : Cursor β) : Prop := P c ∧ After m Q c

instance {P : Cursor β → Prop} {m : EStateM ε (Cursor β) α} {Q : α → Cursor β → Prop}
    [DecidablePred P] [∀ a c, Decidable (Q a c)] (c : Cursor β) : Decidable (Stage P m Q c) :=
  inferInstanceAs (Decidable (_ ∧ _))

/-- A condition on each place where one of `n` readings starts. -/
def EachOf (n : ℕ) (m : EStateM ε (Cursor β) α) (P : Cursor β → Prop) (c : Cursor β) : Prop :=
  ∀ i < n, After (times m i) (fun _ c' => P c') c

instance {n : ℕ} {m : EStateM ε (Cursor β) α} {P : Cursor β → Prop} [DecidablePred P]
    (c : Cursor β) : Decidable (EachOf n m P c) :=
  inferInstanceAs (Decidable (∀ i < n, After (times m i) (fun _ c' => P c') c))

/-- The reader fails. -/
def Fails (m : EStateM ε (Cursor β) α) (c : Cursor β) : Prop := outcome (m c) = none

instance (m : EStateM ε (Cursor β) α) (c : Cursor β) : Decidable (Fails m c) :=
  inferInstanceAs (Decidable (_ = none))

lemma fails_of_error {m : EStateM ε (Cursor β) α} {c c' : Cursor β} {e : ε} (h : m c = .error e c') :
    Fails m c := by
  rw [Fails, h]
  rfl

lemma Fails.exists_error {m : EStateM ε (Cursor β) α} {c : Cursor β} (h : Fails m c) :
    ∃ e c', m c = .error e c' := by
  rw [Fails] at h
  cases hm : m c with
  | ok a c' =>
    rw [hm] at h
    cases h
  | error e c' => exact ⟨e, c', rfl⟩

lemma Fails.bind {m : EStateM ε (Cursor β) α} {c : Cursor β} (h : Fails m c)
    (f : α → EStateM ε (Cursor β) γ) : Fails (m >>= f) c := by
  rw [Fails, outcome_bind, h]
  rfl

/-- A failure behind a success. -/
lemma Fails.bind_ok {m : EStateM ε (Cursor β) α} {f : α → EStateM ε (Cursor β) γ} {c c' : Cursor β}
    {a : α} (hm : m c = .ok a c') (h : Fails (f a) c') : Fails (m >>= f) c := by
  rwa [Fails, Cursor.bind_ok hm]

/-- Two readers that fail agree. -/
lemma Fails.agreeOn {R : α → α' → Prop} {m : EStateM ε (Cursor β) α} {m' : EStateM ε (Cursor β) α'}
    {c : Cursor β} (h : Fails m c) (h' : Fails m' c) : AgreeOn R m m' c := by
  rw [Fails] at h h'
  rw [AgreeOn]
  cases hm : m c with
  | ok a c' =>
    rw [hm] at h
    cases h
  | error e c' =>
    cases hm' : m' c with
    | ok a c'' =>
      rw [hm'] at h'
      cases h'
    | error e' c'' => trivial

section AgreeOn

variable {R : α → α' → Prop} {S : γ → γ' → Prop} {m : EStateM ε (Cursor β) α}
  {m' : EStateM ε (Cursor β) α'} {f : α → EStateM ε (Cursor β) γ} {f' : α' → EStateM ε (Cursor β) γ'}
  {c : Cursor β}

lemma Agree.agreeOn {m m' : EStateM ε (Cursor β) α} (h : Agree m m' c) : AgreeOn Eq m m' c := h

lemma AgreeOn.pure {a : α} {a' : α'} (h : R a a') :
    AgreeOn R (pure a : EStateM ε (Cursor β) α) (pure a') c := ⟨h, rfl⟩

/-- Readers that agree, followed by readers that agree on what the second one has read. -/
lemma AgreeOn.bind (h : AgreeOn R m m' c)
    (hf : After m' (fun a' c' => ∀ a, R a a' → AgreeOn S (f a) (f' a') c') c) :
    AgreeOn S (m >>= f) (m' >>= f') c := by
  rw [AgreeOn] at h
  cases hm' : m' c with
  | ok a' c' =>
    rw [hm'] at h
    cases hm : m c with
    | ok a c₁ =>
      rw [hm] at h
      obtain ⟨hR, rfl⟩ := h
      rw [AgreeOn, bind_ok hm, bind_ok hm']
      exact hf.ok hm' a hR
    | error e c₁ =>
      rw [hm] at h
      exact h.elim
  | error e c' =>
    rw [hm'] at h
    cases hm : m c with
    | ok a c₁ =>
      rw [hm] at h
      exact h.elim
    | error e' c₁ =>
      rw [AgreeOn, bind_error hm, bind_error hm']
      trivial

/-- Readers that agree where the stage begins, followed by readers that agree behind it. -/
lemma AgreeOn.stage {P : Cursor β → Prop} {Q : α' → Cursor β → Prop} (h : Stage P m' Q c)
    (hm : P c → AgreeOn R m m' c)
    (hf : ∀ a a' c', R a a' → Q a' c' → AgreeOn S (f a) (f' a') c') :
    AgreeOn S (m >>= f) (m' >>= f') c :=
  (hm h.1).bind fun p hp a hR => hf a p.1 p.2 hR (h.2 p hp)

/-- The same reader, followed by readers that agree behind it. -/
lemma AgreeOn.after {f : α' → EStateM ε (Cursor β) γ} {Q : α' → Cursor β → Prop}
    (h : After m' Q c) (hf : ∀ a c', Q a c' → AgreeOn S (f a) (f' a) c') :
    AgreeOn S (m' >>= f) (m' >>= f') c := by
  refine AgreeOn.bind (Agree.of_eq rfl).agreeOn fun p hp => ?_
  rintro a rfl
  exact hf p.1 p.2 (h p hp)

/-- The same reader, followed by readers that agree on what it has read. -/
lemma AgreeOn.bind_same {f : α' → EStateM ε (Cursor β) γ}
    (hf : After m' (fun a c' => AgreeOn S (f a) (f' a) c') c) :
    AgreeOn S (m' >>= f) (m' >>= f') c := by
  refine AgreeOn.bind (Agree.of_eq rfl).agreeOn fun p hp => ?_
  rintro a rfl
  exact hf p hp

/-- What the second reader has read is converted. -/
lemma AgreeOn.map_right {g : α' → γ'} {S : α → γ' → Prop} (h : AgreeOn R m m' c)
    (hg : ∀ a a', R a a' → S a (g a')) : AgreeOn S m (g <$> m') c := by
  rw [AgreeOn] at h ⊢
  show SameOutcome S (m c) (EStateM.map g m' c)
  rw [EStateM.map]
  cases hm : m c with
  | ok a c₁ =>
    cases hm' : m' c with
    | ok a' c₂ =>
      rw [hm, hm'] at h
      exact ⟨hg a a' h.1, h.2⟩
    | error e' c₂ =>
      rw [hm, hm'] at h
      exact h.elim
  | error e c₁ =>
    cases hm' : m' c with
    | ok a' c₂ =>
      rw [hm, hm'] at h
      exact h.elim
    | error e' c₂ => trivial

/-- The result of the first reader is not used. -/
lemma AgreeOn.discard_left (h : AgreeOn R m m' c) :
    AgreeOn (fun _ _ => True) (discard m) m' c := by
  rw [AgreeOn] at h ⊢
  show SameOutcome _ (EStateM.map _ m c) (m' c)
  rw [EStateM.map]
  cases hm : m c with
  | ok a c₁ =>
    cases hm' : m' c with
    | ok a' c₂ =>
      rw [hm, hm'] at h
      exact ⟨trivial, h.2⟩
    | error e' c₂ =>
      rw [hm, hm'] at h
      exact h.elim
  | error e c₁ =>
    cases hm' : m' c with
    | ok a' c₂ =>
      rw [hm, hm'] at h
      exact h.elim
    | error e' c₂ => trivial

/-- Agreement of three readers. -/
lemma AgreeOn.trans {S : α' → γ' → Prop} {T : α → γ' → Prop} {m'' : EStateM ε (Cursor β) γ'}
    (h : AgreeOn R m m' c) (h' : AgreeOn S m' m'' c) (hT : ∀ a a' a'', R a a' → S a' a'' → T a a'') :
    AgreeOn T m m'' c := by
  rw [AgreeOn] at h h' ⊢
  cases hm' : m' c with
  | ok a' c₂ =>
    rw [hm'] at h h'
    cases hm : m c with
    | ok a c₁ =>
      rw [hm] at h
      cases hm'' : m'' c with
      | ok a'' c₃ =>
        rw [hm''] at h'
        exact ⟨hT a a' a'' h.1 h'.1, h.2.trans h'.2⟩
      | error e c₃ =>
        rw [hm''] at h'
        exact h'.elim
    | error e c₁ =>
      rw [hm] at h
      exact h.elim
  | error e c₂ =>
    rw [hm'] at h h'
    cases hm : m c with
    | ok a c₁ =>
      rw [hm] at h
      exact h.elim
    | error e c₁ =>
      cases hm'' : m'' c with
      | ok a'' c₃ =>
        rw [hm''] at h'
        exact h'.elim
      | error e c₃ => trivial

/-- Equally many readings, each of which agrees where it is reached. -/
theorem agreeOn_times {n : ℕ} (h : EachOf n m' (AgreeOn R m m') c) :
    AgreeOn (List.Forall₂ R) (times m n) (times m' n) c := by
  have htimes : ∀ (m : EStateM ε (Cursor β) α') k, times m (k + 1) =
      m >>= fun a => times m k >>= fun as => Pure.pure (a :: as) := fun m k => rfl
  have htimes' : ∀ (m : EStateM ε (Cursor β) α) k, times m (k + 1) =
      m >>= fun a => times m k >>= fun as => Pure.pure (a :: as) := fun m k => rfl
  induction n generalizing c with
  | zero => exact ⟨List.Forall₂.nil, rfl⟩
  | succ n ih =>
    have hfirst : AgreeOn R m m' c := (h 0 (Nat.succ_pos n)).ok rfl
    rw [htimes, htimes']
    refine hfirst.bind fun p hp a hR => ?_
    have hrest : AgreeOn (List.Forall₂ R) (times m n) (times m' n) p.2 := by
      refine ih fun i hi q hq => ?_
      have hmany : times m' (i + 1) c = .ok (p.1 :: q.1) q.2 := by
        rw [htimes, bind_ok (mem_outcome_iff.mp hp), bind_ok (mem_outcome_iff.mp hq)]
        rfl
      exact (h (i + 1) (Nat.succ_lt_succ hi)).ok hmany
    refine hrest.bind fun q hq as hRs => ?_
    exact AgreeOn.pure (List.Forall₂.cons hR hRs)

end AgreeOn

/-! ## Loops -/

section Loop

variable {τ : Type} {S : σ → τ → Prop} {R : α → α' → Prop} {stuck : ε}
  {body : σ → EStateM ε (Cursor β) (σ ⊕ α)} {body' : τ → EStateM ε (Cursor β) (τ ⊕ α')}

/-- Loops whose turns agree from related states on. -/
lemma agreeOn_loop (hbody : ∀ s t c, S s t → AgreeOn (Sum.LiftRel S R) (body s) (body' t) c) (n : ℕ)
    {s : σ} {t : τ} (hs : S s t) (c : Cursor β) :
    AgreeOn R (loop stuck body n s) (loop stuck body' n t) c := by
  induction n generalizing s t c with
  | zero => trivial
  | succ n ih =>
    refine (hbody s t c hs).bind fun p _ r hr => ?_
    obtain ⟨r', c'⟩ := p
    cases hr with
    | inl hs' => exact ih hs' c'
    | inr ha => exact AgreeOn.pure ha

lemma agreeOn_iterate (hbody : ∀ s t c, S s t → AgreeOn (Sum.LiftRel S R) (body s) (body' t) c)
    {s : σ} {t : τ} (hs : S s t) (c : Cursor β) :
    AgreeOn R (iterate stuck body s) (iterate stuck body' t) c :=
  agreeOn_loop hbody _ hs c

end Loop

/-! ## Readers of a fixed length -/

/-- The reader takes `n` items, or fails where there are fewer. -/
def Takes (m : EStateM ε (Cursor β) α) (n : ℕ) : Prop :=
  ∀ c, if c.rest.length < n then Fails m c else ∃ a, m c = .ok a (c.advance n)

lemma Takes.pure (a : α) : Takes (pure a : EStateM ε (Cursor β) α) 0 := by
  intro c
  rw [if_neg (Nat.not_lt_zero _)]
  exact ⟨a, rfl⟩

lemma Takes.bind {m : EStateM ε (Cursor β) α} {f : α → EStateM ε (Cursor β) γ} {n n' : ℕ}
    (hm : Takes m n) (hf : ∀ a, Takes (f a) n') : Takes (m >>= f) (n + n') := by
  intro c
  have h := hm c
  split_ifs at h with hshort
  · rw [if_pos (by omega)]
    exact h.bind f
  · obtain ⟨a, ha⟩ := h
    have h' := hf a (c.advance n)
    rw [rest_advance, List.length_drop] at h'
    split_ifs at h' with hshort'
    · rw [if_pos (by omega)]
      exact h'.bind_ok ha
    · rw [if_neg (by omega), bind_ok ha]
      rwa [advance_advance] at h'

lemma Takes.map {m : EStateM ε (Cursor β) α} {n : ℕ} (hm : Takes m n) (f : α → γ) :
    Takes (m >>= fun a => Pure.pure (f a)) n := by
  have h := hm.bind fun a => Takes.pure (f a)
  rwa [Nat.add_zero] at h

/-- Where the reader succeeds it has taken `n` items. -/
def Consumes (m : EStateM ε (Cursor β) α) (n : ℕ) : Prop := ∀ c a c', m c = .ok a c' → c' = c.advance n

section Consumes

variable {m : EStateM ε (Cursor β) α} {f : α → EStateM ε (Cursor β) γ} {n n' : ℕ}

/-- A reader of a fixed length succeeds only where there are as many items. -/
lemma Takes.le_of_ok (hm : Takes m n) {c c' : Cursor β} {a : α} (h : m c = .ok a c') : n ≤ c.rest.length := by
  by_contra hshort
  have hc := hm c
  rw [if_pos (not_le.mp hshort)] at hc
  obtain ⟨e, c₁, he⟩ := hc.exists_error
  rw [h] at he
  cases he

lemma Takes.consumes (hm : Takes m n) : Consumes m n := by
  intro c a c' h
  have hc := hm c
  rw [if_neg (not_lt.mpr (hm.le_of_ok h))] at hc
  obtain ⟨a', ha⟩ := hc
  rw [h] at ha
  cases ha
  rfl

lemma Consumes.pure (a : α) : Consumes (pure a : EStateM ε (Cursor β) α) 0 := (Takes.pure a).consumes

lemma Consumes.throw (e : ε) : Consumes (throw e : EStateM ε (Cursor β) α) n := by
  intro c a c' h
  cases h

lemma Consumes.bind (hm : Consumes m n) (hf : ∀ a, Consumes (f a) n') : Consumes (m >>= f) (n + n') := by
  intro c g c' h
  obtain ⟨a, c₁, ha, hg⟩ := exists_of_bind_ok h
  rw [hf a c₁ g c' hg, hm c a c₁ ha, advance_advance]

/-- A reader behind which nothing more is taken. -/
lemma Consumes.bind_zero (hm : Consumes m n) (hf : ∀ a, Consumes (f a) 0) : Consumes (m >>= f) n := hm.bind hf

end Consumes

/-- Two readers that take equally many items. -/
lemma Takes.agreeOn {m : EStateM ε (Cursor β) α} {m' : EStateM ε (Cursor β) α'} {n : ℕ}
    (hm : Takes m n) (hm' : Takes m' n) (c : Cursor β) : AgreeOn (fun _ _ => True) m m' c := by
  have h := hm c
  have h' := hm' c
  split_ifs at h h' with hshort
  · exact h.agreeOn h'
  · obtain ⟨a, ha⟩ := h
    obtain ⟨a', ha'⟩ := h'
    rw [AgreeOn, ha, ha']
    exact ⟨trivial, rfl⟩

end Cursor
