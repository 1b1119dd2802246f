import Mathlib.Tactic

set_option relaxedAutoImplicit false
set_option autoImplicit false

/-!
# Futures on a wire

A *future* is a state machine that somebody polls: in each of its states it waits for a write or for a read of
so many items, or it is ready with its result. Whoever polls it may drop it in any of its awaits, with a part of
the items moved.

What it reads comes from a wire, first in, first out. At the other end of the wire somebody sends one answer
for each write, possibly an empty one. Each item on the wire is tagged with the number of the future to which it
was sent, which the future cannot see.

## Main definitions

* `Future.Await` — what a future waits for.
* `Future.Config`, `Future.Config.run` — a future on its wire.
* `Future.Config.abandon` — the wire behind a future that is dropped.
* `Future.Converses` — the answers to its writes are what a future reads up to its result.

## Main results

* `Future.Converses.exists_run` — on an empty wire a future comes to its result and takes the answers.
* `Future.Converses.of_run` — and it comes to nothing else.
-/

namespace Future

variable {β σ ρ : Type}

/-- What a future waits for. -/
inductive Await (β σ ρ : Type) where
  /-- a write of these items -/
  | writeAll (items : List β) (next : σ)
  /-- a read of so many items -/
  | readExact (n : ℕ) (next : List β → σ)
  /-- nothing: the future has its result -/
  | ready (r : ρ)

/-- The result of a future that is ready. -/
def Await.result : Await β σ ρ → Option ρ
  | ready r => some r
  | _ => none

/-- Items that are sent to the future of this number. -/
def tagged (tag : ℕ) (items : List β) : List (ℕ × β) := items.map (tag, ·)

/-- A future on its wire. -/
structure Config (β σ : Type) where
  /-- the state of the future -/
  state : σ
  /-- what has been sent and not been read -/
  wire : List (ℕ × β)
  /-- the answers to the writes that are still to come -/
  answers : List (List β)
  /-- what the future has read -/
  taken : List (ℕ × β)

namespace Config

variable (poll : σ → Await β σ ρ) (tag : ℕ)

/-- The wire behind a write. -/
def answered (c : Config β σ) : List (ℕ × β) := c.wire ++ tagged tag (c.answers.headD [])

/-- The pending await is completed, if there is one and enough items have arrived. -/
def step (c : Config β σ) : Option (Config β σ) :=
  match poll c.state with
  | .writeAll _ next => some ⟨next, c.answered tag, c.answers.tail, c.taken⟩
  | .readExact n next =>
    if n ≤ c.wire.length then
      some ⟨next ((c.wire.take n).map Prod.snd), c.wire.drop n, c.answers, c.taken ++ c.wire.take n⟩
    else
      none
  | .ready _ => none

/-- So many awaits are completed. -/
def run : ℕ → Config β σ → Option (Config β σ)
  | 0, c => some c
  | n + 1, c => (c.step poll tag).bind (run n)

/-- The wire behind a future that is dropped when so many items have been moved in its await: a write is
answered if it was complete, and of a read that is not, what was moved is lost. -/
def abandon (moved : ℕ) (c : Config β σ) : List (ℕ × β) :=
  match poll c.state with
  | .writeAll items _ => if items.length ≤ moved then c.answered tag else c.wire
  | .readExact n _ => c.wire.drop (min moved n)
  | .ready _ => c.wire

end Config

section Runs

variable {poll : σ → Await β σ ρ} {tag : ℕ} {c c' : Config β σ}

@[simp] lemma tagged_nil : tagged tag ([] : List β) = [] := rfl

@[simp] lemma tagged_append (xs ys : List β) : tagged tag (xs ++ ys) = tagged tag xs ++ tagged tag ys :=
  List.map_append

@[simp] lemma length_tagged (xs : List β) : (tagged tag xs).length = xs.length := List.length_map _

@[simp] lemma map_snd_tagged (xs : List β) : (tagged tag xs).map Prod.snd = xs := by
  rw [tagged, List.map_map]
  exact List.map_id' xs

/-- A future that is ready does not go on. -/
lemma run_of_ready {r : ρ} (h : poll c.state = .ready r) {n : ℕ} (hrun : c.run poll tag n = some c') :
    n = 0 ∧ c' = c := by
  cases n with
  | zero =>
    cases hrun
    exact ⟨rfl, rfl⟩
  | succ n =>
    rw [Config.run, Config.step, h] at hrun
    cases hrun

/-- Awaits behind awaits. -/
lemma run_add {c'' : Config β σ} {n m : ℕ} (hn : c.run poll tag n = some c') (hm : c'.run poll tag m = some c'') :
    c.run poll tag (n + m) = some c'' := by
  induction n generalizing c with
  | zero =>
    cases hn
    rw [Nat.zero_add, hm]
  | succ n ih =>
    rw [Config.run] at hn
    obtain ⟨c₁, hstep, hrest⟩ := Option.bind_eq_some_iff.mp hn
    rw [Nat.succ_add, Config.run, hstep, Option.bind_some, ih hrest]

/-- A future comes to its result at one time only. -/
lemma run_unique {c₁ c₂ : Config β σ} {r₁ r₂ : ρ} {n m : ℕ} (h₁ : c.run poll tag n = some c₁)
    (h₂ : c.run poll tag m = some c₂) (hr₁ : poll c₁.state = .ready r₁) (hr₂ : poll c₂.state = .ready r₂) :
    c₁ = c₂ := by
  induction n generalizing c m with
  | zero =>
    cases h₁
    exact (run_of_ready hr₁ h₂).2.symm
  | succ n ih =>
    cases m with
    | zero =>
      cases h₂
      exact (run_of_ready hr₂ h₁).2
    | succ m =>
      rw [Config.run] at h₁ h₂
      cases hstep : c.step poll tag with
      | none =>
        rw [hstep] at h₁
        cases h₁
      | some c' =>
        rw [hstep] at h₁ h₂
        exact ih h₁ h₂

end Runs

/-! ## Conversations -/

/-- From one state to another the future reads these items and nothing else happens. -/
inductive Reads (poll : σ → Await β σ ρ) : σ → List β → σ → Prop
  /-- nothing is read -/
  | nil (s : σ) : Reads poll s [] s
  /-- a read, and others -/
  | cons {s s' : σ} {n : ℕ} {next : List β → σ} {items rest : List β} (hpoll : poll s = .readExact n next)
      (hlen : items.length = n) (h : Reads poll (next items) rest s') : Reads poll s (items ++ rest) s'

/-- The future writes, reads the answer to its end before it writes again, and so on until it is ready. -/
inductive Converses (poll : σ → Await β σ ρ) : σ → List (List β) → ρ → Prop
  /-- the result -/
  | ready {s : σ} {r : ρ} (hpoll : poll s = .ready r) : Converses poll s [] r
  /-- a write, its answer, and what comes behind it -/
  | write {s next s' : σ} {items answer : List β} {answers : List (List β)} {r : ρ}
      (hpoll : poll s = .writeAll items next) (hreads : Reads poll next answer s')
      (h : Converses poll s' answers r) : Converses poll s (answer :: answers) r

section Conversations

variable {poll : σ → Await β σ ρ}

lemma Reads.trans {s s' s'' : σ} {xs ys : List β} (h : Reads poll s xs s') (h' : Reads poll s' ys s'') :
    Reads poll s (xs ++ ys) s'' := by
  induction h with
  | nil s => exact h'
  | cons hpoll hlen _ ih =>
    rw [List.append_assoc]
    exact .cons hpoll hlen (ih h')

/-- What a future reads is there if it is what the wire begins with. -/
lemma Reads.exists_run {s s' : σ} {items : List β} (h : Reads poll s items s') (tag : ℕ) (rest : List (ℕ × β))
    (answers : List (List β)) (taken : List (ℕ × β)) :
    ∃ n, (Config.mk s (tagged tag items ++ rest) answers taken).run poll tag n =
      some ⟨s', rest, answers, taken ++ tagged tag items⟩ := by
  induction h generalizing taken with
  | nil s => exact ⟨0, by rw [tagged_nil, List.append_nil]; rfl⟩
  | @cons s s' n next items others hpoll hlen _ ih =>
    obtain ⟨k, hk⟩ := ih (taken ++ tagged tag items)
    have hwire : tagged tag (items ++ others) ++ rest = tagged tag items ++ (tagged tag others ++ rest) := by
      rw [tagged_append, List.append_assoc]
    have hn : (tagged tag items).length = n := by rw [length_tagged, hlen]
    have hstep : (Config.mk s (tagged tag (items ++ others) ++ rest) answers taken).step poll tag =
        some ⟨next items, tagged tag others ++ rest, answers, taken ++ tagged tag items⟩ := by
      rw [Config.step, hpoll, hwire]
      show (if n ≤ (tagged tag items ++ (tagged tag others ++ rest)).length then _ else none) = _
      rw [if_pos (by rw [List.length_append]; omega), List.take_left' hn, List.drop_left' hn, map_snd_tagged]
    refine ⟨k + 1, ?_⟩
    rw [Config.run, hstep, Option.bind_some, hk, tagged_append, List.append_assoc]

/-- On an empty wire the future comes to its result, and what it has read are the answers to its writes. -/
theorem Converses.exists_run {s : σ} {answers : List (List β)} {r : ρ} (h : Converses poll s answers r)
    (tag : ℕ) (taken : List (ℕ × β)) :
    ∃ n s', (Config.mk s [] answers taken).run poll tag n =
      some ⟨s', [], [], taken ++ tagged tag answers.flatten⟩ ∧ poll s' = .ready r := by
  induction h generalizing taken with
  | @ready s r hpoll =>
    refine ⟨0, s, ?_, hpoll⟩
    rw [List.flatten_nil, tagged_nil, List.append_nil]
    rfl
  | @write s next s' items answer answers r hpoll hreads _ ih =>
    obtain ⟨n, hn⟩ := hreads.exists_run tag [] answers taken
    obtain ⟨m, s'', hm, hready⟩ := ih (taken ++ tagged tag answer)
    have hstep : (Config.mk s [] (answer :: answers) taken).step poll tag =
        some ⟨next, tagged tag answer ++ [], answers, taken⟩ := by
      rw [Config.step, hpoll, List.append_nil]
      rfl
    refine ⟨n + m + 1, s'', ?_, hready⟩
    rw [Config.run, hstep, Option.bind_some, List.flatten_cons, tagged_append, ← List.append_assoc]
    exact run_add hn hm

/-- A future on an empty wire comes to no other result, and leaves an empty wire. -/
theorem Converses.of_run {s : σ} {answers : List (List β)} {r r' : ρ} (h : Converses poll s answers r) {tag n : ℕ}
    {c : Config β σ} (hrun : (Config.mk s [] answers []).run poll tag n = some c)
    (hready : poll c.state = .ready r') :
    r' = r ∧ c.wire = [] ∧ c.taken = tagged tag answers.flatten := by
  obtain ⟨m, s', hm, hs'⟩ := h.exists_run tag []
  obtain rfl := run_unique hrun hm hready hs'
  rw [hs'] at hready
  cases hready
  exact ⟨rfl, rfl, rfl⟩

end Conversations

end Future
