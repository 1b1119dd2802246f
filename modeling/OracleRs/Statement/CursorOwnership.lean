import OracleRs.Lib.Machine
import OracleRs.Statement.Cache

set_option relaxedAutoImplicit false
set_option autoImplicit false

/-!
# Who holds a cached cursor

Executions that share a statement cache (`Connection::execute`): each asks the cache for its SQL
text once; on a hit it holds the statement until it returns it, on a miss it may put a statement
with a new cursor into the cache. Cursors are marked as closed and the cache is cleared at any time.

The cache keeps one bit for each SQL text that says whether the statement is in use. When an entry
is replaced, or the cache is cleared, while an execution holds the old statement, the return of that
statement clears the bit of the new one.

## Main definitions

* `OracleRs.CacheUsers`, `OracleRs.CacheEvent`, `OracleRs.CacheUsers.step` — the executions and
  what they do.
* `OracleRs.CacheUsers.HeldOnce` — no cursor is held twice.
* `OracleRs.CacheUsers.ReturnsOwn` — what is returned is not taken for another statement.

## Main results

* `OracleRs.CacheUsers.heldOnce_of_run` — no cursor is held twice if every return is such.
* `OracleRs.CacheUsers.heldTwice_of_return` — any other return lets a cursor be held twice.
-/

namespace OracleRs

/-- What an execution is doing. -/
inductive ExecutionPhase where
  /-- it has not asked the cache yet -/
  | idle
  /-- it holds a statement from the cache -/
  | holding (sql : String) (statement : Statement)
  /-- the cache had no statement for it -/
  | missed (sql : String)
  /-- it has returned its statement, or put one into the cache -/
  | done
deriving DecidableEq, Repr

/-- A statement cache and the executions that use it. -/
structure CacheUsers (ι : Type) where
  /-- the cache -/
  cache : StatementCache
  /-- what the executions are doing -/
  phase : ι → ExecutionPhase

/-- What happens to a statement cache. -/
inductive CacheEvent (ι : Type) where
  /-- an execution asks for a statement -/
  | get (i : ι) (sql : String) (now : ℕ)
  /-- an execution returns the statement that it holds -/
  | returnStatement (i : ι)
  /-- an execution puts a statement into the cache -/
  | put (i : ι) (statement : Statement) (now : ℕ)
  /-- a cursor is marked as closed -/
  | markCursorClosed (sql : String)
  /-- the cache is cleared -/
  | clear

namespace CacheUsers

variable {ι : Type}

/-- The cache before its first use. -/
def init (maxSize : ℕ) : CacheUsers ι := ⟨StatementCache.new maxSize, fun _ => .idle⟩

/-- The execution holds a statement. -/
def Holds (s : CacheUsers ι) (i : ι) (sql : String) (statement : Statement) : Prop :=
  s.phase i = .holding sql statement

/-- No two executions hold statements with the same cursor. -/
def HeldOnce (s : CacheUsers ι) : Prop :=
  ∀ i j sql sql' statement statement', s.Holds i sql statement → s.Holds j sql' statement' →
    statement.cursorId ≠ 0 → statement.cursorId = statement'.cursorId → i = j

/-- The cursor of a statement that is put into the cache is a new one: it is assigned, and neither
an entry nor an execution has it. -/
def PutsFresh (s : CacheUsers ι) : CacheEvent ι → Prop
  | .put _ statement _ => statement.cursorId ≠ 0 ∧
      (∀ e ∈ s.cache.cache, e.2.statement.cursorId ≠ statement.cursorId) ∧
      ∀ i sql held, s.Holds i sql held → held.cursorId ≠ statement.cursorId
  | _ => True

/-- When a statement is returned, the entry of its SQL text is that of its own cursor, or is not in
use with any cursor. -/
def ReturnsOwn (s : CacheUsers ι) : CacheEvent ι → Prop
  | .returnStatement i => ∀ sql statement, s.Holds i sql statement →
      ∀ entry, (sql, entry) ∈ s.cache.cache → entry.inUse → entry.statement.cursorId ≠ 0 →
        entry.statement.cursorId = statement.cursorId
  | _ => True

section Step

variable [DecidableEq ι]

/-- One event; an event that does not suit what its execution is doing does not happen. -/
def step (s : CacheUsers ι) : CacheEvent ι → Option (CacheUsers ι)
  | .get i sql now =>
    match s.phase i with
    | .idle =>
      match s.cache.get sql now with
      | (cache, some statement) =>
        some ⟨cache, Function.update s.phase i (.holding sql statement)⟩
      | (cache, none) => some ⟨cache, Function.update s.phase i (.missed sql)⟩
    | _ => none
  | .returnStatement i =>
    match s.phase i with
    | .holding sql _ => some ⟨s.cache.returnStatement sql, Function.update s.phase i .done⟩
    | _ => none
  | .put i statement now =>
    match s.phase i with
    | .missed sql => some ⟨s.cache.put sql statement now, Function.update s.phase i .done⟩
    | _ => none
  | .markCursorClosed sql => some { s with cache := s.cache.markCursorClosed sql }
  | .clear => some { s with cache := s.cache.clear }

/-! ## The invariant -/

/-- What holds as long as every execution returns its own statement. -/
structure Owned (s : CacheUsers ι) : Prop where
  /-- no cursor is held twice -/
  heldOnce : s.HeldOnce
  /-- the cursor of an entry that is not in use is not held -/
  unheld : ∀ sql entry, (sql, entry) ∈ s.cache.cache → entry.inUse = false →
    entry.statement.cursorId ≠ 0 → ∀ i sql' held, s.Holds i sql' held →
      held.cursorId ≠ entry.statement.cursorId
  /-- entries have different cursors -/
  distinct : ∀ sql sql' entry entry', (sql, entry) ∈ s.cache.cache → (sql', entry') ∈ s.cache.cache →
    entry.statement.cursorId ≠ 0 → entry.statement.cursorId = entry'.statement.cursorId → sql = sql'
  /-- the cursor of an entry that is in use is held -/
  held : ∀ sql entry, (sql, entry) ∈ s.cache.cache → entry.inUse → entry.statement.cursorId ≠ 0 →
    ∃ i statement, s.Holds i sql statement ∧ statement.cursorId = entry.statement.cursorId

omit [DecidableEq ι] in
lemma owned_init (maxSize : ℕ) : Owned (init maxSize : CacheUsers ι) := by
  have hempty : ∀ e, e ∉ (init maxSize : CacheUsers ι).cache.cache := IndexMap.not_mem_empty
  constructor
  · intro i j sql sql' statement statement' h
    cases h
  · intro sql entry h
    exact absurd h (hempty _)
  · intro sql sql' entry entry' h
    exact absurd h (hempty _)
  · intro sql entry h
    exact absurd h (hempty _)

/-- What an execution that is doing something else holds. -/
lemma holds_update {c : StatementCache} {phase : ι → ExecutionPhase} {i j : ι} {p : ExecutionPhase}
    {sql : String} {statement : Statement} :
    (CacheUsers.mk c (Function.update phase i p)).Holds j sql statement ↔
      (j = i ∧ p = .holding sql statement) ∨ (j ≠ i ∧ phase j = .holding sql statement) := by
  unfold Holds
  by_cases h : j = i
  · subst h
    simp
  · simp [h]

variable {s s' : CacheUsers ι} {i : ι} {sql : String} {now : ℕ}

/-- An execution that asks for a statement gets one that is not in use, or none. -/
lemma step_get (h : s.step (.get i sql now) = some s') :
    s.phase i = .idle ∧
      ((∃ entry, (sql, entry) ∈ s.cache.cache ∧ entry.inUse = false ∧
          s' = ⟨{ s.cache with cache := s.cache.cache.modify sql fun e =>
              { e with inUse := true, lastUsed := now } },
            Function.update s.phase i (.holding sql entry.statement.cloneForReuse)⟩) ∨
        s' = ⟨(s.cache.get sql now).1, Function.update s.phase i (.missed sql)⟩ ∧
          (s.cache.get sql now).2 = none) := by
  simp only [step] at h
  split at h
  · next hphase =>
    refine ⟨hphase, ?_⟩
    split at h
    · next c statement hget =>
      cases h
      obtain ⟨entry, hmem, huse, rfl, rfl⟩ := StatementCache.get_eq_some hget
      exact .inl ⟨entry, hmem, huse, rfl⟩
    · next c hget =>
      cases h
      exact .inr ⟨by rw [hget], by rw [hget]⟩
  · cases h

lemma step_returnStatement (h : s.step (.returnStatement i) = some s') :
    ∃ sql statement, s.Holds i sql statement ∧
      s' = ⟨s.cache.returnStatement sql, Function.update s.phase i .done⟩ := by
  simp only [step] at h
  split at h
  · next sql statement hphase =>
    cases h
    exact ⟨sql, statement, hphase, rfl⟩
  · cases h

lemma step_put {statement : Statement} (h : s.step (.put i statement now) = some s') :
    ∃ sql, s.phase i = .missed sql ∧
      s' = ⟨s.cache.put sql statement now, Function.update s.phase i .done⟩ := by
  simp only [step] at h
  split at h
  · next sql hphase =>
    cases h
    exact ⟨sql, hphase, rfl⟩
  · cases h

/-- An execution that stops holding anything leaves the others as they are. -/
lemma holds_of_update {c : StatementCache} {j : ι} {p : ExecutionPhase} {held : Statement}
    (hp : ∀ sql statement, p ≠ .holding sql statement)
    (h : (CacheUsers.mk c (Function.update s.phase i p)).Holds j sql held) :
    j ≠ i ∧ s.Holds j sql held := by
  obtain ⟨-, hholding⟩ | ⟨hne, hj⟩ := holds_update.mp h
  · exact absurd hholding (hp _ _)
  · exact ⟨hne, hj⟩

/-- An execution that was not holding anything and still is not leaves what is held as it is. -/
lemma holds_update_iff {c : StatementCache} {j : ι} {p : ExecutionPhase} {held : Statement}
    (hp : ∀ sql statement, p ≠ .holding sql statement)
    (hi : ∀ sql statement, ¬ s.Holds i sql statement) :
    (CacheUsers.mk c (Function.update s.phase i p)).Holds j sql held ↔ s.Holds j sql held := by
  refine ⟨fun h => (holds_of_update hp h).2, fun h => holds_update.mpr (.inr ⟨?_, h⟩)⟩
  rintro rfl
  exact hi _ _ h

/-! ## The steps -/

omit [DecidableEq ι] in
/-- Nothing changes for the invariant if the same statements are held, and every entry with a cursor
was there before. -/
lemma Owned.of_entries (h : s.Owned)
    (hholds : ∀ j sql held, s'.Holds j sql held ↔ s.Holds j sql held)
    (hentries : ∀ sql entry', (sql, entry') ∈ s'.cache.cache → entry'.statement.cursorId ≠ 0 →
      ∃ entry, (sql, entry) ∈ s.cache.cache ∧
        entry'.statement.cursorId = entry.statement.cursorId ∧ entry'.inUse = entry.inUse) :
    s'.Owned := by
  constructor
  · intro j k sqlj sqlk heldj heldk hj hk
    exact h.heldOnce _ _ _ _ _ _ ((hholds _ _ _).mp hj) ((hholds _ _ _).mp hk)
  · intro sql entry' hmem huse hne j sqlj held hj
    obtain ⟨entry, hentry, hcursor, hsame⟩ := hentries _ _ hmem hne
    rw [hcursor] at hne ⊢
    exact h.unheld _ _ hentry (hsame ▸ huse) hne _ _ _ ((hholds _ _ _).mp hj)
  · intro sql₁ sql₂ e₁ e₂ h₁ h₂ hne heq
    obtain ⟨entry₁, hentry₁, hcursor₁, -⟩ := hentries _ _ h₁ hne
    obtain ⟨entry₂, hentry₂, hcursor₂, -⟩ := hentries _ _ h₂ (heq ▸ hne)
    exact h.distinct _ _ _ _ hentry₁ hentry₂ (hcursor₁ ▸ hne) (by rw [← hcursor₁, heq, hcursor₂])
  · intro sql entry' hmem huse hne
    obtain ⟨entry, hentry, hcursor, hsame⟩ := hentries _ _ hmem hne
    rw [hcursor] at hne ⊢
    obtain ⟨j, held, hj, heq⟩ := h.held _ _ hentry (hsame ▸ huse) hne
    exact ⟨j, held, (hholds _ _ _).mpr hj, heq⟩

lemma Owned.get (h : s.Owned) (hstep : s.step (.get i sql now) = some s') : s'.Owned := by
  obtain ⟨hidle, ⟨entry, hmem, huse, rfl⟩ | ⟨rfl, hnone⟩⟩ := step_get hstep
  · constructor
    · intro j k sqlj sqlk heldj heldk hj hk hne heq
      obtain ⟨rfl, hjnew⟩ | ⟨hji, hjold⟩ := holds_update.mp hj
      · obtain ⟨rfl, -⟩ | ⟨hki, hkold⟩ := holds_update.mp hk
        · rfl
        · cases hjnew
          exact absurd heq.symm (h.unheld _ _ hmem huse hne _ _ _ hkold)
      · obtain ⟨rfl, hknew⟩ | ⟨hki, hkold⟩ := holds_update.mp hk
        · cases hknew
          exact absurd heq (h.unheld _ _ hmem huse (heq ▸ hne) _ _ _ hjold)
        · exact h.heldOnce _ _ _ _ _ _ hjold hkold hne heq
    · intro sql' entry' hmem' huse' hne j sqlj held hj
      obtain ⟨old, hold, rfl⟩ := IndexMap.mem_modify.mp hmem'
      split_ifs at huse' hne ⊢ with hsql
      · obtain ⟨rfl, hjnew⟩ | ⟨-, hjold⟩ := holds_update.mp hj
        · cases hjnew
          exact fun heq => hsql (h.distinct _ _ _ _ hmem hold (heq ▸ hne) heq).symm
        · exact h.unheld _ _ hold huse' hne _ _ _ hjold
    · intro sql₁ sql₂ e₁ e₂ h₁ h₂ hne heq
      obtain ⟨old₁, hold₁, rfl⟩ := IndexMap.mem_modify.mp h₁
      obtain ⟨old₂, hold₂, rfl⟩ := IndexMap.mem_modify.mp h₂
      refine h.distinct _ _ _ _ hold₁ hold₂ ?_ ?_
      · split_ifs at hne <;> exact hne
      · split_ifs at heq <;> exact heq
    · intro sql' entry' hmem' huse' hne
      obtain ⟨old, hold, rfl⟩ := IndexMap.mem_modify.mp hmem'
      split_ifs at huse' hne ⊢ with hsql
      · subst hsql
        obtain rfl := IndexMap.eq_of_mem hold hmem
        exact ⟨i, _, holds_update.mpr (.inl ⟨rfl, rfl⟩), rfl⟩
      · obtain ⟨j, held, hj, heq⟩ := h.held _ _ hold huse' hne
        refine ⟨j, held, holds_update.mpr (.inr ⟨?_, hj⟩), heq⟩
        rintro rfl
        rw [Holds, hidle] at hj
        cases hj
  · refine h.of_entries (fun j sqlj held => holds_update_iff nofun ?_) ?_
    · intro sql' held hi
      rw [Holds, hidle] at hi
      cases hi
    · intro sql' entry' hmem' _
      obtain ⟨-, hentries⟩ := StatementCache.get_eq_none (Prod.ext rfl hnone)
      obtain ⟨entry, hentry, hstatement, huse⟩ := hentries _ _ hmem'
      exact ⟨entry, hentry, by rw [hstatement], huse⟩

lemma Owned.put {statement : Statement} (h : s.Owned) (hfresh : s.PutsFresh (.put i statement now))
    (hstep : s.step (.put i statement now) = some s') : s'.Owned := by
  obtain ⟨hne, hentries, hholders⟩ := hfresh
  obtain ⟨sql, hphase, rfl⟩ := step_put hstep
  have hholds (j : ι) (sqlj : String) (held : Statement) :
      (CacheUsers.mk (s.cache.put sql statement now) (Function.update s.phase i .done)).Holds
        j sqlj held ↔ s.Holds j sqlj held := by
    refine holds_update_iff nofun fun sql' held hi => ?_
    rw [Holds, hphase] at hi
    cases hi
  constructor
  · intro j k sqlj sqlk heldj heldk hj hk
    exact h.heldOnce _ _ _ _ _ _ ((hholds _ _ _).mp hj) ((hholds _ _ _).mp hk)
  · intro sql' entry hmem huse hcursor j sqlj held hj
    obtain hold | ⟨rfl, rfl⟩ := StatementCache.mem_put hmem
    · exact h.unheld _ _ hold huse hcursor _ _ _ ((hholds _ _ _).mp hj)
    · exact hholders _ _ _ ((hholds _ _ _).mp hj)
  · intro sql₁ sql₂ e₁ e₂ h₁ h₂ hcursor heq
    obtain hold₁ | ⟨rfl, rfl⟩ := StatementCache.mem_put h₁
    · obtain hold₂ | ⟨rfl, rfl⟩ := StatementCache.mem_put h₂
      · exact h.distinct _ _ _ _ hold₁ hold₂ hcursor heq
      · exact absurd heq (hentries _ hold₁)
    · obtain hold₂ | ⟨rfl, rfl⟩ := StatementCache.mem_put h₂
      · exact absurd heq.symm (hentries _ hold₂)
      · rfl
  · intro sql' entry hmem huse hcursor
    obtain hold | ⟨rfl, rfl⟩ := StatementCache.mem_put hmem
    · obtain ⟨j, held, hj, heq⟩ := h.held _ _ hold huse hcursor
      exact ⟨j, held, (hholds _ _ _).mpr hj, heq⟩
    · cases huse

lemma Owned.returnStatement (h : s.Owned) (hown : s.ReturnsOwn (.returnStatement i))
    (hstep : s.step (.returnStatement i) = some s') : s'.Owned := by
  obtain ⟨sql, statement, hi, rfl⟩ := step_returnStatement hstep
  have hholds {j : ι} {sqlj : String} {held : Statement}
      (hj : (CacheUsers.mk (s.cache.returnStatement sql) (Function.update s.phase i .done)).Holds
        j sqlj held) : j ≠ i ∧ s.Holds j sqlj held := holds_of_update (p := .done) nofun hj
  constructor
  · intro j k sqlj sqlk heldj heldk hj hk
    exact h.heldOnce _ _ _ _ _ _ (hholds hj).2 (hholds hk).2
  · intro sql' entry' hmem huse hne j sqlj held hj heq
    obtain ⟨hji, hjold⟩ := hholds hj
    obtain ⟨entry, hentry, rfl⟩ := StatementCache.mem_returnStatement.mp hmem
    have hcursor : (if sql' = sql then { entry with inUse := false } else entry).statement =
        entry.statement := by split <;> rfl
    rw [hcursor] at hne heq
    by_cases hused : entry.inUse = true
    · -- the entry was in use, so it is the one that is returned
      split_ifs at huse with hsql
      · subst hsql
        have hsame := hown _ _ hi _ hentry hused hne
        exact hji (h.heldOnce _ _ _ _ _ _ hjold hi (heq ▸ hne) (heq.trans hsame))
      · rw [hused] at huse
        cases huse
    · exact h.unheld _ _ hentry (by simpa using hused) hne _ _ _ hjold heq
  · intro sql₁ sql₂ e₁ e₂ h₁ h₂ hne heq
    obtain ⟨old₁, hold₁, rfl⟩ := StatementCache.mem_returnStatement.mp h₁
    obtain ⟨old₂, hold₂, rfl⟩ := StatementCache.mem_returnStatement.mp h₂
    refine h.distinct _ _ _ _ hold₁ hold₂ ?_ ?_
    · split_ifs at hne <;> exact hne
    · split_ifs at heq <;> exact heq
  · intro sql' entry' hmem huse hne
    obtain ⟨entry, hentry, rfl⟩ := StatementCache.mem_returnStatement.mp hmem
    split_ifs at huse hne ⊢ with hsql
    obtain ⟨j, held, hj, heq⟩ := h.held _ _ hentry huse hne
    refine ⟨j, held, holds_update.mpr (.inr ⟨?_, hj⟩), heq⟩
    rintro rfl
    rw [Holds] at hi hj
    rw [hi] at hj
    cases hj
    exact hsql rfl

/-- The invariant is kept by events that put fresh cursors and return what they hold. -/
lemma Owned.step {e : CacheEvent ι} (h : s.Owned) (hfresh : s.PutsFresh e) (hown : s.ReturnsOwn e)
    (hstep : s.step e = some s') : s'.Owned := by
  cases e with
  | get i sql now => exact h.get hstep
  | returnStatement i => exact h.returnStatement hown hstep
  | put i statement now => exact h.put hfresh hstep
  | markCursorClosed sql =>
    cases hstep
    refine h.of_entries (fun _ _ _ => Iff.rfl) fun sql' entry' hmem hne => ?_
    obtain ⟨entry, hentry, rfl⟩ := StatementCache.mem_markCursorClosed.mp hmem
    split_ifs at hne ⊢ with hsql
    · exact absurd (StatementCache.closeCursor_eq entry).2 hne
    · exact ⟨entry, hentry, rfl, rfl⟩
  | clear =>
    cases hstep
    exact h.of_entries (fun _ _ _ => Iff.rfl) fun _ _ hmem => absurd hmem (IndexMap.not_mem_empty _)

/-- No cursor is held twice in a run whose returns are taken for no other statement. -/
theorem heldOnce_of_run {maxSize : ℕ} {events : List (CacheEvent ι)} {s : CacheUsers ι}
    (hrun : Machine.Run step (fun s e => PutsFresh s e ∧ ReturnsOwn s e) (init maxSize) events s) :
    s.HeldOnce :=
  (hrun.invariant (fun _ _ _ h hgood hstep => h.step hgood.1 hgood.2 hstep)
    (owned_init maxSize)).heldOnce

/-! ## Other returns -/

/-- The size of the cache does not change. -/
lemma maxSize_of_step {e : CacheEvent ι} (h : s.step e = some s') :
    s'.cache.maxSize = s.cache.maxSize := by
  cases e with
  | get i sql now =>
    obtain ⟨-, ⟨_, _, _, rfl⟩ | ⟨rfl, hnone⟩⟩ := step_get h
    · rfl
    · exact (StatementCache.get_eq_none (Prod.ext rfl hnone)).1
  | returnStatement i =>
    obtain ⟨sql, statement, -, rfl⟩ := step_returnStatement h
    rfl
  | put i statement now =>
    obtain ⟨sql, -, rfl⟩ := step_put h
    exact StatementCache.maxSize_put _ _ _ _
  | markCursorClosed sql =>
    cases h
    rfl
  | clear =>
    cases h
    rfl

/-- After a return that is taken for another statement, an execution that asks for that statement
gets it while it is held. -/
theorem heldTwice_of_return {maxSize : ℕ} (hsize : maxSize ≠ 0) {events : List (CacheEvent ι)}
    {s s' : CacheUsers ι} {i j : ι}
    (hrun : Machine.Run step (fun s e => PutsFresh s e ∧ ReturnsOwn s e) (init maxSize) events s)
    (hstep : s.step (.returnStatement i) = some s') (hother : ¬ s.ReturnsOwn (.returnStatement i))
    (hidle : s.phase j = .idle) (now : ℕ) :
    ∃ sql s'', s'.step (.get j sql now) = some s'' ∧ ¬ s''.HeldOnce := by
  have howned : s.Owned := hrun.invariant
    (fun _ _ _ h hgood hstep => h.step hgood.1 hgood.2 hstep) (owned_init maxSize)
  have hmax : s.cache.maxSize = maxSize := hrun.invariant (P := fun s => s.cache.maxSize = maxSize)
    (fun _ _ _ h _ hstep => (maxSize_of_step hstep).trans h) rfl
  obtain ⟨sql, statement, hi, rfl⟩ := step_returnStatement hstep
  obtain ⟨entry, hentry, huse, hne, hcursor⟩ : ∃ entry, (sql, entry) ∈ s.cache.cache ∧
      entry.inUse ∧ entry.statement.cursorId ≠ 0 ∧
        entry.statement.cursorId ≠ statement.cursorId := by
    simp only [ReturnsOwn, not_forall] at hother
    obtain ⟨sql', statement', hi', entry, hentry, huse, hne, hcursor⟩ := hother
    rw [Holds] at hi hi'
    rw [hi] at hi'
    cases hi'
    exact ⟨entry, hentry, huse, hne, hcursor⟩
  obtain ⟨k, held, hk, hheld⟩ := howned.held _ _ hentry huse hne
  have hki : k ≠ i := by
    rintro rfl
    rw [Holds] at hi hk
    rw [hi] at hk
    cases hk
    exact hcursor hheld.symm
  have hji : j ≠ i := by
    rintro rfl
    rw [Holds, hidle] at hi
    cases hi
  have hreturned : (sql, { entry with inUse := false }) ∈ (s.cache.returnStatement sql).cache :=
    StatementCache.mem_returnStatement.mpr ⟨entry, hentry, (if_pos rfl).symm⟩
  have hget := StatementCache.get_of_mem (c := s.cache.returnStatement sql) (hmax ▸ hsize) hreturned
    rfl now
  obtain ⟨cache, hcache⟩ : ∃ cache, (s.cache.returnStatement sql).get sql now =
      (cache, some entry.statement.cloneForReuse) := ⟨_, Prod.ext rfl hget⟩
  have hphase : Function.update s.phase i .done j = .idle := by
    rw [Function.update_of_ne hji, hidle]
  refine ⟨sql, ⟨cache, Function.update (Function.update s.phase i .done) j
    (.holding sql entry.statement.cloneForReuse)⟩, ?_, fun h => ?_⟩
  · simp only [step, hphase, hcache]
  · have hjk : j = k := h j k sql sql entry.statement.cloneForReuse held
      (holds_update.mpr (.inl ⟨rfl, rfl⟩)) (holds_update.mpr (.inr ⟨?_, ?_⟩)) hne hheld.symm
    · rw [Holds, ← hjk, hidle] at hk
      cases hk
    · rintro rfl
      rw [Holds, hidle] at hk
      cases hk
    · rw [Function.update_of_ne hki]
      exact hk

/-! ## Two executions -/

/-- A query with a cursor. -/
def dualQuery (cursorId : UInt16) : Statement :=
  { sql := "SELECT 1 FROM DUAL", statementType := .query, cursorId := cursorId, executed := true }

/-- One execution puts its statement into the cache, a second one holds it. -/
theorem heldOnce_dualQuery : ∃ s : CacheUsers ℕ, s.Holds 1 "SELECT 1 FROM DUAL" (dualQuery 1) ∧
    s.HeldOnce := by
  have hrun : ∃ s, Machine.Run step (fun s e => PutsFresh s e ∧ ReturnsOwn s e)
      (init 20 : CacheUsers ℕ) [.get 0 "SELECT 1 FROM DUAL" 0, .put 0 (dualQuery 1) 1,
        .get 1 "SELECT 1 FROM DUAL" 2] s ∧ s.Holds 1 "SELECT 1 FROM DUAL" (dualQuery 1) := by
    refine ⟨_, .cons ⟨trivial, trivial⟩ rfl (.cons ⟨⟨?_, ?_, ?_⟩, trivial⟩ rfl
      (.cons ⟨trivial, trivial⟩ rfl (.nil _))), rfl⟩
    · decide
    · exact fun _ h => absurd h (IndexMap.not_mem_empty _)
    · intro i sql held h
      simp only [Holds, Function.update_apply] at h
      split_ifs at h
      cases h
  obtain ⟨s, hs, hholds⟩ := hrun
  exact ⟨s, hholds, heldOnce_of_run hs⟩

/-- A statement is put into the cache twice, by two executions: the return of the first one makes
the second one available while it is held. -/
theorem not_heldOnce : ∃ s : CacheUsers ℕ, Machine.Run step PutsFresh (init 20)
    [.get 0 "SELECT 1 FROM DUAL" 0, .put 0 (dualQuery 1) 1, .get 1 "SELECT 1 FROM DUAL" 2,
      .get 2 "SELECT 1 FROM DUAL" 3, .put 2 (dualQuery 2) 4, .get 3 "SELECT 1 FROM DUAL" 5,
      .returnStatement 1, .get 4 "SELECT 1 FROM DUAL" 6] s ∧ ¬ s.HeldOnce := by
  refine ⟨_, .cons trivial rfl (.cons ⟨?_, ?_, ?_⟩ rfl (.cons trivial rfl (.cons trivial rfl
    (.cons ⟨?_, ?_, ?_⟩ rfl (.cons trivial rfl (.cons trivial rfl (.cons trivial rfl
      (.nil _)))))))), fun h => ?_⟩
  · decide
  · exact fun _ h => absurd h (IndexMap.not_mem_empty _)
  · intro i sql held h
    simp only [Holds, Function.update_apply] at h
    split_ifs at h
    cases h
  · decide
  · intro e he
    obtain rfl := List.mem_singleton.mp he
    decide
  · intro i sql held h
    simp only [Holds, Function.update_apply] at h
    split_ifs at h
    · cases h
      decide
    · cases h
  · exact absurd (h 3 4 _ _ _ _ rfl rfl (by decide) rfl) (by decide)

end Step

end CacheUsers

end OracleRs
