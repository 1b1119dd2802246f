import OracleRs.Lib.IndexMap
import OracleRs.Statement.Basic

set_option relaxedAutoImplicit false
set_option autoImplicit false

/-!
# The statement cache

The client-side cache of `statement_cache.rs`: statements by their SQL text, with a bit that marks
those that are in use and the time of the last use for eviction.

## Main definitions

* `OracleRs.StatementCache` — the cache.
* `OracleRs.StatementCache.get`, `OracleRs.StatementCache.put`,
  `OracleRs.StatementCache.returnStatement`, `OracleRs.StatementCache.markCursorClosed`,
  `OracleRs.StatementCache.clear` — its operations.

## Main results

* `OracleRs.StatementCache.mem_put`, `OracleRs.StatementCache.mem_returnStatement`,
  `OracleRs.StatementCache.mem_markCursorClosed` — what the operations do to the entries.
-/

namespace OracleRs

/-- A statement in the cache (`CachedStatement`). -/
structure CachedStatement where
  /-- the statement -/
  statement : Statement
  /-- is it in use? -/
  inUse : Bool
  /-- when it was last used -/
  lastUsed : ℕ
deriving DecidableEq, Repr, Inhabited

/-- The cache (`StatementCache`). -/
structure StatementCache where
  /-- the statements by their SQL text -/
  cache : IndexMap String CachedStatement
  /-- the largest number of statements -/
  maxSize : ℕ

namespace StatementCache

/-- `StatementCache::new`. -/
def new (maxSize : ℕ) : StatementCache := ⟨IndexMap.empty, maxSize⟩

/-- `get`, at the time `now`: the statement, unless it is in use. -/
def get (c : StatementCache) (sql : String) (now : ℕ) : StatementCache × Option Statement :=
  if c.maxSize = 0 then (c, none)
  else
    match c.cache.get? sql with
    | some cached =>
      if cached.inUse then
        ({ c with cache := c.cache.modify sql fun e => { e with lastUsed := now } }, none)
      else
        ({ c with cache := c.cache.modify sql fun e => { e with inUse := true, lastUsed := now } },
          some cached.statement.cloneForReuse)
    | none => (c, none)

/-- `evict_lru`: the entry that has not been used for the longest time is removed, unless all are in
use. -/
def evictLru (c : StatementCache) : StatementCache :=
  match (c.cache.entries.filter fun e => !e.2.inUse).argmin fun e => e.2.lastUsed with
  | some (key, _) => { c with cache := c.cache.swapRemove key }
  | none => c

/-- `put`, at the time `now`. -/
def put (c : StatementCache) (sql : String) (statement : Statement) (now : ℕ) : StatementCache :=
  if c.maxSize = 0 then c
  else if statement.isDdl then c
  else if statement.cursorId = 0 then c
  else if (c.cache.get? sql).isSome then
    { c with cache := c.cache.modify sql fun _ => ⟨statement, false, now⟩ }
  else
    let c := if c.cache.len ≥ c.maxSize then c.evictLru else c
    { c with cache := c.cache.insert sql ⟨statement, false, now⟩ }

/-- `return_statement`. -/
def returnStatement (c : StatementCache) (sql : String) : StatementCache :=
  { c with cache := c.cache.modify sql fun e => { e with inUse := false } }

/-- The entry of a closed cursor. -/
def closeCursor (e : CachedStatement) : CachedStatement :=
  if e.statement.cursorId ≠ 0 then
    { e with statement := { e.statement with cursorId := 0, executed := false } }
  else e

/-- `mark_cursor_closed`. -/
def markCursorClosed (c : StatementCache) (sql : String) : StatementCache :=
  { c with cache := c.cache.modify sql closeCursor }

/-- `clear`. -/
def clear (c : StatementCache) : StatementCache := { c with cache := IndexMap.empty }

/-! ## The entries -/

variable {c c' : StatementCache} {sql key : String} {cached : CachedStatement} {now : ℕ}

/-- A hit marks the entry as in use. -/
lemma get_eq_some {statement : Statement} (h : c.get sql now = (c', some statement)) :
    ∃ entry, (sql, entry) ∈ c.cache ∧ entry.inUse = false ∧ statement = entry.statement.cloneForReuse ∧
      c' = { c with cache := c.cache.modify sql fun e => { e with inUse := true, lastUsed := now } } := by
  unfold get at h
  split at h
  · cases h
  split at h
  · next entry hentry =>
    split at h
    · cases h
    · next huse =>
      cases h
      exact ⟨entry, IndexMap.get?_eq_some_iff.mp hentry, by simpa using huse, rfl, rfl⟩
  · cases h

/-- An entry that is not in use is a hit. -/
lemma get_of_mem (hsize : c.maxSize ≠ 0) (hmem : (sql, cached) ∈ c.cache)
    (huse : cached.inUse = false) (now : ℕ) :
    (c.get sql now).2 = some cached.statement.cloneForReuse := by
  rw [get, if_neg hsize, IndexMap.get?_eq_some_iff.mpr hmem]
  simp [huse]

/-- A miss changes at most the time of the last use. -/
lemma get_eq_none (h : c.get sql now = (c', none)) :
    c'.maxSize = c.maxSize ∧ ∀ key entry', (key, entry') ∈ c'.cache → ∃ entry, (key, entry) ∈ c.cache ∧
      entry'.statement = entry.statement ∧ entry'.inUse = entry.inUse := by
  unfold get at h
  split at h
  · cases h
    exact ⟨rfl, fun key entry hmem => ⟨entry, hmem, rfl, rfl⟩⟩
  split at h
  · split at h
    · cases h
      refine ⟨rfl, fun key entry' hmem => ?_⟩
      obtain ⟨entry, hentry, rfl⟩ := IndexMap.mem_modify.mp hmem
      refine ⟨entry, hentry, ?_⟩
      split <;> exact ⟨rfl, rfl⟩
    · cases h
  · cases h
    exact ⟨rfl, fun key entry hmem => ⟨entry, hmem, rfl, rfl⟩⟩

lemma mem_of_mem_evictLru {e : String × CachedStatement} (h : e ∈ c.evictLru.cache) : e ∈ c.cache := by
  unfold evictLru at h
  split at h
  · exact (IndexMap.mem_swapRemove.mp h).1
  · exact h

@[simp] lemma maxSize_evictLru (c : StatementCache) : c.evictLru.maxSize = c.maxSize := by
  unfold evictLru
  split <;> rfl

/-- An entry behind a `put` was there before, or it is the new one. -/
lemma mem_put {statement : Statement} (h : (key, cached) ∈ (c.put sql statement now).cache) :
    (key, cached) ∈ c.cache ∨ key = sql ∧ cached = ⟨statement, false, now⟩ := by
  have hinsert {c₁ : StatementCache} (hsub : ∀ e ∈ c₁.cache, e ∈ c.cache)
      (hnone : ¬ (c.cache.get? sql).isSome)
      (hmem : (key, cached) ∈ c₁.cache.insert sql ⟨statement, false, now⟩) :
      (key, cached) ∈ c.cache ∨ key = sql ∧ cached = ⟨statement, false, now⟩ := by
    have hnone₁ : c₁.cache.get? sql = none := by
      refine IndexMap.get?_eq_none_iff.mpr fun entry hentry => hnone ?_
      rw [IndexMap.get?_eq_some_iff.mpr (hsub _ hentry)]
      rfl
    obtain hold | hnew := (IndexMap.mem_insert hnone₁).mp hmem
    · exact .inl (hsub _ hold)
    · cases hnew
      exact .inr ⟨rfl, rfl⟩
  unfold put at h
  split_ifs at h with _ _ _ hsome hfull
  · exact .inl h
  · exact .inl h
  · exact .inl h
  · obtain ⟨entry, hentry, hcached⟩ := IndexMap.mem_modify.mp h
    split_ifs at hcached with hkey
    · exact .inr ⟨hkey, hcached⟩
    · exact .inl (hcached ▸ hentry)
  · exact hinsert (fun _ => mem_of_mem_evictLru) hsome h
  · exact hinsert (fun _ => id) hsome h

@[simp] lemma maxSize_put (c : StatementCache) (sql : String) (statement : Statement) (now : ℕ) :
    (c.put sql statement now).maxSize = c.maxSize := by
  unfold put
  split_ifs <;> simp

lemma mem_returnStatement : (key, cached) ∈ (c.returnStatement sql).cache ↔
    ∃ entry, (key, entry) ∈ c.cache ∧
      cached = if key = sql then { entry with inUse := false } else entry :=
  IndexMap.mem_modify

lemma mem_markCursorClosed : (key, cached) ∈ (c.markCursorClosed sql).cache ↔
    ∃ entry, (key, entry) ∈ c.cache ∧ cached = if key = sql then closeCursor entry else entry :=
  IndexMap.mem_modify

/-- A closed cursor is not the cursor of an entry any more. -/
lemma closeCursor_eq (e : CachedStatement) :
    (closeCursor e).inUse = e.inUse ∧ (closeCursor e).statement.cursorId = 0 := by
  unfold closeCursor
  split
  · exact ⟨rfl, rfl⟩
  · next h => exact ⟨rfl, not_not.mp h⟩

end StatementCache

end OracleRs
