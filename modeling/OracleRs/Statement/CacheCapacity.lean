import OracleRs.Statement.Cache

set_option relaxedAutoImplicit false
set_option autoImplicit false

/-!
# The capacity of the statement cache

A cache evicts an entry before it adds one when it is full, but entries that are in use are not
evicted: if all of them are, the new entry comes on top of them.

## Main definitions

* `OracleRs.CacheCall`, `OracleRs.StatementCache.run` — sequences of calls.
* `OracleRs.StatementCache.HasRoom` — a call does not add an entry to a full cache whose entries are
  all in use.

## Main results

* `OracleRs.StatementCache.len_step_le_iff` — what one call does to the number of entries.
* `OracleRs.StatementCache.len_run_le_iff` — the number of entries stays within the capacity if and
  only if every call has room.
-/

namespace OracleRs

/-- A call of the cache; `now` is the time at which it is made. -/
inductive CacheCall where
  | get (sql : String) (now : ℕ)
  | put (sql : String) (statement : Statement) (now : ℕ)
  | returnStatement (sql : String)
  | markCursorClosed (sql : String)
  | clear

namespace StatementCache

/-- The cache behind a call. -/
def step (c : StatementCache) : CacheCall → StatementCache
  | .get sql now => (c.get sql now).1
  | .put sql statement now => c.put sql statement now
  | .returnStatement sql => c.returnStatement sql
  | .markCursorClosed sql => c.markCursorClosed sql
  | .clear => c.clear

/-- The cache behind a sequence of calls. -/
def run (c : StatementCache) (calls : List CacheCall) : StatementCache := calls.foldl step c

/-- `put` adds an entry: the statement can be cached, and its text is not in the cache. -/
def Adds (c : StatementCache) (sql : String) (statement : Statement) : Prop :=
  c.maxSize ≠ 0 ∧ statement.isDdl = false ∧ statement.cursorId ≠ 0 ∧ c.cache.get? sql = none

/-- The cache is full, and all entries are in use. -/
def AllInUse (c : StatementCache) : Prop :=
  c.maxSize ≤ c.cache.len ∧ ∀ e ∈ c.cache, e.2.inUse = true

/-- The call does not add an entry to a full cache whose entries are all in use. -/
def HasRoom (c : StatementCache) : CacheCall → Prop
  | .put sql statement _ => ¬ (c.Adds sql statement ∧ c.AllInUse)
  | _ => True

variable {c : StatementCache} {sql : String} {statement : Statement}

/-! ## One call -/

@[simp] lemma maxSize_get (c : StatementCache) (sql : String) (now : ℕ) :
    (c.get sql now).1.maxSize = c.maxSize := by
  unfold get
  split
  · rfl
  split
  · split <;> rfl
  · rfl

lemma len_get (c : StatementCache) (sql : String) (now : ℕ) :
    (c.get sql now).1.cache.len = c.cache.len := by
  unfold get
  split
  · rfl
  split
  · split <;> exact IndexMap.len_modify _ _ _
  · rfl

@[simp] lemma maxSize_step (c : StatementCache) (call : CacheCall) :
    (c.step call).maxSize = c.maxSize := by
  cases call with
  | get sql now => exact maxSize_get c sql now
  | put sql statement now => exact maxSize_put c sql statement now
  | returnStatement sql => rfl
  | markCursorClosed sql => rfl
  | clear => rfl

/-- Eviction removes an entry, unless all are in use. -/
lemma len_evictLru (h : ¬ ∀ e ∈ c.cache, e.2.inUse = true) :
    c.evictLru.cache.len + 1 = c.cache.len := by
  unfold evictLru
  split
  · next key entry hmin =>
    have hmem := List.argmin_mem hmin
    exact IndexMap.len_swapRemove (List.mem_of_mem_filter hmem)
  · next hnone =>
    refine absurd (fun e he => ?_) h
    rw [List.argmin_eq_none, List.filter_eq_nil_iff] at hnone
    simpa using hnone e he

lemma evictLru_of_allInUse (h : ∀ e ∈ c.cache, e.2.inUse = true) : c.evictLru = c := by
  have hnil : (c.cache.entries.filter fun e => !e.2.inUse) = [] := by
    rw [List.filter_eq_nil_iff]
    intro e he
    simp [h e he]
  unfold evictLru
  rw [hnil]
  rfl

/-- A `put` that adds nothing does not change the number of entries. -/
lemma len_put_of_not_adds (h : ¬ c.Adds sql statement) (now : ℕ) :
    (c.put sql statement now).cache.len = c.cache.len := by
  unfold put
  split_ifs with hsize hddl hcursor hsome
  · rfl
  · rfl
  · rfl
  · exact IndexMap.len_modify _ _ _
  · exact absurd ⟨hsize, by simpa using hddl, hcursor, by simpa using hsome⟩ h
  · exact absurd ⟨hsize, by simpa using hddl, hcursor, by simpa using hsome⟩ h

/-- A `put` that adds an entry. -/
lemma put_of_adds (h : c.Adds sql statement) (now : ℕ) :
    (c.put sql statement now).cache =
      (if c.cache.len ≥ c.maxSize then c.evictLru else c).cache.insert sql ⟨statement, false, now⟩ := by
  obtain ⟨hsize, hddl, hcursor, hnone⟩ := h
  rw [put, if_neg hsize, if_neg (by simp [hddl]), if_neg hcursor, if_neg (by simp [hnone])]

lemma get?_evictLru (h : c.cache.get? sql = none) : c.evictLru.cache.get? sql = none := by
  rw [IndexMap.get?_eq_none_iff] at h ⊢
  exact fun entry hentry => h entry (mem_of_mem_evictLru hentry)

/-- A `put` keeps the number of entries within the capacity if and only if it has room. -/
lemma len_put_le_iff (hlen : c.cache.len ≤ c.maxSize) (now : ℕ) :
    (c.put sql statement now).cache.len ≤ c.maxSize ↔ ¬ (c.Adds sql statement ∧ c.AllInUse) := by
  by_cases hadds : c.Adds sql statement
  · have hnone := hadds.2.2.2
    rw [put_of_adds hadds]
    by_cases hfull : c.cache.len ≥ c.maxSize
    · rw [if_pos hfull, IndexMap.len_insert (get?_evictLru hnone)]
      by_cases huse : ∀ e ∈ c.cache, e.2.inUse = true
      · rw [evictLru_of_allInUse huse]
        exact iff_of_false (by omega) (not_not.mpr ⟨hadds, hfull, huse⟩)
      · have hevict := len_evictLru huse
        exact iff_of_true (by omega) fun h => huse h.2.2
    · rw [if_neg hfull, IndexMap.len_insert hnone]
      exact iff_of_true (by omega) fun h => hfull h.2.1
  · rw [len_put_of_not_adds hadds]
    exact iff_of_true hlen fun h => hadds h.1

/-- A call keeps the number of entries within the capacity if and only if it has room. -/
lemma len_step_le_iff (hlen : c.cache.len ≤ c.maxSize) (call : CacheCall) :
    (c.step call).cache.len ≤ c.maxSize ↔ c.HasRoom call := by
  cases call with
  | get sql now => exact iff_of_true ((len_get c sql now).trans_le hlen) trivial
  | put sql statement now => exact len_put_le_iff hlen now
  | returnStatement sql => exact iff_of_true ((IndexMap.len_modify _ _ _).trans_le hlen) trivial
  | markCursorClosed sql => exact iff_of_true ((IndexMap.len_modify _ _ _).trans_le hlen) trivial
  | clear => exact iff_of_true (Nat.zero_le _) trivial

/-! ## Sequences of calls -/

lemma run_concat (c : StatementCache) (calls : List CacheCall) (call : CacheCall) :
    c.run (calls ++ [call]) = (c.run calls).step call := by
  simp [run]

@[simp] lemma maxSize_run (c : StatementCache) (calls : List CacheCall) :
    (c.run calls).maxSize = c.maxSize := by
  induction calls using List.reverseRecOn with
  | nil => rfl
  | append_singleton calls call ih => rw [run_concat, maxSize_step, ih]

/-- From a new cache, the number of entries is within the capacity behind every call of a sequence if
and only if every call of the sequence has room. -/
theorem len_run_le_iff (maxSize : ℕ) (calls : List CacheCall) :
    (∀ earlier, earlier <+: calls → ((new maxSize).run earlier).cache.len ≤ maxSize) ↔
      ∀ earlier call, earlier ++ [call] <+: calls → ((new maxSize).run earlier).HasRoom call := by
  have hsize (earlier : List CacheCall) : ((new maxSize).run earlier).maxSize = maxSize :=
    maxSize_run _ _
  have hstep (earlier : List CacheCall) (call : CacheCall)
      (hlen : ((new maxSize).run earlier).cache.len ≤ maxSize) :
      ((new maxSize).run (earlier ++ [call])).cache.len ≤ maxSize ↔
        ((new maxSize).run earlier).HasRoom call := by
    rw [run_concat, ← len_step_le_iff (by rwa [hsize]) call, hsize]
  constructor
  · intro h earlier call hpre
    exact (hstep earlier call (h _ ((List.prefix_append _ _).trans hpre))).mp (h _ hpre)
  · intro h earlier hpre
    induction earlier using List.reverseRecOn with
    | nil => exact Nat.zero_le _
    | append_singleton earlier call ih =>
      exact (hstep earlier call (ih ((List.prefix_append _ _).trans hpre))).mpr (h _ _ hpre)

/-- A query with a cursor. -/
def cachedQuery (sql : String) : Statement :=
  { sql := sql, statementType := .query, cursorId := 7, executed := true }

/-- A cache for one statement holds two if the first one is in use when the second one is put. -/
theorem not_len_run_le : ¬∀ (maxSize : ℕ) (calls : List CacheCall),
    ((new maxSize).run calls).cache.len ≤ maxSize := by
  intro hall
  have hlen := hall 1 [.put "SELECT 1" (cachedQuery "SELECT 1") 1, .get "SELECT 1" 2,
    .put "SELECT 2" (cachedQuery "SELECT 2") 3]
  exact absurd hlen (by decide)

end StatementCache

end OracleRs
