import OracleRs.Statement.CacheCapacity

set_option relaxedAutoImplicit false
set_option autoImplicit false

/-!
# Eviction from the statement cache

The time in an entry is that of the last call that used it: a `get` of its text, also when the statement is
in use, or a `put` that stored a statement under it. Between calls at increasing times, the entry that is
evicted is the one that is not in use and was used last before all others.

## Main definitions

* `OracleRs.lastUse` — the last use of a text in a sequence of calls.
* `OracleRs.ClockIncreases` — the calls are made at increasing times.
* `OracleRs.StatementCache.Recent` — the entries have the times of their last uses.

## Main results

* `OracleRs.StatementCache.recent_run` — they have, behind every sequence of calls.
* `OracleRs.StatementCache.mem_put_of_full` — what a `put` does to a full cache.
-/

namespace OracleRs

/-! ## Uses -/

/-- The statement is one that `put` stores. -/
def Statement.Cacheable (statement : Statement) : Prop :=
  statement.isDdl = false ∧ statement.cursorId ≠ 0
deriving Decidable

namespace CacheCall

/-- The time of a call, if it depends on one. -/
def time : CacheCall → Option ℕ
  | .get _ now => some now
  | .put _ _ now => some now
  | _ => none

/-- The time at which a call uses a text: it is a `get` of it or a `put` that stores a statement. -/
def useOf (key : String) : CacheCall → Option ℕ
  | .get sql now => if sql = key then some now else none
  | .put sql statement now => if sql = key ∧ statement.Cacheable then some now else none
  | _ => none

/-- A use is made at the time of the call, and a call uses one text. -/
lemma time_of_useOf {call : CacheCall} {key : String} {t : ℕ} (h : call.useOf key = some t) :
    call.time = some t ∧ ∀ key' t', call.useOf key' = some t' → key' = key := by
  cases call with
  | get sql now =>
    simp only [useOf] at h ⊢
    split_ifs at h with hkey
    refine ⟨h, fun key' t' h' => ?_⟩
    split_ifs at h' with hkey'
    exact hkey'.symm.trans hkey
  | put sql statement now =>
    simp only [useOf] at h ⊢
    split_ifs at h with hkey
    refine ⟨h, fun key' t' h' => ?_⟩
    split_ifs at h' with hkey'
    exact hkey'.1.symm.trans hkey.1
  | returnStatement sql => cases h
  | markCursorClosed sql => cases h
  | clear => cases h

end CacheCall

/-- The time of the last use of a text. -/
def lastUse (calls : List CacheCall) (key : String) : Option ℕ :=
  (calls.filterMap (·.useOf key)).getLast?

/-- The calls are made at increasing times. -/
def ClockIncreases (calls : List CacheCall) : Prop := (calls.filterMap CacheCall.time).Pairwise (· < ·)

variable {calls : List CacheCall} {call : CacheCall} {key key' : String} {t : ℕ}

/-- The last call comes last. -/
lemma lastUse_concat : lastUse (calls ++ [call]) key = (call.useOf key).or (lastUse calls key) := by
  rw [lastUse, List.filterMap_append, List.getLast?_append, lastUse]
  cases h : call.useOf key <;> simp [h]

/-- A last use is made at the time of one of the calls. -/
lemma mem_times_of_lastUse (h : lastUse calls key = some t) : t ∈ calls.filterMap CacheCall.time := by
  obtain ⟨call, hcall, huse⟩ := List.mem_filterMap.mp (List.mem_of_getLast? h)
  exact List.mem_filterMap.mpr ⟨call, hcall, (CacheCall.time_of_useOf huse).1⟩

/-- Two texts are not used at one time. -/
lemma lastUse_inj (hclock : ClockIncreases calls) (h : lastUse calls key = some t)
    (h' : lastUse calls key' = some t) : key = key' := by
  induction calls using List.reverseRecOn with
  | nil => cases h
  | append_singleton calls call ih =>
    rw [ClockIncreases, List.filterMap_append, List.pairwise_append] at hclock
    obtain ⟨hbefore, -, hlast⟩ := hclock
    -- The last call is made at a time at which no earlier call has been made.
    have hfresh : ∀ {k k'}, call.useOf k = some t → lastUse calls k' ≠ some t := by
      intro k k' huse hearlier
      have htime : t ∈ [call].filterMap CacheCall.time :=
        List.mem_filterMap.mpr ⟨call, List.mem_singleton_self call, (CacheCall.time_of_useOf huse).1⟩
      exact lt_irrefl t (hlast t (mem_times_of_lastUse hearlier) t htime)
    rw [lastUse_concat, Option.or_eq_some_iff] at h h'
    rcases h with huse | ⟨-, hold⟩
    · rcases h' with huse' | ⟨-, hold'⟩
      · exact (CacheCall.time_of_useOf huse').2 key t huse
      · exact absurd hold' (hfresh huse)
    · rcases h' with huse' | ⟨-, hold'⟩
      · exact absurd hold (hfresh huse')
      · exact ih hbefore hold hold'

namespace StatementCache

variable {c : StatementCache} {e : CachedStatement} {sql : String} {statement : Statement} {now : ℕ}

/-! ## Times of entries -/

/-- The entries have the times of their last uses, and there are none if there is no room for any. -/
structure Recent (calls : List CacheCall) (c : StatementCache) : Prop where
  /-- the times -/
  lastUsed : ∀ key e, (key, e) ∈ c.cache → lastUse calls key = some e.lastUsed
  /-- a cache without room has no entries -/
  maxSize : ∀ e ∈ c.cache, c.maxSize ≠ 0

lemma recent_new (maxSize : ℕ) : Recent [] (new maxSize) :=
  ⟨fun _ _ h => absurd h (IndexMap.not_mem_empty _), fun _ h => absurd h (IndexMap.not_mem_empty _)⟩

/-- What a `get` does to an entry. -/
lemma mem_get (hsize : c.maxSize ≠ 0) (h : (key, e) ∈ (c.get sql now).1.cache) :
    ∃ old, (key, old) ∈ c.cache ∧ e.lastUsed = if key = sql then now else old.lastUsed := by
  rw [get, if_neg hsize] at h
  split at h
  · split_ifs at h
    · obtain ⟨old, hold, rfl⟩ := IndexMap.mem_modify.mp h
      refine ⟨old, hold, ?_⟩
      split_ifs <;> rfl
    · obtain ⟨old, hold, rfl⟩ := IndexMap.mem_modify.mp h
      refine ⟨old, hold, ?_⟩
      split_ifs <;> rfl
  · next hnone =>
    refine ⟨e, h, ?_⟩
    rw [if_neg]
    rintro rfl
    exact IndexMap.get?_eq_none_iff.mp hnone e h

/-- A statement that is stored is there. -/
lemma mem_put_self (hsize : c.maxSize ≠ 0) (hcache : statement.Cacheable) :
    (sql, ⟨statement, false, now⟩) ∈ (c.put sql statement now).cache := by
  by_cases hnone : c.cache.get? sql = none
  · rw [put_of_adds ⟨hsize, hcache.1, hcache.2, hnone⟩]
    refine (IndexMap.mem_insert ?_).mpr (.inr rfl)
    split_ifs
    · exact get?_evictLru hnone
    · exact hnone
  · obtain ⟨old, hold⟩ := Option.ne_none_iff_exists'.mp hnone
    rw [put, if_neg hsize, if_neg (by simp [hcache.1]), if_neg hcache.2, if_pos (by rw [hold]; rfl)]
    exact IndexMap.mem_modify.mpr ⟨old, IndexMap.get?_eq_some_iff.mp hold, (if_pos rfl).symm⟩

/-- A statement that is not stored changes nothing. -/
lemma put_of_not_cacheable (h : ¬statement.Cacheable) : c.put sql statement now = c := by
  rw [put]
  by_cases hsize : c.maxSize = 0
  · exact if_pos hsize
  by_cases hddl : statement.isDdl = true
  · rw [if_neg hsize, if_pos hddl]
  by_cases hcursor : statement.cursorId = 0
  · rw [if_neg hsize, if_neg hddl, if_pos hcursor]
  · exact absurd ⟨by simpa using hddl, hcursor⟩ h

/-- What a `put` that stores its statement does to an entry. -/
lemma mem_put_of_cacheable (hsize : c.maxSize ≠ 0) (hcache : statement.Cacheable)
    (h : (key, e) ∈ (c.put sql statement now).cache) :
    (key ≠ sql ∧ (key, e) ∈ c.cache) ∨ key = sql ∧ e = ⟨statement, false, now⟩ := by
  by_cases hkey : key = sql
  · subst hkey
    exact .inr ⟨rfl, IndexMap.eq_of_mem h (mem_put_self hsize hcache)⟩
  · rcases mem_put h with hold | hnew
    · exact .inl ⟨hkey, hold⟩
    · exact absurd hnew.1 hkey

lemma lastUsed_closeCursor (e : CachedStatement) : (closeCursor e).lastUsed = e.lastUsed := by
  rw [closeCursor]
  split_ifs <;> rfl

/-- A call keeps the times. -/
lemma Recent.step (h : Recent calls c) (call : CacheCall) : Recent (calls ++ [call]) (c.step call) := by
  -- A call that uses nothing, and changes no time.
  have hkeep : ∀ {cache : IndexMap String CachedStatement},
      (∀ key, call.useOf key = none) → (∀ key e, (key, e) ∈ cache → ∃ old, (key, old) ∈ c.cache ∧
        e.lastUsed = old.lastUsed) → Recent (calls ++ [call]) { c with cache := cache } := by
    intro cache huse hold
    refine ⟨fun key e he => ?_, fun e he => ?_⟩
    · obtain ⟨old, hmem, htime⟩ := hold key e he
      rw [lastUse_concat, huse, Option.none_or, h.lastUsed key old hmem, htime]
    · obtain ⟨old, hmem, -⟩ := hold e.1 e.2 he
      exact h.maxSize _ hmem
  cases call with
  | get sql now =>
    by_cases hsize : c.maxSize = 0
    · have hnone : ∀ e, e ∉ c.cache := fun e he => h.maxSize e he hsize
      rw [StatementCache.step, get, if_pos hsize]
      exact ⟨fun _ _ he => absurd he (hnone _), fun e he => absurd he (hnone e)⟩
    · refine ⟨fun key e he => ?_, fun _ _ => by rwa [maxSize_step]⟩
      obtain ⟨old, hmem, htime⟩ := mem_get hsize he
      rw [lastUse_concat, CacheCall.useOf, htime]
      split_ifs with hkey hkey' hkey'
      · rfl
      · exact absurd hkey.symm hkey'
      · exact absurd hkey'.symm hkey
      · exact h.lastUsed key old hmem
  | put sql statement now =>
    by_cases hcache : statement.Cacheable
    · by_cases hsize : c.maxSize = 0
      · have hnone : ∀ e, e ∉ c.cache := fun e he => h.maxSize e he hsize
        rw [StatementCache.step, put, if_pos hsize]
        exact ⟨fun _ _ he => absurd he (hnone _), fun e he => absurd he (hnone e)⟩
      · refine ⟨fun key e he => ?_, fun e _ => by rwa [maxSize_step]⟩
        rw [lastUse_concat, CacheCall.useOf]
        rcases mem_put_of_cacheable hsize hcache he with ⟨hkey, hold⟩ | ⟨rfl, rfl⟩
        · rw [if_neg fun huse => hkey huse.1.symm, Option.none_or]
          exact h.lastUsed key e hold
        · rw [if_pos ⟨rfl, hcache⟩]
          rfl
    · rw [StatementCache.step, put_of_not_cacheable hcache]
      exact hkeep (fun _ => if_neg fun huse => hcache huse.2) fun _ e he => ⟨e, he, rfl⟩
  | returnStatement sql =>
    refine hkeep (fun _ => rfl) fun _ _ he => ?_
    obtain ⟨old, hold, rfl⟩ := IndexMap.mem_modify.mp he
    refine ⟨old, hold, ?_⟩
    split_ifs <;> rfl
  | markCursorClosed sql =>
    refine hkeep (fun _ => rfl) fun _ _ he => ?_
    obtain ⟨old, hold, rfl⟩ := IndexMap.mem_modify.mp he
    refine ⟨old, hold, ?_⟩
    split_ifs
    · exact lastUsed_closeCursor old
    · rfl
  | clear => exact hkeep (fun _ => rfl) fun _ _ he => absurd he (IndexMap.not_mem_empty _)

/-- Behind every sequence of calls, the entries have the times of their last uses. -/
lemma recent_run (maxSize : ℕ) (calls : List CacheCall) : Recent calls ((new maxSize).run calls) := by
  induction calls using List.reverseRecOn with
  | nil => exact recent_new maxSize
  | append_singleton calls call ih =>
    rw [run_concat]
    exact ih.step call

/-! ## Eviction -/

/-- The entry that is evicted is not in use and has the smallest time of those that are not. -/
lemma mem_evictLru (h : ∃ e ∈ c.cache, e.2.inUse = false) :
    ∃ victim ∈ c.cache, victim.2.inUse = false ∧
      (∀ e ∈ c.cache, e.2.inUse = false → victim.2.lastUsed ≤ e.2.lastUsed) ∧
      ∀ e, e ∈ c.evictLru.cache ↔ e ∈ c.cache ∧ e.1 ≠ victim.1 := by
  have hidle : ∀ e, e ∈ (c.cache.entries.filter fun e => !e.2.inUse) ↔ e ∈ c.cache ∧ e.2.inUse = false := by
    intro e
    rw [List.mem_filter, Bool.not_eq_true']
    rfl
  cases hmin : (c.cache.entries.filter fun e => !e.2.inUse).argmin fun e => e.2.lastUsed with
  | none =>
    obtain ⟨e, he, huse⟩ := h
    rw [List.argmin_eq_none] at hmin
    exact absurd ((hidle e).mpr ⟨he, huse⟩) (by rw [hmin]; exact List.not_mem_nil)
  | some victim =>
    obtain ⟨hmem, huse⟩ := (hidle victim).mp (List.argmin_mem hmin)
    refine ⟨victim, hmem, huse, fun e he huse' => ?_, fun e => ?_⟩
    · exact List.le_of_mem_argmin (f := fun e : String × CachedStatement => e.2.lastUsed)
        ((hidle e).mpr ⟨he, huse'⟩) hmin
    · have hevict : c.evictLru = { c with cache := c.cache.swapRemove victim.1 } := by
        rw [evictLru, hmin]
      rw [hevict]
      exact IndexMap.mem_swapRemove

/-- **Eviction**: behind every sequence of calls at increasing times, a `put` of a new statement into a full
cache with an entry that is not in use removes just that of them whose last use lies before the last uses of
all others, changes no other entry, and adds the new one. -/
theorem mem_put_of_full (maxSize : ℕ) (calls : List CacheCall) (sql : String) (statement : Statement)
    (now : ℕ) (hclock : ClockIncreases calls)
    (hfull : maxSize ≤ ((new maxSize).run calls).cache.len)
    (hidle : ∃ e ∈ ((new maxSize).run calls).cache, e.2.inUse = false) (hcache : statement.Cacheable)
    (hnew : ((new maxSize).run calls).cache.get? sql = none) :
    ∃ victim ∈ ((new maxSize).run calls).cache, victim.2.inUse = false ∧
      (∀ e ∈ ((new maxSize).run calls).cache, e.2.inUse = false → e ≠ victim →
        ∃ t t', lastUse calls victim.1 = some t ∧ lastUse calls e.1 = some t' ∧ t < t') ∧
      ∀ e, e ∈ ((new maxSize).run (calls ++ [.put sql statement now])).cache ↔
        e ∈ ((new maxSize).run calls).cache ∧ e ≠ victim ∨ e = (sql, ⟨statement, false, now⟩) := by
  have hrecent := recent_run maxSize calls
  obtain ⟨victim, hmem, huse, hmin, hevict⟩ := mem_evictLru hidle
  have hsize : ((new maxSize).run calls).maxSize ≠ 0 := hrecent.maxSize victim hmem
  have hvictim : ∀ e ∈ ((new maxSize).run calls).cache, e.1 ≠ victim.1 ↔ e ≠ victim := by
    intro e he
    refine not_congr ⟨fun hkey => ?_, congrArg Prod.fst⟩
    obtain ⟨key, entry⟩ := e
    obtain rfl : key = victim.1 := hkey
    rw [IndexMap.eq_of_mem he hmem]
  refine ⟨victim, hmem, huse, fun e he huse' hne => ?_, fun e => ?_⟩
  · have hlast := hrecent.lastUsed victim.1 victim.2 hmem
    have hlast' := hrecent.lastUsed e.1 e.2 he
    refine ⟨_, _, hlast, hlast', lt_of_le_of_ne (hmin e he huse') fun htime => ?_⟩
    rw [← htime] at hlast'
    exact (hvictim e he).mpr hne (lastUse_inj hclock hlast' hlast)
  · have hlen : ((new maxSize).run calls).cache.len ≥ ((new maxSize).run calls).maxSize := by
      rwa [maxSize_run]
    rw [run_concat, StatementCache.step, put_of_adds ⟨hsize, hcache.1, hcache.2, hnew⟩, if_pos hlen,
      IndexMap.mem_insert (get?_evictLru hnew), hevict e]
    exact or_congr_left (and_congr_right (hvictim e))

/-- The calls of a test of the source: of three statements, the first is used again. -/
def lruCalls : List CacheCall := [
  .put "SELECT 1" (cachedQuery "SELECT 1") 1, .put "SELECT 2" (cachedQuery "SELECT 2") 2,
  .put "SELECT 3" (cachedQuery "SELECT 3") 3, .get "SELECT 1" 4, .returnStatement "SELECT 1"]

theorem mem_put_lruCalls :
    ∃ victim ∈ ((new 3).run lruCalls).cache, victim.2.inUse = false ∧
      (∀ e ∈ ((new 3).run lruCalls).cache, e.2.inUse = false → e ≠ victim →
        ∃ t t', lastUse lruCalls victim.1 = some t ∧ lastUse lruCalls e.1 = some t' ∧ t < t') ∧
      ∀ e, e ∈ ((new 3).run (lruCalls ++ [.put "SELECT 4" (cachedQuery "SELECT 4") 5])).cache ↔
        e ∈ ((new 3).run lruCalls).cache ∧ e ≠ victim ∨
          e = ("SELECT 4", ⟨cachedQuery "SELECT 4", false, 5⟩) := by
  have hidle : ∃ e ∈ ((new 3).run lruCalls).cache.entries, e.2.inUse = false := by decide
  exact mem_put_of_full 3 lruCalls "SELECT 4" (cachedQuery "SELECT 4") 5
    (by rw [ClockIncreases]; decide) (by decide) hidle (by decide) (by decide)

end StatementCache

end OracleRs
