import Mathlib.Data.List.TakeWhile
import Mathlib.Tactic

set_option relaxedAutoImplicit false
set_option autoImplicit false

/-!
# Maps that keep the order of insertion

An *index map* is a list of entries with distinct keys. New entries go to its end; removing one by
swapping moves the last entry to the place of the removed one.

## Main definitions

* `IndexMap` — entries with distinct keys.
* `IndexMap.get?`, `IndexMap.modify`, `IndexMap.insert`, `IndexMap.swapRemove` — the operations.

## Main results

* `IndexMap.get?_eq_some_iff`, `IndexMap.mem_modify`, `IndexMap.mem_insert`,
  `IndexMap.mem_swapRemove` — the operations in terms of the entries.
* `IndexMap.len_insert`, `IndexMap.len_swapRemove` — how many entries there are behind an operation.
-/

/-- Entries with distinct keys, in the order of their insertion. -/
structure IndexMap (κ ν : Type) where
  /-- the entries -/
  entries : List (κ × ν)
  /-- no key occurs twice -/
  nodup : (entries.map Prod.fst).Nodup

namespace IndexMap

variable {κ ν : Type}

instance : Membership (κ × ν) (IndexMap κ ν) := ⟨fun m e => e ∈ m.entries⟩

/-- The map without entries. -/
def empty : IndexMap κ ν := ⟨[], List.nodup_nil⟩

lemma not_mem_empty (e : κ × ν) : e ∉ (empty : IndexMap κ ν) := List.not_mem_nil

/-- The number of entries. -/
def len (m : IndexMap κ ν) : ℕ := m.entries.length

/-- The entries of one key agree. -/
lemma eq_of_mem {m : IndexMap κ ν} {k : κ} {v v' : ν} (h : (k, v) ∈ m) (h' : (k, v') ∈ m) :
    v = v' :=
  congrArg Prod.snd (List.inj_on_of_nodup_map m.nodup h h' rfl)

section Lookup

variable [DecidableEq κ]

/-- The value of a key. -/
def get? (m : IndexMap κ ν) (k : κ) : Option ν := (m.entries.find? (·.1 = k)).map Prod.snd

lemma get?_eq_some_iff {m : IndexMap κ ν} {k : κ} {v : ν} : m.get? k = some v ↔ (k, v) ∈ m := by
  constructor
  · intro h
    obtain ⟨e, he, rfl⟩ := Option.map_eq_some_iff.mp h
    have hkey : e.1 = k := by simpa using List.find?_some he
    have hmem := List.mem_of_find?_eq_some he
    rwa [← Prod.mk.eta (p := e), hkey] at hmem
  · intro h
    have hsome : (m.entries.find? (·.1 = k)).isSome := List.find?_isSome.mpr ⟨(k, v), h, by simp⟩
    obtain ⟨e, he⟩ := Option.isSome_iff_exists.mp hsome
    have hkey : e.1 = k := by simpa using List.find?_some he
    have hmem : (k, e.2) ∈ m := by
      have := List.mem_of_find?_eq_some he
      rwa [← Prod.mk.eta (p := e), hkey] at this
    rw [get?, he, Option.map_some, eq_of_mem hmem h]

lemma get?_eq_none_iff {m : IndexMap κ ν} {k : κ} : m.get? k = none ↔ ∀ v, (k, v) ∉ m := by
  constructor
  · intro h v hv
    rw [get?_eq_some_iff.mpr hv] at h
    cases h
  · intro h
    cases hget : m.get? k with
    | none => rfl
    | some v => exact absurd (get?_eq_some_iff.mp hget) (h v)

lemma nodup_modify (m : IndexMap κ ν) (k : κ) (f : ν → ν) :
    ((m.entries.map fun e => if e.1 = k then (e.1, f e.2) else e).map Prod.fst).Nodup := by
  have hkeys : Prod.fst ∘ (fun e : κ × ν => if e.1 = k then (e.1, f e.2) else e) = Prod.fst := by
    funext e
    simp only [Function.comp_apply]
    split <;> rfl
  rw [List.map_map, hkeys]
  exact m.nodup

/-- Change the value of a key, if it has one. -/
def modify (m : IndexMap κ ν) (k : κ) (f : ν → ν) : IndexMap κ ν :=
  ⟨m.entries.map fun e => if e.1 = k then (e.1, f e.2) else e, nodup_modify m k f⟩

lemma mem_modify {m : IndexMap κ ν} {k k' : κ} {f : ν → ν} {v : ν} :
    (k', v) ∈ m.modify k f ↔ ∃ w, (k', w) ∈ m ∧ v = if k' = k then f w else w := by
  change (k', v) ∈ m.entries.map _ ↔ _
  rw [List.mem_map]
  constructor
  · rintro ⟨⟨key, w⟩, hmem, he⟩
    simp only at he
    split at he
    · next hkey =>
      cases he
      exact ⟨w, hmem, (if_pos hkey).symm⟩
    · next hkey =>
      cases he
      exact ⟨_, hmem, (if_neg hkey).symm⟩
  · rintro ⟨w, hmem, rfl⟩
    refine ⟨(k', w), hmem, ?_⟩
    simp only
    split <;> rfl

@[simp] lemma len_modify (m : IndexMap κ ν) (k : κ) (f : ν → ν) : (m.modify k f).len = m.len :=
  List.length_map _

lemma nodup_append {m : IndexMap κ ν} {k : κ} (h : m.get? k = none) (v : ν) :
    ((m.entries ++ [(k, v)]).map Prod.fst).Nodup := by
  rw [List.map_append, List.map_singleton, List.nodup_append]
  refine ⟨m.nodup, List.nodup_singleton k, ?_⟩
  rintro key hkey _ hk rfl
  obtain ⟨⟨key', w⟩, hmem, rfl⟩ := List.mem_map.mp hkey
  cases List.mem_singleton.mp hk
  exact get?_eq_none_iff.mp h w hmem

/-- Set the value of a key: in place if it has one, and else behind all others. -/
def insert (m : IndexMap κ ν) (k : κ) (v : ν) : IndexMap κ ν :=
  if h : m.get? k = none then ⟨m.entries ++ [(k, v)], nodup_append h v⟩ else m.modify k fun _ => v

/-- A new entry is added to the others. -/
lemma mem_insert {m : IndexMap κ ν} {k : κ} {v : ν} (h : m.get? k = none) {e : κ × ν} :
    e ∈ m.insert k v ↔ e ∈ m ∨ e = (k, v) := by
  rw [insert, dif_pos h]
  change e ∈ m.entries ++ [(k, v)] ↔ _
  rw [List.mem_append, List.mem_singleton]
  rfl

/-- A new entry is one more. -/
lemma len_insert {m : IndexMap κ ν} {k : κ} (h : m.get? k = none) (v : ν) :
    (m.insert k v).len = m.len + 1 := by
  rw [insert, dif_pos h]
  exact List.length_append

end Lookup

/-- The last item in front of the others. -/
def lastFirst {α : Type} (l : List α) : List α :=
  match l.getLast? with
  | some x => x :: l.dropLast
  | none => []

lemma lastFirst_perm {α : Type} (l : List α) : (lastFirst l).Perm l := by
  unfold lastFirst
  split
  · next x hx =>
    obtain ⟨init, rfl⟩ := List.getLast?_eq_some_iff.mp hx
    rw [List.dropLast_concat]
    exact @List.perm_append_comm _ [x] init
  · next hnil => rw [List.getLast?_eq_none_iff.mp hnil]

section Remove

variable [DecidableEq κ]

/-- The entries without that of a key, in whose place is the last entry. -/
def swapRemoveEntries (entries : List (κ × ν)) (k : κ) : List (κ × ν) :=
  entries.takeWhile (·.1 ≠ k) ++ lastFirst (entries.dropWhile (·.1 ≠ k)).tail

lemma swapRemoveEntries_subperm (entries : List (κ × ν)) (k : κ) :
    (swapRemoveEntries entries k).Subperm entries := by
  have hperm := (lastFirst_perm (entries.dropWhile (·.1 ≠ k)).tail).append_left
    (entries.takeWhile (·.1 ≠ k))
  have hsub := (List.tail_sublist (entries.dropWhile (·.1 ≠ k))).append_left
    (entries.takeWhile (·.1 ≠ k))
  rw [List.takeWhile_append_dropWhile] at hsub
  exact hperm.subperm.trans hsub.subperm

lemma nodup_swapRemove (m : IndexMap κ ν) (k : κ) :
    ((swapRemoveEntries m.entries k).map Prod.fst).Nodup := by
  obtain ⟨l, hperm, hsub⟩ := swapRemoveEntries_subperm m.entries k
  exact ((hperm.map Prod.fst).nodup_iff).mp (m.nodup.sublist (hsub.map Prod.fst))

/-- Remove a key and move the last entry to its place. -/
def swapRemove (m : IndexMap κ ν) (k : κ) : IndexMap κ ν :=
  ⟨swapRemoveEntries m.entries k, nodup_swapRemove m k⟩

/-- Removing a key leaves all entries of other keys. -/
lemma mem_swapRemove {m : IndexMap κ ν} {k : κ} {e : κ × ν} :
    e ∈ m.swapRemove k ↔ e ∈ m ∧ e.1 ≠ k := by
  have hsplit := m.entries.takeWhile_append_dropWhile (p := (·.1 ≠ k))
  have hmem : e ∈ m.swapRemove k ↔ e ∈ m.entries.takeWhile (·.1 ≠ k) ∨
      e ∈ (m.entries.dropWhile (·.1 ≠ k)).tail := by
    change e ∈ swapRemoveEntries m.entries k ↔ _
    rw [swapRemoveEntries, List.mem_append, (lastFirst_perm _).mem_iff]
  have hfront : e ∈ m.entries.takeWhile (·.1 ≠ k) → e.1 ≠ k := fun he => by
    simpa using List.mem_takeWhile_imp he
  rw [hmem]
  change _ ↔ e ∈ m.entries ∧ _
  cases hrest : m.entries.dropWhile (·.1 ≠ k) with
  | nil =>
    rw [hrest, List.append_nil] at hsplit
    rw [hsplit] at hfront ⊢
    simpa using hfront
  | cons first rest =>
    have hkey : first.1 = k := by
      have hhead := List.head?_dropWhile_not (fun x : κ × ν => decide (x.1 ≠ k)) m.entries
      rw [hrest] at hhead
      simpa using hhead
    have hbehind : e ∈ rest → e.1 ≠ k := by
      intro he heq
      have hnodup := m.nodup
      rw [← hsplit, hrest, List.map_append, List.nodup_append, List.map_cons, List.nodup_cons] at hnodup
      exact hnodup.2.1.1 (List.mem_map.mpr ⟨e, he, heq.trans hkey.symm⟩)
    have hall : e ∈ m.entries ↔ e ∈ m.entries.takeWhile (·.1 ≠ k) ∨ e = first ∨ e ∈ rest := by
      conv_lhs => rw [← hsplit, hrest, List.mem_append, List.mem_cons]
    rw [hall, List.tail_cons]
    constructor
    · rintro (he | he)
      · exact ⟨.inl he, hfront he⟩
      · exact ⟨.inr (.inr he), hbehind he⟩
    · rintro ⟨he | rfl | he, hne⟩
      · exact .inl he
      · exact absurd hkey hne
      · exact .inr he

/-- Removing an entry that is there leaves one less. -/
lemma len_swapRemove {m : IndexMap κ ν} {e : κ × ν} (h : e ∈ m) :
    (m.swapRemove e.1).len + 1 = m.len := by
  have hne : m.entries.dropWhile (·.1 ≠ e.1) ≠ [] := by
    intro hnil
    rw [List.dropWhile_eq_nil_iff] at hnil
    simpa using hnil e h
  have hlast := (lastFirst_perm (m.entries.dropWhile (·.1 ≠ e.1)).tail).length_eq
  have hsplit := congrArg List.length (m.entries.takeWhile_append_dropWhile (p := (·.1 ≠ e.1)))
  have hpos := List.length_pos_iff.mpr hne
  change (swapRemoveEntries m.entries e.1).length + 1 = m.entries.length
  rw [swapRemoveEntries, List.length_append, hlast, List.length_tail]
  rw [List.length_append] at hsplit
  omega

end Remove

end IndexMap
