import OracleRs.Lib.Numbering
import OracleRs.Types.Integer
import OracleRs.Types.Json
import OracleRs.Types.OsonEncode

set_option relaxedAutoImplicit false
set_option autoImplicit false

/-!
# The dictionary of the encoder

The dictionary that the encoder makes of the keys of a document: their names, collected and then sorted, and a
map from the names to their ids. While the names are collected the map has placeholders.

## Main definitions

* `OracleRs.Oson.FieldDictionary` — the names and the ids, `OracleRs.Oson.FieldDictionary.ofDocument` — those of
  a document.
* `OracleRs.Oson.FieldDictionary.Represents` — the dictionary has the keys of a document with their ids.

## Main results

* `OracleRs.Oson.perm_dictionary`, `OracleRs.Oson.pairwise_sortFieldNames` — the names are the keys, each of
  them once, in their order.
* `OracleRs.Oson.FieldDictionary.fieldIdOf_eq` — the tree has the last bytes of the ids.
* `OracleRs.Oson.FieldDictionary.represents_ofDocument_iff` — when the ids are the positions.
-/

namespace OracleRs.Oson

/-! ## The names -/

/-- The names that are collected are those that were there and the new ones, every one once. -/
def Collects (names keys collected : List String) : Prop :=
  (names.Nodup → collected.Nodup) ∧ ∀ key, key ∈ collected ↔ key ∈ names ∨ key ∈ keys

lemma Collects.refl (names : List String) : Collects names [] names := ⟨id, by simp⟩

lemma Collects.trans {names keys keys' collected collected' : List String} (h : Collects names keys collected)
    (h' : Collects collected keys' collected') : Collects names (keys ++ keys') collected' :=
  ⟨fun hnodup => h'.1 (h.1 hnodup), fun key => by rw [h'.2, h.2, List.mem_append, or_assoc]⟩

lemma collects_one (names : List String) (key : String) :
    Collects names [key] (if key ∈ names then names else names ++ [key]) := by
  split_ifs with hmem
  · refine ⟨id, fun other => ?_⟩
    rw [List.mem_singleton, or_iff_left_of_imp]
    rintro rfl
    exact hmem
  · refine ⟨fun hnodup => ?_, fun other => List.mem_append⟩
    rw [List.nodup_append_comm]
    exact List.nodup_cons.mpr ⟨hmem, hnodup⟩

mutual

/-- The keys of a document are collected. -/
lemma collects_collectFieldNames (value : Json) (names : List String) :
    Collects names value.keys (collectFieldNames names value) := by
  cases value with
  | null | bool | number | string => exact .refl names
  | array items => exact collects_collectFromItems items names
  | object fields => exact collects_collectFromFields fields names

lemma collects_collectFromItems (items : List Json) (names : List String) :
    Collects names (Json.keysOfItems items) (collectFromItems names items) := by
  cases items with
  | nil => exact .refl names
  | cons item items =>
    exact (collects_collectFieldNames item names).trans (collects_collectFromItems items _)

lemma collects_collectFromFields (fields : List (String × Json)) (names : List String) :
    Collects names (Json.keysOfFields fields) (collectFromFields names fields) := by
  cases fields with
  | nil => exact .refl names
  | cons field fields =>
    obtain ⟨key, child⟩ := field
    exact (collects_one names key).trans
      ((collects_collectFieldNames child _).trans (collects_collectFromFields fields _))

end

/-- The dictionary of a document has every key once. -/
lemma perm_dictionary (value : Json) : (dictionary value).Perm value.keys.dedup := by
  obtain ⟨hnodup, hmem⟩ := collects_collectFieldNames value []
  refine (List.mergeSort_perm _ _).trans ?_
  refine (List.perm_ext_iff_of_nodup (hnodup .nil) (List.nodup_dedup _)).mpr fun key => ?_
  rw [hmem, List.mem_dedup, or_iff_right List.not_mem_nil]

lemma mem_dictionary_iff {value : Json} {key : String} : key ∈ dictionary value ↔ key ∈ value.keys := by
  rw [(perm_dictionary value).mem_iff, List.mem_dedup]

lemma nodup_dictionary (value : Json) : (dictionary value).Nodup :=
  (perm_dictionary value).nodup_iff.mpr (List.nodup_dedup _)

lemma nameLe_iff {a b : String} : nameLe a b = true ↔ (nameHash a).toNat < (nameHash b).toNat ∨
    (nameHash a).toNat = (nameHash b).toNat ∧ (asBytes a).length ≤ (asBytes b).length := by
  rw [nameLe, decide_eq_true_iff, UInt8.lt_iff_toNat_lt, UInt8.toNat_inj]

/-- The names are in their order. -/
lemma pairwise_sortFieldNames (names : List String) : (sortFieldNames names).Pairwise fun a b => nameLe a b = true := by
  refine List.pairwise_mergeSort (fun a b c hab hbc => ?_) (fun a b => ?_) names
  · rw [nameLe_iff] at hab hbc ⊢
    omega
  · rw [Bool.or_eq_true, nameLe_iff, nameLe_iff]
    omega

/-! ## The names with their ids -/

/-- The names and the ids of an `OsonEncoder`. -/
structure FieldDictionary where
  /-- the names -/
  fieldNames : List String
  /-- the map from the names to their ids -/
  fieldNameToId : String → Option UInt32

namespace FieldDictionary

/-- The dictionary of a new encoder. -/
def empty : FieldDictionary := ⟨[], fun _ => none⟩

/-- A key that is not in the map is pushed, with the placeholder for its id. -/
def collectKey (dict : FieldDictionary) (key : String) : FieldDictionary :=
  if (dict.fieldNameToId key).isSome then dict
  else ⟨dict.fieldNames ++ [key], Function.update dict.fieldNameToId key (some 0)⟩

mutual

/-- `collect_field_names`. -/
def collect (dict : FieldDictionary) : Json → FieldDictionary
  | .object fields => collectFields dict fields
  | .array items => collectItems dict items
  | _ => dict

/-- The loop over the items of an array. -/
def collectItems (dict : FieldDictionary) : List Json → FieldDictionary
  | [] => dict
  | item :: items => collectItems (collect dict item) items

/-- The loop over the fields of an object. -/
def collectFields (dict : FieldDictionary) : List (String × Json) → FieldDictionary
  | [] => dict
  | (key, child) :: fields => collectFields (collect (dict.collectKey key) child) fields

end

/-- `sort_and_update_field_ids`. -/
def sortAndUpdateFieldIds (dict : FieldDictionary) : FieldDictionary :=
  if dict.fieldNames = [] then dict
  else
    let sortedNames := sortFieldNames dict.fieldNames
    ⟨sortedNames, Numbering.assign (fun i => UInt32.ofNat (i + 1)) 0 sortedNames dict.fieldNameToId⟩

/-- The dictionary with which a document is encoded. -/
def ofDocument (value : Json) : FieldDictionary := (empty.collect value).sortAndUpdateFieldIds

/-! ### Placeholders -/

/-- The dictionary has the names, and placeholders for their ids. -/
structure Holds (dict : FieldDictionary) (names : List String) : Prop where
  /-- the names -/
  fieldNames : dict.fieldNames = names
  /-- the placeholders -/
  fieldNameToId : ∀ key, dict.fieldNameToId key = if key ∈ names then some 0 else none

lemma holds_empty : empty.Holds [] := ⟨rfl, fun _ => rfl⟩

lemma Holds.collectKey {dict : FieldDictionary} {names : List String} (h : dict.Holds names) (key : String) :
    (dict.collectKey key).Holds (if key ∈ names then names else names ++ [key]) := by
  unfold FieldDictionary.collectKey
  rw [h.fieldNameToId key]
  by_cases hmem : key ∈ names
  · simpa [hmem] using h
  · simp only [hmem, if_false, Option.isSome_none, Bool.false_eq_true]
    refine ⟨by rw [h.fieldNames], fun other => ?_⟩
    by_cases heq : other = key
    · simp [heq]
    · simp [h.fieldNameToId, heq]

mutual

/-- The names are collected as if there were no ids. -/
lemma Holds.collect (value : Json) {dict : FieldDictionary} {names : List String} (h : dict.Holds names) :
    (dict.collect value).Holds (collectFieldNames names value) := by
  cases value with
  | null | bool | number | string => exact h
  | array items => exact Holds.collectItems items h
  | object fields => exact Holds.collectFields fields h

lemma Holds.collectItems (items : List Json) {dict : FieldDictionary} {names : List String}
    (h : dict.Holds names) : (dict.collectItems items).Holds (collectFromItems names items) := by
  cases items with
  | nil => exact h
  | cons item items => exact Holds.collectItems items (Holds.collect item h)

lemma Holds.collectFields (fields : List (String × Json)) {dict : FieldDictionary} {names : List String}
    (h : dict.Holds names) : (dict.collectFields fields).Holds (collectFromFields names fields) := by
  cases fields with
  | nil => exact h
  | cons field fields =>
    obtain ⟨key, child⟩ := field
    exact Holds.collectFields fields (Holds.collect child (h.collectKey key))

end

/-! ### Ids -/

/-- The names of the dictionary of a document. -/
lemma fieldNames_ofDocument (value : Json) : (ofDocument value).fieldNames = dictionary value := by
  have hcollect := holds_empty.collect value
  rw [ofDocument, sortAndUpdateFieldIds, dictionary, ← hcollect.fieldNames]
  split_ifs with hnil
  · rw [hnil]
    exact (List.mergeSort_nil).symm
  · rfl

/-- The ids of the dictionary of a document are the positions of the names, with 32 bits. -/
lemma fieldNameToId_ofDocument (value : Json) (key : String) : (ofDocument value).fieldNameToId key =
    if key ∈ value.keys then some (UInt32.ofNat ((dictionary value).idxOf key + 1)) else none := by
  have hcollect := holds_empty.collect value
  have hmem := collects_collectFieldNames value []
  have hkeys : key ∈ collectFieldNames [] value ↔ key ∈ value.keys := by
    rw [hmem.2, or_iff_right List.not_mem_nil]
  rw [ofDocument, sortAndUpdateFieldIds]
  split_ifs with hnil hkey hkey
  · rw [hcollect.fieldNames] at hnil
    rw [← hkeys, hnil] at hkey
    cases hkey
  · rw [hcollect.fieldNameToId, if_neg (mt hkeys.mp hkey)]
  · show Numbering.assign _ 0 (sortFieldNames _) _ key = _
    rw [hcollect.fieldNames, ← dictionary, Numbering.assign_of_mem (nodup_dictionary value)
      (mem_dictionary_iff.mpr hkey), Nat.zero_add]
  · show Numbering.assign _ 0 (sortFieldNames _) _ key = _
    rw [hcollect.fieldNames, ← dictionary, Numbering.assign_of_not_mem (mt mem_dictionary_iff.mp hkey),
      hcollect.fieldNameToId, if_neg (mt hkeys.mp hkey)]

/-- The field ids in the tree are the last bytes of the ids. -/
lemma fieldIdOf_eq (value : Json) (key : String) :
    fieldIdOf (dictionary value) key = (((ofDocument value).fieldNameToId key).getD 0).toUInt8 := by
  rw [fieldIdOf, fieldNameToId_ofDocument]
  simp only [mem_dictionary_iff]
  split_ifs
  · apply UInt8.toNat_inj.mp
    simp only [Option.getD_some, UInt32.toNat_toUInt8, UInt8.toNat_ofNat', UInt32.toNat_ofNat']
    omega
  · rfl

/-- The dictionary has the keys of the document, each of them once and in their order, and its map is one of
these keys to their positions from 1. -/
structure Represents (dict : FieldDictionary) (value : Json) : Prop where
  /-- no name occurs twice -/
  nodup : dict.fieldNames.Nodup
  /-- the names are the keys -/
  mem_iff : ∀ key, key ∈ dict.fieldNames ↔ key ∈ value.keys
  /-- they are sorted -/
  sorted : dict.fieldNames.Pairwise fun a b => nameLe a b = true
  /-- the ids -/
  id_eq : ∀ i name, dict.fieldNames[i]? = some name →
    ∃ id, dict.fieldNameToId name = some id ∧ id.toNat = i + 1
  /-- nothing else is mapped -/
  none_of : ∀ key, key ∉ value.keys → dict.fieldNameToId key = none
  /-- the keys are numbered from 1 on -/
  bijOn : Set.BijOn (fun key => (dict.fieldNameToId key).elim 0 UInt32.toNat) {key | key ∈ value.keys}
    (Set.Icc 1 dict.fieldNames.length)

/-- With fewer than `2 ^ 32` keys the ids are the positions. -/
lemma toNat_fieldNameToId {value : Json} (hlen : (dictionary value).length < 2 ^ 32) {key : String}
    (hkey : key ∈ value.keys) : ((ofDocument value).fieldNameToId key).elim 0 UInt32.toNat =
      (dictionary value).idxOf key + 1 := by
  have hlt := List.idxOf_lt_length_of_mem (mem_dictionary_iff.mpr hkey)
  rw [fieldNameToId_ofDocument, if_pos hkey, Option.elim_some, UInt32.toNat_ofNat', Nat.mod_eq_of_lt (by omega)]

/-- In a dictionary that represents its document every id has 32 bits. -/
lemma length_lt_of_represents {dict : FieldDictionary} {value : Json} (h : dict.Represents value) :
    dict.fieldNames.length < 2 ^ 32 := by
  by_contra hnot
  -- the id of the last name needs more than 32 bits
  have hlast : dict.fieldNames.length - 1 < dict.fieldNames.length := by omega
  obtain ⟨id, -, hid⟩ := h.id_eq _ _ (List.getElem?_eq_getElem hlast)
  have hlt := id.toNat_lt
  omega

/-- The dictionary of a document represents it if and only if there are fewer than `2 ^ 32` different keys. -/
theorem represents_ofDocument_iff (value : Json) :
    (ofDocument value).Represents value ↔ value.keys.dedup.length < 2 ^ 32 := by
  rw [← (perm_dictionary value).length_eq]
  constructor
  · intro hrep
    have hlt := length_lt_of_represents hrep
    rwa [fieldNames_ofDocument] at hlt
  · intro hlen
    have hids := fun key (hkey : key ∈ value.keys) => toNat_fieldNameToId hlen hkey
    refine ⟨?_, ?_, ?_, ?_, ?_, ?_⟩
    · rw [fieldNames_ofDocument]
      exact nodup_dictionary value
    · rw [fieldNames_ofDocument]
      exact fun key => mem_dictionary_iff
    · rw [fieldNames_ofDocument]
      exact pairwise_sortFieldNames _
    · intro i name hname
      rw [fieldNames_ofDocument] at hname
      obtain ⟨hlt, rfl⟩ := List.getElem?_eq_some_iff.mp hname
      have hkey := mem_dictionary_iff.mp (List.getElem_mem hlt)
      refine ⟨_, by rw [fieldNameToId_ofDocument, if_pos hkey], ?_⟩
      rw [(nodup_dictionary value).idxOf_getElem, UInt32.toNat_ofNat', Nat.mod_eq_of_lt (by omega)]
    · intro key hkey
      rw [fieldNameToId_ofDocument, if_neg hkey]
    · rw [fieldNames_ofDocument]
      have hbij := Numbering.bijOn_idxOf (nodup_dictionary value)
      have hset : {key | key ∈ dictionary value} = {key | key ∈ value.keys} := by
        ext key
        exact mem_dictionary_iff
      rw [hset] at hbij
      exact hbij.congr fun key hkey => (hids key hkey).symm

/-- An array of objects with one key each. -/
def manyKeys (n : ℕ) : Json := .array ((List.range n).map fun i => .object [(toString i, .null)])

lemma keys_manyKeys (n : ℕ) : (manyKeys n).keys = (List.range n).map toString := by
  rw [manyKeys, Json.keys, Json.keysOfItems_eq, List.flatMap_map, ← List.flatMap_pure_eq_map]
  rfl

/-- The array has as many keys as objects. -/
lemma length_dedup_keys_manyKeys (n : ℕ) : (manyKeys n).keys.dedup.length = n := by
  rw [keys_manyKeys, (List.nodup_range.map toString_injective).dedup, List.length_map, List.length_range]

lemma isDocument_manyKeys (n : ℕ) : (manyKeys n).IsDocument := by
  refine .array fun item hitem => ?_
  obtain ⟨i, -, rfl⟩ := List.mem_map.mp hitem
  refine .object (List.pairwise_singleton _ _) fun field hfield => ?_
  rw [List.mem_singleton.mp hfield]
  exact .null

/-- With `2 ^ 32` keys the last name gets the id 0. -/
theorem not_represents_manyKeys :
    (manyKeys (2 ^ 32)).IsDocument ∧ ¬ (ofDocument (manyKeys (2 ^ 32))).Represents (manyKeys (2 ^ 32)) := by
  refine ⟨isDocument_manyKeys _, fun hrep => ?_⟩
  have hlt := length_lt_of_represents hrep
  rw [fieldNames_ofDocument, (perm_dictionary _).length_eq, length_dedup_keys_manyKeys] at hlt
  exact lt_irrefl _ hlt

end FieldDictionary

end OracleRs.Oson
