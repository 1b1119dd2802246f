import OracleRs.Types.Value

set_option relaxedAutoImplicit false
set_option autoImplicit false

/-!
# JSON documents

The values of `serde_json` as far as the driver uses them. The fields of an object are listed in the
order in which a map of `serde_json` goes through them, which is that of the keys.

## Main definitions

* `OracleRs.Json.keys` — the keys of all objects in a document.
* `OracleRs.Json.depth` — how deep arrays and objects are nested.
* `OracleRs.Json.mapInsert` — insertion of a field into an object.
* `OracleRs.Json.IsDocument` — a document with integers as its numbers.

## Main results

* `OracleRs.Json.mapInsert_concat` — a last key goes to the end.
-/

namespace OracleRs.Json

/-- A JSON number from an integer. -/
def integer (i : ℤ) : Json := .number (toString i)

/-! ## Keys and depth -/

mutual

/-- The keys of all objects in a document, with repetitions, from the outside to the inside. -/
def keys : Json → List String
  | .array items => keysOfItems items
  | .object fields => keysOfFields fields
  | _ => []

/-- The keys in the items of an array. -/
def keysOfItems : List Json → List String
  | [] => []
  | item :: items => item.keys ++ keysOfItems items

/-- The keys of the fields of an object, and those in their values. -/
def keysOfFields : List (String × Json) → List String
  | [] => []
  | (key, child) :: fields => key :: (child.keys ++ keysOfFields fields)

end

mutual

/-- How deep arrays and objects are nested: a scalar has depth one. -/
def depth : Json → ℕ
  | .array items => depthOfItems items + 1
  | .object fields => depthOfFields fields + 1
  | _ => 1

/-- The depth of the deepest item. -/
def depthOfItems : List Json → ℕ
  | [] => 0
  | item :: items => max item.depth (depthOfItems items)

/-- The depth of the deepest field. -/
def depthOfFields : List (String × Json) → ℕ
  | [] => 0
  | (_, child) :: fields => max child.depth (depthOfFields fields)

end

lemma keysOfItems_eq (items : List Json) : keysOfItems items = items.flatMap keys := by
  induction items with
  | nil => rfl
  | cons item items ih => rw [keysOfItems, ih, List.flatMap_cons]

lemma keysOfFields_eq (fields : List (String × Json)) :
    keysOfFields fields = fields.flatMap fun field => field.1 :: field.2.keys := by
  induction fields with
  | nil => rfl
  | cons field fields ih => rw [keysOfFields, ih, List.flatMap_cons, List.cons_append]

lemma depthOfItems_le_iff {items : List Json} {n : ℕ} :
    depthOfItems items ≤ n ↔ ∀ item ∈ items, item.depth ≤ n := by
  induction items with
  | nil => simp [depthOfItems]
  | cons item items ih => rw [depthOfItems, max_le_iff, ih, List.forall_mem_cons]

lemma depthOfFields_le_iff {fields : List (String × Json)} {n : ℕ} :
    depthOfFields fields ≤ n ↔ ∀ field ∈ fields, field.2.depth ≤ n := by
  induction fields with
  | nil => simp [depthOfFields]
  | cons field fields ih => rw [depthOfFields, max_le_iff, ih, List.forall_mem_cons]

/-! ## Objects -/

/-- `Map::insert`: a key that is there already gets the new value. -/
def mapInsert (key : String) (value : Json) : List (String × Json) → List (String × Json)
  | [] => [(key, value)]
  | field :: fields =>
    if key < field.1 then (key, value) :: field :: fields
    else if key = field.1 then (key, value) :: fields
    else field :: mapInsert key value fields

/-- A key behind all others goes to the end. -/
lemma mapInsert_concat {fields : List (String × Json)} {key : String}
    (h : ∀ field ∈ fields, field.1 < key) (value : Json) :
    mapInsert key value fields = fields ++ [(key, value)] := by
  induction fields with
  | nil => rfl
  | cons field fields ih =>
    rw [List.forall_mem_cons] at h
    rw [mapInsert, if_neg (String.lt_asymm h.1), if_neg (String.ne_of_lt h.1).symm, ih h.2,
      List.cons_append]

/-- Every field of an object behind an insertion was there, or is the one inserted. -/
lemma mem_mapInsert {fields : List (String × Json)} {key : String} {value : Json}
    {field : String × Json} (h : field ∈ mapInsert key value fields) :
    field = (key, value) ∨ field ∈ fields := by
  induction fields with
  | nil => exact .inl (by simpa [mapInsert] using h)
  | cons head fields ih =>
    rw [mapInsert] at h
    split_ifs at h
    · exact List.mem_cons.mp h
    · rcases List.mem_cons.mp h with rfl | hmem
      · exact .inl rfl
      · exact .inr (List.mem_cons_of_mem _ hmem)
    · rcases List.mem_cons.mp h with rfl | hmem
      · exact .inr List.mem_cons_self
      · exact (ih hmem).imp_right (List.mem_cons_of_mem _)

/-! ## Documents -/

/-- A value of `serde_json` whose numbers are 64-bit integers: the keys of every object are in
increasing order. -/
inductive IsDocument : Json → Prop where
  | null : IsDocument .null
  | bool (b : Bool) : IsDocument (.bool b)
  | integer (n : Int64) : IsDocument (.integer n.toInt)
  | string (s : String) : IsDocument (.string s)
  | array {items : List Json} (h : ∀ item ∈ items, IsDocument item) : IsDocument (.array items)
  | object {fields : List (String × Json)} (hkeys : (fields.map Prod.fst).Pairwise (· < ·))
    (h : ∀ field ∈ fields, IsDocument field.2) : IsDocument (.object fields)

end OracleRs.Json
