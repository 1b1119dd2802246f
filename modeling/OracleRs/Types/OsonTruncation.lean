import OracleRs.Types.OsonRoundTrip

set_option relaxedAutoImplicit false
set_option autoImplicit false

/-!
# Truncated field names in OSON documents

What becomes of a document whose field names are truncated. The decoder takes every name from the dictionary
that it has read, or makes one up for an id that is not in the dictionary, and ids have one byte: a document
with more keys is not read back. A long key is not read back either, since what is read of it is shorter.

## Main definitions

* `OracleRs.Oson.RoundTrips` — a document is read back if it is encoded.

## Main results

* `OracleRs.Oson.keys_decodeNode` — the keys of what is read.
* `OracleRs.Oson.RoundTrips.length_dedup_ne`, `OracleRs.Oson.RoundTrips.length_key_le` — documents that are not
  read back.
* `OracleRs.Oson.representable_roundTrips` — a representable document is read back.
-/

namespace OracleRs.Oson

open Cursor Triple

variable {floats : FloatText} {context : Context}

/-! ## The keys of what is read -/

/-- The reader returns values without keys. -/
def ReadsScalar (m : ReadM Json) : Prop :=
  Holds (fun _ => True) m (fun value _ => value.keys = []) (fun _ => True)

lemma ReadsScalar.bind {α : Type} {m : ReadM α} {f : α → ReadM Json} (h : ∀ a, ReadsScalar (f a)) :
    ReadsScalar (m >>= f) :=
  Holds.unspecified.bind h

lemma ReadsScalar.pure {value : Json} (h : value.keys = []) : ReadsScalar (pure value) := Holds.pure fun _ _ => h

lemma ReadsScalar.throw (e : Error) : ReadsScalar (throw e) := Holds.throw trivial

lemma ReadsScalar.ite {c : Prop} [Decidable c] {m m' : ReadM Json} (h : ReadsScalar m) (h' : ReadsScalar m') :
    ReadsScalar (if c then m else m') :=
  Holds.ite (fun _ => h) fun _ => h'

lemma keys_json (floats : FloatText) (bits : UInt64) : (floats.json bits).keys = [] := by
  rw [FloatText.json]
  cases floats.display bits with
  | none => rfl
  | some text => rfl

lemma readsScalar_decodeOracleNumber (floats : FloatText) (len : ℕ) : ReadsScalar (decodeOracleNumber floats len) := by
  refine .bind fun bytes => .pure ?_
  cases OracleRs.decodeOracleNumber bytes with
  | error e => rfl
  | ok num =>
    simp only
    cases parseInt (-2 ^ 63) (2 ^ 63 - 1) (asBytes num.value) with
    | some i => rfl
    | none =>
      simp only
      cases floats.parse num.value with
      | some f => exact keys_json floats f
      | none => rfl

lemma readsScalar_decodeExtended : ReadsScalar decodeExtended :=
  .bind fun _ => .ite (.bind fun _ => .bind fun _ => .pure rfl) (.throw _)

lemma readsScalar_decodeInline (floats : FloatText) (nodeType : UInt8) :
    ReadsScalar (decodeInline floats nodeType) := by
  rw [decodeInline]
  refine .ite (readsScalar_decodeOracleNumber _ _) (.ite (readsScalar_decodeOracleNumber _ _) ?_)
  exact .ite (.ite (.pure rfl) (.bind fun _ => .pure rfl)) (.throw _)

/-- Scalars have no keys. -/
lemma readsScalar_decodeScalar (floats : FloatText) (nodeType : UInt8) :
    ReadsScalar (decodeScalar floats nodeType) := by
  rw [decodeScalar]
  refine .ite (.pure rfl) (.ite (.pure rfl) (.ite (.pure rfl) ?_))
  -- texts and numbers behind their lengths
  refine .ite (.bind fun _ => .bind fun _ => .pure rfl) ?_
  refine .ite (.bind fun _ => .bind fun _ => .pure rfl) ?_
  refine .ite (.bind fun _ => .bind fun _ => .pure rfl) ?_
  refine .ite (.bind fun _ => readsScalar_decodeOracleNumber _ _) ?_
  -- floating point numbers, dates and timestamps
  refine .ite (.bind fun _ => .pure (keys_json _ _)) (.ite (.bind fun _ => .pure (keys_json _ _)) ?_)
  refine .ite (.bind fun _ => .bind fun _ => .pure rfl) ?_
  refine .ite (.bind fun _ => .bind fun _ => .pure rfl) ?_
  refine .ite (.bind fun _ => .bind fun _ => .pure rfl) ?_
  -- byte strings
  refine .ite (.bind fun _ => .bind fun _ => .pure rfl) ?_
  refine .ite (.bind fun _ => .bind fun _ => .pure rfl) ?_
  refine .ite (.bind fun _ => .bind fun _ => .pure rfl) ?_
  exact .ite readsScalar_decodeExtended (.ite (.throw _) (readsScalar_decodeInline _ _))

/-- A name of the dictionary, or the one that is made up for an id that the dictionary does not have. -/
def IsFieldName (names : List String) (key : String) : Prop := ∃ id : UInt8, key = fieldName names id.toNat

lemma isFieldName_readField (hid : context.fieldIdLength = 1) {ids : ℕ} {c c' : ReadBuffer} {field : String × ℕ}
    (h : readField context ids c = .ok field c') : IsFieldName context.fieldNames field.1 := by
  rw [readField, readFieldId, if_pos hid] at h
  obtain ⟨_, _, -, h⟩ := exists_of_bind_ok h
  obtain ⟨fieldId, _, hread, h⟩ := exists_of_bind_ok h
  obtain ⟨id, _, -, hid⟩ := exists_of_bind_ok hread
  obtain ⟨_, _, -, h⟩ := exists_of_bind_ok h
  cases hid
  cases h
  exact ⟨id, rfl⟩

section Loops

variable {node : ReadM Json} {container : Container}

/-- The keys in the items of an array are names, if those in every single one are. -/
lemma keys_decodeItems {P : String → Prop}
    (hnode : ∀ c value c', node c = .ok value c' → ∀ key ∈ value.keys, P key) {n p : ℕ} {acc items : List Json}
    {c c' : ReadBuffer} (h : decodeItems context node container n p acc c = .ok items c')
    (hacc : ∀ item ∈ acc, ∀ key ∈ item.keys, P key) : ∀ item ∈ items, ∀ key ∈ item.keys, P key := by
  induction n generalizing p acc c with
  | zero =>
    cases h
    exact hacc
  | succ n ih =>
    rw [decodeItems] at h
    obtain ⟨_, _, -, h⟩ := exists_of_bind_ok h
    obtain ⟨_, _, -, h⟩ := exists_of_bind_ok h
    obtain ⟨value, _, hvalue, h⟩ := exists_of_bind_ok h
    refine ih h fun item hitem => ?_
    obtain hitem | hitem := List.mem_append.mp hitem
    · exact hacc item hitem
    · rw [List.mem_singleton.mp hitem]
      exact hnode _ _ _ hvalue

/-- So are the keys of an object, and those in its values. -/
lemma keys_decodeFields (hid : context.fieldIdLength = 1)
    (hnode : ∀ c value c', node c = .ok value c' → ∀ key ∈ value.keys, IsFieldName context.fieldNames key)
    {n ids p : ℕ} {acc fields : List (String × Json)} {c c' : ReadBuffer}
    (h : decodeFields context node container n ids p acc c = .ok fields c')
    (hacc : ∀ field ∈ acc, ∀ key ∈ field.1 :: field.2.keys, IsFieldName context.fieldNames key) :
    ∀ field ∈ fields, ∀ key ∈ field.1 :: field.2.keys, IsFieldName context.fieldNames key := by
  induction n generalizing ids p acc c with
  | zero =>
    cases h
    exact hacc
  | succ n ih =>
    rw [decodeFields] at h
    obtain ⟨field, _, hfield, h⟩ := exists_of_bind_ok h
    obtain ⟨_, _, -, h⟩ := exists_of_bind_ok h
    obtain ⟨_, _, -, h⟩ := exists_of_bind_ok h
    obtain ⟨value, _, hvalue, h⟩ := exists_of_bind_ok h
    refine ih h fun other hother => ?_
    obtain rfl | hother := Json.mem_mapInsert hother
    · exact List.forall_mem_cons.mpr ⟨isFieldName_readField hid hfield, hnode _ _ _ hvalue⟩
    · exact hacc other hother

end Loops

/-- The keys of what is read are names of the dictionary, or made up. -/
theorem keys_decodeNode (floats : FloatText) (hid : context.fieldIdLength = 1) {fuel : ℕ} {c c' : ReadBuffer}
    {value : Json} (h : decodeNode floats context fuel c = .ok value c') :
    ∀ key ∈ value.keys, IsFieldName context.fieldNames key := by
  induction fuel generalizing c c' value with
  | zero => cases h
  | succ fuel ih =>
    rw [decodeNode] at h
    obtain ⟨nodeType, _, -, h⟩ := exists_of_bind_ok h
    split_ifs at h with hcontainer
    · rw [decodeContainer] at h
      obtain ⟨container, _, -, h⟩ := exists_of_bind_ok h
      simp only at h
      split_ifs at h with hobject
      · obtain ⟨fields, _, hfields, h⟩ := exists_of_bind_ok h
        cases h
        have hkeys := keys_decodeFields hid (fun _ _ _ => ih) hfields (by simp)
        rw [Json.keys, Json.keysOfFields_eq]
        intro key hkey
        obtain ⟨field, hfield, hkey⟩ := List.mem_flatMap.mp hkey
        exact hkeys field hfield key hkey
      · obtain ⟨items, _, hitems, h⟩ := exists_of_bind_ok h
        cases h
        have hkeys := keys_decodeItems (fun _ _ _ => ih) hitems (by simp)
        rw [Json.keys, Json.keysOfItems_eq]
        intro key hkey
        obtain ⟨item, hitem, hkey⟩ := List.mem_flatMap.mp hkey
        exact hkeys item hitem key hkey
    · have hkeys := (readsScalar_decodeScalar floats nodeType).of_ok trivial h
      rw [hkeys]
      exact List.forall_mem_nil _

/-! ## Many keys -/

/-- The names that a decoder with the dictionary can come to. -/
def fieldNames (names : List String) : List String := (List.range 256).map (fieldName names)

lemma subperm_fieldNames {names keys : List String} (h : ∀ key ∈ keys, IsFieldName names key) :
    keys.dedup.Subperm (fieldNames names) := by
  refine List.subperm_of_subset (List.nodup_dedup keys) fun key hkey => ?_
  obtain ⟨id, rfl⟩ := h key (List.mem_dedup.mp hkey)
  exact List.mem_map_of_mem (List.mem_range.mpr id.toNat_lt)

lemma length_fieldNames (names : List String) : (fieldNames names).length = 256 := by
  rw [fieldNames, List.length_map, List.length_range]

/-- A document is read back: if it is encoded, the decoder returns it for every bound on the depth that is large
enough. -/
def RoundTrips (floats : FloatText) (value : Json) : Prop :=
  ∀ bytes, encode value = .ok bytes → ∃ n, ∀ fuel, n ≤ fuel → decode floats fuel bytes = .ok value

/-- What the decoder does on a document that is no scalar and is read back. -/
lemma RoundTrips.exists_read {value : Json} (h : RoundTrips floats value) (hdoc : value.IsDocument)
    (hcontainer : isScalarDocument value = false) :
    ∃ (d : Bytes) (treeSize fuel : ℕ) (context : Context) (c c' : ReadBuffer),
      StandsAt d 0 (documentHeader false (dictionary value) treeSize) ∧
        readContext ⟨d, 0⟩ = .ok context c ∧ decodeNode floats context fuel c = .ok value c' := by
  obtain ⟨tree, htree⟩ := exists_encodeNode hdoc (dictionary value) 0
  obtain ⟨n, hn⟩ := h (documentHeader false (dictionary value) tree.length ++ tree) (by
    rw [encode, htree, hcontainer]
    rfl)
  have hdecode := hn n le_rfl
  have hstands := (standsAt_self (documentHeader false (dictionary value) tree.length ++ tree)).append.1
  rw [decode, ReadM.runOn] at hdecode
  cases hparse : parse floats n ⟨documentHeader false (dictionary value) tree.length ++ tree, 0⟩ with
  | error e c =>
    rw [hparse] at hdecode
    cases hdecode
  | ok result c' =>
    rw [hparse] at hdecode
    cases hdecode
    obtain ⟨context, c, hcontext, hnode⟩ := exists_of_bind_ok hparse
    exact ⟨_, _, _, context, c, c', hstands, hcontext, hnode⟩

lemma fieldIdLength_of_readContext {names : List String} {treeSize : ℕ} {d : Bytes}
    (h : StandsAt d 0 (documentHeader false names treeSize)) {c : ReadBuffer}
    (hread : readContext ⟨d, 0⟩ = .ok context c) : context.fieldIdLength = 1 := by
  obtain ⟨header, q, hcontext, -⟩ := exists_readContext h
  rw [hcontext] at hread
  obtain ⟨_, _, -, hread⟩ := exists_of_bind_ok hread
  obtain ⟨_, _, -, hread⟩ := exists_of_bind_ok hread
  cases hread
  rfl

/-- A document with more keys than there are ids is not read back. -/
lemma RoundTrips.length_dedup_le {value : Json} (h : RoundTrips floats value) (hdoc : value.IsDocument) :
    value.keys.dedup.length ≤ 256 := by
  cases hscalar : isScalarDocument value with
  | true =>
    rw [(of_isScalarDocument hscalar).1]
    exact Nat.zero_le 256
  | false =>
    obtain ⟨d, treeSize, fuel, context, c, c', hstands, hcontext, hnode⟩ := h.exists_read hdoc hscalar
    have hkeys := keys_decodeNode floats (fieldIdLength_of_readContext hstands hcontext) hnode
    exact (subperm_fieldNames hkeys).length_le.trans_eq (length_fieldNames _)

/-! ## As many keys as ids -/

/-- With 256 names the decoder finds no dictionary, and takes the hashes for the tree segment. -/
lemma readContext_of_length_eq {names : List String} (hlen : names.length = 256) {treeSize : ℕ} {d : Bytes}
    (h : StandsAt d 0 (documentHeader false names treeSize)) :
    ∃ q, readContext ⟨d, 0⟩ = .ok (treeContext [] q) ⟨d, q⟩ ∧ StandsAt d q (namesPart names) := by
  obtain ⟨header, q, hcontext, hnames, -, -, hnum, -⟩ := exists_readContext h
  rw [hlen] at hnum
  have hnone : ¬ header.numShort > 0 := fun hpos => by
    have hlt := UInt32.lt_iff_toNat_lt.mp hpos
    rw [hnum] at hlt
    cases hlt
  have hshort : header.readShortNames ⟨d, q⟩ = .ok [] ⟨d, q⟩ := by
    rw [Header.readShortNames, readShortFieldNames, if_neg hnone]
    rfl
  refine ⟨q, ?_, hnames⟩
  rw [hcontext, bind_ok hshort]
  rfl

lemma and_eq_zero_of_lt {b : UInt8} (h : b.toNat < 128) : b &&& 0x80 = 0 := by
  apply UInt8.toNat.inj
  rw [UInt8.toNat_and]
  show b.toNat &&& 2 ^ 7 = 0
  rw [Nat.and_two_pow, Nat.testBit_lt_two_pow h]
  rfl

/-- A document with as many keys as there are ids is not read back: the first hash is taken for a scalar. -/
lemma RoundTrips.length_dedup_ne {value : Json} (h : RoundTrips floats value) (hdoc : value.IsDocument) :
    value.keys.dedup.length ≠ 256 := by
  intro hlen
  cases hscalar : isScalarDocument value with
  | true =>
    rw [(of_isScalarDocument hscalar).1] at hlen
    cases hlen
  | false =>
    obtain ⟨d, treeSize, fuel, context, c, c', hstands, hcontext, hnode⟩ := h.exists_read hdoc hscalar
    have hperm := perm_dictionary value
    obtain ⟨q, hread, hnames⟩ := readContext_of_length_eq (hperm.length_eq.trans hlen) hstands
    cases hread.symm.trans hcontext
    have hkeys := keys_decodeNode floats rfl hnode
    -- every made up name is a key, also one with a small hash
    have hall := (subperm_fieldNames hkeys).perm_of_length_le (by rw [length_fieldNames, hlen])
    have hsmall : fieldName [] 1 ∈ dictionary value := by
      rw [hperm.mem_iff, hall.mem_iff]
      exact List.mem_map_of_mem (List.mem_range.mpr (by decide))
    have hsorted : (dictionary value).Pairwise fun a b => nameLe a b = true := pairwise_sortFieldNames _
    have hhash : (nameHash (fieldName [] 1)).toNat < 128 := by decide +kernel
    cases hdict : dictionary value with
    | nil =>
      rw [hdict] at hsmall
      cases hsmall
    | cons first rest =>
      rw [hdict] at hsmall hsorted hnames
      have hfirst : (nameHash first).toNat < 128 := by
        obtain heq | hmem := List.mem_cons.mp hsmall
        · rwa [← heq]
        · have hle := nameLe_iff.mp (List.rel_of_pairwise_cons hsorted hmem)
          omega
      cases fuel with
      | zero => cases hnode
      | succ fuel =>
        obtain ⟨nodeType, _, hnodeType, hnode⟩ := exists_of_bind_ok hnode
        rw [readsAt_readU8 (nameHash first) d q (StandsAt.cons hnames).1] at hnodeType
        cases hnodeType
        rw [if_neg (not_not.mpr (and_eq_zero_of_lt hfirst))] at hnode
        have hnone := (readsScalar_decodeScalar floats _).of_ok trivial hnode
        rw [hnone] at hlen
        cases hlen

/-! ## Long keys -/

/-- What is read of a long name is shorter. -/
lemma length_readBack_lt {name : String} (h : 256 ≤ (asBytes name).length) :
    (asBytes (readBack name)).length < (asBytes name).length := by
  have hle := length_fromUtf8Lossy_take_le name.toList ((asBytes name).length % 256)
  rw [String.ofList_toList] at hle
  rw [readBack]
  omega

/-- The names that are made up are short. -/
lemma mem_or_length_fieldName_le (names : List String) (id : UInt8) :
    fieldName names id.toNat ∈ names ∨ (asBytes (fieldName names id.toNat)).length ≤ 255 := by
  rw [fieldName]
  split_ifs with hin
  · left
    rw [List.getD_eq_getElem _ _ (show id.toNat - 1 < names.length by omega)]
    exact List.getElem_mem _
  · right
    have hdigits : (toString id.toNat).length ≤ 3 :=
      Nat.repr_length id.toNat 3 (by decide) (id.toNat_lt.trans (by decide))
    have hbytes := length_asBytes_le ("field_" ++ toString id.toNat)
    rw [String.length_append] at hbytes
    have hfield : "field_".length = 6 := rfl
    omega

/-- A document with a long key is not read back, if the offsets of its names have two bytes. -/
lemma RoundTrips.length_key_le {value : Json} (h : RoundTrips floats value) (hdoc : value.IsDocument)
    (hlen : value.keys.dedup.length ≤ 255) (hsize : (namesData (dictionary value)).length < 2 ^ 16) :
    ∀ key ∈ value.keys, (asBytes key).length ≤ 255 := by
  cases hscalar : isScalarDocument value with
  | true =>
    rw [(of_isScalarDocument hscalar).1]
    exact List.forall_mem_nil _
  | false =>
    obtain ⟨d, treeSize, fuel, context, c, c', hstands, hcontext, hnode⟩ := h.exists_read hdoc hscalar
    have hperm := perm_dictionary value
    cases (readContext_document (hperm.length_eq.trans_le hlen) hsize hstands).symm.trans hcontext
    have hkeys : ∀ key ∈ value.keys, IsFieldName ((dictionary value).map readBack) key :=
      keys_decodeNode floats rfl hnode
    by_contra! hlong
    obtain ⟨long, hlong, hgt⟩ := hlong
    -- a longest key is what has been read of a name, which cannot have been longer
    obtain ⟨key, hkey, hmax⟩ := value.keys.toFinset.exists_max_image (fun key => (asBytes key).length)
      ⟨long, List.mem_toFinset.mpr hlong⟩
    have hkeyLong := hmax long (List.mem_toFinset.mpr hlong)
    obtain ⟨id, rfl⟩ := hkeys key (List.mem_toFinset.mp hkey)
    obtain hmem | hshort := mem_or_length_fieldName_le ((dictionary value).map readBack) id
    · obtain ⟨name, hname, hback⟩ := List.mem_map.mp hmem
      have hmaxName := hmax name (List.mem_toFinset.mpr (List.mem_dedup.mp (hperm.mem_iff.mp hname)))
      rw [← hback] at hmaxName hkeyLong
      by_cases hle : (asBytes name).length ≤ 255
      · rw [readBack_of_le hle] at hkeyLong
        omega
      · have hlt := length_readBack_lt (Nat.lt_of_not_le hle)
        omega
    · exact absurd (hgt.trans_le hkeyLong) (not_lt.mpr hshort)

/-! ## Documents -/

/-- A document is read back where nothing in it is truncated. It is not read back if it has more than 255 keys, nor
if a key has more than 255 bytes and the segment of the names is not so long that its size is flagged. -/
theorem representable_roundTrips (floats : FloatText) {value : Json} (hdoc : value.IsDocument) :
    (Representable value → RoundTrips floats value) ∧
      (RoundTrips floats value → value.keys.dedup.length ≤ 255 ∧
        ((namesData (dictionary value)).length < 2 ^ 16 → ∀ key ∈ value.keys, (asBytes key).length ≤ 255)) := by
  constructor
  · intro hrep bytes hencode
    obtain ⟨bytes', hencode', hdecode⟩ := decode_encode floats hdoc hrep
    cases hencode.symm.trans hencode'
    exact ⟨value.depth, hdecode⟩
  · intro h
    have hle := h.length_dedup_le hdoc
    have hne := h.length_dedup_ne hdoc
    have hlen : value.keys.dedup.length ≤ 255 := by omega
    exact ⟨hlen, h.length_key_le hdoc hlen⟩

/-- An array in an object. -/
def smallDocument : Json := .object [("a", .array [.null, .string "b"])]

/-- The small document is read back. -/
theorem representable_roundTrips_small : RoundTrips ⟨fun _ => none, fun _ => none⟩ smallDocument := by
  refine (representable_roundTrips _ ?_).1 ⟨by decide, by decide, ?_⟩
  · refine .object (by decide) fun field hfield => ?_
    rw [List.mem_singleton.mp hfield]
    refine .array fun item hitem => ?_
    obtain rfl | hitem := List.mem_cons.mp hitem
    · exact .null
    · rw [List.mem_singleton.mp hitem]
      exact .string _
  · have htext : (asBytes "b").length = 1 := by decide
    simp [smallDocument, NodeFits, FieldsFit, ItemsFit, nodeSize, countWidth, htext]

/-- A key of 256 bytes. -/
def longKey : String := String.ofList (List.replicate 256 'a')

/-- An object with the long key. -/
def longKeyDocument : Json := .object [(longKey, .null)]

/-- The object is encoded, but not read back. -/
theorem not_roundTrips_longKey :
    longKeyDocument.IsDocument ∧ (∃ bytes, encode longKeyDocument = .ok bytes) ∧
      ∀ floats, ¬ RoundTrips floats longKeyDocument := by
  have hdoc : longKeyDocument.IsDocument := by
    refine .object (List.pairwise_singleton _ _) fun field hfield => ?_
    rw [List.mem_singleton.mp hfield]
    exact .null
  have hkey : (asBytes longKey).length = 256 := length_asBytes_replicate 256
  have hdict : dictionary longKeyDocument = [longKey] := by
    have hcollect : collectFieldNames [] longKeyDocument = [longKey] := by
      simp [longKeyDocument, collectFieldNames, collectFromFields]
    rw [dictionary, hcollect]
    exact List.mergeSort_singleton _
  obtain ⟨tree, htree⟩ := exists_encodeNode hdoc (dictionary longKeyDocument) 0
  refine ⟨hdoc, ⟨_, by rw [encode, htree]; rfl⟩, fun floats h => ?_⟩
  have hkeys : longKeyDocument.keys.dedup.length ≤ 255 :=
    (List.dedup_sublist longKeyDocument.keys).length_le.trans (by decide)
  have hsize : (namesData (dictionary longKeyDocument)).length < 2 ^ 16 := by
    rw [hdict, namesData, List.flatMap_singleton, List.length_cons, hkey]
    decide
  have hle := h.length_key_le hdoc hkeys hsize longKey List.mem_cons_self
  omega

end OracleRs.Oson
