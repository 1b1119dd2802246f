import OracleRs.Lib.Placed
import OracleRs.Types.Integer
import OracleRs.Types.OsonEncode
import OracleRs.Types.OsonReads

set_option relaxedAutoImplicit false
set_option autoImplicit false

/-!
# The tree segment of an OSON document

What the encoder writes of a node, the decoder reads back from where it stands in a document, as long as no
number that the format has a fixed width for is truncated: the lengths of texts and the offsets of children
have four bytes.

## Main definitions

* `OracleRs.Oson.nodeSize` — the number of bytes of a node.
* `OracleRs.Oson.NodeFits` — no length of a text and no offset in a node is truncated.

## Main results

* `OracleRs.Oson.length_encodeNode` — the size of a node is known before it is encoded.
* `OracleRs.Oson.yieldsAt_decodeNode` — a node is read back from where it stands.
-/

namespace OracleRs.Oson

open Cursor

variable {d : Bytes} {p q : ℕ}

/-! ## Numbers and texts -/

lemma readsAt_readBytes (b : Bytes) : ReadsAt (readBytes b.length) b b := by
  intro d p h
  rw [readBytes, if_pos h.length_le]
  exact congrArg (EStateM.Result.ok · _) h.take_drop

lemma readsAt_readU8 (x : UInt8) : ReadsAt readU8 [x] x := by
  intro d p h
  have hlen : p < d.length := h.length_le
  rw [readU8, if_pos hlen, h.getD]
  rfl

lemma readsAt_readU16Be_bytes {b : Bytes} (h : b.length = 2) :
    ReadsAt readU16Be b (UInt16.ofNat (BigEndian.eval b)) := by
  have hread := readsAt_readBytes b
  rw [h] at hread
  exact hread.bind_nil (.pure _)

lemma readsAt_readU32Be_bytes {b : Bytes} (h : b.length = 4) :
    ReadsAt readU32Be b (UInt32.ofNat (BigEndian.eval b)) := by
  have hread := readsAt_readBytes b
  rw [h] at hread
  exact hread.bind_nil (.pure _)

lemma readsAt_readU16Be {n : ℕ} (h : n < 2 ^ 16) :
    ReadsAt readU16Be (BigEndian.digits 2 n) (UInt16.ofNat n) := by
  have hread := readsAt_readU16Be_bytes (BigEndian.length_digits 2 n)
  rwa [BigEndian.eval_digits 2 n h] at hread

lemma readsAt_readU32Be {n : ℕ} (h : n < 2 ^ 32) :
    ReadsAt readU32Be (BigEndian.digits 4 n) (UInt32.ofNat n) := by
  have hread := readsAt_readU32Be_bytes (BigEndian.length_digits 4 n)
  rwa [BigEndian.eval_digits 4 n h] at hread

lemma readsAt_readString (s : String) : ReadsAt (readString (asBytes s).length) (asBytes s) s := by
  refine (readsAt_readBytes (asBytes s)).bind_nil ?_
  rw [fromUtf8Lossy_asBytes]
  exact .pure _

/-! ## Scalars -/

variable {floats : FloatText} {context : Context}

/-- A node that is no container is read as a scalar. -/
lemma readsAt_decodeNode_scalar {nodeType : UInt8} (hscalar : nodeType &&& 0x80 = 0) {b : Bytes} {v : Json}
    (h : ReadsAt (decodeScalar floats nodeType) b v) (fuel : ℕ) :
    ReadsAt (decodeNode floats context (fuel + 1)) (nodeType :: b) v := by
  refine (readsAt_readU8 nodeType).bind ?_
  rw [if_neg (not_not.mpr hscalar)]
  exact h

/-- A text behind its length. -/
lemma readsAt_string {α : Type} {readLen : ReadM α} (size : α → ℕ) {len : Bytes} {n : α} {s : String}
    (hlen : ReadsAt readLen len n) (hsize : size n = (asBytes s).length) :
    ReadsAt (do return Json.string (← readString (size (← readLen)))) (len ++ asBytes s) (.string s) := by
  refine hlen.bind ?_
  rw [hsize]
  exact (readsAt_readString s).bind_nil (.pure _)

/-- A text is read back if its length has four bytes at most. -/
lemma readsAt_encodeString {s : String} (h : (asBytes s).length < 2 ^ 32) (fuel : ℕ) :
    ReadsAt (decodeNode floats context (fuel + 1)) (encodeString s) (.string s) := by
  rw [encodeString]
  split_ifs with hone htwo
  · refine readsAt_decodeNode_scalar rfl ?_ fuel
    exact readsAt_string UInt8.toNat (readsAt_readU8 _) (UInt8.toNat_ofNat_of_lt' hone)
  · refine readsAt_decodeNode_scalar rfl ?_ fuel
    exact readsAt_string UInt16.toNat (readsAt_readU16Be htwo) (UInt16.toNat_ofNat_of_lt' htwo)
  · refine readsAt_decodeNode_scalar rfl ?_ fuel
    exact readsAt_string UInt32.toNat (readsAt_readU32Be h) (UInt32.toNat_ofNat_of_lt' h)

/-- An integer is encoded, and read back. -/
lemma exists_encodeNumber (n : Int64) : ∃ b, encodeNumber (toString n.toInt) = .ok b ∧
    ∀ (floats : FloatText) (context : Context) fuel,
      ReadsAt (decodeNode floats context (fuel + 1)) b (.integer n.toInt) := by
  obtain ⟨b, num, hencode, hlen, hdecode, hparse⟩ := parseInt_encode_integer n
  refine ⟨typeNumberLenU8 :: UInt8.ofNat b.length :: b, ?_, fun floats context fuel => ?_⟩
  · rw [encodeNumber, hencode]
    rfl
  refine readsAt_decodeNode_scalar rfl ((readsAt_readU8 _).bind ?_) fuel
  rw [UInt8.toNat_ofNat_of_lt' (hlen.trans_lt (by decide))]
  refine (readsAt_readBytes b).bind_nil ?_
  rw [hdecode]
  simp only [hparse]
  exact .pure _

/-! ## Sizes -/

/-- The number of bytes of the length of a text or the number of children of a container. -/
def countWidth (n : ℕ) : ℕ := if n < 256 then 1 else if n < 65536 then 2 else 4

mutual

/-- The number of bytes of a node. -/
def nodeSize : Json → ℕ
  | .null | .bool _ => 1
  | .number text => ((encodeNumber text).toOption.getD []).length
  | .string s => 1 + countWidth (asBytes s).length + (asBytes s).length
  | .array items => 1 + countWidth items.length + items.length * 4 + itemsSize items
  | .object fields => 1 + countWidth fields.length + fields.length + fields.length * 4 + fieldsSize fields

/-- The number of bytes of the items of an array. -/
def itemsSize : List Json → ℕ
  | [] => 0
  | item :: items => nodeSize item + itemsSize items

/-- The number of bytes of the values of an object. -/
def fieldsSize : List (String × Json) → ℕ
  | [] => 0
  | (_, value) :: fields => nodeSize value + fieldsSize fields

end

mutual

/-- In a node that begins at the position of the tree segment, the length of no text and the offset of no child
is truncated to four bytes. -/
def NodeFits (pos : ℕ) : Json → Prop
  | .string s => (asBytes s).length < 2 ^ 32
  | .array items => ItemsFit (pos + (1 + countWidth items.length + items.length * 4)) items
  | .object fields =>
    FieldsFit (pos + (1 + countWidth fields.length + fields.length + fields.length * 4)) fields
  | _ => True

/-- Nor in the items of an array, the first of which begins at the position. -/
def ItemsFit (pos : ℕ) : List Json → Prop
  | [] => True
  | item :: items => pos < 2 ^ 32 ∧ NodeFits pos item ∧ ItemsFit (pos + nodeSize item) items

/-- Nor in the values of an object, the first of which begins at the position. -/
def FieldsFit (pos : ℕ) : List (String × Json) → Prop
  | [] => True
  | (_, value) :: fields => pos < 2 ^ 32 ∧ NodeFits pos value ∧ FieldsFit (pos + nodeSize value) fields

end

section Fields

variable (names : List String) (pos : ℕ) (fields : List (String × Json))

/-- The values of an object are encoded as the items of an array are. -/
lemma encodeFields_eq : encodeFields names pos fields = encodeItems names pos (fields.map Prod.snd) := by
  induction fields generalizing pos with
  | nil => rfl
  | cons field fields ih =>
    rw [encodeFields, List.map_cons, encodeItems]
    simp only [ih]

lemma fieldsSize_eq : fieldsSize fields = itemsSize (fields.map Prod.snd) := by
  induction fields with
  | nil => rfl
  | cons field fields ih => rw [fieldsSize, List.map_cons, itemsSize, ih]

lemma fieldsFit_iff : FieldsFit pos fields ↔ ItemsFit pos (fields.map Prod.snd) := by
  induction fields generalizing pos with
  | nil => rfl
  | cons field fields ih => rw [FieldsFit, List.map_cons, ItemsFit, ih]

end Fields

lemma length_containerHeader (nodeType : UInt8) (n : ℕ) :
    (containerHeader nodeType n).length = 1 + countWidth n := by
  rw [containerHeader, List.length_cons, BigEndian.length_digits, countWidth, Nat.add_comm]

lemma length_encodeString (s : String) :
    (encodeString s).length = 1 + countWidth (asBytes s).length + (asBytes s).length := by
  rw [encodeString, countWidth, List.length_append]
  split_ifs
  all_goals rw [List.length_cons, BigEndian.length_digits, Nat.add_comm 1]

lemma length_tableOf (children : List ℕ × Bytes) :
    (tableOf children).length = children.1.length * 4 + children.2.length := by
  simp [tableOf]

/-- The items of an array have their sizes, if every single one has. -/
lemma length_encodeItems {names : List String} {items : List Json}
    (h : ∀ item ∈ items, ∀ pos b, encodeNode names pos item = .ok b → b.length = nodeSize item) {pos : ℕ}
    {children : List ℕ × Bytes} (hencode : encodeItems names pos items = .ok children) :
    children.1.length = items.length ∧ children.2.length = itemsSize items := by
  induction items generalizing pos children with
  | nil =>
    cases hencode
    exact ⟨rfl, rfl⟩
  | cons item items ih =>
    obtain ⟨hitem, hitems⟩ := List.forall_mem_cons.mp h
    rw [encodeItems] at hencode
    obtain ⟨b, hb, hencode⟩ := exists_of_ok_bind hencode
    obtain ⟨rest, hrest, hencode⟩ := exists_of_ok_bind hencode
    cases hencode
    obtain ⟨hlen, hsize⟩ := ih hitems hrest
    rw [List.length_cons, List.length_cons, hlen, List.length_append, hsize, hitem pos b hb, itemsSize]
    exact ⟨rfl, rfl⟩

/-- The size of a node does not depend on where it begins, nor on the dictionary. -/
lemma length_encodeNode {value : Json} (hdoc : value.IsDocument) {names : List String} {pos : ℕ} {b : Bytes}
    (h : encodeNode names pos value = .ok b) : b.length = nodeSize value := by
  induction hdoc generalizing pos b with
  | null =>
    cases h
    rfl
  | bool flag =>
    cases flag
    all_goals
      cases h
      rfl
  | integer n =>
    obtain ⟨bytes, hbytes, -⟩ := exists_encodeNumber n
    rw [Json.integer, encodeNode] at h
    rw [Json.integer, nodeSize, h]
    rfl
  | string s =>
    cases h
    exact length_encodeString s
  | array hitems ih =>
    rw [encodeNode] at h
    obtain ⟨children, hchildren, h⟩ := exists_of_ok_bind h
    cases h
    obtain ⟨hlen, hsize⟩ := length_encodeItems (fun item hitem pos b => ih item hitem) hchildren
    rw [List.length_append, length_containerHeader, length_tableOf, hlen, hsize, nodeSize]
    omega
  | object hkeys hfields ih =>
    rw [encodeNode] at h
    obtain ⟨children, hchildren, h⟩ := exists_of_ok_bind h
    cases h
    rw [encodeFields_eq] at hchildren
    obtain ⟨hlen, hsize⟩ := length_encodeItems (List.forall_mem_map.mpr fun field hfield pos b => ih field hfield)
      hchildren
    rw [List.length_append, List.length_append, length_containerHeader, length_tableOf, hlen, hsize, nodeSize,
      fieldsSize_eq, List.length_map, List.length_map]
    omega

/-! ## Containers -/

/-- The bits of a node type that say how many bytes the number of children has. -/
def childrenBits (n : ℕ) : UInt8 := if n > 65535 then 0x10 else if n > 255 then 0x08 else 0

/-- The node type of a container with a number of children. -/
def containerType (nodeType : UInt8) (n : ℕ) : UInt8 := nodeType ||| 0x20 ||| childrenBits n

/-- The bits of the node type that the decoder looks at. -/
lemma containerType_and {nodeType : UInt8} (h : nodeType = typeArray ∨ nodeType = typeObject) (n : ℕ) :
    containerType nodeType n &&& 0x80 ≠ 0 ∧ containerType nodeType n &&& 0x20 ≠ 0 ∧
      containerType nodeType n &&& 0x18 = childrenBits n ∧
      containerType nodeType n &&& 0x40 = nodeType &&& 0x40 := by
  rw [containerType, childrenBits]
  obtain rfl | rfl := h
  all_goals
    split_ifs
    all_goals decide

/-- The number of children is read back. -/
lemma readsAt_readNumChildren {nodeType : UInt8} {n : ℕ} (h : nodeType &&& 0x18 = childrenBits n)
    (hn : n < 2 ^ 32) :
    ReadsAt (readNumChildren nodeType) (BigEndian.digits (countWidth n) n) (UInt32.ofNat n) := by
  simp only [readNumChildren, h]
  by_cases hone : n < 256
  · have hbits : childrenBits n = 0 := by rw [childrenBits, if_neg (by omega), if_neg (by omega)]
    rw [hbits, if_pos rfl, countWidth, if_pos hone]
    refine (readsAt_readU8 (UInt8.ofNat n)).bind_nil ?_
    have hwiden : (UInt8.ofNat n).toUInt32 = UInt32.ofNat n := by
      apply UInt32.toNat.inj
      rw [UInt8.toNat_toUInt32, UInt8.toNat_ofNat_of_lt' hone, UInt32.toNat_ofNat_of_lt' hn]
    rw [hwiden]
    exact .pure _
  by_cases htwo : n < 65536
  · have hbits : childrenBits n = 0x08 := by rw [childrenBits, if_neg (by omega), if_pos (by omega)]
    rw [hbits, if_neg (by decide), if_pos rfl, countWidth, if_neg hone, if_pos htwo]
    refine (readsAt_readU16Be htwo).bind_nil ?_
    have hwiden : (UInt16.ofNat n).toUInt32 = UInt32.ofNat n := by
      apply UInt32.toNat.inj
      rw [UInt16.toNat_toUInt32, UInt16.toNat_ofNat_of_lt' htwo, UInt32.toNat_ofNat_of_lt' hn]
    rw [hwiden]
    exact .pure _
  · have hbits : childrenBits n = 0x10 := by rw [childrenBits, if_pos (by omega)]
    rw [hbits, if_neg (by decide), if_neg (by decide), if_pos rfl, countWidth, if_neg hone, if_neg htwo]
    exact readsAt_readU32Be hn

lemma countWidth_le (n : ℕ) : countWidth n ≤ 4 := by
  rw [countWidth]
  split_ifs
  all_goals decide

/-- What is read in front of the children of a container that begins at a position of the tree segment: where
the offsets are, in an object behind the field ids. -/
lemma exists_readContainer {nodeType : UInt8} {n pos t start : ℕ} (hcount : nodeType &&& 0x18 = childrenBits n)
    (hn : n < 2 ^ 32) (htree : context.treeSegPos = t) (hid : context.fieldIdLength = 1)
    (hpos : t + pos + 5 + n < 2 ^ 64) (hstart : start = t + pos + 1 + countWidth n)
    (h : StandsAt d (t + pos + 1) (BigEndian.digits (countWidth n) n)) :
    ∃ container q, readContainer context nodeType ⟨d, t + pos + 1⟩ = .ok container ⟨d, q⟩ ∧
      container.nodeType = nodeType ∧ container.layout.numChildren.toNat = n ∧
      (nodeType &&& 0x40 = 0 →
        container.layout.fieldIdsPos = start ∧ container.layout.offsetsPos = start + n) ∧
      (nodeType &&& 0x40 ≠ 0 → container.layout.offsetsPos = start) := by
  have hposition : ∀ q, position ⟨d, q⟩ = .ok q ⟨d, q⟩ := fun _ => rfl
  have hchildren := readsAt_readNumChildren hcount hn d _ h
  rw [BigEndian.length_digits, ← hstart] at hchildren
  have hshared : ¬ nodeType &&& 0x18 = 0x18 := by
    rw [hcount, childrenBits]
    split_ifs
    all_goals decide
  have hoffset : subUsize (t + pos + 1) context.treeSegPos = .ok (pos + 1) := by
    rw [htree, subUsize, if_pos (by omega)]
    congr 1
    omega
  have hcontainer : subUsize (pos + 1) 1 = .ok pos := if_pos (by omega)
  have hsize := UInt32.toNat_ofNat_of_lt' hn
  rw [readContainer, bind_ok (hposition _), bind_liftExcept_ok hoffset, bind_liftExcept_ok hcontainer]
  by_cases hobject : nodeType &&& 0x40 = 0
  · have hadd : addUsize start (context.fieldIdLength * (UInt32.ofNat n).toNat) = .ok (start + n) := by
      have hwidth := countWidth_le n
      rw [hid, Nat.one_mul, hsize]
      exact if_pos (by omega)
    have hlayout : readLayout context nodeType ⟨d, t + pos + 1⟩ =
        .ok ⟨start, start + n, UInt32.ofNat n⟩ ⟨d, start⟩ := by
      rw [readLayout, bind_ok hchildren, if_neg hshared, if_pos hobject, bind_ok (hposition _),
        bind_liftExcept_ok hadd]
      rfl
    rw [bind_ok hlayout, if_pos hobject]
    exact ⟨_, _, rfl, rfl, hsize, fun _ => ⟨rfl, rfl⟩, absurd hobject⟩
  · have hlayout : readLayout context nodeType ⟨d, t + pos + 1⟩ =
        .ok ⟨0, start, UInt32.ofNat n⟩ ⟨d, start⟩ := by
      rw [readLayout, bind_ok hchildren, if_neg hshared, if_neg hobject]
      rfl
    rw [bind_ok hlayout, if_neg hobject, bind_ok (hposition _)]
    exact ⟨_, _, rfl, rfl, hsize, fun h => absurd h hobject, fun _ => rfl⟩

/-! ## Children -/

/-- The id of a name in the dictionary leads back to the name. -/
lemma fieldName_fieldIdOf {names : List String} (hlen : names.length ≤ 255) {key : String} (h : key ∈ names) :
    fieldName names (fieldIdOf names key).toNat = key := by
  have hidx := List.idxOf_lt_length_of_mem h
  rw [fieldIdOf, if_pos h, UInt8.toNat_ofNat_of_lt' (show names.idxOf key + 1 < 2 ^ 8 by omega), fieldName,
    if_pos (by omega), Nat.add_sub_cancel, List.getD_eq_getElem _ _ hidx, List.getElem_idxOf]

lemma readField_of_standsAt (hid : context.fieldIdLength = 1) {id : UInt8} (h : StandsAt d p [id]) :
    readField context p ⟨d, q⟩ = .ok (fieldName context.fieldNames id.toNat, p + 1) ⟨d, p + 1⟩ := by
  have hseek : seek p ⟨d, q⟩ = .ok () ⟨d, p⟩ := rfl
  have hread : readFieldId context.fieldIdLength ⟨d, p⟩ = .ok id.toNat ⟨d, p + 1⟩ := by
    rw [readFieldId, if_pos hid, bind_ok (readsAt_readU8 id d p h)]
    rfl
  rw [readField, bind_ok hseek, bind_ok hread]
  rfl

/-- Offsets count from the beginning of the tree segment. -/
lemma readChild_of_standsAt {container : Container} (hrel : context.relativeOffsets = false)
    (hwide : container.nodeType &&& 0x20 ≠ 0) {offset : ℕ} (hoffset : offset < 2 ^ 32)
    (hfits : context.treeSegPos + offset < 2 ^ 64) (h : StandsAt d p (BigEndian.digits 4 offset)) :
    readChild context container p ⟨d, q⟩ = .ok (context.treeSegPos + offset, p + 4) ⟨d, p + 4⟩ := by
  have hget : getOffset container.nodeType ⟨d, p⟩ = .ok (UInt32.ofNat offset) ⟨d, p + 4⟩ := by
    rw [getOffset, if_pos hwide, readsAt_readU32Be hoffset d p h, BigEndian.length_digits]
  have hactual : actualOffset context container (UInt32.ofNat offset) = .ok (UInt32.ofNat offset) := by
    rw [actualOffset, hrel]
    rfl
  have hadd : addUsize context.treeSegPos (UInt32.ofNat offset).toNat = .ok (context.treeSegPos + offset) := by
    rw [UInt32.toNat_ofNat_of_lt' hoffset]
    exact if_pos hfits
  rw [readChild_eq rfl hget, bind_liftExcept_ok hactual, bind_liftExcept_ok hadd]
  rfl

section Loops

variable {node : ReadM Json} {container : Container}

/-- The child at an offset is read. -/
def ReadsChild (context : Context) (node : ReadM Json) (d : Bytes) (offset : ℕ) (value : Json) : Prop :=
  offset < 2 ^ 32 ∧ YieldsAt node d (context.treeSegPos + offset) value

/-- The items of an array are read where their offsets lead. -/
lemma yieldsAt_decodeItems (hrel : context.relativeOffsets = false) (hwide : container.nodeType &&& 0x20 ≠ 0)
    (htree : context.treeSegPos < 2 ^ 32) {offsets : List ℕ} {items : List Json}
    (hreads : List.Forall₂ (ReadsChild context node d) offsets items) {acc : List Json}
    (hoffsets : StandsAt d p (offsets.flatMap (BigEndian.digits 4))) :
    YieldsAt (decodeItems context node container items.length p acc) d q (acc ++ items) := by
  induction hreads generalizing p q acc with
  | nil => exact ⟨q, by rw [List.append_nil]; rfl⟩
  | @cons offset item offsets items hchild hreads ih =>
    obtain ⟨hlt, q', hitem⟩ := hchild
    obtain ⟨hoffset, hoffsets⟩ := hoffsets.append
    rw [BigEndian.length_digits] at hoffsets
    have hitems : YieldsAt (decodeItems context node container items.length (p + 4) (acc ++ [item])) d q'
        (acc ++ [item] ++ items) := ih hoffsets
    obtain ⟨q'', hrest⟩ := hitems
    have hseek : seek (context.treeSegPos + offset) ⟨d, p + 4⟩ = .ok () ⟨d, context.treeSegPos + offset⟩ := rfl
    refine ⟨q'', ?_⟩
    rw [List.length_cons, decodeItems, bind_ok (readChild_of_standsAt hrel hwide hlt (by omega) hoffset)]
    simp only
    rw [bind_ok hseek, bind_ok hitem, hrest, List.append_assoc]
    rfl

/-- So are the values of an object, and the names of their ids. -/
lemma yieldsAt_decodeFields (hrel : context.relativeOffsets = false) (hwide : container.nodeType &&& 0x20 ≠ 0)
    (htree : context.treeSegPos < 2 ^ 32) (hid : context.fieldIdLength = 1)
    (hlen : context.fieldNames.length ≤ 255) {offsets : List ℕ} {fields acc : List (String × Json)}
    (hreads : List.Forall₂ (ReadsChild context node d) offsets (fields.map Prod.snd))
    (hkeys : ∀ field ∈ fields, field.1 ∈ context.fieldNames)
    (hsorted : ((acc ++ fields).map Prod.fst).Pairwise (· < ·)) {ids : ℕ}
    (hids : StandsAt d ids (fields.map fun field => fieldIdOf context.fieldNames field.1))
    (hoffsets : StandsAt d p (offsets.flatMap (BigEndian.digits 4))) :
    YieldsAt (decodeFields context node container fields.length ids p acc) d q (acc ++ fields) := by
  induction fields generalizing offsets p q acc ids with
  | nil => exact ⟨q, by rw [List.append_nil]; rfl⟩
  | cons field fields ih =>
    obtain ⟨offset, offsets, ⟨hlt, q', hvalue⟩, htail, rfl⟩ := List.forall₂_cons_right_iff.mp hreads
    obtain ⟨hid₁, hids⟩ := hids.cons
    obtain ⟨hoffset, hoffsets⟩ := hoffsets.append
    rw [BigEndian.length_digits] at hoffsets
    obtain ⟨hkey, hkeys⟩ := List.forall_mem_cons.mp hkeys
    have hlast : ∀ other ∈ acc, other.1 < field.1 := by
      intro other hother
      rw [List.map_append, List.pairwise_append] at hsorted
      exact hsorted.2.2 _ (List.mem_map_of_mem hother) _ List.mem_cons_self
    rw [List.append_cons] at hsorted
    obtain ⟨q'', hrest⟩ := ih (q := q') htail hkeys hsorted hids hoffsets
    have hseek : seek (context.treeSegPos + offset) ⟨d, p + 4⟩ = .ok () ⟨d, context.treeSegPos + offset⟩ := rfl
    refine ⟨q'', ?_⟩
    rw [List.length_cons, decodeFields, bind_ok (readField_of_standsAt hid hid₁)]
    simp only
    rw [bind_ok (readChild_of_standsAt hrel hwide hlt (by omega) hoffset)]
    simp only
    rw [bind_ok hseek, bind_ok hvalue, fieldName_fieldIdOf hlen hkey, Json.mapInsert_concat hlast, hrest,
      ← List.append_cons]

end Loops

/-! ## Nodes -/

/-- What the decoder knows in front of the tree segment of a document with the dictionary. -/
def treeContext (names : List String) (treeSegPos : ℕ) : Context := ⟨names, 1, treeSegPos, false⟩

lemma treeSegPos_treeContext (names : List String) (treeSegPos : ℕ) :
    (treeContext names treeSegPos).treeSegPos = treeSegPos := rfl

section Nodes

variable {names : List String} {t pos : ℕ}

/-- The children of a container are read where their offsets lead, if every single one is read where it stands. -/
lemma forall₂_encodeItems {node : ReadM Json} {items : List Json} (hdoc : ∀ item ∈ items, item.IsDocument)
    (h : ∀ item ∈ items, ∀ pos b, pos < 2 ^ 32 → NodeFits pos item → encodeNode names pos item = .ok b →
      StandsAt d (t + pos) b → YieldsAt node d (t + pos) item)
    (hfits : ItemsFit pos items) {children : List ℕ × Bytes} (hencode : encodeItems names pos items = .ok children)
    (hstands : StandsAt d (t + pos) children.2) :
    List.Forall₂ (ReadsChild (treeContext names t) node d) children.1 items := by
  induction items generalizing pos children with
  | nil =>
    cases hencode
    exact .nil
  | cons item items ih =>
    obtain ⟨hitem, hitems⟩ := List.forall_mem_cons.mp h
    obtain ⟨hdoc, hdocs⟩ := List.forall_mem_cons.mp hdoc
    obtain ⟨hpos, hfit, hfits⟩ := hfits
    rw [encodeItems] at hencode
    obtain ⟨b, hb, hencode⟩ := exists_of_ok_bind hencode
    obtain ⟨rest, hrest, hencode⟩ := exists_of_ok_bind hencode
    cases hencode
    obtain ⟨hhere, hbehind⟩ := StandsAt.append hstands
    have hlen := length_encodeNode hdoc hb
    rw [hlen] at hrest hbehind
    exact .cons ⟨hpos, hitem pos b hpos hfit hb hhere⟩
      (ih hdocs hitems hfits hrest (by rwa [Nat.add_assoc] at hbehind))

/-- An array is read behind its node type. -/
lemma yieldsAt_array {node : ReadM Json} {items : List Json} {children : List ℕ × Bytes} (ht : t < 2 ^ 32)
    (hpos : pos < 2 ^ 32) (hn : items.length < 2 ^ 32)
    (h : StandsAt d (t + pos + 1) (BigEndian.digits (countWidth items.length) items.length ++ tableOf children))
    (hreads : List.Forall₂ (ReadsChild (treeContext names t) node d) children.1 items) :
    YieldsAt (decodeContainer (treeContext names t) node (containerType typeArray items.length)) d (t + pos + 1)
      (.array items) := by
  obtain ⟨-, hwide, hbits, harray⟩ := containerType_and (.inl rfl) items.length
  replace harray : containerType typeArray items.length &&& 0x40 ≠ 0 := by
    rw [harray]
    decide
  obtain ⟨hcount, htable⟩ := h.append
  rw [BigEndian.length_digits] at htable
  obtain ⟨container, q, hcontainer, htype, hchildren, -, hoffsets⟩ :=
    exists_readContainer hbits hn (treeSegPos_treeContext names t) rfl (by omega) rfl hcount
  have hisObject : container.isObject = false := by
    rw [Container.isObject, htype]
    exact decide_eq_false harray
  have hitems : YieldsAt (decodeItems (treeContext names t) node container items.length _ []) d q ([] ++ items) :=
    yieldsAt_decodeItems rfl (by rwa [htype]) ht hreads htable.append.1
  obtain ⟨q', hitems⟩ := hitems
  refine ⟨q', ?_⟩
  rw [decodeContainer, bind_ok hcontainer, hisObject, if_neg Bool.false_ne_true, hchildren, hoffsets harray,
    bind_ok hitems]
  rfl

/-- An object is read behind its node type, with the names that its field ids have. -/
lemma yieldsAt_object {node : ReadM Json} {fields : List (String × Json)} {children : List ℕ × Bytes}
    (ht : t < 2 ^ 32) (hpos : pos < 2 ^ 32) (hlen : names.length ≤ 255) (hn : fields.length < 2 ^ 32)
    (hsorted : (fields.map Prod.fst).Pairwise (· < ·)) (hkeys : ∀ field ∈ fields, field.1 ∈ names)
    (h : StandsAt d (t + pos + 1) (BigEndian.digits (countWidth fields.length) fields.length ++
      ((fields.map fun field => fieldIdOf names field.1) ++ tableOf children)))
    (hreads : List.Forall₂ (ReadsChild (treeContext names t) node d) children.1 (fields.map Prod.snd)) :
    YieldsAt (decodeContainer (treeContext names t) node (containerType typeObject fields.length)) d (t + pos + 1)
      (.object fields) := by
  obtain ⟨-, hwide, hbits, hobject⟩ := containerType_and (.inr rfl) fields.length
  obtain ⟨hcount, hrest⟩ := h.append
  obtain ⟨hids, htable⟩ := hrest.append
  rw [BigEndian.length_digits] at hids htable
  rw [List.length_map] at htable
  obtain ⟨container, q, hcontainer, htype, hchildren, hplaces, -⟩ :=
    exists_readContainer hbits hn (treeSegPos_treeContext names t) rfl (by omega) rfl hcount
  obtain ⟨hidsPos, hoffsetsPos⟩ := hplaces hobject
  have hisObject : container.isObject = true := by
    rw [Container.isObject, htype]
    exact decide_eq_true hobject
  have hfields : YieldsAt (decodeFields (treeContext names t) node container fields.length _ _ []) d q
      ([] ++ fields) :=
    yieldsAt_decodeFields rfl (by rwa [htype]) ht rfl hlen hreads hkeys (by rwa [List.nil_append]) hids
      htable.append.1
  obtain ⟨q', hfields⟩ := hfields
  refine ⟨q', ?_⟩
  rw [decodeContainer, bind_ok hcontainer, hisObject, if_pos rfl, hchildren, hidsPos, hoffsetsPos, bind_ok hfields]
  rfl

/-- Where the children of a container stand, behind the field ids, if it has any, and the offsets. -/
lemma standsAt_children {n : ℕ} {ids : Bytes} {children : List ℕ × Bytes}
    (h : StandsAt d (t + pos + 1) (BigEndian.digits (countWidth n) n ++ (ids ++ tableOf children))) :
    StandsAt d (t + (pos + (1 + countWidth n + ids.length + children.1.length * 4))) children.2 := by
  have hchildren := h.append.2.append.2.append.2
  have hoffsets : (children.1.flatMap (BigEndian.digits 4)).length = children.1.length * 4 := by simp
  rw [BigEndian.length_digits, hoffsets] at hchildren
  convert hchildren using 1
  omega

lemma length_lt_of_itemsFit {items : List Json} (h : ItemsFit pos items) (hle : items.length ≤ pos) :
    items.length < 2 ^ 32 := by
  cases items with
  | nil => exact Nat.two_pow_pos 32
  | cons item items => exact hle.trans_lt h.1

/-- A node of a container is read through its node type. -/
lemma yieldsAt_decodeNode_container {nodeType : UInt8} (hcontainer : nodeType &&& 0x80 ≠ 0)
    (htype : StandsAt d p [nodeType]) {fuel : ℕ} {value : Json}
    (h : YieldsAt (decodeContainer context (decodeNode floats context fuel) nodeType) d (p + 1) value) :
    YieldsAt (decodeNode floats context (fuel + 1)) d p value := by
  refine (readsAt_readU8 nodeType).bind_yieldsAt htype ?_
  rw [if_pos hcontainer]
  exact h

/-- A node is read back from where it stands, if its keys are in the dictionary and nothing in it is truncated. -/
theorem yieldsAt_decodeNode (floats : FloatText) (ht : t < 2 ^ 32) (hlen : names.length ≤ 255) {value : Json}
    (hdoc : value.IsDocument) {fuel : ℕ} (hfuel : value.depth ≤ fuel) (hkeys : ∀ key ∈ value.keys, key ∈ names)
    (hpos : pos < 2 ^ 32) (hfits : NodeFits pos value) {b : Bytes} (hencode : encodeNode names pos value = .ok b)
    (h : StandsAt d (t + pos) b) :
    YieldsAt (decodeNode floats (treeContext names t) fuel) d (t + pos) value := by
  induction hdoc generalizing fuel pos b with
  | null =>
    cases hencode
    obtain ⟨fuel, rfl⟩ := Nat.exists_eq_add_of_le' hfuel
    exact (readsAt_decodeNode_scalar rfl (.pure _) fuel).yieldsAt h
  | bool flag =>
    obtain ⟨fuel, rfl⟩ := Nat.exists_eq_add_of_le' hfuel
    cases flag
    all_goals
      cases hencode
      exact (readsAt_decodeNode_scalar rfl (.pure _) fuel).yieldsAt h
  | integer n =>
    obtain ⟨fuel, rfl⟩ := Nat.exists_eq_add_of_le' hfuel
    obtain ⟨b', hb', hread⟩ := exists_encodeNumber n
    cases hb'.symm.trans hencode
    exact (hread floats _ fuel).yieldsAt h
  | string s =>
    obtain ⟨fuel, rfl⟩ := Nat.exists_eq_add_of_le' hfuel
    cases hencode
    exact (readsAt_encodeString hfits fuel).yieldsAt h
  | @array items hitems ih =>
    obtain ⟨fuel, rfl⟩ := Nat.exists_eq_add_of_le' ((Nat.le_add_left 1 _).trans hfuel)
    rw [encodeNode] at hencode
    obtain ⟨children, hchildren, hencode⟩ := exists_of_ok_bind hencode
    cases hencode
    obtain ⟨htype, hrest⟩ := h.cons
    have hdepth := Json.depthOfItems_le_iff.mp (Nat.le_of_succ_le_succ hfuel)
    have hcount := (length_encodeItems (fun item hitem _ _ => length_encodeNode (hitems item hitem)) hchildren).1
    have hstands := @standsAt_children _ _ _ _ [] _ hrest
    rw [List.length_nil, Nat.add_zero, hcount] at hstands
    rw [length_containerHeader, Nat.add_assoc] at hchildren
    rw [NodeFits] at hfits
    rw [Json.keys, Json.keysOfItems_eq] at hkeys
    have hn := length_lt_of_itemsFit hfits (by omega)
    have hreads := forall₂_encodeItems hitems (fun item hitem pos b hpos hfit hb hstands =>
      ih item hitem (hdepth item hitem) (fun key hkey => hkeys key (List.mem_flatMap.mpr ⟨item, hitem, hkey⟩))
        hpos hfit hb hstands) hfits hchildren hstands
    exact yieldsAt_decodeNode_container (containerType_and (.inl rfl) _).1 htype
      (yieldsAt_array ht hpos hn hrest hreads)
  | @object fields hsorted hfields ih =>
    obtain ⟨fuel, rfl⟩ := Nat.exists_eq_add_of_le' ((Nat.le_add_left 1 _).trans hfuel)
    rw [encodeNode] at hencode
    obtain ⟨children, hchildren, hencode⟩ := exists_of_ok_bind hencode
    cases hencode
    rw [List.append_assoc] at h
    obtain ⟨htype, hrest⟩ := h.cons
    rw [encodeFields_eq] at hchildren
    have hvalues : ∀ value ∈ fields.map Prod.snd, value.IsDocument := List.forall_mem_map.mpr hfields
    have hdepth := Json.depthOfFields_le_iff.mp (Nat.le_of_succ_le_succ hfuel)
    have hcount := (length_encodeItems (fun value hvalue _ _ => length_encodeNode (hvalues value hvalue)) hchildren).1
    have hstands := standsAt_children hrest
    rw [hcount, List.length_map, List.length_map] at hstands
    rw [List.length_append, length_containerHeader, List.length_map, Nat.add_assoc] at hchildren
    rw [NodeFits, fieldsFit_iff] at hfits
    rw [Json.keys, Json.keysOfFields_eq] at hkeys
    have hnames : ∀ field ∈ fields, field.1 ∈ names := fun field hfield =>
      hkeys field.1 (List.mem_flatMap.mpr ⟨field, hfield, List.mem_cons_self⟩)
    -- the keys of an object are different names
    have hn : fields.length ≤ names.length := by
      have hnodup : (fields.map Prod.fst).Nodup := hsorted.imp String.ne_of_lt
      have hsub := List.subperm_of_subset hnodup (List.forall_mem_map.mpr hnames)
      simpa using hsub.length_le
    have hreads := forall₂_encodeItems hvalues (List.forall_mem_map.mpr fun field hfield pos b hpos hfit hb hstands =>
      ih field hfield (hdepth field hfield) (fun key hkey => hkeys key (List.mem_flatMap.mpr
        ⟨field, hfield, List.mem_cons_of_mem _ hkey⟩)) hpos hfit hb hstands) hfits hchildren hstands
    exact yieldsAt_decodeNode_container (containerType_and (.inr rfl) _).1 htype
      (yieldsAt_object ht hpos hlen (by omega) hsorted hnames hrest hreads)

end Nodes

end OracleRs.Oson
