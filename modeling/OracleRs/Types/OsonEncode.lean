import OracleRs.Types.Oson

set_option relaxedAutoImplicit false
set_option autoImplicit false

/-!
# The OSON encoder

`OsonEncoder` of `types/oson.rs`. The field names of a document are collected and sorted by their
hashes, the tree segment is written with the ids of the sorted names, and both are put behind a header.

The tree segment is one growing buffer. Where a node begins in it decides the offsets that the node
holds, so a node is encoded from the position at which it begins.

## Main definitions

* `OracleRs.Oson.collectFieldNames`, `OracleRs.Oson.sortFieldNames` — the dictionary of the names.
* `OracleRs.Oson.encodeNode` — the tree segment.
* `OracleRs.Oson.encode` — the encoder.
-/

namespace OracleRs.Oson

/-! ## Field names -/

mutual

/-- `collect_field_names`: the names that are collected already, and those of the document that are not
among them. -/
def collectFieldNames (names : List String) : Json → List String
  | .object fields => collectFromFields names fields
  | .array items => collectFromItems names items
  | _ => names

/-- The loop over the items of an array. -/
def collectFromItems (names : List String) : List Json → List String
  | [] => names
  | item :: items => collectFromItems (collectFieldNames names item) items

/-- The loop over the fields of an object. -/
def collectFromFields (names : List String) : List (String × Json) → List String
  | [] => names
  | (key, child) :: fields =>
    collectFromFields (collectFieldNames (if key ∈ names then names else names ++ [key]) child) fields

end

/-- `bernstein_hash`. -/
def bernsteinHash (data : Bytes) : UInt32 :=
  data.foldl (fun hash b => (hash ^^^ b.toUInt32) * 16777619) 0x811C9DC5

/-- The last byte of the hash of a name. -/
def nameHash (name : String) : UInt8 := (bernsteinHash (asBytes name) &&& 0xff).toUInt8

/-- The order of the names: by the hash, then by the length. -/
def nameLe (a b : String) : Bool :=
  nameHash a < nameHash b ∨ nameHash a = nameHash b ∧ (asBytes a).length ≤ (asBytes b).length

/-- `sort_and_update_field_ids`: the names in their order; the id of a name is its position from 1. -/
def sortFieldNames (names : List String) : List String := names.mergeSort nameLe

/-- The offsets of the names in their segment, from a position of the segment on. -/
def nameOffsets (pos : ℕ) : List String → List ℕ
  | [] => []
  | name :: names => pos :: nameOffsets (pos + 1 + (asBytes name).length) names

/-- The segment of the names: every name behind its length. -/
def namesData (names : List String) : Bytes :=
  names.flatMap fun name => UInt8.ofNat (asBytes name).length :: asBytes name

/-- The second and the third component of `build_field_names_components`: the offsets with two bytes
each. -/
def offsetsBytes (names : List String) : Bytes :=
  (nameOffsets 0 names).flatMap (BigEndian.digits 2)

/-! ## The tree -/

/-- The field id of a key: 0 if it has none. -/
def fieldIdOf (names : List String) (key : String) : UInt8 :=
  if key ∈ names then UInt8.ofNat (names.idxOf key + 1) else 0

/-- The node type of a container and its number of children. -/
def containerHeader (nodeType : UInt8) (numChildren : ℕ) : Bytes :=
  (nodeType ||| 0x20 ||| (if numChildren > 65535 then 0x10 else if numChildren > 255 then 0x08 else 0)) ::
    BigEndian.digits (if numChildren < 256 then 1 else if numChildren < 65536 then 2 else 4) numChildren

/-- A string with its node type and length. -/
def encodeString (s : String) : Bytes :=
  let bytes := asBytes s
  (if bytes.length < 256 then typeStringLenU8 :: BigEndian.digits 1 bytes.length
    else if bytes.length < 65536 then typeStringLenU16 :: BigEndian.digits 2 bytes.length
    else typeStringLenU32 :: BigEndian.digits 4 bytes.length) ++ bytes

/-- A number with its node type and length. -/
def encodeNumber (text : String) : Except Error Bytes := do
  let bytes ← encodeOracleNumber text
  return typeNumberLenU8 :: UInt8.ofNat bytes.length :: bytes

/-- The offsets of the children with four bytes each, and the children. -/
def tableOf (children : List ℕ × Bytes) : Bytes :=
  children.1.flatMap (BigEndian.digits 4) ++ children.2

mutual

/-- `encode_node`: the bytes of a node that begins at a position of the buffer. -/
def encodeNode (names : List String) (pos : ℕ) : Json → Except Error Bytes
  | .null => .ok [typeNull]
  | .bool true => .ok [typeTrue]
  | .bool false => .ok [typeFalse]
  | .number text => encodeNumber text
  | .string s => .ok (encodeString s)
  | .array items => do
    -- `encode_array`
    let header := containerHeader typeArray items.length
    let children ← encodeItems names (pos + header.length + items.length * 4) items
    return header ++ tableOf children
  | .object fields => do
    -- `encode_object`
    let header := containerHeader typeObject fields.length ++ fields.map fun field => fieldIdOf names field.1
    let children ← encodeFields names (pos + header.length + fields.length * 4) fields
    return header ++ tableOf children

/-- The loop over the items of an array: their offsets and their bytes. -/
def encodeItems (names : List String) (pos : ℕ) : List Json → Except Error (List ℕ × Bytes)
  | [] => .ok ([], [])
  | item :: items => do
    let bytes ← encodeNode names pos item
    let rest ← encodeItems names (pos + bytes.length) items
    return (pos :: rest.1, bytes ++ rest.2)

/-- The loop over the fields of an object: the offsets and the bytes of their values. -/
def encodeFields (names : List String) (pos : ℕ) :
    List (String × Json) → Except Error (List ℕ × Bytes)
  | [] => .ok ([], [])
  | (_, value) :: fields => do
    let bytes ← encodeNode names pos value
    let rest ← encodeFields names (pos + bytes.length) fields
    return (pos :: rest.1, bytes ++ rest.2)

end

/-! ## Documents -/

/-- Is the document a scalar? -/
def isScalarDocument : Json → Bool
  | .object _ | .array _ => false
  | _ => true

/-- The size of a segment, with four bytes if the flag is set. -/
def encodeSegSize (flags flag : UInt16) (size : ℕ) : Bytes :=
  BigEndian.digits (if flags &&& flag ≠ 0 then 4 else 2) size

/-- The flags of a document. -/
def documentFlags (scalar : Bool) (namesSize treeSize : ℕ) : UInt16 :=
  flagInlineLeaf |||
    (if scalar then flagIsScalar
      else flagHashIdUint8 ||| flagTinyNodesStat |||
        (if namesSize > 65535 then flagFnamesSegUint32 else 0)) |||
    (if treeSize > 65535 then flagTreeSegUint32 else 0)

/-- The part of a document in front of the tree segment. -/
def documentHeader (scalar : Bool) (names : List String) (treeSize : ℕ) : Bytes :=
  let segment := namesData names
  let flags := documentFlags scalar segment.length treeSize
  magicBytes ++ [versionMaxFname255] ++ BigEndian.digits 2 flags.toNat ++
    (if scalar then encodeSegSize flags flagTreeSegUint32 treeSize
      else UInt8.ofNat names.length :: encodeSegSize flags flagFnamesSegUint32 segment.length ++
        encodeSegSize flags flagTreeSegUint32 treeSize ++ BigEndian.digits 2 0 ++
        names.map nameHash ++ offsetsBytes names ++ segment)

/-- The dictionary of a document. -/
def dictionary (value : Json) : List String := sortFieldNames (collectFieldNames [] value)

/-- `OsonEncoder::encode`. -/
def encode (value : Json) : Except Error Bytes := do
  let names := dictionary value
  let tree ← encodeNode names 0 value
  return documentHeader (isScalarDocument value) names tree.length ++ tree

end OracleRs.Oson
