import OracleRs.Buffer.Read
import OracleRs.Types.Binary
import OracleRs.Types.Json
import OracleRs.Types.Number

set_option relaxedAutoImplicit false
set_option autoImplicit false

/-!
# OSON

The decoder of `types/oson.rs` for Oracle's binary JSON. A document is a header, a dictionary of the
field names and a tree segment; the children of arrays and objects are found through offsets into the tree
segment.

The decoder follows offsets wherever they lead. It is run with a bound on the depth, which stands
for the stack.

## Main definitions

* `OracleRs.Oson.decode` — the decoder, with `OracleRs.Oson.readContext` for what stands in front of
  the tree and `OracleRs.Oson.decodeNode` for the tree.
-/

namespace OracleRs.Oson

open Cursor

/-! ## Constants -/

/-- `MAGIC_BYTE_1` to `MAGIC_BYTE_3`. -/
def magicBytes : Bytes := [0xFF, 0x4A, 0x5A]

/-- `VERSION_MAX_FNAME_255`. -/
def versionMaxFname255 : UInt8 := 1

/-- `VERSION_MAX_FNAME_65535`. -/
def versionMaxFname65535 : UInt8 := 3

/-- Primary flags. -/
def flagRelOffsetMode : UInt16 := 0x0001
def flagInlineLeaf : UInt16 := 0x0002
def flagNumFnamesUint32 : UInt16 := 0x0008
def flagIsScalar : UInt16 := 0x0010
def flagHashIdUint8 : UInt16 := 0x0100
def flagNumFnamesUint16 : UInt16 := 0x0400
def flagFnamesSegUint32 : UInt16 := 0x0800
def flagTreeSegUint32 : UInt16 := 0x1000
def flagTinyNodesStat : UInt16 := 0x2000

/-- The secondary flag for long field names. -/
def flagSecFnamesSegUint16 : UInt16 := 0x0100

/-- Node types. -/
def typeNull : UInt8 := 0x30
def typeTrue : UInt8 := 0x31
def typeFalse : UInt8 := 0x32
def typeStringLenU8 : UInt8 := 0x33
def typeNumberLenU8 : UInt8 := 0x34
def typeBinaryDouble : UInt8 := 0x36
def typeStringLenU16 : UInt8 := 0x37
def typeStringLenU32 : UInt8 := 0x38
def typeTimestamp : UInt8 := 0x39
def typeBinaryLenU16 : UInt8 := 0x3a
def typeBinaryLenU32 : UInt8 := 0x3b
def typeDate : UInt8 := 0x3c
def typeIntervalYm : UInt8 := 0x3d
def typeIntervalDs : UInt8 := 0x3e
def typeTimestampTz : UInt8 := 0x7c
def typeTimestamp7 : UInt8 := 0x7d
def typeId : UInt8 := 0x7e
def typeBinaryFloat : UInt8 := 0x7f
def typeObject : UInt8 := 0x84
def typeArray : UInt8 := 0xc0
def typeExtended : UInt8 := 0x7b
def typeVector : UInt8 := 0x01

/-! ## Reading -/

/-- `read_bytes`. The end of the bytes does not fit into a `usize` only where it is behind the
data. -/
def readBytes (len : ℕ) : ReadM Bytes := fun buf =>
  if buf.pos + len ≤ buf.data.length then .ok (buf.rest.take len) (buf.advance len)
  else if buf.pos + len < 2 ^ 64 then
    .error (.protocolError "Unexpected end of OSON data") buf
  else .error .arithmeticOverflow buf

/-- `read_u8`. -/
def readU8 : ReadM UInt8 := fun buf =>
  if buf.pos < buf.data.length then .ok (buf.data.getD buf.pos 0) (buf.advance 1)
  else .error (.protocolError "Unexpected end of OSON data") buf

/-- `read_u16_be`. -/
def readU16Be : ReadM UInt16 := do
  return UInt16.ofNat (BigEndian.eval (← readBytes 2))

/-- `read_u32_be`. -/
def readU32Be : ReadM UInt32 := do
  return UInt32.ofNat (BigEndian.eval (← readBytes 4))

/-- `read_string`. -/
def readString (len : ℕ) : ReadM String := do
  return fromUtf8Lossy (← readBytes len)

/-- An assignment to `self.pos`. -/
def seek (pos : ℕ) : ReadM Unit := modify fun buf => { buf with pos := pos }

/-- The value of `self.pos`. -/
def position : ReadM ℕ := do
  return (← get).pos

/-- The sum of two `usize`. -/
def addUsize (a b : ℕ) : Except Error ℕ :=
  if a + b < 2 ^ 64 then .ok (a + b) else .error .arithmeticOverflow

/-- The difference of two `usize`. -/
def subUsize (a b : ℕ) : Except Error ℕ :=
  if b ≤ a then .ok (a - b) else .error .arithmeticOverflow

/-- An assignment `self.pos += len`. -/
def skip (len : ℕ) : ReadM Unit := do
  seek (← liftExcept (addUsize (← position) len))

/-- A check that fails with an error. -/
def require (ok : Bool) (e : Error) : ReadM Unit := if ok then pure () else throw e

/-- A slice of a byte string; the source panics out of bounds. -/
def slice (data : Bytes) (start stop : ℕ) : Except Error Bytes :=
  if start ≤ stop ∧ stop ≤ data.length then
    .ok ((data.drop start).take (stop - start))
  else
    .error (.indexOutOfBounds stop data.length)

/-- The predecessor of a byte. -/
def checkedPred (b : UInt8) : Except Error UInt8 :=
  if b = 0 then .error .arithmeticOverflow else .ok (b - 1)

/-- The sum of two `u32`. -/
def checkedAdd (a b : UInt32) : Except Error UInt32 :=
  if a.toNat + b.toNat < 2 ^ 32 then .ok (a + b) else .error .arithmeticOverflow

/-! ## Scalars -/

/-- The floating point numbers of JSON documents: how the standard library reads one from a text,
and the text that `serde_json` has for one, unless it is infinite or no number. -/
structure FloatText where
  /-- `str::parse::<f64>` -/
  parse : String → Option UInt64
  /-- the text of a JSON number -/
  display : UInt64 → Option String

/-- `json!` for an `f64`. -/
def FloatText.json (floats : FloatText) (bits : UInt64) : Json :=
  match floats.display bits with
  | some text => .number text
  | none => .null

/-- `OsonDecoder::decode_oracle_number`. -/
def decodeOracleNumber (floats : FloatText) (len : ℕ) : ReadM Json := do
  let bytes ← readBytes len
  return match OracleRs.decodeOracleNumber bytes with
    | .ok num =>
      match parseInt (-2 ^ 63) (2 ^ 63 - 1) (asBytes num.value) with
      | some i => .integer i
      | none =>
        match floats.parse num.value with
        | some f => floats.json f
        | none => .string num.value
    | .error _ => .null

/-- An integer with leading zeros, as `format!` writes it with a width. -/
def zeroPadded (width : ℕ) (n : ℤ) : String :=
  let sign := if n < 0 then "-" else ""
  let digits := toString n.natAbs
  sign ++ String.ofList (List.replicate (width - sign.length - digits.length) '0') ++ digits

/-- `OsonDecoder::decode_oracle_date`. -/
def decodeOracleDate (bytes : Bytes) : Except Error String :=
  if bytes.length < 7 then
    .error (.protocolError "Invalid date bytes")
  else do
    let century : ℤ := (bytes.getD 0 0).toNat - 100
    let year : ℤ := (bytes.getD 1 0).toNat - 100
    let fullYear := century * 100 + year
    let month := bytes.getD 2 0
    let day := bytes.getD 3 0
    let hour ← checkedPred (bytes.getD 4 0)
    let minute ← checkedPred (bytes.getD 5 0)
    let second ← checkedPred (bytes.getD 6 0)
    return zeroPadded 4 fullYear ++ "-" ++ zeroPadded 2 month.toNat ++ "-" ++
      zeroPadded 2 day.toNat ++ "T" ++ zeroPadded 2 hour.toNat ++ ":" ++
      zeroPadded 2 minute.toNat ++ ":" ++ zeroPadded 2 second.toNat

/-- `OsonDecoder::decode_oracle_timestamp`. -/
def decodeOracleTimestamp (bytes : Bytes) : Except Error String := do
  let dateStr ← decodeOracleDate (← slice bytes 0 7)
  return if bytes.length ≥ 11 then
    let nanos := BigEndian.eval ((bytes.drop 7).take 4)
    dateStr ++ "." ++ zeroPadded 6 (nanos / 1000 : ℕ)
  else
    dateStr

/-- `ALPHABET`. -/
def base64Alphabet : List Char :=
  "ABCDEFGHIJKLMNOPQRSTUVWXYZabcdefghijklmnopqrstuvwxyz0123456789+/".toList

/-- The character for a digit. -/
def base64Char (n : ℕ) : Char := base64Alphabet.getD n 'A'

/-- The characters of `base64_encode`, three bytes after three bytes. -/
def base64Chars : Bytes → List Char
  | [] => []
  | [b0] =>
    [base64Char (b0.toNat >>> 2), base64Char ((b0.toNat &&& 0x03) <<< 4), '=', '=']
  | [b0, b1] =>
    [base64Char (b0.toNat >>> 2), base64Char ((b0.toNat &&& 0x03) <<< 4 ||| b1.toNat >>> 4),
      base64Char ((b1.toNat &&& 0x0f) <<< 2), '=']
  | b0 :: b1 :: b2 :: rest =>
    base64Char (b0.toNat >>> 2) ::
      base64Char ((b0.toNat &&& 0x03) <<< 4 ||| b1.toNat >>> 4) ::
      base64Char ((b1.toNat &&& 0x0f) <<< 2 ||| b2.toNat >>> 6) ::
      base64Char (b2.toNat &&& 0x3f) :: base64Chars rest

/-- `base64_encode`. -/
def base64Encode (data : Bytes) : String := String.ofList (base64Chars data)

/-- A byte in hexadecimal, as `format!` writes it with `02x`. -/
def hexByte (b : UInt8) : String :=
  "0x" ++ String.ofList [Nat.digitChar (b.toNat / 16), Nat.digitChar (b.toNat % 16)]

/-- The extended types: a vector is skipped. -/
def decodeExtended : ReadM Json := do
  let extType ← readU8
  if extType = typeVector then do
    let len ← readU32Be
    let _bytes ← readBytes len.toNat
    return .array []
  else
    throw (.protocolError ("Unsupported extended OSON type: " ++ hexByte extType))

/-- The last arm of `decode_node`: numbers and strings whose length is in the node type. -/
def decodeInline (floats : FloatText) (nodeType : UInt8) : ReadM Json :=
  if nodeType &&& 0xf0 = 0x20 ∨ nodeType &&& 0xf0 = 0x60 then
    decodeOracleNumber floats ((nodeType &&& 0x0f).toNat + 1)
  else if nodeType &&& 0xf0 = 0x40 ∨ nodeType &&& 0xf0 = 0x50 then
    decodeOracleNumber floats (nodeType &&& 0x0f).toNat
  else if nodeType &&& 0xe0 = 0 then
    (if nodeType = 0 then return .string "" else return .string (← readString nodeType.toNat))
  else
    throw (.protocolError ("Unsupported OSON node type: " ++ hexByte nodeType))

/-- The scalar arms of `decode_node`. -/
def decodeScalar (floats : FloatText) (nodeType : UInt8) : ReadM Json :=
  if nodeType = typeNull then return .null
  else if nodeType = typeTrue then return .bool true
  else if nodeType = typeFalse then return .bool false
  else if nodeType = typeStringLenU8 then do
    return .string (← readString (← readU8).toNat)
  else if nodeType = typeStringLenU16 then do
    return .string (← readString (← readU16Be).toNat)
  else if nodeType = typeStringLenU32 then do
    return .string (← readString (← readU32Be).toNat)
  else if nodeType = typeNumberLenU8 then do
    decodeOracleNumber floats (← readU8).toNat
  else if nodeType = typeBinaryDouble then do
    return floats.json (decodeBinaryDouble (← readBytes 8))
  else if nodeType = typeBinaryFloat then do
    return floats.json (widen (decodeBinaryFloat (← readBytes 4)))
  else if nodeType = typeDate ∨ nodeType = typeTimestamp7 then do
    return .string (← liftExcept (decodeOracleDate (← readBytes 7)))
  else if nodeType = typeTimestamp then do
    return .string (← liftExcept (decodeOracleTimestamp (← readBytes 11)))
  else if nodeType = typeTimestampTz then do
    return .string (← liftExcept (decodeOracleTimestamp ((← readBytes 13).take 11)))
  else if nodeType = typeBinaryLenU16 then do
    return .string (base64Encode (← readBytes (← readU16Be).toNat))
  else if nodeType = typeBinaryLenU32 then do
    return .string (base64Encode (← readBytes (← readU32Be).toNat))
  else if nodeType = typeId then do
    return .string (base64Encode (← readBytes (← readU8).toNat))
  else if nodeType = typeExtended then decodeExtended
  else if nodeType = typeIntervalYm ∨ nodeType = typeIntervalDs then
    throw (.protocolError "Interval types not supported in JSON")
  else decodeInline floats nodeType

/-! ## Containers -/

/-- What `parse` has read in front of the tree, for `decode_node`. -/
structure Context where
  /-- the field names -/
  fieldNames : List String
  /-- the number of bytes of a field id -/
  fieldIdLength : ℕ
  /-- where the tree segment begins -/
  treeSegPos : ℕ
  /-- are offsets relative to the container? -/
  relativeOffsets : Bool
deriving DecidableEq, Repr

/-- `get_offset`. -/
def getOffset (nodeType : UInt8) : ReadM UInt32 :=
  if nodeType &&& 0x20 ≠ 0 then readU32Be
  else do
    return (← readU16Be).toUInt32

/-- The number of children, unless it is shared with another node. -/
def readNumChildren (nodeType : UInt8) : ReadM UInt32 :=
  let childrenBits := nodeType &&& 0x18
  if childrenBits = 0x00 then do
    return (← readU8).toUInt32
  else if childrenBits = 0x08 then do
    return (← readU16Be).toUInt32
  else if childrenBits = 0x10 then readU32Be
  else return 0

/-- The name of a field id. -/
def fieldName (fieldNames : List String) (fieldId : ℕ) : String :=
  if 0 < fieldId ∧ fieldId ≤ fieldNames.length then
    fieldNames.getD (fieldId - 1) ""
  else
    "field_" ++ toString fieldId

/-- A field id. -/
def readFieldId (fieldIdLength : ℕ) : ReadM ℕ :=
  if fieldIdLength = 1 then do
    return (← readU8).toNat
  else if fieldIdLength = 2 then do
    return (← readU16Be).toNat
  else do
    return (← readU32Be).toNat

/-- Where the field ids and the offsets of a container are, and how many children it has. -/
structure Layout where
  /-- the position of the field ids -/
  fieldIdsPos : ℕ
  /-- the position of the offsets -/
  offsetsPos : ℕ
  /-- the number of children -/
  numChildren : UInt32
deriving DecidableEq, Repr

/-- The layout of a container: that of another node, or its own. -/
def readLayout (context : Context) (nodeType : UInt8) : ReadM Layout := do
  let numChildren ← readNumChildren nodeType
  if nodeType &&& 0x18 = 0x18 then do
    let offset ← getOffset nodeType
    let localOffsetsPos ← position
    seek (← liftExcept (addUsize context.treeSegPos offset.toNat))
    let sharedNodeType ← readU8
    let numChildren ← readNumChildren sharedNodeType
    return ⟨← position, localOffsetsPos, numChildren⟩
  else if nodeType &&& 0x40 = 0 then do
    let fids ← position
    let offs ← liftExcept (addUsize fids (context.fieldIdLength * numChildren.toNat))
    return ⟨fids, offs, numChildren⟩
  else do
    return ⟨0, ← position, numChildren⟩

/-- What `decode_container` knows about a container when it comes to its children. -/
structure Container where
  /-- `node_type` -/
  nodeType : UInt8
  /-- `container_offset` -/
  containerOffset : ℕ
  /-- the position of the first field id, of the first offset, and the number of children -/
  layout : Layout
deriving DecidableEq, Repr

/-- Is the container an object? -/
def Container.isObject (container : Container) : Bool := container.nodeType &&& 0x40 = 0

/-- The part of `decode_container` in front of its loops. -/
def readContainer (context : Context) (nodeType : UInt8) : ReadM Container := do
  let offset ← liftExcept (subUsize (← position) context.treeSegPos)
  let containerOffset ← liftExcept (subUsize offset 1)
  let layout ← readLayout context nodeType
  if nodeType &&& 0x40 = 0 then
    return ⟨nodeType, containerOffset, layout⟩
  else do
    -- the offsets of an array are behind what has been read last
    return ⟨nodeType, containerOffset, { layout with offsetsPos := ← position }⟩

/-- The name of the field whose id is at a position, and the position behind the id. -/
def readField (context : Context) (fieldIdsPos : ℕ) : ReadM (String × ℕ) := do
  seek fieldIdsPos
  let fieldId ← readFieldId context.fieldIdLength
  return (fieldName context.fieldNames fieldId, ← position)

/-- The position of the child whose offset is at a position, and the position behind the offset. -/
def readChild (context : Context) (container : Container) (offsetsPos : ℕ) : ReadM (ℕ × ℕ) := do
  seek offsetsPos
  let valueOffset ← getOffset container.nodeType
  let offsetsPos ← position
  let actualOffset ←
    (if context.relativeOffsets then
      liftExcept (checkedAdd (UInt32.ofNat container.containerOffset) valueOffset)
    else
      pure valueOffset)
  return (← liftExcept (addUsize context.treeSegPos actualOffset.toNat), offsetsPos)

section Children

variable (context : Context) (decodeNode : ReadM Json) (container : Container)

/-- The loop over the fields of an object. -/
def decodeFields : ℕ → ℕ → ℕ → List (String × Json) → ReadM (List (String × Json))
  | 0, _, _, map => return map
  | n + 1, fieldIdsPos, offsetsPos, map => do
    let (name, fieldIdsPos) ← readField context fieldIdsPos
    let (place, offsetsPos) ← readChild context container offsetsPos
    seek place
    let value ← decodeNode
    decodeFields n fieldIdsPos offsetsPos (Json.mapInsert name value map)

/-- The loop over the items of an array. -/
def decodeItems : ℕ → ℕ → List Json → ReadM (List Json)
  | 0, _, items => return items
  | n + 1, offsetsPos, items => do
    let (place, offsetsPos) ← readChild context container offsetsPos
    seek place
    let value ← decodeNode
    decodeItems n offsetsPos (items ++ [value])

end Children

/-- `decode_container`, with the decoder for the children. -/
def decodeContainer (context : Context) (decodeNode : ReadM Json) (nodeType : UInt8) :
    ReadM Json := do
  let container ← readContainer context nodeType
  let layout := container.layout
  if container.isObject then do
    let fields ← decodeFields context decodeNode container layout.numChildren.toNat
      layout.fieldIdsPos layout.offsetsPos []
    return .object fields
  else do
    let items ← decodeItems context decodeNode container layout.numChildren.toNat
      layout.offsetsPos []
    return .array items

/-- `decode_node`, with a bound on the depth. -/
def decodeNode (floats : FloatText) (context : Context) : ℕ → ReadM Json
  | 0 => throw .stuck
  | fuel + 1 => do
    let nodeType ← readU8
    if nodeType &&& 0x80 ≠ 0 then
      decodeContainer context (decodeNode floats context fuel) nodeType
    else
      decodeScalar floats nodeType

/-! ## The header -/

/-- A field name in the segment of the names, behind a length with `prefixSize` bytes. -/
def fieldNameAt (prefixSize : ℕ) (segment : Bytes) (offset : UInt32) : Except Error String := do
  let nameStart := offset.toNat
  let length ← slice segment nameStart (nameStart + prefixSize)
  let nameLen := BigEndian.eval length
  let nameBytes ← slice segment (nameStart + prefixSize) (nameStart + prefixSize + nameLen)
  return fromUtf8Lossy nameBytes

/-- An offset into the segment of the names. -/
def readNameOffset (offsetsSize : ℕ) : ReadM UInt32 :=
  if offsetsSize = 2 then do
    return (← readU16Be).toUInt32
  else readU32Be

/-- The offsets of field names, behind the hashes of the names, which are skipped. -/
def readNameOffsets (hashSize : ℕ) (numFields : UInt32) (offsetsSize : ℕ) : ReadM (List UInt32) := do
  skip (numFields.toNat * hashSize)
  times (readNameOffset offsetsSize) numFields.toNat

/-- Field names: the offsets of the names, and the segment of the names. -/
def readFieldNames (hashSize prefixSize : ℕ) (numFields : UInt32) (offsetsSize : ℕ)
    (segSize : UInt32) : ReadM (List String) := do
  let offsets ← readNameOffsets hashSize numFields offsetsSize
  let fieldNamesStart ← position
  let data := (← get).data
  let stop ← liftExcept (addUsize fieldNamesStart segSize.toNat)
  let segment ← liftExcept (slice data fieldNamesStart stop)
  seek stop
  liftExcept (offsets.mapM (fieldNameAt prefixSize segment))

/-- `read_short_field_names`. -/
def readShortFieldNames (numFields : UInt32) (offsetsSize : ℕ) (segSize : UInt32) :
    ReadM (List String) :=
  if numFields > 0 then readFieldNames 1 1 numFields offsetsSize segSize else return []

/-- `read_long_field_names`. -/
def readLongFieldNames (numFields : UInt32) (offsetsSize : ℕ) (segSize : UInt32) :
    ReadM (List String) :=
  if numFields > 0 then readFieldNames 2 2 numFields offsetsSize segSize else return []

/-- The number of short field names and the number of bytes of a field id. -/
def readNumFieldNames (primaryFlags : UInt16) : ReadM (UInt32 × ℕ) :=
  if primaryFlags &&& flagNumFnamesUint32 ≠ 0 then do
    return (← readU32Be, 4)
  else if primaryFlags &&& flagNumFnamesUint16 ≠ 0 then do
    return ((← readU16Be).toUInt32, 2)
  else do
    return ((← readU8).toUInt32, 1)

/-- A segment size, with four bytes if the flag is set. -/
def readSegSize (primaryFlags flag : UInt16) : ReadM UInt32 :=
  if primaryFlags &&& flag ≠ 0 then readU32Be
  else do
    return (← readU16Be).toUInt32

/-- What the header says about the field names: their numbers, the number of bytes of a field id and
of the offsets of names, and the sizes of the segments of the names. -/
structure Header where
  /-- `num_short_field_names` -/
  numShort : UInt32
  /-- `field_id_length` -/
  fieldIdLength : ℕ
  /-- `short_field_name_offsets_size` -/
  shortOffsetsSize : ℕ
  /-- `short_field_names_seg_size` -/
  shortSegSize : UInt32
  /-- `num_long_field_names` -/
  numLong : UInt32
  /-- `long_field_name_offsets_size` -/
  longOffsetsSize : ℕ
  /-- `long_field_names_seg_size` -/
  longSegSize : UInt32
deriving DecidableEq, Repr

/-- What the header says about long field names: their number, the number of bytes of an offset, and
the size of their segment. -/
def readLongHeader (version : UInt8) : ReadM (UInt32 × ℕ × UInt32) :=
  if version = versionMaxFname65535 then do
    let secondaryFlags ← readU16Be
    let num ← readU32Be
    let segSize ← readU32Be
    return (num, if secondaryFlags &&& flagSecFnamesSegUint16 ≠ 0 then 2 else 4, segSize)
  else
    return (0, 0, 0)

/-- The header of a document that is not a scalar. -/
def readHeader (version : UInt8) (primaryFlags : UInt16) : ReadM Header := do
  let (numShort, fieldIdLength) ← readNumFieldNames primaryFlags
  let shortSegSize ← readSegSize primaryFlags flagFnamesSegUint32
  let shortOffsetsSize := if primaryFlags &&& flagFnamesSegUint32 ≠ 0 then 4 else 2
  let (numLong, longOffsetsSize, longSegSize) ← readLongHeader version
  let _treeSegSize ← readSegSize primaryFlags flagTreeSegUint32
  let _numTinyNodes ← readU16Be
  return ⟨numShort, fieldIdLength, shortOffsetsSize, shortSegSize, numLong, longOffsetsSize,
    longSegSize⟩

/-- The short field names that the header announces. -/
def Header.readShortNames (header : Header) : ReadM (List String) :=
  readShortFieldNames header.numShort header.shortOffsetsSize header.shortSegSize

/-- The long field names that the header announces. -/
def Header.readLongNames (header : Header) : ReadM (List String) :=
  readLongFieldNames header.numLong header.longOffsetsSize header.longSegSize

/-- The part of `parse` for documents that are not scalars: everything up to the tree segment. -/
def readDictionary (version : UInt8) (primaryFlags : UInt16) : ReadM Context := do
  let header ← readHeader version primaryFlags
  let shortNames ← header.readShortNames
  let longNames ← header.readLongNames
  return {
    fieldNames := shortNames ++ longNames
    fieldIdLength := header.fieldIdLength
    treeSegPos := ← position
    relativeOffsets := primaryFlags &&& flagRelOffsetMode ≠ 0 }

/-- The part of `parse` for scalars: the size of the tree segment is skipped. -/
def skipScalarHeader (primaryFlags : UInt16) : ReadM Context := do
  skip (if primaryFlags &&& flagTreeSegUint32 ≠ 0 then 4 else 2)
  return {
    fieldNames := []
    fieldIdLength := 1
    treeSegPos := 0
    relativeOffsets := primaryFlags &&& flagRelOffsetMode ≠ 0 }

/-- `parse` up to the version and the primary flags. -/
def readFlags : ReadM (UInt8 × UInt16) := do
  let data := (← get).data
  require (4 ≤ data.length) (.protocolError "OSON data too short")
  require (data.take 3 = magicBytes) (.protocolError "Invalid OSON magic bytes")
  seek 3
  let version ← readU8
  require (version = versionMaxFname255 ∨ version = versionMaxFname65535)
    (.protocolError ("Unsupported OSON version: " ++ toString version))
  return (version, ← readU16Be)

/-- `parse` up to the root node. -/
def readContext : ReadM Context := do
  let (version, primaryFlags) ← readFlags
  if primaryFlags &&& flagIsScalar ≠ 0 then skipScalarHeader primaryFlags
  else readDictionary version primaryFlags

/-- `parse`. -/
def parse (floats : FloatText) (fuel : ℕ) : ReadM Json := do
  decodeNode floats (← readContext) fuel

/-- `OsonDecoder::decode`, with a bound on the depth. -/
def decode (floats : FloatText) (fuel : ℕ) (data : Bytes) : Except Error Json :=
  (parse floats fuel).runOn data

end OracleRs.Oson
