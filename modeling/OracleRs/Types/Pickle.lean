import OracleRs.Buffer.Write
import OracleRs.Types.Integer
import OracleRs.Types.Value

set_option relaxedAutoImplicit false
set_option autoImplicit false

/-!
# The image of a collection

The pickle format of `types/pickle.rs`, in which collections are bound and fetched: a header with
the size of the image, the kind of the collection, and the elements, each behind its length. The
entries of an index-by table have their index in front.

## Main definitions

* `OracleRs.encodeValue`, `OracleRs.decodeValue` — one element.
* `OracleRs.encodeCollection`, `OracleRs.decodeCollection` — a collection.
-/

namespace OracleRs

open Cursor

/-! ## Lengths -/

/-- `obj_flags::MAX_SHORT_LENGTH`. -/
def maxShortLength : ℕ := 245

/-- `obj_flags::ATOMIC_NULL`. -/
def atomicNull : UInt8 := 253

/-- `write_length`. -/
def writeLength (len : ℕ) : WriteM Unit :=
  if len ≤ maxShortLength then writeU8 (UInt8.ofNat len)
  else do
    writeU8 longIndicator
    writeU32Be (UInt32.ofNat len)

/-- `read_length`. -/
def readLength : ReadM UInt32 := do
  let shortLen ← readU8
  if shortLen = longIndicator then
    readU32Be
  else
    return shortLen.toUInt32

/-- `skip_length`. -/
def skipLength : ReadM Unit := do
  let shortLen ← readU8
  if shortLen = longIndicator then
    skip 4

/-! ## Elements -/

/-- The texts that the standard library makes of values: the decimal text of a floating-point
number (`f64::to_string`) and the debug text of a value (`{:?}`). -/
structure Rendering where
  /-- `f64::to_string` -/
  float : UInt64 → String
  /-- `format!("{:?}", value)` -/
  debug : Value → String

/-- A rendering without any texts. -/
def Rendering.blank : Rendering := ⟨fun _ => "", fun _ => ""⟩

/-- `write_length(buf, bytes.len())?; buf.write_bytes(bytes)?`. -/
def writeSized (bytes : Bytes) : WriteM Unit := do
  writeLength bytes.length
  writeBytes bytes

/-- `encode_oracle_number` of a text, behind its length. -/
def writeNumber (text : String) : WriteM Unit :=
  match encodeOracleNumber text with
  | .ok encoded => writeSized encoded
  | .error e => throw e

/-- `encode_value`. -/
def encodeValue (rendering : Rendering) (value : Value) (oracleType : OracleType) : WriteM Unit :=
  match value with
  | .null | .typedNull _ => writeU8 nullIndicator
  | .string s => writeSized (asBytes s)
  | .integer n =>
    match oracleType with
    | .binaryInteger => do
      writeU8 4
      writeU32Be n.toUInt64.toUInt32
    | _ => writeNumber (toString n.toInt)
  | .float bits =>
    match oracleType with
    | .binaryDouble => do
      writeU8 8
      writeBytes (encodeBinaryDouble bits)
    | .binaryFloat => do
      writeU8 4
      writeBytes (encodeBinaryFloat (narrow bits))
    | _ => writeNumber (rendering.float bits)
  | .number n => writeNumber n.value
  | .bytes b => writeSized b
  | .boolean b => do
    writeU8 4
    writeU32Be (if b then 1 else 0)
  | .date d => writeSized d.toOracleBytes
  | .timestamp ts => writeSized ts.toOracleBytes
  | .intervalYM interval => writeSized (encodeOracleIntervalYm interval)
  | .intervalDS interval => writeSized (encodeOracleIntervalDs interval)
  | .rowId _ | .lob _ | .json _ | .vector _ | .cursor _ | .collection _ =>
    throw (.dataConversionError
      ("Type " ++ rendering.debug value ++ " not supported in collections"))

/-- The decoding of the `len` bytes of an element that is not NULL, at the end of
`decode_value`. -/
def decodeSized (oracleType : OracleType) (len : ℕ) : ReadM Value := do
  match oracleType with
  | .varchar | .char =>
    match fromUtf8 (← readBytesVec len) with
    | some s => return .string s
    | none => throw (.dataConversionError "Invalid UTF-8")
  | .number => return numberValue (← liftExcept (decodeOracleNumber (← readBytesVec len)))
  | .binaryInteger =>
    if len ≥ 4 then
      let value ← readU32Be
      if len > 4 then
        skip (len - 4)
      return .integer (Int64.ofNat value.toNat)
    else
      skip len
      return .null
  | .raw => return .bytes (← readBytesVec len)
  | .binaryDouble =>
    if len = 8 then
      return .float (decodeBinaryDouble (← readBytesVec 8))
    else
      skip len
      return .null
  | .binaryFloat =>
    if len = 4 then
      return .float (widen (decodeBinaryFloat (← readBytesVec 4)))
    else
      skip len
      return .null
  | .boolean =>
    if len ≥ 4 then
      -- the bytes behind the first four are not skipped
      return .boolean ((← readU32Be) ≠ 0)
    else
      let bytes ← readBytesVec len
      return .boolean (bytes.getLastD 0 ≠ 0)
  | .date => return .date (← liftExcept (decodeOracleDate (← readBytesVec len)))
  | .timestamp | .timestampTz | .timestampLtz =>
    return .timestamp (← liftExcept (decodeOracleTimestamp (← readBytesVec len)))
  | .intervalYm => return .intervalYM (← liftExcept (decodeOracleIntervalYm (← readBytesVec len)))
  | .intervalDs => return .intervalDS (← liftExcept (decodeOracleIntervalDs (← readBytesVec len)))
  | _ => return .bytes (← readBytesVec len)

/-- `decode_value`. -/
def decodeValue (oracleType : OracleType) : ReadM Value := do
  let firstByte ← readU8
  if firstByte = atomicNull ∨ firstByte = nullIndicator then
    return .null
  let len ← if firstByte = longIndicator then do pure (← readU32Be).toNat else pure firstByte.toNat
  if len = 0 then
    return .null
  decodeSized oracleType len

/-! ## Collections -/

/-- `DbObjectType::full_name` of a type without a package. -/
def DbObjectType.fullName (objType : DbObjectType) : String := objType.schema ++ "." ++ objType.name

/-- The code of a kind of collection (`constants::collection_type`). -/
def CollectionType.code : CollectionType → UInt8
  | plsqlIndexTable => 1
  | nestedTable => 2
  | varray => 3

/-- An element with the index in front of it that an entry of an index-by table has. -/
def writeElement (rendering : Rendering) (objType : DbObjectType) (element : Value × ℕ) :
    WriteM Unit := do
  if objType.collectionType = .plsqlIndexTable then
    writeU32Be (UInt32.ofNat element.2)
  encodeValue rendering element.1 objType.elementType

/-- The image of a collection, with zero for its size. -/
def writeImage (rendering : Rendering) (obj : DbObject) (objType : DbObjectType) : WriteM Unit := do
  writeU8 0x88 -- flags: version 8.1, collection
  writeU8 1 -- version of the image
  writeU8 longIndicator
  writeU32Be 0 -- place for the size
  writeU8 1 -- prefix segment: its length
  writeU8 1
  writeU8 objType.collectionType.code
  writeLength obj.elements.length
  obj.elements.zipIdx.forM (writeElement rendering objType)

/-- `encode_collection`: the size of the image is filled in at the end. -/
def encodeCollection (rendering : Rendering) (obj : DbObject) (objType : DbObjectType) :
    Except Error Bytes :=
  match writeImage rendering obj objType Sink.empty with
  | .ok _ buf => .ok (buf.data.take 3 ++
      BigEndian.digits 4 (UInt32.ofNat buf.data.length).toNat ++ buf.data.drop 7)
  | .error e _ => .error e

/-- The prefix segment, in `read_header`: two bytes are skipped if the first of them is one. -/
def skipPrefixSegment : ReadM Unit := do
  let buf ← get
  if buf.remaining > 0 then
    if buf.data.getD buf.pos 0 = 1 then
      if buf.remaining ≥ 2 then
        skip 1
        skip 1

/-- `read_header`: the flags and the version. -/
def readHeader : ReadM (UInt8 × UInt8) := do
  let flags ← readU8
  let version ← readU8
  skipLength
  if flags &&& 0x10 ≠ 0 then
    throw (.dataConversionError "DbObject stored in LOB is not supported")
  skipPrefixSegment
  return (flags, version)

/-- An element, behind its index in an index-by table. -/
def readElement (objType : DbObjectType) : ReadM Value := do
  if objType.collectionType = .plsqlIndexTable then
    let _index ← readU32Be
  decodeValue objType.elementType

/-- The image of a collection. -/
def readImage (objType : DbObjectType) : ReadM DbObject := do
  let _header ← readHeader
  let _collectionType ← readU8
  let numElements ← readLength
  let elements ← times (readElement objType) numElements.toNat
  return .collection objType.fullName elements

/-- `decode_collection`. -/
def decodeCollection (objType : DbObjectType) (data : Bytes) : Except Error DbObject :=
  if data = [] then .ok (.collection objType.fullName []) else (readImage objType).runOn data

end OracleRs
