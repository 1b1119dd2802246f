import OracleRs.Buffer.Write
import OracleRs.Types.Value

set_option relaxedAutoImplicit false
set_option autoImplicit false

/-!
# Bind values

How `messages/execute.rs` writes the bind values of an execute message: `write_bind_value` with
`write_collection_with_data`, and the metadata that is inferred for a value. Every kind of value
has a length convention of its own.

The encoders for JSON documents, vectors and collections are a parameter.

## Main definitions

* `OracleRs.Encoders` — the encoders for JSON documents, vectors and collections.
* `OracleRs.inferBindMetadata` — the metadata of a bind value.
* `OracleRs.writeBindValue`, `OracleRs.writeBindRow` — a bind value, and the values of a row.
-/

namespace OracleRs

/-- The encoders for JSON documents (`OsonEncoder`), vectors (`types/vector.rs`) and collections
(`types/pickle.rs`). -/
structure Encoders where
  /-- `OsonEncoder::encode` -/
  encodeOson : Json → Except Error Bytes
  /-- `encode_vector` -/
  encodeVector : OracleVector → Bytes
  /-- `encode_collection` -/
  encodeCollection : DbObject → DbObjectType → Except Error Bytes

/-- Encoders that encode nothing. -/
def Encoders.rejecting : Encoders where
  encodeOson _ := .error (.dataConversionError "no document")
  encodeVector _ := []
  encodeCollection _ _ := .error (.dataConversionError "no collection")

/-- A computation that may fail, as an operation that writes nothing. -/
def WriteM.ofExcept {α : Type} : Except Error α → WriteM α
  | .ok a => pure a
  | .error e => throw e

/-! ## Metadata -/

/-- `LOB_PREFETCH_FLAG`. -/
def lobPrefetchFlag : UInt64 := 0x2000000

/-- What is declared about a bind: its type, buffer size, character set form and flags. -/
structure BindDescription where
  /-- the data type -/
  oracleType : OracleType
  /-- the buffer size -/
  bufferSize : UInt32
  /-- the character set form -/
  csfrm : UInt8
  /-- the continuation flags -/
  contFlag : UInt64
deriving DecidableEq, Repr

/-- The character set form of a declared type. -/
def csfrmOf : OracleType → UInt8
  | .varchar | .char | .long | .clob | .json => 1
  | _ => 0

/-- The continuation flags of a declared type. -/
def contFlagOf : OracleType → UInt64
  | .clob | .blob | .json | .vector => lobPrefetchFlag
  | _ => 0

/-- `infer_bind_metadata`. -/
def inferBindMetadata (value : Value) (maxSize : UInt32) : BindDescription :=
  match value with
  | .null => ⟨.varchar, 1, 1, 0⟩
  | .typedNull oracleType =>
    ⟨oracleType, max (max oracleType.defaultBindBufferSize maxSize) 1, csfrmOf oracleType,
      contFlagOf oracleType⟩
  | .integer _ => ⟨.number, 22, 0, 0⟩
  | .float _ => ⟨.binaryDouble, 8, 0, 0⟩
  | .string _ => ⟨.varchar, max maxSize 1, 1, 0⟩
  | .bytes _ => ⟨.raw, max maxSize 1, 0, 0⟩
  | .boolean _ => ⟨.boolean, 1, 0, 0⟩
  | .number _ => ⟨.number, 22, 0, 0⟩
  | .timestamp _ => ⟨.timestamp, 13, 0, 0⟩
  | .date _ => ⟨.date, 7, 0, 0⟩
  | .intervalYM _ => ⟨.intervalYm, 5, 0, 0⟩
  | .intervalDS _ => ⟨.intervalDs, 11, 0, 0⟩
  | .rowId _ => ⟨.varchar, 18, 1, 0⟩
  | .lob lobValue =>
    let oracleType := match lobValue with
      | .locator loc => loc.oracleType
      | _ => .clob
    ⟨oracleType, 112, if oracleType = .blob then 0 else 1, lobPrefetchFlag⟩
  | .json _ => ⟨.json, max maxSize 100, 1, lobPrefetchFlag⟩
  | .vector _ => ⟨.vector, max maxSize 100, 0, lobPrefetchFlag⟩
  | .cursor _ => ⟨.cursor, 0, 0, 0⟩
  | .collection _ => ⟨.object, 0, 0, 0⟩

/-! ## Values -/

/-- `buf.write_u8(bytes.len() as u8)?; buf.write_bytes(bytes)?`. -/
def writeShort (bytes : Bytes) : WriteM Unit := do
  writeU8 (UInt8.ofNat bytes.length)
  writeBytes bytes

/-- The bytes of a string or byte string: NULL if there are none, behind a length byte if they are
few, and else behind the long indicator and their number. -/
def writeText (bytes : Bytes) : WriteM Unit :=
  if bytes = [] then writeU8 0
  else if bytes.length ≤ 252 then writeShort bytes
  else do
    writeU8 254
    writeUb4 (UInt32.ofNat bytes.length)
    writeBytes bytes

/-- The descriptor of 40 bytes in front of JSON documents and vectors (a QLocator), and the data
behind its length. -/
def writeQLocator (data : Bytes) : WriteM Unit := do
  writeUb4 40 -- length of the descriptor
  writeU8 40 -- chunk length
  writeU16Be 38 -- length without these two bytes
  writeU16Be 4 -- version
  writeU8 0x61 -- value-based, BLOB, abstract
  writeU8 0x08 -- initialised
  writeU16Be 0
  writeU16Be 1
  writeU64Be (UInt64.ofNat data.length)
  writeU16Be 0
  writeU16Be 0
  writeU16Be 0
  writeU64Be 0
  writeU64Be 0
  if data.length < 254 then
    writeU8 (UInt8.ofNat data.length)
  else if data.length ≤ 65535 then
    writeU8 254
    writeU16Be (UInt16.ofNat data.length)
  else
    writeU8 255
    writeU32Be (UInt32.ofNat data.length)
  writeBytes data

/-! ## Collections -/

/-- `obj_flags::TOP_LEVEL`. -/
def topLevel : UInt8 := 0x01

/-- `obj_flags::EXTENT_OID`. -/
def extentOid : Bytes := [0, 0, 0, 0, 0, 0, 0, 0, 0, 0, 0, 0, 0, 1, 0, 1]

/-- The type identifier of a collection: `obj_flags::TOID_PREFIX`, `NON_NULL_OID`,
`HAS_EXTENT_OID`, the OID of the type and `EXTENT_OID`. -/
def collectionToid (typeOid : Bytes) : Bytes := [0x00, 0x22, 0x02, 0x08] ++ typeOid ++ extentOid

lemma length_collectionToid (typeOid : Bytes) :
    (collectionToid typeOid).length = typeOid.length + 20 := by
  simp only [collectionToid, extentOid, List.length_append, List.length_cons, List.length_nil]
  omega

/-- The type of a collection from the attributes that the driver keeps in it. -/
def DbObject.collectionType (collection : DbObject) : DbObjectType where
  schema := ((collection.get "_type_schema").bind Value.asStr).getD ""
  name := ((collection.get "_type_name").bind Value.asStr).getD ""
  collectionType :=
    match ((collection.get "_collection_type").bind Value.asI64).getD 3 with
    | 1 => .plsqlIndexTable
    | 2 => .nestedTable
    | _ => .varray
  elementType :=
    (((collection.get "_element_type").bind Value.asI64).bind fun c =>
      OracleType.tryFrom c.toUInt64.toUInt8).getD .varchar

/-- `write_collection_with_data`. -/
def writeCollectionWithData (encoders : Encoders) (collection : DbObject) : WriteM Unit := do
  let some typeOid := (collection.get "_type_oid").bind Value.asBytes
    | throw (.protocol "Collection missing type OID for IN binding")
  let toid := collectionToid typeOid
  let packedData ← WriteM.ofExcept (encoders.encodeCollection collection collection.collectionType)
  writeUb4 (UInt32.ofNat toid.length)
  writeBytesWithLength (some toid)
  writeUb4 0 -- OID
  writeUb4 0 -- snapshot
  writeUb4 0 -- version
  writeUb4 (UInt32.ofNat packedData.length)
  writeUb4 topLevel.toUInt32
  writeBytesWithLength (some packedData)

/-- `write_bind_value`. -/
def writeBindValue (encoders : Encoders) : Value → WriteM Unit
  | .null | .typedNull _ => writeU8 0
  | .integer n => do
    let encoded ← WriteM.ofExcept (encodeOracleNumber (toString n.toInt))
    writeShort encoded
  | .float bits => do
    writeU8 8
    writeBytes (encodeBinaryDouble bits)
  | .number n => do
    let encoded ← WriteM.ofExcept (encodeOracleNumber n.value)
    writeShort encoded
  | .string s => writeText (asBytes s)
  | .bytes b => writeText b
  | .boolean b => do
    writeU8 2
    writeU8 (if b then 1 else 0)
  | .timestamp ts => writeShort ts.toOracleBytes
  | .date d => writeShort d.toOracleBytes
  | .intervalYM interval => writeShort (encodeOracleIntervalYm interval)
  | .intervalDS interval => writeShort (encodeOracleIntervalDs interval)
  | .rowId r =>
    match r.toText with
    | some s => writeShort (asBytes s)
    | none => writeU8 0
  | .lob (.locator locator) => do
    writeUb4 (UInt32.ofNat locator.locator.length)
    writeBytesWithLength (some locator.locator)
  | .lob _ => writeU8 0
  | .json json =>
    match encoders.encodeOson json with
    | .ok data => writeQLocator data
    | .error _ => writeU8 0
  | .vector vector => writeQLocator (encoders.encodeVector vector)
  | .cursor cursor =>
    if cursor.cursorId = 0 then do
      writeU8 1
      writeU8 0
    else do
      writeUb4 1
      writeUb4 cursor.cursorId.toUInt32
  | .collection collection =>
    if collection.elements.isEmpty then do
      writeUb4 0 -- TOID
      writeUb4 0 -- OID
      writeUb4 0 -- snapshot
      writeUb2 0 -- version
      writeUb4 0 -- packed data
      writeUb4 topLevel.toUInt32
    else
      writeCollectionWithData encoders collection

/-- The values of a row, one after the other. -/
def writeBindRow (encoders : Encoders) (row : List Value) : WriteM Unit :=
  row.forM (writeBindValue encoders)

end OracleRs
