import OracleRs.Buffer.Size
import OracleRs.Messages.Execute

set_option relaxedAutoImplicit false
set_option autoImplicit false

/-!
# Sizes of execute messages

The number of bytes of an execute message, from the sizes of the text of the statement, of the values
and of the fixed fields. Where the writer succeeds, it has appended exactly as many bytes.

## Main definitions

* `OracleRs.bindValueSize` — the size of a bind value.
* `OracleRs.ExecuteMessage.size` — the size of an execute message.

## Main results

* `OracleRs.ExecuteMessage.grows_writeMessage` — the message is written in as many bytes.
-/

namespace OracleRs

open Sink (Grows Yields)

/-- What is left in a new buffer has the properties of what the writer appends. -/
lemma WriteM.of_freeze {m : WriteM Unit} {payload : Bytes} {P : Bytes → Prop}
    (h : m.freeze = .ok payload) (hm : Yields m P) : P payload := by
  unfold freeze at h
  cases hrun : m Sink.empty with
  | error e s => rw [hrun] at h; cases h
  | ok a s =>
    rw [hrun] at h
    cases h
    obtain ⟨b, rfl, hP⟩ := hm Sink.empty a s rfl hrun
    exact hP

/-! ## Bind values -/

/-- The size of a text or byte string. -/
def textSize (bytes : Bytes) : ℕ :=
  if bytes = [] then 1
  else if bytes.length ≤ 252 then 1 + bytes.length
  else 1 + (ubSize (bytes.length % 2 ^ 32) + bytes.length)

/-- The size of a JSON document or vector that is encoded in `n` bytes, with its descriptor. -/
def qLocatorSize (n : ℕ) : ℕ :=
  43 + (if n < 254 then 1 else if n ≤ 65535 then 3 else 5) + n

/-- The number of encoded bytes, zero if the encoder refuses. -/
def encodedLength : Except Error Bytes → ℕ
  | .ok bytes => bytes.length
  | .error _ => 0

/-- The size of a collection that is not empty. -/
def collectionSize (encoders : Encoders) (collection : DbObject) : ℕ :=
  let toidLen := 20 + (((collection.get "_type_oid").bind Value.asBytes).getD []).length
  let packedLen := encodedLength (encoders.encodeCollection collection collection.collectionType)
  ubSize (toidLen % 2 ^ 32) + bytesWithLengthSize toidLen + 5 + ubSize (packedLen % 2 ^ 32) +
    bytesWithLengthSize packedLen

/-- The size of a bind value. -/
def bindValueSize (encoders : Encoders) : Value → ℕ
  | .null | .typedNull _ => 1
  | .integer n => 1 + encodedLength (encodeOracleNumber (toString n.toInt))
  | .float _ => 9
  | .number n => 1 + encodedLength (encodeOracleNumber n.value)
  | .string s => textSize (asBytes s)
  | .bytes b => textSize b
  | .boolean _ => 2
  | .timestamp ts => 1 + ts.toOracleBytes.length
  | .date d => 1 + d.toOracleBytes.length
  | .intervalYM _ => 6
  | .intervalDS _ => 12
  | .rowId r => 1 + ((r.toText.map asBytes).getD []).length
  | .lob (.locator locator) =>
    ubSize (locator.locator.length % 2 ^ 32) + bytesWithLengthSize locator.locator.length
  | .lob _ => 1
  | .json json =>
    match encoders.encodeOson json with
    | .ok data => qLocatorSize data.length
    | .error _ => 1
  | .vector vector => qLocatorSize (encoders.encodeVector vector).length
  | .cursor cursor => if cursor.cursorId = 0 then 2 else 2 + ubSize cursor.cursorId.toNat
  | .collection collection =>
    if collection.elements.isEmpty then 7 else collectionSize encoders collection

lemma grows_writeShort (bytes : Bytes) : Grows (writeShort bytes) (1 + bytes.length) :=
  (grows_writeU8 _).bind fun _ => grows_writeBytes bytes

lemma grows_writeUb4_ofNat (n : ℕ) : Grows (writeUb4 (UInt32.ofNat n)) (ubSize (n % 2 ^ 32)) := by
  simpa using grows_writeUb4 (UInt32.ofNat n)

lemma grows_writeText (bytes : Bytes) : Grows (writeText bytes) (textSize bytes) := by
  refine (grows_writeU8 0).ite ((grows_writeShort bytes).ite ?_)
  exact (grows_writeU8 254).bind fun _ =>
    (grows_writeUb4_ofNat bytes.length).bind fun _ => grows_writeBytes bytes

lemma grows_writeQLocator (data : Bytes) :
    Grows (writeQLocator data) (qLocatorSize data.length) := by
  have hbytes := grows_writeBytes data
  have hlength : Grows
      (if data.length < 254 then do
        let r ← writeU8 (UInt8.ofNat data.length)
        (fun _ => writeBytes data) r
      else if data.length ≤ 65535 then do
        writeU8 254
        let r ← writeU16Be (UInt16.ofNat data.length)
        (fun _ => writeBytes data) r
      else do
        writeU8 255
        let r ← writeU32Be (UInt32.ofNat data.length)
        (fun _ => writeBytes data) r)
      ((if data.length < 254 then 1 else if data.length ≤ 65535 then 3 else 5) + data.length) := by
    split_ifs
    · exact (grows_writeU8 _).bind fun _ => hbytes
    · exact ((grows_writeU8 _).bind fun _ => (grows_writeU16Be _).bind fun _ => hbytes).congr
        (by omega)
    · exact ((grows_writeU8 _).bind fun _ => (grows_writeU32Be _).bind fun _ => hbytes).congr
        (by omega)
  have hall := (grows_writeUb4 40).bind fun _ => (grows_writeU8 40).bind fun _ =>
    (grows_writeU16Be 38).bind fun _ => (grows_writeU16Be 4).bind fun _ =>
    (grows_writeU8 0x61).bind fun _ => (grows_writeU8 0x08).bind fun _ =>
    (grows_writeU16Be 0).bind fun _ => (grows_writeU16Be 1).bind fun _ =>
    (grows_writeU64Be (UInt64.ofNat data.length)).bind fun _ => (grows_writeU16Be 0).bind fun _ =>
    (grows_writeU16Be 0).bind fun _ => (grows_writeU16Be 0).bind fun _ =>
    (grows_writeU64Be 0).bind fun _ => (grows_writeU64Be 0).bind fun _ => hlength
  refine Grows.congr hall ?_
  have hforty : ubSize (UInt32.toNat 40) = 2 := rfl
  rw [hforty, qLocatorSize]
  omega

/-- What is written with the encoded bytes, if the encoder does not refuse. -/
lemma grows_ofExcept_bind {r : Except Error Bytes} {f : Bytes → WriteM Unit} {n : ℕ}
    (h : ∀ bytes, r = .ok bytes → Grows (f bytes) n) : Grows (WriteM.ofExcept r >>= f) n := by
  cases r with
  | error e =>
    intro s a s' _ hm
    cases hm
  | ok bytes => exact ((Grows.pure bytes).bind fun _ => h bytes rfl).congr (Nat.zero_add n)

lemma grows_ofExcept_writeShort (r : Except Error Bytes) :
    Grows (WriteM.ofExcept r >>= writeShort) (1 + encodedLength r) := by
  refine grows_ofExcept_bind fun bytes hr => ?_
  rw [hr]
  exact grows_writeShort bytes

lemma grows_writeCollectionWithData (encoders : Encoders) (collection : DbObject) :
    Grows (writeCollectionWithData encoders collection) (collectionSize encoders collection) := by
  unfold writeCollectionWithData collectionSize
  cases hoid : (collection.get "_type_oid").bind Value.asBytes with
  | none => exact Grows.throw _ _
  | some typeOid =>
    refine grows_ofExcept_bind fun packedData hpacked => ?_
    rw [hpacked]
    simp only [Option.getD_some, encodedLength, Nat.add_comm 20, ← length_collectionToid]
    refine Grows.congr ((grows_writeUb4_ofNat _).bind fun _ =>
      (grows_writeBytesWithLength _).bind fun _ => grows_writeUb4_zero.bind fun _ =>
      grows_writeUb4_zero.bind fun _ => grows_writeUb4_zero.bind fun _ =>
      (grows_writeUb4_ofNat _).bind fun _ => (grows_writeUb4 topLevel.toUInt32).bind fun _ =>
      grows_writeBytesWithLength _) ?_
    have htop : ubSize topLevel.toUInt32.toNat = 2 := rfl
    omega

/-- A bind value is written in as many bytes. -/
lemma grows_writeBindValue (encoders : Encoders) (v : Value) :
    Grows (writeBindValue encoders v) (bindValueSize encoders v) := by
  cases v with
  | null | typedNull _ => exact grows_writeU8 0
  | integer n => exact grows_ofExcept_writeShort _
  | number n => exact grows_ofExcept_writeShort _
  | float bits =>
    have hbytes := grows_writeBytes (encodeBinaryDouble bits)
    rw [length_encodeBinaryDouble] at hbytes
    exact (grows_writeU8 8).bind fun _ => hbytes
  | string s => exact grows_writeText _
  | bytes b => exact grows_writeText b
  | boolean b => exact (grows_writeU8 2).bind fun _ => grows_writeU8 _
  | timestamp ts => exact grows_writeShort _
  | date d => exact grows_writeShort _
  | intervalYM interval => exact grows_writeShort _
  | intervalDS interval => exact grows_writeShort _
  | rowId r =>
    simp only [writeBindValue, bindValueSize]
    cases r.toText with
    | none => exact grows_writeU8 0
    | some s => exact grows_writeShort _
  | lob lob =>
    cases lob with
    | locator locator =>
      exact (grows_writeUb4_ofNat _).bind fun _ => grows_writeBytesWithLength _
    | inline _ | empty | null => exact grows_writeU8 0
  | json json =>
    simp only [writeBindValue, bindValueSize]
    cases encoders.encodeOson json with
    | error _ => exact grows_writeU8 0
    | ok data => exact grows_writeQLocator data
  | vector vector => exact grows_writeQLocator _
  | cursor cursor =>
    refine Grows.ite ((grows_writeU8 1).bind fun _ => grows_writeU8 0) ?_
    exact (grows_writeUb4 1).bind fun _ => grows_writeUb4 _
  | collection collection =>
    refine Grows.ite ?_ (grows_writeCollectionWithData encoders collection)
    exact grows_writeUb4_zero.bind fun _ => grows_writeUb4_zero.bind fun _ =>
      grows_writeUb4_zero.bind fun _ => (grows_writeUb2 0).bind fun _ =>
      grows_writeUb4_zero.bind fun _ => grows_writeUb4 _

/-- The size of a row of bind values. -/
def bindRowSize (encoders : Encoders) (row : List Value) : ℕ :=
  (row.map (bindValueSize encoders)).sum

lemma grows_writeBindRow (encoders : Encoders) (row : List Value) :
    Grows (writeBindRow encoders row) (bindRowSize encoders row) :=
  Grows.forM row fun v _ => grows_writeBindValue encoders v

/-! ## Fixed fields -/

/-- The size of the start of a request. -/
def functionHeaderSize (caps : Capabilities) : ℕ := 3 + if caps.ttcFieldVersion ≥ 18 then 1 else 0

/-- The size of a pointer with a number behind it. -/
def countedSize (present : Bool) (count : UInt32) : ℕ :=
  if present then 1 + ubSize count.toNat else 2

lemma grows_writeFunctionHeader (caps : Capabilities) (function : FunctionCode)
    (sequenceNumber : UInt8) :
    Grows (writeFunctionHeader caps function sequenceNumber) (functionHeaderSize caps) := by
  have htoken := (grows_writeUb8 0).ite (c := caps.ttcFieldVersion ≥ 18) (Grows.pure ())
  have hzero : ubSize (UInt64.toNat 0) = 1 := rfl
  rw [hzero] at htoken
  refine Grows.congr ((grows_writeU8 _).bind fun _ => (grows_writeU8 _).bind fun _ =>
    (grows_writeU8 _).bind fun _ => htoken) ?_
  rw [functionHeaderSize]
  omega

lemma grows_writeCounted (present : Bool) (count : UInt32) :
    Grows (writeCounted present count) (countedSize present count) :=
  ((grows_writeU8 1).bind fun _ => grows_writeUb4 count).ite
    ((grows_writeU8 0).bind fun _ => grows_writeUb4_zero)

namespace ExecuteMessage

variable (serializers : Serializers) (caps : Capabilities) (msg : ExecuteMessage)

/-- The size of the full message up to the binds. -/
def headSize : ℕ :=
  functionHeaderSize caps + ubSize msg.execOpts.toNat + ubSize msg.statement.cursorId.toNat +
    countedSize msg.parses (UInt32.ofNat msg.statement.sqlBytes.length) +
    ubSize msg.numIters.toNat + 11

/-- The size of the fields between the number of binds and the text of the statement. -/
def middleSize : ℕ :=
  countedSize msg.statement.requiresDefine (UInt32.ofNat msg.statement.columns.length) +
    countedSize msg.options.dmlRowCounts msg.options.numExecs + 14 +
    if caps.ttcFieldVersion ≥ fieldVersion12_2 then
      5 + if caps.ttcFieldVersion ≥ 9 then 2 else 0
    else 0

/-- The size of the text of the statement with the first number of the array. -/
def sqlSize : ℕ :=
  if msg.parses then bytesWithLengthSize msg.statement.sqlBytes.length + 2 else 1

/-- The size of the other numbers of the array. -/
def arraySize : ℕ :=
  ubSize msg.executionCount.toNat + (if msg.statement.isQuery then 2 else 1) +
    ubSize msg.execFlgs.toNat + ubSize msg.fetchPosition.1.toNat +
    ubSize msg.fetchPosition.2.toNat + 7

lemma grows_writeHead : Grows (msg.writeHead caps) (msg.headSize caps) := by
  refine Grows.congr ((grows_writeFunctionHeader _ _ _).bind fun _ =>
    (grows_writeUb4 msg.execOpts).bind fun _ => (grows_writeUb4 _).bind fun _ =>
    (grows_writeCounted _ _).bind fun _ => (grows_writeU8 1).bind fun _ =>
    (grows_writeUb4 13).bind fun _ => (grows_writeU8 0).bind fun _ => (grows_writeU8 0).bind fun _ =>
    grows_writeUb4_zero.bind fun _ => (grows_writeUb4 msg.numIters).bind fun _ =>
    grows_writeUb4 maxLongLength) ?_
  have hlength : ubSize (UInt32.toNat 13) = 2 := rfl
  have hlong : ubSize maxLongLength.toNat = 5 := rfl
  rw [hlength, hlong, headSize, UInt16.toNat_toUInt32]
  omega

lemma grows_writeNumParams :
    Grows msg.writeNumParams (countedSize (msg.numParams ≠ 0) msg.numParams) :=
  grows_writeCounted _ _

lemma grows_writeExtensions : Grows (writeExtensions caps)
    (if caps.ttcFieldVersion ≥ fieldVersion12_2 then
      5 + if caps.ttcFieldVersion ≥ 9 then 2 else 0
    else 0) := by
  have hboth : Grows (do writeU8 0; writeUb4 0) 2 :=
    (grows_writeU8 0).bind fun _ => grows_writeUb4_zero
  have hlast := hboth.ite (c := caps.ttcFieldVersion ≥ 9) (Grows.pure ())
  refine Grows.ite (Grows.congr ((grows_writeU8 0).bind fun _ => grows_writeUb4_zero.bind fun _ =>
    (grows_writeU8 0).bind fun _ => grows_writeUb4_zero.bind fun _ =>
    (grows_writeU8 0).bind fun _ => hlast) ?_) (Grows.pure ())
  omega

/-- The fields between the number of binds and the text of the statement. -/
def writeMiddle : WriteM Unit := do
  msg.writeDefineCount
  msg.writeRowCounts
  writeExtensions caps

lemma grows_writeMiddle : Grows (msg.writeMiddle caps) (msg.middleSize caps) := by
  have hdefines : Grows msg.writeDefineCount (13 + countedSize msg.statement.requiresDefine
      (UInt32.ofNat msg.statement.columns.length)) := by
    refine Grows.congr ((grows_writeU8 0).bind fun _ => (grows_writeU8 0).bind fun _ =>
      (grows_writeU8 0).bind fun _ => (grows_writeU8 0).bind fun _ => (grows_writeU8 0).bind fun _ =>
      (grows_writeCounted _ _).bind fun _ => grows_writeUb4_zero.bind fun _ =>
      (grows_writeU8 0).bind fun _ => (grows_writeU8 1).bind fun _ => (grows_writeU8 0).bind fun _ =>
      grows_writeUb4_zero.bind fun _ => (grows_writeU8 0).bind fun _ =>
      grows_writeUb4_zero.bind fun _ => grows_writeUb4_zero) ?_
    omega
  have hcounts : Grows msg.writeRowCounts
      (countedSize msg.options.dmlRowCounts msg.options.numExecs + 1) :=
    (grows_writeCounted _ _).bind fun _ => grows_writeU8 _
  refine (hdefines.bind fun _ => hcounts.bind fun _ => grows_writeExtensions caps).congr ?_
  rw [middleSize]
  omega

lemma grows_writeSql : Grows msg.writeSql msg.sqlSize :=
  ((grows_writeBytesWithLength _).bind fun _ => grows_writeUb4 1).ite grows_writeUb4_zero

lemma grows_writeArray : Grows msg.writeArray msg.arraySize := by
  refine Grows.congr ((grows_writeUb4 _).bind fun _ => grows_writeUb4_zero.bind fun _ =>
    grows_writeUb4_zero.bind fun _ => grows_writeUb4_zero.bind fun _ =>
    grows_writeUb4_zero.bind fun _ => grows_writeUb4_zero.bind fun _ =>
    (grows_writeUb4 _).bind fun _ => grows_writeUb4_zero.bind fun _ =>
    (grows_writeUb4 _).bind fun _ => (grows_writeUb4 _).bind fun _ =>
    (grows_writeUb4 _).bind fun _ => grows_writeUb4_zero) ?_
  have hquery : ubSize (if msg.statement.isQuery then (1 : UInt32) else 0).toNat =
      if msg.statement.isQuery then 2 else 1 := by
    split_ifs <;> rfl
  rw [hquery, arraySize]
  omega

/-! ## Metadata -/

/-- The size of the metadata of a bind or define. -/
def descriptionSize (description : BindDescription) (oidSize : ℕ) (prefetchLength : UInt32) : ℕ :=
  6 + ubSize description.bufferSize.toNat + ubSize description.contFlag.toNat + oidSize +
    (if description.csfrm ≠ 0 then 3 else 1) + ubSize prefetchLength.toNat +
    if caps.ttcFieldVersion ≥ fieldVersion12_2 then 1 else 0

/-- The size of the object identifier of a bind. -/
def bindOidSize (oracleType : OracleType) (value : Value) : ℕ :=
  if oracleType = .object then
    match bindTypeOid value with
    | some oid => ubSize (oid.length % 2 ^ 32) + bytesWithLengthSize oid.length + 1
    | none => 2
  else 2

/-- The size of the metadata entry of a bind. -/
def bindMetadataSize (bind : BindDescription × Value) : ℕ :=
  descriptionSize caps bind.1 (bindOidSize bind.1.oracleType bind.2) 0

/-- The size of a column define. -/
def columnDefineSize (col : ColumnInfo) : ℕ :=
  descriptionSize caps (describeDefine col) 2 (lobPrefetchLength col)

lemma grows_writeDescription (description : BindDescription) {writeOid : WriteM Unit} {oidSize : ℕ}
    (hoid : Grows writeOid oidSize) (prefetchLength : UInt32) :
    Grows (writeDescription caps description writeOid prefetchLength)
      (descriptionSize caps description oidSize prefetchLength) := by
  have hlast := grows_writeUb4_zero.ite (c := caps.ttcFieldVersion ≥ fieldVersion12_2)
    (Grows.pure ())
  refine Grows.congr ((grows_writeU8 _).bind fun _ => (grows_writeU8 _).bind fun _ =>
    (grows_writeU8 0).bind fun _ => (grows_writeU8 0).bind fun _ => (grows_writeUb4 _).bind fun _ =>
    grows_writeUb4_zero.bind fun _ => (grows_writeUb8 _).bind fun _ => hoid.bind fun _ =>
    (grows_writeUb2 _).bind fun _ => (grows_writeU8 _).bind fun _ => (grows_writeUb4 _).bind fun _ =>
    hlast) ?_
  have hcharset : ubSize (if description.csfrm ≠ 0 then charsetUtf8 else 0).toNat =
      if description.csfrm ≠ 0 then 3 else 1 := by
    split_ifs <;> rfl
  rw [hcharset, descriptionSize]
  omega

lemma grows_writeNoOid : Grows writeNoOid 2 :=
  grows_writeUb4_zero.bind fun _ => grows_writeUb2 0

lemma grows_writeColumnDefine (col : ColumnInfo) :
    Grows (writeColumnDefine caps col) (columnDefineSize caps col) :=
  grows_writeDescription caps _ grows_writeNoOid _

lemma grows_writeBindOid (oracleType : OracleType) (value : Value) :
    Grows (writeBindOid oracleType value) (bindOidSize oracleType value) := by
  refine Grows.ite ?_ grows_writeNoOid
  cases bindTypeOid value with
  | some oid =>
    exact ((grows_writeUb4_ofNat _).bind fun _ => (grows_writeBytesWithLength _).bind fun _ =>
      grows_writeUb4_zero).congr (Nat.add_assoc _ _ _).symm
  | none => exact grows_writeUb4_zero.bind fun _ => grows_writeUb4_zero

lemma grows_writeBindMetadata (bind : BindDescription × Value) :
    Grows (writeBindMetadata caps bind) (bindMetadataSize caps bind) :=
  grows_writeDescription caps _ (grows_writeBindOid _ _) 0

/-! ## Messages -/

/-- The binds that metadata is written for, if the rows are no longer than the first one. -/
def declaredBinds : List (BindDescription × Value) :=
  match msg.maxSizes serializers with
  | .ok sizes => msg.binds sizes
  | .error _ => []

/-- The size of a row of values behind its marker. -/
def rowDataSize (row : List Value) : ℕ := 1 + bindRowSize serializers.toEncoders row

/-- The size of all rows of values. -/
def rowsSize : ℕ := (msg.batchBindValues.map (rowDataSize serializers)).sum

/-- The size of the metadata and the values of the binds. -/
def bindParamsSize : ℕ :=
  ((msg.declaredBinds serializers).map (bindMetadataSize caps)).sum +
    if msg.skipRowData then 0 else msg.rowsSize serializers

/-- The size of the full execute message. -/
def executeMessageSize : ℕ :=
  msg.headSize caps + countedSize (msg.numParams ≠ 0) msg.numParams + msg.middleSize caps +
    msg.sqlSize + msg.arraySize +
    if msg.statement.requiresDefine then (msg.statement.columns.map (columnDefineSize caps)).sum
    else if msg.hasBindValues then msg.bindParamsSize serializers caps
    else 0

/-- The size of a message that executes the statement again. -/
def reexecuteMessageSize : ℕ :=
  functionHeaderSize caps + ubSize msg.statement.cursorId.toNat +
    (if msg.functionCode = .reexecuteAndFetch then ubSize msg.options.prefetchRows.toNat + 3
      else ubSize msg.options.numExecs.toNat + if msg.options.commit then 3 else 2) +
    if msg.hasBindValues then msg.rowsSize serializers else 0

/-- The size of an execute message. -/
def size : ℕ :=
  if msg.functionCode = .execute then msg.executeMessageSize serializers caps
  else msg.reexecuteMessageSize serializers caps

lemma grows_writeRowData (row : List Value) :
    Grows (writeRowData serializers row) (rowDataSize serializers row) :=
  (grows_writeU8 _).bind fun _ => grows_writeBindRow _ row

lemma grows_rows :
    Grows (msg.batchBindValues.forM (writeRowData serializers)) (msg.rowsSize serializers) :=
  Grows.forM _ fun row _ => grows_writeRowData serializers row

lemma grows_writeBindParams :
    Grows (msg.writeBindParams serializers caps) (msg.bindParamsSize serializers caps) := by
  unfold writeBindParams bindParamsSize declaredBinds
  cases msg.maxSizes serializers with
  | error e =>
    intro s a s' _ hm
    cases hm
  | ok sizes =>
    have hbinds := Grows.forM (msg.binds sizes) fun bind _ =>
      grows_writeBindMetadata caps bind
    have hrows := (msg.grows_rows serializers).ite (c := !msg.skipRowData) (Grows.pure ())
    refine Grows.congr (hbinds.bind fun _ => hrows) ?_
    cases msg.skipRowData <;> simp

lemma grows_writeExecuteMessage : Grows (msg.writeExecuteMessage serializers caps)
    (msg.executeMessageSize serializers caps) := by
  have hdefines : Grows (msg.writeColumnDefines caps)
      (msg.statement.columns.map (columnDefineSize caps)).sum :=
    Grows.forM _ fun col _ => grows_writeColumnDefine caps col
  have hlast := hdefines.ite (c := msg.statement.requiresDefine)
    ((msg.grows_writeBindParams serializers caps).ite (c := msg.hasBindValues) (Grows.pure ()))
  have hassoc : msg.writeExecuteMessage serializers caps = (do
      msg.writeHead caps
      msg.writeNumParams
      msg.writeMiddle caps
      msg.writeSql
      msg.writeArray
      if msg.statement.requiresDefine then msg.writeColumnDefines caps
      else if msg.hasBindValues then msg.writeBindParams serializers caps else pure ()) := by
    simp only [writeExecuteMessage, writeMiddle, bind_assoc]
  rw [hassoc]
  refine Grows.congr ((msg.grows_writeHead caps).bind fun _ => msg.grows_writeNumParams.bind fun _ =>
    (msg.grows_writeMiddle caps).bind fun _ => msg.grows_writeSql.bind fun _ =>
    msg.grows_writeArray.bind fun _ => hlast) ?_
  rw [executeMessageSize]
  omega

lemma grows_writeReexecuteMessage : Grows (msg.writeReexecuteMessage serializers caps)
    (msg.reexecuteMessageSize serializers caps) := by
  have hrows := (msg.grows_rows serializers).ite (c := msg.hasBindValues) (Grows.pure ())
  refine Grows.congr ((grows_writeFunctionHeader _ _ _).bind fun _ => (grows_writeUb4 _).bind fun _ =>
    (grows_writeUb4 _).bind fun _ => (grows_writeUb4 _).bind fun _ => (grows_writeUb4 _).bind fun _ =>
    hrows) ?_
  rw [reexecuteMessageSize]
  have hexecute : ubSize ExecOption.execute.toNat = 2 := rfl
  have hcommit : ubSize ExecOption.commitReexecute.toNat = 2 := rfl
  have hzero : ubSize (UInt32.toNat 0) = 1 := rfl
  by_cases hf : msg.functionCode = .reexecuteAndFetch
  · simp only [hf, decide_true, if_true, Bool.not_true, Bool.false_and, Bool.false_eq_true, if_false,
      hexecute, hzero, UInt16.toNat_toUInt32]
    omega
  · cases hc : msg.options.commit <;>
      simp only [hf, decide_false, if_false, Bool.not_false, Bool.true_and, Bool.false_eq_true,
        if_true, hcommit, hzero, UInt16.toNat_toUInt32] <;>
      omega

/-- The message is written in as many bytes. -/
theorem grows_writeMessage :
    Grows (msg.writeMessage serializers caps) (msg.size serializers caps) :=
  (msg.grows_writeExecuteMessage serializers caps).ite (msg.grows_writeReexecuteMessage serializers caps)

/-! ## Packets -/

/-- The packet of a message is a header, the data flags and what the writer of the message has
appended. -/
lemma exists_message_of_build {largeSdu : Bool} {packet : Bytes} {P : Bytes → Prop}
    (h : msg.buildRequestWithSdu serializers caps largeSdu = .ok packet)
    (hP : Yields (msg.writeMessage serializers caps) P) :
    ∃ message, P message ∧
      packet = packetHeader largeSdu .data (packetHeaderSize + (2 + message.length)) ++
        (BigEndian.digits 2 dataFlagEndOfRequest.toNat ++ message) := by
  unfold buildRequestWithSdu at h
  cases hpayload : WriteM.freeze (do
      writeU16Be dataFlagEndOfRequest
      msg.writeMessage serializers caps) with
  | error e => rw [hpayload] at h; cases h
  | ok payload =>
    obtain ⟨_, message, rfl, rfl, hmessage⟩ := WriteM.of_freeze hpayload
      ((writes_writeU16Be dataFlagEndOfRequest).yields.bind fun _ => hP)
    rw [hpayload] at h
    cases h
    refine ⟨message, hmessage, ?_⟩
    rw [List.length_append, BigEndian.length_digits]

end ExecuteMessage

end OracleRs
