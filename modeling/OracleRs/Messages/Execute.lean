import OracleRs.Messages.BindValue
import OracleRs.Packet.Header
import OracleRs.Statement.Basic
import OracleRs.Types.Vector

set_option relaxedAutoImplicit false
set_option autoImplicit false

/-!
# Execute messages

The request that executes a statement (`messages/execute.rs`): its options, the choice between the
full execute message and the two short ones for a cursor that the server already knows, the number
of binds that is declared, the metadata of the binds or of the columns, and the rows of values.

## Main definitions

* `OracleRs.ExecuteOptions`, `OracleRs.ExecuteMessage` — what is to be executed.
* `OracleRs.ExecuteMessage.numParams` — the number of binds that the message declares.
* `OracleRs.ExecuteMessage.writeBindParams` — the metadata and the values of the binds.
* `OracleRs.ExecuteMessage.buildRequestWithSdu` — the packet.
-/

namespace OracleRs

/-! ## Options -/

/-- The options of an execution (`ExecuteOptions`). -/
structure ExecuteOptions where
  /-- execute the statement -/
  execute : Bool := false
  /-- fetch rows -/
  fetch : Bool := false
  /-- commit after the execution -/
  commit : Bool := false
  /-- keep the implicit cursors during the round trip -/
  noImplicitRelease : Bool := false
  /-- describe only -/
  describeOnly : Bool := false
  /-- collect the errors of a batch -/
  batchErrors : Bool := false
  /-- return the row counts of a batch -/
  dmlRowCounts : Bool := false
  /-- is the cursor scrollable? -/
  scrollable : Bool := false
  /-- is it a scroll operation? -/
  scrollOperation : Bool := false
  /-- the orientation of a scroll operation -/
  fetchOrientation : UInt32 := 0
  /-- the position of a scroll operation -/
  fetchPos : UInt32 := 0
  /-- the number of rows to prefetch -/
  prefetchRows : UInt32 := 0
  /-- the number of executions -/
  numExecs : UInt32 := 0
deriving DecidableEq, Repr, Inhabited

namespace ExecuteOptions

/-- `ExecuteOptions::for_query`. -/
def forQuery (prefetchRows : UInt32) : ExecuteOptions :=
  { execute := true, fetch := prefetchRows > 0, prefetchRows := prefetchRows, numExecs := 1 }

/-- `ExecuteOptions::for_dml`. -/
def forDml (commit : Bool) : ExecuteOptions :=
  { execute := true, commit := commit, numExecs := 1 }

/-- `ExecuteOptions::for_plsql`. -/
def forPlsql : ExecuteOptions :=
  { execute := true, noImplicitRelease := true, numExecs := 1 }

end ExecuteOptions

/-! ### Bits (`exec_option`, `exec_flags`) -/

namespace ExecOption

/-- `PARSE`. -/
def parse : UInt32 := 0x01

/-- `BIND`. -/
def bind : UInt32 := 0x08

/-- `DEFINE`. -/
def define : UInt32 := 0x10

/-- `EXECUTE`. -/
def execute : UInt32 := 0x20

/-- `FETCH`. -/
def fetch : UInt32 := 0x40

/-- `COMMIT`. -/
def commit : UInt32 := 0x100

/-- `COMMIT_REEXECUTE`. -/
def commitReexecute : UInt32 := 0x01

/-- `PLSQL_BIND`. -/
def plsqlBind : UInt32 := 0x400

/-- `NOT_PLSQL`. -/
def notPlsql : UInt32 := 0x8000

/-- `DESCRIBE`. -/
def describe : UInt32 := 0x20000

/-- `BATCH_ERRORS`. -/
def batchErrors : UInt32 := 0x80000

end ExecOption

namespace ExecFlag

/-- `SCROLLABLE`. -/
def scrollable : UInt32 := 0x02

/-- `NO_CANCEL_ON_EOF`. -/
def noCancelOnEof : UInt32 := 0x80

/-- `DML_ROWCOUNTS`. -/
def dmlRowcounts : UInt32 := 0x4000

/-- `IMPLICIT_RESULTSET`. -/
def implicitResultset : UInt32 := 0x8000

/-- `NO_IMPL_REL`. -/
def noImplRel : UInt32 := 0x200000

end ExecFlag

/-- `MAX_LONG_LENGTH`. -/
def maxLongLength : UInt32 := 0x7FFFFFFF

/-- `bind_flags::USE_INDICATORS`. -/
def useIndicators : UInt8 := 0x01

/-! ## Messages -/

/-- Explicit metadata of a bind (`BindMetadata`). -/
structure BindMetadata where
  /-- the data type -/
  oracleType : OracleType
  /-- the buffer size -/
  bufferSize : UInt32
deriving DecidableEq, Repr, Inhabited

/-- The encoders, and the text of a JSON document (`serde_json::to_string`). -/
structure Serializers extends Encoders where
  /-- `serde_json::to_string` -/
  jsonToString : Json → Option String

/-- Serializers that serialize nothing. -/
def Serializers.rejecting : Serializers := { Encoders.rejecting with jsonToString := fun _ => none }

/-- An execute message (`ExecuteMessage`). -/
structure ExecuteMessage where
  /-- the statement -/
  statement : Statement
  /-- the options -/
  options : ExecuteOptions
  /-- the rows of bind values -/
  batchBindValues : List (List Value) := []
  /-- the sequence number -/
  sequenceNumber : UInt8 := 1
  /-- are the rows of values left out? -/
  skipRowData : Bool := false
  /-- explicit metadata of the binds -/
  bindMetadata : Option (List BindMetadata) := none

/-- What every request starts with: the message type, the function, the sequence number and, for the
newer field versions, a token. -/
def writeFunctionHeader (caps : Capabilities) (function : FunctionCode) (sequenceNumber : UInt8) :
    WriteM Unit := do
  writeU8 messageTypeFunction
  writeU8 function.code
  writeU8 sequenceNumber
  if caps.ttcFieldVersion ≥ 18 then writeUb8 0

/-- A pointer with a number behind it: one and the number, or two zeros. -/
def writeCounted (present : Bool) (count : UInt32) : WriteM Unit :=
  if present then do
    writeU8 1
    writeUb4 count
  else do
    writeU8 0
    writeUb4 0

/-- The bytes that are written to a new buffer (`WriteBuffer::new`, `freeze`). -/
def WriteM.freeze (m : WriteM Unit) : Except Error Bytes :=
  match m Sink.empty with
  | .ok _ buf => .ok buf.data
  | .error e _ => .error e

namespace ExecuteMessage

variable (serializers : Serializers) (caps : Capabilities) (msg : ExecuteMessage)

/-- `ExecuteMessage::new`. -/
def new (statement : Statement) (options : ExecuteOptions) : ExecuteMessage :=
  { statement := statement, options := options }

/-- `set_bind_values`. -/
def setBindValues (values : List Value) : ExecuteMessage := { msg with batchBindValues := [values] }

/-- `set_batch_bind_values`. -/
def setBatchBindValues (rows : List (List Value)) : ExecuteMessage :=
  { msg with
    batchBindValues := rows
    options := if rows.isEmpty then msg.options
      else { msg.options with numExecs := UInt32.ofNat rows.length } }

/-- `function_code`, as `ExecuteMessage::new` determines it; no setter changes what it depends on. -/
def functionCode : FunctionCode :=
  let stmt := msg.statement
  let opts := msg.options
  if stmt.cursorId = 0 || !stmt.executed || stmt.sql.isEmpty || stmt.isDdl || stmt.bindsChanged ||
      opts.describeOnly || stmt.requiresDefine || opts.batchErrors || opts.scrollable then
    .execute
  else if stmt.isQuery && opts.prefetchRows > 0 then
    .reexecuteAndFetch
  else
    .reexecute

/-- The first row of values, empty if there is none. -/
def firstRow : List Value := msg.batchBindValues.headD []

/-- `has_bind_values`. -/
def hasBindValues : Bool := !msg.batchBindValues.isEmpty && !msg.firstRow.isEmpty

/-- The number of binds that the message declares (`num_params`). -/
def numParams : UInt32 :=
  if msg.statement.requiresDefine then 0
  else if !msg.statement.bindInfo.isEmpty then UInt32.ofNat msg.statement.bindInfo.length
  else if msg.hasBindValues then UInt32.ofNat msg.firstRow.length
  else 0

/-- Does the message carry the text of the statement? -/
def parses : Bool := msg.statement.cursorId = 0 || msg.statement.isDdl

/-- The execute options (`exec_opts`). -/
def execOpts : UInt32 :=
  let stmt := msg.statement
  let opts := msg.options
  (if stmt.requiresDefine then ExecOption.define
    else if !opts.describeOnly && !stmt.sql.isEmpty && opts.execute && !opts.scrollOperation then
      ExecOption.execute
    else 0) |||
  (if msg.parses then ExecOption.parse else 0) |||
  (if opts.describeOnly then ExecOption.describe
    else if opts.fetch && opts.prefetchRows > 0 && !stmt.noPrefetch then ExecOption.fetch
    else 0) |||
  (if !stmt.isPlsql && !opts.describeOnly then ExecOption.notPlsql
    else if stmt.isPlsql && msg.numParams > 0 then ExecOption.plsqlBind
    else 0) |||
  (if msg.numParams > 0 && !opts.scrollOperation then ExecOption.bind else 0) |||
  (if opts.batchErrors then ExecOption.batchErrors else 0) |||
  (if opts.commit && !opts.describeOnly then ExecOption.commit else 0)

/-- The execute flags (`exec_flgs`). -/
def execFlgs : UInt32 :=
  let stmt := msg.statement
  let opts := msg.options
  (if !stmt.requiresDefine && !opts.describeOnly && !stmt.sql.isEmpty then
      ExecFlag.implicitResultset else 0) |||
  (if opts.scrollable then ExecFlag.scrollable ||| ExecFlag.noCancelOnEof else 0) |||
  (if opts.noImplicitRelease then ExecFlag.noImplRel else 0) |||
  (if opts.dmlRowCounts then ExecFlag.dmlRowcounts else 0)

/-- The number of iterations (`num_iters`). -/
def numIters : UInt32 :=
  if msg.statement.isQuery then msg.options.prefetchRows else msg.options.numExecs

/-- The orientation and the position of the fetch (`fetch_ori`, `fetch_pos_val`). -/
def fetchPosition : UInt32 × UInt32 :=
  if msg.options.scrollable && !msg.options.scrollOperation then (1, 1)
  else if msg.options.scrollOperation then (msg.options.fetchOrientation, msg.options.fetchPos)
  else (0, 0)

/-! ### The fixed part of the full message -/

/-- The full message up to the binds: the options, the cursor and the length of the text. -/
def writeHead : WriteM Unit := do
  writeFunctionHeader caps msg.functionCode msg.sequenceNumber
  writeUb4 msg.execOpts
  writeUb4 msg.statement.cursorId.toUInt32
  writeCounted msg.parses (UInt32.ofNat msg.statement.sqlBytes.length)
  writeU8 1 -- pointer (vector)
  writeUb4 13 -- length of the al8i4 array
  writeU8 0 -- pointer (al8o4)
  writeU8 0 -- pointer (al8o4l)
  writeUb4 0 -- prefetch buffer size
  writeUb4 msg.numIters
  writeUb4 maxLongLength

/-- The pointer to the binds and their number. -/
def writeNumParams : WriteM Unit := writeCounted (msg.numParams ≠ 0) msg.numParams

/-- The pointer to the column defines and their number, and the unused fields around it. -/
def writeDefineCount : WriteM Unit := do
  writeU8 0 -- pointer (al8app)
  writeU8 0 -- pointer (al8txn)
  writeU8 0 -- pointer (al8txl)
  writeU8 0 -- pointer (al8kv)
  writeU8 0 -- pointer (al8kvl)
  writeCounted msg.statement.requiresDefine (UInt32.ofNat msg.statement.columns.length)
  writeUb4 0 -- registration id
  writeU8 0 -- pointer (al8objlist)
  writeU8 1 -- pointer (al8objlen)
  writeU8 0 -- pointer (al8blv)
  writeUb4 0 -- al8blvl
  writeU8 0 -- pointer (al8dnam)
  writeUb4 0 -- al8dnaml
  writeUb4 0 -- al8regid_msb

/-- The pointers to the row counts. -/
def writeRowCounts : WriteM Unit := do
  writeCounted msg.options.dmlRowCounts msg.options.numExecs
  writeU8 (if msg.options.dmlRowCounts then 1 else 0)

/-- The fields of the newer versions. -/
def writeExtensions : WriteM Unit :=
  if caps.ttcFieldVersion ≥ fieldVersion12_2 then do
    writeU8 0
    writeUb4 0
    writeU8 0
    writeUb4 0
    writeU8 0
    if caps.ttcFieldVersion ≥ 9 then do
      writeU8 0
      writeUb4 0
  else
    pure ()

/-- The text of the statement, if it is to be parsed, with the first number of the al8i4 array. -/
def writeSql : WriteM Unit :=
  if msg.parses then do
    writeBytesWithLength (some msg.statement.sqlBytes)
    writeUb4 1
  else
    writeUb4 0

/-- The number of executions, the second number of the al8i4 array. -/
def executionCount : UInt32 :=
  if msg.statement.isQuery then
    if msg.statement.cursorId = 0 then 0 else msg.numIters
  else
    msg.options.numExecs

/-- The other numbers of the al8i4 array. -/
def writeArray : WriteM Unit := do
  writeUb4 msg.executionCount
  writeUb4 0
  writeUb4 0
  writeUb4 0
  writeUb4 0 -- SCN
  writeUb4 0 -- SCN
  writeUb4 (if msg.statement.isQuery then 1 else 0)
  writeUb4 0
  writeUb4 msg.execFlgs
  writeUb4 msg.fetchPosition.1
  writeUb4 msg.fetchPosition.2
  writeUb4 0

/-! ### Column defines -/

/-- The description of a column in a define: a ROWID is fetched as text, a JSON document or vector
with a large prefetch length. -/
def describeDefine (col : ColumnInfo) : BindDescription where
  oracleType :=
    if col.oracleType = .rowid ∨ col.oracleType = .urowid then .varchar else col.oracleType
  bufferSize :=
    if col.oracleType = .rowid ∨ col.oracleType = .urowid then 4000
    else if col.oracleType = .json ∨ col.oracleType = .vector then 1000000
    else col.bufferSize
  csfrm := col.csfrm
  contFlag := contFlagOf col.oracleType

/-- The length of the prefetched part of a LOB in a define (`lob_prefetch_length`). -/
def lobPrefetchLength (col : ColumnInfo) : UInt32 :=
  if col.oracleType = .json ∨ col.oracleType = .vector then 1000000 else 0

/-- The metadata of a bind or define: `writeOid` writes the object identifier with its version. -/
def writeDescription (description : BindDescription) (writeOid : WriteM Unit)
    (prefetchLength : UInt32) : WriteM Unit := do
  writeU8 description.oracleType.code
  writeU8 useIndicators
  writeU8 0 -- precision
  writeU8 0 -- scale
  writeUb4 description.bufferSize
  writeUb4 0 -- number of elements
  writeUb8 description.contFlag
  writeOid
  writeUb2 (if description.csfrm ≠ 0 then charsetUtf8 else 0)
  writeU8 description.csfrm
  writeUb4 prefetchLength
  if caps.ttcFieldVersion ≥ fieldVersion12_2 then writeUb4 0 -- oaccolid

/-- No object identifier, version zero. -/
def writeNoOid : WriteM Unit := do
  writeUb4 0
  writeUb2 0

/-- The metadata of a column define. -/
def writeColumnDefine (col : ColumnInfo) : WriteM Unit :=
  writeDescription caps (describeDefine col) writeNoOid (lobPrefetchLength col)

/-- `write_column_defines`. -/
def writeColumnDefines : WriteM Unit := msg.statement.columns.forM (writeColumnDefine caps)

/-! ### Bind metadata and values -/

/-- The size that a value asks of the buffer of its column. -/
def valueSize : Value → UInt32
  | .string s => UInt32.ofNat (asBytes s).length
  | .bytes b => UInt32.ofNat b.length
  | .json json =>
    ((serializers.jsonToString json).map fun s => UInt32.ofNat (asBytes s).length).getD 100
  | .vector (.dense data) => UInt32.ofNat (data.len * 8)
  | .vector (.sparse numDimensions _ _) => UInt32.ofNat (numDimensions.toNat * 8)
  | _ => 0

/-- The largest sizes of the columns after one more row. The source indexes the sizes with the
position of every value of the row. -/
def raiseSizes : List UInt32 → List Value → Except Error (List UInt32)
  | sizes, [] => .ok sizes
  | [], _ :: _ => .error (.indexOutOfBounds msg.firstRow.length msg.firstRow.length)
  | size :: sizes, value :: row =>
    (raiseSizes sizes row).map fun sizes =>
      (if valueSize serializers value > size then valueSize serializers value else size) :: sizes

/-- The largest sizes of the columns over all rows (`max_sizes`). -/
def maxSizes : Except Error (List UInt32) :=
  msg.batchBindValues.foldlM (msg.raiseSizes serializers) (List.replicate msg.firstRow.length 0)

/-- The description of the bind in a column: the explicit one, and else the one that its value and the
largest size of the column suggest. -/
def describeBind (value : Value) (maxSize : UInt32) (colIdx : ℕ) : BindDescription :=
  match msg.bindMetadata.bind (·[colIdx]?) with
  | some metadata =>
    ⟨metadata.oracleType, metadata.bufferSize, csfrmOf metadata.oracleType,
      contFlagOf metadata.oracleType⟩
  | none => inferBindMetadata value maxSize

/-- The type OID of a collection, if it has one. -/
def bindTypeOid : Value → Option Bytes
  | .collection coll => (coll.get "_type_oid").bind Value.asBytes
  | _ => none

/-- The object identifier of a bind with its version. -/
def writeBindOid (oracleType : OracleType) (value : Value) : WriteM Unit :=
  if oracleType = .object then
    match bindTypeOid value with
    | some oid => do
      writeUb4 (UInt32.ofNat oid.length)
      writeBytesWithLength (some oid)
      writeUb4 0
    | none => do
      writeUb4 0
      writeUb4 0
  else
    writeNoOid

/-- The metadata entry of a bind. -/
def writeBindMetadata (bind : BindDescription × Value) : WriteM Unit :=
  writeDescription caps bind.1 (writeBindOid bind.1.oracleType bind.2) 0

/-- The binds that metadata is written for: the values of the first row with their descriptions. -/
def binds (sizes : List UInt32) : List (BindDescription × Value) :=
  ((msg.firstRow.zip sizes).zipIdx).map fun p => (msg.describeBind p.1.1 p.1.2 p.2, p.1.1)

/-- A row of values behind its marker. -/
def writeRowData (row : List Value) : WriteM Unit := do
  writeU8 MessageType.rowData.code
  writeBindRow serializers.toEncoders row

/-- `write_bind_params`. -/
def writeBindParams : WriteM Unit := do
  let sizes ← WriteM.ofExcept (msg.maxSizes serializers)
  (msg.binds sizes).forM (writeBindMetadata caps)
  if !msg.skipRowData then msg.batchBindValues.forM (writeRowData serializers)

/-! ### The messages -/

/-- `write_execute_message`. -/
def writeExecuteMessage : WriteM Unit := do
  msg.writeHead caps
  msg.writeNumParams
  msg.writeDefineCount
  msg.writeRowCounts
  writeExtensions caps
  msg.writeSql
  msg.writeArray
  if msg.statement.requiresDefine then
    msg.writeColumnDefines caps
  else if msg.hasBindValues then
    msg.writeBindParams serializers caps

/-- `write_reexecute_message`. -/
def writeReexecuteMessage : WriteM Unit := do
  let fetches := msg.functionCode = .reexecuteAndFetch
  writeFunctionHeader caps msg.functionCode msg.sequenceNumber
  writeUb4 msg.statement.cursorId.toUInt32
  writeUb4 (if fetches then msg.options.prefetchRows else msg.options.numExecs)
  writeUb4 (if fetches then ExecOption.execute else 0)
  writeUb4 (if !fetches && msg.options.commit then ExecOption.commitReexecute else 0)
  if msg.hasBindValues then msg.batchBindValues.forM (writeRowData serializers)

/-- The message of the function. -/
def writeMessage : WriteM Unit :=
  if msg.functionCode = .execute then msg.writeExecuteMessage serializers caps
  else msg.writeReexecuteMessage serializers caps

/-- `build_request_with_sdu`: the message behind its data flags and a packet header. -/
def buildRequestWithSdu (largeSdu : Bool) : Except Error Bytes := do
  let payload ← WriteM.freeze do
    writeU16Be dataFlagEndOfRequest
    msg.writeMessage serializers caps
  return packetHeader largeSdu .data (packetHeaderSize + payload.length) ++ payload

end ExecuteMessage

end OracleRs
