import OracleRs.Messages.Execute

set_option relaxedAutoImplicit false
set_option autoImplicit false

/-!
# Other requests

The builders of the fetch, LOB and connect requests (`messages/fetch.rs`, `messages/lob_op.rs`,
`messages/connect.rs`). Each of them assembles its own packet header.

## Main definitions

* `OracleRs.FetchMessage`, `OracleRs.LobOpMessage`, `OracleRs.ConnectMessage` — the requests.
* `OracleRs.FetchMessage.buildRequestWithSdu`, `OracleRs.LobOpMessage.buildRequest`,
  `OracleRs.ConnectMessage.buildWithContinuation` — their packets.
-/

namespace OracleRs

/-! ## Fetch requests -/

/-- Orientations of a fetch from a scrollable cursor (`FetchOrientation`). -/
inductive FetchOrientation where
  | current
  | next
  | first
  | last
  | prior
  | absolute
  | relative
deriving DecidableEq, Repr, Inhabited

/-- The code of an orientation. -/
def FetchOrientation.code : FetchOrientation → UInt32
  | current => 0x01
  | next => 0x02
  | first => 0x04
  | last => 0x08
  | prior => 0x10
  | absolute => 0x20
  | relative => 0x40

/-- A fetch message (`FetchMessage`). -/
structure FetchMessage where
  /-- the cursor -/
  cursorId : UInt16
  /-- the number of rows -/
  numRows : UInt32
  /-- the orientation, for a scrollable cursor -/
  orientation : Option FetchOrientation := none
  /-- the position, for a scrollable cursor -/
  offset : Int64 := 0
  /-- the sequence number -/
  sequenceNumber : UInt8 := 1
deriving DecidableEq, Repr

namespace FetchMessage

/-- The orientation and the position, for a scrollable cursor. -/
def writeOrientation (msg : FetchMessage) : WriteM Unit :=
  match msg.orientation with
  | some orientation => do
    writeUb4 orientation.code
    writeUb4 msg.offset.toUInt64.toUInt32
  | none => pure ()

/-- The fetch message. -/
def writeMessage (caps : Capabilities) (msg : FetchMessage) : WriteM Unit := do
  writeFunctionHeader caps .fetch msg.sequenceNumber
  writeUb4 msg.cursorId.toUInt32
  writeUb4 msg.numRows
  msg.writeOrientation

/-- `build_request_with_sdu`. -/
def buildRequestWithSdu (caps : Capabilities) (msg : FetchMessage) (largeSdu : Bool) :
    Except Error Bytes := do
  let payload ← (msg.writeMessage caps).freeze
  return packetHeader largeSdu .data (packetHeaderSize + 2 + payload.length) ++
    (BigEndian.digits 2 dataFlagEndOfRequest.toNat ++ payload)

end FetchMessage

/-! ## LOB requests -/

namespace LobOp

/-- `lob_op::WRITE`. -/
def write : UInt32 := 0x0040

/-- `lob_op::CREATE_TEMP`. -/
def createTemp : UInt32 := 0x0110

/-- `lob_op::FILE_ISOPEN`. -/
def fileIsopen : UInt32 := 0x0400

/-- `lob_op::FILE_EXISTS`. -/
def fileExists : UInt32 := 0x0800

/-- `lob_op::IS_OPEN`. -/
def isOpen : UInt32 := 0x11000

end LobOp

/-- The code of LOB data (`MessageType::LobData`). -/
def messageTypeLobData : UInt8 := MessageType.lobData.code

/-- A LOB operation (`LobOpMessage`). -/
structure LobOpMessage where
  /-- the locator -/
  locator : Option LobLocator := none
  /-- the bytes of a locator that is to be created -/
  ownedLocator : Option Bytes := none
  /-- the operation -/
  operation : UInt32
  /-- the source offset -/
  sourceOffset : UInt64 := 0
  /-- the destination offset -/
  destOffset : UInt64 := 0
  /-- the amount -/
  amount : UInt64 := 0
  /-- the destination length -/
  destLength : UInt32 := 0
  /-- is the amount sent? -/
  sendAmount : Bool := false
  /-- the data of a write -/
  writeData : Option Bytes := none
  /-- the sequence number -/
  sequenceNumber : UInt8 := 0
deriving DecidableEq, Repr

namespace LobOpMessage

variable (caps : Capabilities) (msg : LobOpMessage)

/-- `new_write`. -/
def newWrite (locator : LobLocator) (offset : UInt64) (data : Bytes) : LobOpMessage :=
  { locator := some locator, operation := LobOp.write, sourceOffset := offset,
    writeData := some data }

/-- The bytes of the locator. -/
def locatorBytes : Bytes :=
  match msg.locator with
  | some locator => locator.locator
  | none => msg.ownedLocator.getD []

/-- Does the operation have a pointer to a NULL LOB? -/
def hasNullLobPointer : Bool :=
  msg.operation = LobOp.fileExists || msg.operation = LobOp.fileIsopen ||
    msg.operation = LobOp.createTemp || msg.operation = LobOp.isOpen

/-- The fixed fields of the message, up to the locator. -/
def writeFields : WriteM Unit := do
  writeCounted (!msg.locatorBytes.isEmpty) (UInt32.ofNat msg.locatorBytes.length)
  writeU8 0 -- destination pointer
  writeUb4 msg.destLength
  writeUb4 0 -- short source offset
  writeUb4 0 -- short destination offset
  writeU8 (if msg.operation = LobOp.createTemp then 1 else 0) -- charset pointer
  writeU8 0 -- short amount pointer
  writeU8 (if msg.hasNullLobPointer then 1 else 0)
  writeUb4 msg.operation
  writeU8 0 -- SCN pointer
  writeU8 0 -- length of the SCN array
  writeUb8 msg.sourceOffset
  writeUb8 msg.destOffset
  writeU8 (if msg.sendAmount then 1 else 0)
  writeU16Be 0
  writeU16Be 0
  writeU16Be 0

/-- The data of a write, behind its message type. -/
def writeLobData : WriteM Unit :=
  match msg.writeData with
  | some data => do
    writeU8 messageTypeLobData
    writeBytesWithLength (some data)
  | none => pure ()

/-- `write_message`. -/
def writeMessage : WriteM Unit := do
  writeFunctionHeader caps .lobOp msg.sequenceNumber
  msg.writeFields
  writeBytes msg.locatorBytes
  (if msg.operation = LobOp.createTemp then writeUb4 charsetUtf8.toUInt32 else pure ())
  msg.writeLobData
  (if msg.sendAmount then writeUb8 msg.amount else pure ())

/-- `build_message_only`. -/
def buildMessageOnly : Except Error Bytes := (msg.writeMessage caps).freeze

/-- The header of the packet. In the small form the sum of two 16-bit numbers wraps around, as it does
in a release build. -/
def writeHeader (largeSdu : Bool) (payloadLen : ℕ) : WriteM Unit := do
  (if largeSdu then
    writeU32Be (UInt32.ofNat payloadLen + UInt32.ofNat packetHeaderSize)
  else do
    writeU16Be (UInt16.ofNat payloadLen + UInt16.ofNat packetHeaderSize)
    writeU16Be 0)
  writeU8 PacketType.data.code
  writeU8 0
  writeU16Be 0

/-- `build_request`. -/
def buildRequest (largeSdu : Bool) : Except Error Bytes := do
  let message ← msg.buildMessageOnly caps
  WriteM.freeze do
    writeHeader largeSdu (2 + message.length)
    writeU16Be dataFlagEndOfRequest
    writeBytes message

end LobOpMessage

/-! ## Connect requests -/

/-- `MAX_CONNECT_DATA`: the most connect data that a CONNECT packet carries. -/
def maxConnectData : ℕ := 230

/-- A connect message (`ConnectMessage`). -/
structure ConnectMessage where
  /-- the desired protocol version -/
  versionDesired : UInt16
  /-- the lowest protocol version -/
  versionMinimum : UInt16
  /-- the service options -/
  serviceOptions : UInt16
  /-- the size of the session data unit -/
  sdu : UInt32
  /-- the size of the transport data unit -/
  tdu : UInt32
  /-- the protocol characteristics -/
  protocolCharacteristics : UInt16
  /-- the NSI flags -/
  nsiFlags : UInt8
  /-- the first connect flags -/
  connectFlags1 : UInt32
  /-- the second connect flags -/
  connectFlags2 : UInt32
  /-- the connect data -/
  connectData : String
deriving DecidableEq, Repr, Inhabited

/-- A buffer whose first bytes are replaced by the header of a packet of its length. -/
def WriteM.freezeWithHeader (packetType : PacketType) (m : WriteM Unit) : Except Error Bytes := do
  let buf ← m.freeze
  let header ← ((PacketHeader.new packetType (UInt32.ofNat buf.length)).write false).freeze
  return header ++ buf.drop packetHeaderSize

namespace ConnectMessage

variable (msg : ConnectMessage)

/-- The bytes of the connect data. -/
def connectDataBytes : Bytes := asBytes msg.connectData

/-- Is the connect data sent in a packet of its own? -/
def needsSplit : Bool := msg.connectDataBytes.length > maxConnectData

/-- The CONNECT packet up to the connect data; the first bytes are for the header. -/
def writeFields : WriteM Unit := do
  writeZeros packetHeaderSize
  writeU16Be msg.versionDesired
  writeU16Be msg.versionMinimum
  writeU16Be msg.serviceOptions
  writeU16Be (min msg.sdu 65535).toUInt16
  writeU16Be (min msg.tdu 65535).toUInt16
  writeU16Be msg.protocolCharacteristics
  writeU16Be 0 -- line turnaround
  writeU16Be 1
  writeU16Be (UInt16.ofNat msg.connectDataBytes.length)
  writeU16Be 74 -- offset of the connect data
  writeU32Be 0 -- maximum of receivable data
  writeU8 msg.nsiFlags
  writeU8 msg.nsiFlags
  writeZeros 24
  writeU32Be msg.sdu
  writeU32Be msg.tdu
  writeU32Be msg.connectFlags1
  writeU32Be msg.connectFlags2

/-- `build`. -/
def build : Except Error Bytes :=
  WriteM.freezeWithHeader .connect do
    msg.writeFields
    if !msg.needsSplit then writeBytes msg.connectDataBytes

/-- The DATA packet with the connect data. -/
def buildData : Except Error Bytes :=
  WriteM.freezeWithHeader .data do
    writeZeros packetHeaderSize
    writeU16Be 0 -- data flags
    writeBytes msg.connectDataBytes

/-- `build_with_continuation`. -/
def buildWithContinuation : Except Error (Bytes × Option Bytes) := do
  if !msg.needsSplit then
    return (← msg.build, none)
  else
    let connect ← WriteM.freezeWithHeader .connect msg.writeFields
    let data ← msg.buildData
    return (connect, some data)

end ConnectMessage

end OracleRs
