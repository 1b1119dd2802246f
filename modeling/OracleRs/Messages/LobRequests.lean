import OracleRs.Lib.Conveys
import OracleRs.Messages.Requests

set_option relaxedAutoImplicit false
set_option autoImplicit false

/-!
# LOB requests as a server reads them

The messages of `messages/lob_op.rs`, one for each operation on a LOB, and what a server finds in them. The
reader is stated here from the fields of the protocol; it uses the readers of the driver's own buffer, which have
the same encodings.

## Main definitions

* `OracleRs.LobOpMessage.newRead`, `OracleRs.LobOpMessage.newTrim`, … — the messages.
* `OracleRs.LobRequest` — what they ask for, `OracleRs.LobOpMessage.request`.
* `OracleRs.readLobRequest` — the reader.

## Main results

* `OracleRs.LobOpMessage.exists_buildMessageOnly` — the server reads what the message asks for.
-/

namespace OracleRs

open Cursor

/-! ## The messages -/

namespace LobOp

/-- `lob_op::GET_LENGTH`. -/
def getLength : UInt32 := 0x0001

/-- `lob_op::READ`. -/
def read : UInt32 := 0x0002

/-- `lob_op::TRIM`. -/
def trim : UInt32 := 0x0020

/-- `lob_op::FILE_OPEN`. -/
def fileOpen : UInt32 := 0x0100

/-- `lob_op::FILE_CLOSE`. -/
def fileClose : UInt32 := 0x0200

/-- `lob_op::GET_CHUNK_SIZE`. -/
def getChunkSize : UInt32 := 0x4000

end LobOp

/-- `lob_flags::OPEN_READ_ONLY`. -/
def openReadOnly : UInt64 := 11

/-- `lob_duration::SESSION`. -/
def lobDurationSession : UInt64 := 10

namespace LobOpMessage

/-- `set_sequence_number`. -/
def setSequenceNumber (msg : LobOpMessage) (sequenceNumber : UInt8) : LobOpMessage :=
  { msg with sequenceNumber := sequenceNumber }

/-- `new_read`. -/
def newRead (locator : LobLocator) (offset amount : UInt64) : LobOpMessage :=
  { locator := some locator, operation := LobOp.read, sourceOffset := offset, amount := amount,
    sendAmount := true }

/-- `new_get_length`. -/
def newGetLength (locator : LobLocator) : LobOpMessage :=
  { locator := some locator, operation := LobOp.getLength, sendAmount := true }

/-- `new_trim`. -/
def newTrim (locator : LobLocator) (newSize : UInt64) : LobOpMessage :=
  { locator := some locator, operation := LobOp.trim, amount := newSize, sendAmount := true }

/-- `new_get_chunk_size`. -/
def newGetChunkSize (locator : LobLocator) : LobOpMessage :=
  { locator := some locator, operation := LobOp.getChunkSize, sendAmount := true }

/-- `new_file_exists`. -/
def newFileExists (locator : LobLocator) : LobOpMessage :=
  { locator := some locator, operation := LobOp.fileExists }

/-- `new_file_open`. -/
def newFileOpen (locator : LobLocator) : LobOpMessage :=
  { locator := some locator, operation := LobOp.fileOpen, amount := openReadOnly, sendAmount := true }

/-- `new_file_close`. -/
def newFileClose (locator : LobLocator) : LobOpMessage :=
  { locator := some locator, operation := LobOp.fileClose }

/-- `new_file_is_open`. -/
def newFileIsOpen (locator : LobLocator) : LobOpMessage :=
  { locator := some locator, operation := LobOp.fileIsopen }

/-- `new_create_temp`: the character set form is the source offset, the type the destination offset. -/
def newCreateTemp (oracleType : OracleType) : LobOpMessage :=
  { ownedLocator := some (List.replicate 40 0), operation := LobOp.createTemp,
    sourceOffset := if oracleType = .clob then 1 else 0, destOffset := oracleType.code.toUInt64,
    amount := lobDurationSession, destLength := lobDurationSession.toUInt32, sendAmount := true }

end LobOpMessage

/-! ## The reader -/

/-- What a request begins with. -/
structure FunctionHeader where
  /-- the message type -/
  messageType : UInt8
  /-- the function -/
  function : UInt8
  /-- the sequence number -/
  sequenceNumber : UInt8
deriving DecidableEq, Repr

/-- The reader of the beginning of a request. -/
def readFunctionHeader (caps : Capabilities) : ReadM FunctionHeader := do
  let messageType ← readU8
  let function ← readU8
  let sequenceNumber ← readU8
  (if caps.ttcFieldVersion ≥ 18 then skipUb8 else pure ())
  return ⟨messageType, function, sequenceNumber⟩

/-- The number behind a pointer. -/
def readCounted : ReadM UInt32 := do
  skip 1
  readUb4

/-- What a LOB operation is to do. -/
structure LobRequest where
  /-- the operation -/
  operation : UInt32
  /-- the locator -/
  locator : Bytes
  /-- the source offset -/
  sourceOffset : UInt64
  /-- the destination offset -/
  destOffset : UInt64
  /-- the destination length -/
  destLength : UInt32
  /-- the character set -/
  charset : Option UInt32
  /-- the data -/
  data : Option Bytes
  /-- the amount -/
  amount : Option UInt64
deriving DecidableEq, Repr

/-- What a message asks for. -/
def LobOpMessage.request (msg : LobOpMessage) : LobRequest where
  operation := msg.operation
  locator := msg.locatorBytes
  sourceOffset := msg.sourceOffset
  destOffset := msg.destOffset
  destLength := msg.destLength
  charset := if msg.operation = LobOp.createTemp then some charsetUtf8.toUInt32 else none
  data := msg.writeData
  amount := if msg.sendAmount then some msg.amount else none

/-- The fields in front of the locator. -/
structure LobFields where
  /-- the length of the locator -/
  locatorLength : UInt32
  /-- the destination length -/
  destLength : UInt32
  /-- the pointer to a character set -/
  charsetPointer : UInt8
  /-- the operation -/
  operation : UInt32
  /-- the source offset -/
  sourceOffset : UInt64
  /-- the destination offset -/
  destOffset : UInt64
  /-- the pointer to an amount -/
  amountPointer : UInt8

/-- The reader of these fields. -/
def readLobFields : ReadM LobFields := do
  let locatorLength ← readCounted
  skip 1 -- destination pointer
  let destLength ← readUb4
  skipUb4 -- short source offset
  skipUb4 -- short destination offset
  let charsetPointer ← readU8
  skip 1 -- short amount pointer
  skip 1 -- pointer to a NULL LOB
  let operation ← readUb4
  skip 1 -- SCN pointer
  skip 1 -- length of the SCN array
  let sourceOffset ← readUb8
  let destOffset ← readUb8
  let amountPointer ← readU8
  skip 2
  skip 2
  skip 2
  return ⟨locatorLength, destLength, charsetPointer, operation, sourceOffset, destOffset, amountPointer⟩

/-- The reader of a LOB request: only a write has data. -/
def readLobRequest (caps : Capabilities) : ReadM (FunctionHeader × LobRequest) := do
  let header ← readFunctionHeader caps
  let fields ← readLobFields
  let locator ← readBytesVec fields.locatorLength.toNat
  let charset ← (if fields.charsetPointer ≠ 0 then some <$> readUb4 else pure none)
  let data ← (if fields.operation = LobOp.write then do skip 1; readBytesWithLength else pure none)
  let amount ← (if fields.amountPointer ≠ 0 then some <$> readUb8 else pure none)
  return (header, ⟨fields.operation, locator, fields.sourceOffset, fields.destOffset, fields.destLength, charset,
    data, amount⟩)

/-! ## What the server reads -/

section Fields

lemma conveys_u8 (value : UInt8) : Conveys (writeU8 value) readU8 value :=
  ⟨_, writes_writeU8 value, reads_readU8 value⟩

lemma conveys_skip (value : UInt8) : Conveys (writeU8 value) (skip 1) () :=
  ⟨_, writes_writeU8 value, reads_skip [value]⟩

lemma conveys_ub4 (value : UInt32) : Conveys (writeUb4 value) readUb4 value :=
  ⟨_, writes_writeUb4 value, reads_ubBytes4 value⟩

lemma conveys_ub8 (value : UInt64) : Conveys (writeUb8 value) readUb8 value :=
  ⟨_, writes_writeUb8 value, reads_ubBytes8 value⟩

lemma conveys_skipUb4 (value : UInt32) : Conveys (writeUb4 value) skipUb4 () := by
  have hlt := value.toNat_lt
  have hskip := (Ub.shortest value.toNat (ubWidth_le_four hlt)).reads_skipUb (by decide)
  rw [Ub.encode_shortest] at hskip
  exact ⟨_, writes_writeUb4 value, hskip⟩

lemma conveys_skipTwo (value : UInt16) : Conveys (writeU16Be value) (skip 2) () :=
  ⟨_, writes_writeU16Be value, BigEndian.length_digits 2 value.toNat ▸ reads_skip _⟩

lemma conveys_bytes (bytes : Bytes) : Conveys (writeBytes bytes) (readBytesVec bytes.length) bytes :=
  ⟨_, writes_writeBytes bytes, reads_readBytesVec bytes⟩

lemma conveys_bytesWithLength (data : Bytes) :
    Conveys (writeBytesWithLength (some data)) readBytesWithLength (some data) := by
  have hreads := (ByteString.ofBytes data).reads_readBytesWithLength
  rw [ByteString.content_ofBytes] at hreads
  exact ⟨_, writes_writeBytesWithLength (some data), hreads⟩

lemma conveys_counted {present : Bool} {count : UInt32} (h : present = false → count = 0) :
    Conveys (writeCounted present count) readCounted count := by
  unfold writeCounted
  cases present with
  | true => exact (conveys_skip 1).bind (conveys_ub4 count)
  | false =>
    rw [h rfl]
    exact (conveys_skip 0).bind (conveys_ub4 0)

lemma conveys_writeFunctionHeader (caps : Capabilities) (function : FunctionCode) (sequenceNumber : UInt8) :
    Conveys (writeFunctionHeader caps function sequenceNumber) (readFunctionHeader caps)
      ⟨messageTypeFunction, function.code, sequenceNumber⟩ := by
  refine (conveys_u8 _).bind ((conveys_u8 _).bind ((conveys_u8 _).bind ?_))
  have htoken : Conveys (writeUb8 0) skipUb8 () :=
    ⟨_, writes_writeUb8 0, Ub.zero.reads_skipUb (k := 8) (by decide)⟩
  exact (Conveys.ite (fun _ => htoken) fun _ => Conveys.pure ()).bind_nil (Reads.pure _)

end Fields

namespace LobOpMessage

variable (caps : Capabilities) (msg : LobOpMessage)

/-- A message as one of the constructors makes it: only a write has data, and the length of the locator can be
written. -/
structure WellFormed : Prop where
  /-- the data -/
  data : msg.writeData.isSome ↔ msg.operation = LobOp.write
  /-- the locator -/
  locator : msg.locatorBytes.length < 2 ^ 32

lemma conveys_writeFields (msg : LobOpMessage) :
    Conveys msg.writeFields readLobFields
      ⟨UInt32.ofNat msg.locatorBytes.length, msg.destLength, if msg.operation = LobOp.createTemp then 1 else 0,
        msg.operation, msg.sourceOffset, msg.destOffset, if msg.sendAmount then 1 else 0⟩ := by
  have hcounted : Conveys (writeCounted (!msg.locatorBytes.isEmpty) (UInt32.ofNat msg.locatorBytes.length))
      readCounted (UInt32.ofNat msg.locatorBytes.length) := by
    refine conveys_counted fun hempty => ?_
    have hnil : msg.locatorBytes = [] := by simpa using hempty
    rw [hnil]
    rfl
  refine hcounted.bind ((conveys_skip 0).bind ((conveys_ub4 _).bind ?_))
  refine (conveys_skipUb4 0).bind ((conveys_skipUb4 0).bind ((conveys_u8 _).bind ?_))
  refine (conveys_skip 0).bind ((conveys_skip _).bind ((conveys_ub4 _).bind ?_))
  refine (conveys_skip 0).bind ((conveys_skip 0).bind ((conveys_ub8 _).bind ((conveys_ub8 _).bind ?_)))
  refine (conveys_u8 _).bind ((conveys_skipTwo 0).bind ((conveys_skipTwo 0).bind ?_))
  exact (conveys_skipTwo 0).bind_nil (Reads.pure _)

lemma conveys_charset (msg : LobOpMessage) :
    Conveys (if msg.operation = LobOp.createTemp then writeUb4 charsetUtf8.toUInt32 else pure ())
      (if (if msg.operation = LobOp.createTemp then (1 : UInt8) else 0) ≠ 0 then some <$> readUb4 else pure none)
      msg.request.charset := by
  unfold request
  by_cases htemp : msg.operation = LobOp.createTemp
  · simp only [if_pos htemp]
    exact (conveys_ub4 _).map some
  · simp only [if_neg htemp]
    exact Conveys.pure none

lemma conveys_amount (msg : LobOpMessage) :
    Conveys (if msg.sendAmount then writeUb8 msg.amount else pure ())
      (if (if msg.sendAmount then (1 : UInt8) else 0) ≠ 0 then some <$> readUb8 else pure none)
      msg.request.amount := by
  unfold request
  cases msg.sendAmount with
  | true => exact (conveys_ub8 _).map some
  | false => exact Conveys.pure none

/-- Only a write has data. -/
lemma conveys_writeLobData {msg : LobOpMessage} (h : msg.writeData.isSome ↔ msg.operation = LobOp.write) :
    Conveys msg.writeLobData (if msg.operation = LobOp.write then do skip 1; readBytesWithLength else pure none)
      msg.writeData := by
  unfold writeLobData
  cases hdata : msg.writeData with
  | some data =>
    rw [if_pos (h.mp (by rw [hdata]; rfl))]
    exact (conveys_skip _).bind (conveys_bytesWithLength data)
  | none =>
    have hwrite : msg.operation ≠ LobOp.write := by
      intro hwrite
      rw [hdata] at h
      exact Bool.false_ne_true (h.mpr hwrite)
    rw [if_neg hwrite]
    exact Conveys.pure none

/-- The server reads what a message asks for. -/
lemma conveys_writeMessage {msg : LobOpMessage} (h : msg.WellFormed) :
    Conveys (msg.writeMessage caps) (readLobRequest caps)
      (⟨messageTypeFunction, FunctionCode.lobOp.code, msg.sequenceNumber⟩, msg.request) := by
  refine (conveys_writeFunctionHeader caps _ _).bind (msg.conveys_writeFields.bind ?_)
  have hlocator := conveys_bytes msg.locatorBytes
  rw [← UInt32.toNat_ofNat_of_lt h.locator] at hlocator
  refine hlocator.bind ((conveys_charset msg).bind ((conveys_writeLobData h.data).bind ?_))
  exact (conveys_amount msg).bind_nil (Reads.pure _)

/-- **What is written for a message is read as what it asks for.** -/
lemma exists_buildMessageOnly {msg : LobOpMessage} (h : msg.WellFormed) : ∃ message,
    msg.buildMessageOnly caps = .ok message ∧ (readLobRequest caps).runOn message =
      .ok (⟨messageTypeFunction, FunctionCode.lobOp.code, msg.sequenceNumber⟩, msg.request) := by
  obtain ⟨message, hwrites, hreads⟩ := conveys_writeMessage caps h
  refine ⟨message, ?_, ?_⟩
  · rw [buildMessageOnly, WriteM.freeze, hwrites Sink.empty (Sink.hasRoom_empty _)]
    rfl
  · rw [ReadM.runOn, hreads ⟨message, 0⟩ [] (by rw [rest_mk_zero, List.append_nil])]

end LobOpMessage

end OracleRs
