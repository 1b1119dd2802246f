import Mathlib.Tactic

set_option relaxedAutoImplicit false
set_option autoImplicit false

/-!
# Wire constants and errors

The constants of `constants.rs` and the errors of `error.rs` that the modelled functions use:
packet and message types with their codes, Oracle data types, the length markers of the TNS
encoding and the data flags of DATA packets.

Byte strings are lists of `UInt8`; the machine integers of the source are Lean's fixed-width
types, `usize` is `ℕ`.

## Main definitions

* `OracleRs.Error` — the errors of the driver.
* `OracleRs.PacketType`, `OracleRs.MessageType`, `OracleRs.OracleType` — codes and their
  readings `tryFrom`.

## Main results

* `OracleRs.MessageType.tryFrom_code`, `OracleRs.MessageType.code_of_tryFrom` — codes are read
  back, and nothing else is.
-/

namespace OracleRs

/-- A byte string (`&[u8]`, `Vec<u8>`, `Bytes`). -/
abbrev Bytes := List UInt8

/-- The packet types (`PacketType`). -/
inductive PacketType where
  | connect
  | accept
  | ack
  | refuse
  | redirect
  | data
  | null
  | abort
  | resend
  | marker
  | attention
  | control
deriving DecidableEq, Repr

/-- The errors of `error.rs` that the modelled functions raise. -/
inductive Error where
  /-- `BufferUnderflow`: not enough data to read -/
  | bufferUnderflow (needed available : ℕ)
  /-- `BufferOverflow`: not enough space to write -/
  | bufferOverflow (needed available : ℕ)
  /-- `InvalidLengthIndicator` -/
  | invalidLengthIndicator (len : UInt8)
  /-- `InvalidPacketType` -/
  | invalidPacketType (code : UInt8)
  /-- `InvalidOracleType` -/
  | invalidOracleType (code : UInt8)
  /-- `PacketTooShort` -/
  | packetTooShort (expected actual : ℕ)
  /-- `UnexpectedPacketType` -/
  | unexpectedPacketType (expected actual : PacketType)
  /-- `ProtocolVersionNotSupported` -/
  | protocolVersionNotSupported (version minimum : UInt16)
  /-- `NativeNetworkEncryptionRequired` -/
  | nativeNetworkEncryptionRequired
  /-- `Protocol`: general protocol error -/
  | protocol (message : String)
  /-- `ProtocolError` -/
  | protocolError (message : String)
  /-- `DataConversionError` -/
  | dataConversionError (message : String)
  /-- `OracleError`: an error reported by the database -/
  | oracleError (code : UInt32) (message : String)
  /-- `ConnectionClosed` -/
  | connectionClosed
  /-- `ConnectionClosedByServer` -/
  | connectionClosedByServer (message : String)
  /-- `ConnectionNotReady` -/
  | connectionNotReady
  /-- `CursorClosed` -/
  | cursorClosed
  /-- `Io`: an error of the transport -/
  | io
  /-- `Internal` -/
  | internal (message : String)
  /-- `AuthenticationFailed` -/
  | authenticationFailed (message : String)
  /-- `UnsupportedVerifierType` -/
  | unsupportedVerifierType (code : UInt32)
  /-- not an error of the source: an index out of bounds, at which the source panics -/
  | indexOutOfBounds (index len : ℕ)
  /-- not an error of the source: an arithmetic overflow, at which the source panics when built
  with overflow checks -/
  | arithmeticOverflow
  /-- not an error of the source: the bound of a loop that consumes its input was reached,
  which never happens -/
  | stuck
deriving DecidableEq, Repr, Inhabited

/-- Does the source panic instead of returning an error? -/
def Error.isPanic : Error → Bool
  | indexOutOfBounds _ _ | arithmeticOverflow => true
  | _ => false

/-- `is_connection_error`: is the error one of the connection? The model has no errors of connecting. -/
def Error.isConnectionError : Error → Bool
  | connectionClosed | connectionClosedByServer _ | io => true
  | _ => false

/-- A sequence of two computations succeeds through a success of the first. -/
lemma exists_of_ok_bind {α β : Type} {x : Except Error α} {f : α → Except Error β} {b : β}
    (h : (x >>= f) = .ok b) : ∃ a, x = .ok a ∧ f a = .ok b := by
  cases x with
  | error e => cases h
  | ok a => exact ⟨a, rfl, h⟩

/-! ## Packets -/

/-- `PACKET_HEADER_SIZE`. -/
def packetHeaderSize : ℕ := 8

namespace PacketType

/-- The code of a packet type (byte 4 of a packet header). -/
def code : PacketType → UInt8
  | connect => 1
  | accept => 2
  | ack => 3
  | refuse => 4
  | redirect => 5
  | data => 6
  | null => 7
  | abort => 9
  | resend => 11
  | marker => 12
  | attention => 13
  | control => 14

/-- The packet type of a code. -/
def tryFrom (b : UInt8) : Except Error PacketType :=
  match b with
  | 1 => .ok connect
  | 2 => .ok accept
  | 3 => .ok ack
  | 4 => .ok refuse
  | 5 => .ok redirect
  | 6 => .ok data
  | 7 => .ok null
  | 9 => .ok abort
  | 11 => .ok resend
  | 12 => .ok marker
  | 13 => .ok attention
  | 14 => .ok control
  | _ => .error (.invalidPacketType b)

/-- Every code is read back. -/
@[simp] lemma tryFrom_code (t : PacketType) : tryFrom t.code = .ok t := by cases t <;> rfl

end PacketType

/-- Data flags (`data_flags`): the first two bytes of a DATA packet's payload. -/
def dataFlagEndOfRequest : UInt16 := 0x0800

/-- `data_flags::END_OF_RESPONSE`. -/
def dataFlagEndOfResponse : UInt16 := 0x2000

/-- `data_flags::EOF`. -/
def dataFlagEof : UInt16 := 0x0040

/-! ## Messages -/

/-- The TTC message types that occur in a response (`MessageType`). -/
inductive MessageType where
  | error
  | rowHeader
  | rowData
  | parameter
  | status
  | ioVector
  | lobData
  | describeInfo
  | flushOutBinds
  | bitVector
  | serverSidePiggyback
  | implicitResultset
  | endOfResponse
deriving DecidableEq, Repr

namespace MessageType

/-- The code of a message type: the first byte of a message. -/
def code : MessageType → UInt8
  | error => 4
  | rowHeader => 6
  | rowData => 7
  | parameter => 8
  | status => 9
  | ioVector => 11
  | lobData => 14
  | describeInfo => 16
  | flushOutBinds => 19
  | bitVector => 21
  | serverSidePiggyback => 23
  | implicitResultset => 27
  | endOfResponse => 29

/-- The message type of a byte, if it is one of the response messages. -/
def tryFrom (b : UInt8) : Option MessageType :=
  match b with
  | 4 => some error
  | 6 => some rowHeader
  | 7 => some rowData
  | 8 => some parameter
  | 9 => some status
  | 11 => some ioVector
  | 14 => some lobData
  | 16 => some describeInfo
  | 19 => some flushOutBinds
  | 21 => some bitVector
  | 23 => some serverSidePiggyback
  | 27 => some implicitResultset
  | 29 => some endOfResponse
  | _ => none

/-- Every code is read back. -/
@[simp] lemma tryFrom_code (t : MessageType) : tryFrom t.code = some t := by cases t <;> rfl

/-- Only the codes are read as message types. -/
lemma code_of_tryFrom {b : UInt8} {t : MessageType} (h : tryFrom b = some t) : b = t.code := by
  unfold tryFrom at h
  split at h <;> cases h <;> rfl

/-- Different message types have different codes. -/
lemma code_injective : Function.Injective code := by
  intro s t h
  have := congrArg tryFrom h
  simpa using this

end MessageType

/-- The code of a request message (`MessageType::Function`). -/
def messageTypeFunction : UInt8 := 3

/-- The function codes of the modelled requests (`FunctionCode`). -/
inductive FunctionCode where
  | reexecute
  | fetch
  | reexecuteAndFetch
  | execute
  | lobOp
  | logoff
deriving DecidableEq, Repr

/-- The code of a function: the second byte of a request message. -/
def FunctionCode.code : FunctionCode → UInt8
  | reexecute => 4
  | fetch => 5
  | reexecuteAndFetch => 78
  | execute => 94
  | lobOp => 96
  | logoff => 9

/-! ## Length markers of the TNS encoding (`constants::length`) -/

/-- `length::MAX_SHORT`: the longest length that is written as a single byte. -/
def maxShort : UInt8 := 252

/-- `length::ESCAPE_CHAR`. -/
def escapeChar : UInt8 := 253

/-- `length::LONG_INDICATOR`: a chunked value follows. -/
def longIndicator : UInt8 := 254

/-- `length::NULL_INDICATOR`. -/
def nullIndicator : UInt8 := 255

/-! ## TTC field versions (`ccap_value`) -/

/-- `FIELD_VERSION_12_2`. -/
def fieldVersion12_2 : UInt8 := 8

/-- `FIELD_VERSION_21_1`. -/
def fieldVersion21_1 : UInt8 := 16

/-- `FIELD_VERSION_23_1`. -/
def fieldVersion23_1 : UInt8 := 17

/-- `FIELD_VERSION_23_4`, also the highest version the driver offers. -/
def fieldVersion23_4 : UInt8 := 24

/-! ## Character sets (`constants::charset`) -/

/-- `charset::AL16UTF8`. -/
def charsetAl16Utf8 : UInt16 := 208

/-- `charset::UTF8`. -/
def charsetUtf8 : UInt16 := 873

/-- `charset::UTF16`. -/
def charsetUtf16 : UInt16 := 2000

/-! ## Capabilities (`ccap_index`, `ccap_value`, `rcap_index`, `rcap_value`) -/

namespace CcapIndex

def sqlVersion : ℕ := 0
def logonTypes : ℕ := 4
def featureBackport : ℕ := 5
def fieldVersion : ℕ := 7
def serverDefineConv : ℕ := 8
def dequeueWithSelector : ℕ := 9
def ttc1 : ℕ := 15
def oci1 : ℕ := 16
def tdsVersion : ℕ := 17
def rpcVersion : ℕ := 18
def rpcSig : ℕ := 19
def dbfVersion : ℕ := 21
def lob : ℕ := 23
def ttc2 : ℕ := 26
def ub2Dty : ℕ := 27
def oci2 : ℕ := 31
def clientFn : ℕ := 34
def oci3 : ℕ := 35
def ttc3 : ℕ := 37
def sessSignatureVersion : ℕ := 39
def ttc4 : ℕ := 40
def lob2 : ℕ := 42
def ttc5 : ℕ := 44
def featureBackport2 : ℕ := 45
def vectorFeatures : ℕ := 52
def max : ℕ := 53

end CcapIndex

namespace CcapValue

def sqlVersionMax : UInt8 := 6
def o5Logon : UInt8 := 8
def o5LogonNp : UInt8 := 2
def o7Logon : UInt8 := 32
def o8LogonLongIdentifier : UInt8 := 64
def o9LogonLongPassword : UInt8 := 0x80
def ctbImplicitPool : UInt8 := 0x08
def ctbOauthMsgOnErr : UInt8 := 0x10
def endUserSecCtxPiggyback : UInt8 := 0x02
def endOfCallStatus : UInt8 := 0x01
def indRcd : UInt8 := 0x08
def fastBvec : UInt8 := 0x20
def fastSessionPropagate : UInt8 := 0x10
def appCtxPiggyback : UInt8 := 0x80
def tdsVersionMax : UInt8 := 3
def rpcVersionMax : UInt8 := 7
def rpcSigValue : UInt8 := 3
def dbfVersionMax : UInt8 := 1
def clientFnMax : UInt8 := 12
def lobUb8Size : UInt8 := 0x01
def lobEncs : UInt8 := 0x02
def lobPrefetchData : UInt8 := 0x04
def lobTempSize : UInt8 := 0x08
def lobPrefetchLength : UInt8 := 0x40
def lob12c : UInt8 := 0x80
def lob2Quasi : UInt8 := 0x01
def lob2TwoGbPrefetch : UInt8 := 0x04
def drcp : UInt8 := 0x10
def zlnp : UInt8 := 0x04
def inbandNotification : UInt8 := 0x04
def explicitBoundary : UInt8 := 0x40
def endOfRequest : UInt8 := 0x20
def ltxid : UInt8 := 0x08
def implicitResults : UInt8 := 0x10
def bigChunkClr : UInt8 := 0x20
def keepOutOrder : UInt8 := 0x80
def vectorSupport : UInt8 := 0x08
def tokenSupported : UInt8 := 0x02
def pipeliningSupport : UInt8 := 0x04
def pipeliningBreak : UInt8 := 0x10
def sessionlessTxns : UInt8 := 0x20
def vectorFeatureBinary : UInt8 := 0x01
def vectorFeatureSparse : UInt8 := 0x02
def oci3Ocssync : UInt8 := 0x20

end CcapValue

namespace RcapIndex

def compat : ℕ := 0
def ttc : ℕ := 6
def max : ℕ := 11

end RcapIndex

namespace RcapValue

def compat81 : UInt8 := 2
def ttcZeroCopy : UInt8 := 0x01
def ttc32k : UInt8 := 0x04
def ttcSessionStateOps : UInt8 := 0x10

end RcapValue

/-- The capabilities negotiated between client and server. The defaults are those that
`Capabilities::new` starts with. -/
structure Capabilities where
  /-- the negotiated protocol version -/
  protocolVersion : UInt16 := 0
  /-- protocol options from the server -/
  protocolOptions : UInt16 := 0
  /-- the character set for database communication -/
  charsetId : UInt16 := charsetUtf8
  /-- the national character set -/
  ncharsetId : UInt16 := charsetUtf16
  /-- the compile-time capabilities -/
  compileCaps : Bytes := List.replicate CcapIndex.max 0
  /-- the runtime capabilities -/
  runtimeCaps : Bytes := List.replicate RcapIndex.max 0
  /-- the negotiated TTC field version -/
  ttcFieldVersion : UInt8 := fieldVersion23_4
  /-- the negotiated size of the session data unit -/
  sdu : UInt32 := 8192
  /-- the longest string -/
  maxStringSize : UInt32 := 4000
  supportsFastAuth : Bool := false
  supportsOob : Bool := false
  supportsEndOfResponse : Bool := false
  supportsPipelining : Bool := false
  supportsRequestBoundaries : Bool := false
  /-- the key derived during authentication -/
  comboKey : Option Bytes := none
deriving DecidableEq, Repr, Inhabited

/-! ## Data types -/

/-- Oracle data types (`OracleType`). -/
inductive OracleType where
  | varchar
  | number
  | binaryInteger
  | long
  | rowid
  | date
  | raw
  | longRaw
  | char
  | binaryFloat
  | binaryDouble
  | cursor
  | object
  | clob
  | blob
  | bfile
  | json
  | vector
  | timestamp
  | timestampTz
  | intervalYm
  | intervalDs
  | urowid
  | timestampLtz
  | boolean
deriving DecidableEq, Repr, Inhabited

namespace OracleType

/-- The Oracle type of a wire code. -/
def tryFrom (b : UInt8) : Option OracleType :=
  match b with
  | 1 => some varchar
  | 2 => some number
  | 3 => some binaryInteger
  | 8 => some long
  | 11 => some rowid
  | 12 => some date
  | 23 => some raw
  | 24 => some longRaw
  | 96 => some char
  | 100 => some binaryFloat
  | 101 => some binaryDouble
  | 102 => some cursor
  | 109 => some object
  | 112 => some clob
  | 113 => some blob
  | 114 => some bfile
  | 119 => some json
  | 127 => some vector
  | 180 => some timestamp
  | 181 => some timestampTz
  | 182 => some intervalYm
  | 183 => some intervalDs
  | 208 => some urowid
  | 231 => some timestampLtz
  | 252 => some boolean
  | _ => none

/-- The wire code of an Oracle type. -/
def code : OracleType → UInt8
  | varchar => 1
  | number => 2
  | binaryInteger => 3
  | long => 8
  | rowid => 11
  | date => 12
  | raw => 23
  | longRaw => 24
  | char => 96
  | binaryFloat => 100
  | binaryDouble => 101
  | cursor => 102
  | object => 109
  | clob => 112
  | blob => 113
  | bfile => 114
  | json => 119
  | vector => 127
  | timestamp => 180
  | timestampTz => 181
  | intervalYm => 182
  | intervalDs => 183
  | urowid => 208
  | timestampLtz => 231
  | boolean => 252

/-- Every code is read back. -/
@[simp] lemma tryFrom_code (t : OracleType) : tryFrom t.code = some t := by cases t <;> rfl

/-- `default_bind_buffer_size`. -/
def defaultBindBufferSize : OracleType → UInt32
  | varchar | char | raw | longRaw => 4000
  | long => 32767
  | number | binaryInteger => 22
  | binaryFloat => 4
  | binaryDouble => 8
  | date => 7
  | timestamp | timestampTz | timestampLtz => 13
  | rowid | urowid => 18
  | boolean => 1
  | cursor | object => 0
  | clob | blob | bfile => 112
  | json | vector => 100
  | intervalYm => 5
  | intervalDs => 11

/-- LOB types need special define handling (`is_lob`). -/
def isLob : OracleType → Bool
  | clob | blob | bfile | json | vector => true
  | _ => false

end OracleType

/-- Directions of bind parameters (`BindDirection`). -/
inductive BindDirection where
  | output
  | input
  | inputOutput
deriving DecidableEq, Repr, Inhabited

/-- The direction of a wire code (`BindDirection::try_from`). -/
def BindDirection.tryFrom (b : UInt8) : Option BindDirection :=
  match b with
  | 16 => some output
  | 32 => some input
  | 48 => some inputOutput
  | _ => none

end OracleRs
