import OracleRs.Connection.Closing
import OracleRs.Messages.Accept
import OracleRs.Messages.DataTypes
import OracleRs.Messages.Protocol
import OracleRs.Messages.Requests

set_option relaxedAutoImplicit false
set_option autoImplicit false

/-!
# The handshake

How a connection is established (`perform_handshake` in `connection.rs`): the client sends CONNECT and waits
for ACCEPT, checks out-of-band data if both sides have them, negotiates the protocol and the data types and
authenticates in two phases. A server that supports it is sent everything up to the first phase at once.

The stream is given by the bytes that arrive before it ends, and by which writes succeed; what has been
written is kept. The random numbers are parameters.

## Main definitions

* `OracleRs.HandshakeInner` — the part of a connection behind its lock that the handshake uses.
* `OracleRs.Login` — what the configuration and the environment say.
* `OracleRs.Login.performHandshake` — the handshake.

## Main results

* `OracleRs.Login.writes_writeFastAuth` — the message of the fast path.
-/

namespace OracleRs

open Cursor
open Sink (Writes)

/-- `MessageType::FastAuth`. -/
def messageTypeFastAuth : UInt8 := 34

/-- `MessageType::Renegotiate`. -/
def messageTypeRenegotiate : UInt8 := 28

/-- `FIELD_VERSION_19_1_EXT_1`. -/
def fieldVersion191Ext1 : UInt8 := 13

/-- The fields of `ServerInfo` that the handshake sets. -/
structure ServerInfo where
  /-- the banner -/
  banner : String := ""
  /-- the negotiated protocol version -/
  protocolVersion : UInt16 := 0
  /-- does the server support out-of-band data? -/
  supportsOob : Bool := false
deriving DecidableEq, Repr, Inhabited

/-- The part of a connection behind its lock that the handshake uses (`ConnectionInner`), as it is when the
stream has been opened. -/
structure HandshakeInner where
  /-- the bytes that arrive before the stream ends -/
  incoming : Bytes
  /-- does a write succeed behind so many others? -/
  writes : ℕ → Bool
  /-- what has been written -/
  sent : List Bytes := []
  /-- the state -/
  state : ConnectionState := .connected
  /-- the capabilities -/
  capabilities : Capabilities := Capabilities.new
  /-- what is known of the server -/
  serverInfo : ServerInfo := {}
  /-- the size of the session data unit -/
  sduSize : UInt16 := 8192
  /-- are lengths written in four bytes? -/
  largeSdu : Bool := false
  /-- the sequence number of the last message -/
  sequenceNumber : UInt8 := 0

/-- What is done under the lock. -/
abbrev HandshakeM := EStateM ConnectError HandshakeInner

namespace HandshakeInner

/-! ## The transport -/

/-- An error of `Error`. -/
def fail {α : Type} (e : Error) : HandshakeM α := throw (.of e)

/-- A computation that may fail. -/
def ofExcept {α : Type} : Except Error α → HandshakeM α
  | .ok a => pure a
  | .error e => fail e

/-- `send`. -/
def send (data : Bytes) : HandshakeM Unit := do
  let inner ← get
  if inner.writes inner.sent.length then
    modify fun inner => { inner with sent := inner.sent ++ [data] }
  else fail .io

/-- A read of `receive`: one that fails closes the state. -/
def readExact (n : ℕ) : HandshakeM Bytes := do
  let incoming := (← get).incoming
  if n ≤ incoming.length then
    modify fun inner => { inner with incoming := incoming.drop n }
    return incoming.take n
  else
    modify fun inner => { inner with incoming := [], state := .closed }
    fail .io

/-- `receive`. -/
def receive : HandshakeM Bytes := do
  let header ← readExact packetHeaderSize
  let packetLen := BigEndian.eval (header.take (if (← get).largeSdu then 4 else 2))
  let payloadLen := packetLen - packetHeaderSize
  if payloadLen > 0 then
    return header ++ (← readExact payloadLen)
  else return header

/-- A turn of the loop of `receive_response`. -/
def receiveResponseTurn (s : Accum) : HandshakeM (Accum ⊕ Received) := do
  match receiveTurn s (← receive) with
  | .inl s => return .inl s
  | .inr r => .inr <$> ofExcept r

/-- `receive_response`. A packet has at least its header, which bounds the number of packets. -/
def receiveResponse : HandshakeM Bytes := do
  let received ← Built.repeated (.of .stuck) receiveResponseTurn ((← get).incoming.length + 1) .start
  return received.response (← get).largeSdu

/-! ## CONNECT and ACCEPT -/

/-- `MAX_RESENDS`. -/
def maxResends : ℕ := 3

/-- What an ACCEPT packet says about the connection. -/
def afterAccept (accept : AcceptMessage) (inner : HandshakeInner) : HandshakeInner :=
  { inner with
    largeSdu := accept.usesLargeSdu
    serverInfo := { inner.serverInfo with
      protocolVersion := accept.protocolVersion
      supportsOob := accept.supportsOob }
    sduSize := (min accept.sdu 65535).toUInt16
    capabilities := { inner.capabilities.adjustForProtocol accept.protocolVersion accept.serviceOptions
      accept.flags2 with sdu := accept.sdu }
    state := .connected }

/-- An ACCEPT packet. -/
def acceptPacket (response : Bytes) : HandshakeM Unit := do
  let packet ← ofExcept (Packet.fromBytes response)
  let accept ← ofExcept (AcceptMessage.parse packet)
  modify (afterAccept accept)

/-- A REFUSE packet. -/
def refusePacket (response : Bytes) : HandshakeM Bool := do
  let reasons : ReadM (UInt8 × UInt8) := do return (← readU8, ← readU8)
  let _ ← ofExcept (reasons.runOn (response.drop packetHeaderSize))
  throw (.connectionRefused none (some "Connection refused by server"))

/-- The CONNECT packet, and a DATA packet with the connect data if they do not fit. -/
def sendConnect (packets : Bytes × Option Bytes) : HandshakeM Unit := do
  send packets.1
  match packets.2 with
  | some data => send data
  | none => pure ()

/-- A turn of the loop of `send_connect_packet`: is the connection accepted? Otherwise the packets are to be
sent again. -/
def connectTurn : HandshakeM Bool := do
  let response ← receive
  if response.length < packetHeaderSize then fail (.packetTooShort packetHeaderSize response.length)
  else
    let packetType := response.getD 4 0
    if packetType = PacketType.accept.code then
      acceptPacket response
      return true
    else if packetType = PacketType.refuse.code then refusePacket response
    else if packetType = PacketType.redirect.code then throw (.connectionRedirect "redirect not implemented")
    else if packetType = PacketType.resend.code then return false
    else fail (.protocolError s!"Unexpected packet type during connect: {packetType}")

/-- The loop of `send_connect_packet`, which sends the packets again for so many times at most. -/
def awaitAccept (packets : Bytes × Option Bytes) : ℕ → HandshakeM Unit
  | 0 => do
    if ← connectTurn then return
    else fail (.protocolError "Server requested too many resends during connect")
  | resends + 1 => do
    if ← connectTurn then return
    else
      sendConnect packets
      awaitAccept packets resends

/-- `send_connect_packet`. -/
def sendConnectPacket (connect : ConnectMessage) : HandshakeM Unit := do
  let packets ← ofExcept connect.buildWithContinuation
  sendConnect packets
  awaitAccept packets maxResends

/-! ## Negotiation -/

/-- The marker that resets the connection. -/
def resetMarker (largeSdu : Bool) : Bytes :=
  packetHeader largeSdu .marker (packetHeaderSize + 3) ++ [1, 0, markerTypeReset]

/-- `send_oob_check`; any packet is taken for an answer. -/
def sendOobCheck : HandshakeM Unit := do
  send [0x21]
  send (resetMarker (← get).largeSdu)
  let _ ← receive
  return

/-- Parse a message of the server, which changes the capabilities. -/
def parseProtocol (m : EStateM Error (ProtocolMessage × Capabilities) Unit) : HandshakeM ProtocolMessage := do
  let inner ← get
  match m ({}, inner.capabilities) with
  | .ok _ (message, caps) =>
    set { inner with capabilities := caps }
    return message
  | .error e (_, caps) =>
    set { inner with capabilities := caps }
    fail e

/-- The banner, if there is one. -/
def setBanner (message : ProtocolMessage) : HandshakeM Unit :=
  modify fun inner => { inner with serverInfo := { inner.serverInfo with
    banner := message.serverBanner.getD inner.serverInfo.banner } }

/-- `negotiate_protocol`. -/
def negotiateProtocol : HandshakeM Unit := do
  let request ← ofExcept (ProtocolMessage.buildRequest (← get).largeSdu)
  send request
  let response ← receive
  if response.length ≤ 4 ∨ response.getD 4 0 ≠ PacketType.data.code then
    fail (.protocolError "Protocol negotiation failed")
  else
    let message ← parseProtocol (ProtocolMessage.parseResponse (response.drop packetHeaderSize))
    setBanner message
    modify fun inner => { inner with state := .protocolNegotiated }

/-- `negotiate_data_types`; of the answer only the type of the packet is looked at. -/
def negotiateDataTypes : HandshakeM Unit := do
  let inner ← get
  let request ← ofExcept (DataTypesMessage.buildRequest inner.capabilities inner.largeSdu)
  send request
  let response ← receive
  if response.length > 4 ∧ response.getD 4 0 = PacketType.data.code then
    modify fun inner => { inner with state := .dataTypesNegotiated }
  else fail (.protocolError "Data types negotiation failed")

end HandshakeInner

/-! ## Authentication -/

/-- The random numbers of an authentication. -/
structure Draws where
  /-- the client's part of the session key -/
  random : ℕ → Bytes
  /-- the salt of the password -/
  passwordSalt : Bytes
  /-- the salt of the speedy key -/
  speedySalt : Bytes

/-- What the configuration and the environment say about a connection. -/
structure Login where
  /-- the connect message -/
  connect : ConnectMessage
  /-- the client -/
  client : AuthClient
  /-- the password -/
  password : Bytes

namespace Login

open HandshakeInner

variable (crypto : Crypto) (login : Login) (draws : Draws)

/-- `AuthMessage::new`. -/
def newAuth : AuthMessage := { password := login.password }

/-- `build_request`. -/
def buildAuth (auth : AuthMessage) : HandshakeM Bytes := do
  let inner ← get
  ofExcept (login.client.buildRequest crypto inner.capabilities inner.largeSdu draws.passwordSalt
    draws.speedySalt auth)

/-- `parse_response`. -/
def parseAuth (payload : Bytes) (auth : AuthMessage) : HandshakeM AuthMessage :=
  match AuthMessage.parseResponse crypto draws.random payload auth with
  | .ok _ auth' => pure auth'
  | .error e _ => fail e

/-- Does the packet hold an error? -/
def holdsError (response : Bytes) : Prop :=
  response.length > packetHeaderSize + 2 ∧ response.getD (packetHeaderSize + 2) 0 = MessageType.error.code

instance (response : Bytes) : Decidable (holdsError response) :=
  inferInstanceAs (Decidable (_ ∧ _))

/-- `authenticate_phase_two`. -/
def authenticatePhaseTwo (auth : AuthMessage) : HandshakeM AuthMessage := do
  if auth.phase ≠ .two then return auth
  else
    let request ← buildAuth crypto login draws auth
    send request
    let response ← HandshakeInner.receiveResponse
    if response.length ≤ packetHeaderSize then fail (.protocol "Empty auth phase two response")
    else if response.getD 4 0 = PacketType.marker.code then
      fail (.authenticationFailed "Server sent MARKER - authentication rejected")
    else if holdsError response then throw .invalidCredentials
    else parseAuth crypto draws (response.drop packetHeaderSize) auth

/-- `finish_authentication`. -/
def finishAuthentication (auth : AuthMessage) : HandshakeM Unit := do
  if !auth.isComplete then fail (.authenticationFailed "Authentication did not complete")
  else
    modify fun inner => { inner with
      capabilities := { inner.capabilities with
        comboKey := auth.comboKey.orElse fun _ => inner.capabilities.comboKey }
      sequenceNumber := 2
      state := .ready }

/-- `authenticate`. -/
def authenticate : HandshakeM Unit := do
  let request ← buildAuth crypto login draws login.newAuth
  send request
  let response ← receive
  if response.length ≤ packetHeaderSize then fail (.protocol "Empty auth response")
  else if holdsError response then
    fail (.authenticationFailed "Server rejected authentication phase one")
  else
    let auth ← parseAuth crypto draws (response.drop packetHeaderSize) login.newAuth
    let auth ← authenticatePhaseTwo crypto login draws auth
    finishAuthentication auth

/-! ## The fast path -/

/-- The capabilities in the message of the fast path. -/
def fastAuthCaps (caps : Capabilities) : Capabilities := { caps with ttcFieldVersion := fieldVersion191Ext1 }

/-- The message of the fast path: both negotiations and the first phase. -/
def writeFastAuth (caps : Capabilities) : WriteM Unit := do
  writeU8 messageTypeFastAuth
  writeU8 1 -- the version
  writeU8 1 -- the server converts characters
  writeU8 0
  ProtocolMessage.encode
  writeU16Be 0 -- the character set of the server, with a flag
  writeU8 0
  writeU16Be 0 -- its national character set
  writeU8 fieldVersion191Ext1
  DataTypesMessage.encode (fastAuthCaps caps)
  login.client.writePhaseOneMessage (fastAuthCaps caps)

/-- The message of the fast path. -/
def fastAuthBytes (caps : Capabilities) : Bytes :=
  [messageTypeFastAuth, 1, 1, 0] ++ (ProtocolMessage.request ++ ([0, 0, 0, 0, 0, fieldVersion191Ext1] ++
    (DataTypesMessage.request (fastAuthCaps caps) ++ login.client.phaseOneMessage (fastAuthCaps caps))))

lemma writes_writeFastAuth (caps : Capabilities) :
    Writes (login.writeFastAuth caps) (login.fastAuthBytes caps) := by
  have hfirst := login.client.writes_writePhaseOneMessage (fastAuthCaps caps)
  have hcharsets := (writes_writeU16Be 0).bind ((writes_writeU8 0).bind ((writes_writeU16Be 0).bind
    ((writes_writeU8 fieldVersion191Ext1).bind ((DataTypesMessage.writes_encode (fastAuthCaps caps)).bind hfirst))))
  exact (writes_writeU8 _).bind ((writes_writeU8 1).bind ((writes_writeU8 1).bind ((writes_writeU8 0).bind
    (ProtocolMessage.writes_encode.bind hcharsets))))

/-- How the loop over the answer of the fast path ends. -/
inductive FastAuthEnd where
  /-- the server asks to negotiate again -/
  | renegotiate
  /-- the response of the first phase -/
  | authResponse (auth : AuthMessage)
  /-- without a response -/
  | other

/-- The loop variables: the buffer and the message of the server. -/
abbrev FastAuthState := ReadBuffer × ProtocolMessage

/-- A message of the negotiation of the protocol, in the answer of the fast path. -/
def fastAuthProtocol (s : FastAuthState) : HandshakeM FastAuthState := do
  let inner ← get
  match ProtocolMessage.parseMessage (s.1, s.2, inner.capabilities) with
  | .ok _ (buf, message, caps) =>
    set { inner with capabilities := caps }
    setBanner message
    modify fun inner => { inner with state := .protocolNegotiated }
    return (buf, message)
  | .error e (_, _, caps) =>
    set { inner with capabilities := caps }
    fail e

/-- A message of the negotiation of the data types. -/
def fastAuthDataTypes (s : FastAuthState) : HandshakeM FastAuthState :=
  match DataTypesMessage.parseMessage s.1 with
  | .ok _ buf => do
    modify fun inner => { inner with state := .dataTypesNegotiated }
    return (buf, s.2)
  | .error e _ => throw e

/-- A message in the answer of the fast path. -/
def fastAuthMessage (flags : Bytes) (msgType : UInt8) (s : FastAuthState) :
    HandshakeM (FastAuthState ⊕ FastAuthEnd) :=
  if msgType = messageTypeProtocol then .inl <$> fastAuthProtocol s
  else if msgType = messageTypeDataTypes then .inl <$> fastAuthDataTypes s
  else if msgType = messageTypeRenegotiate then pure (.inr .renegotiate)
  else if msgType = MessageType.parameter.code ∨ msgType = MessageType.error.code then
    (fun auth => .inr (.authResponse auth)) <$> parseAuth crypto draws (flags ++ s.1.rest) login.newAuth
  else if msgType = MessageType.status.code ∨ msgType = MessageType.endOfResponse.code then
    pure (.inr .other)
  else fail (.protocolError s!"Unexpected fast auth response message type {msgType}")

/-- A turn of the loop over the answer of the fast path. -/
def fastAuthTurn (flags : Bytes) (s : FastAuthState) : HandshakeM (FastAuthState ⊕ FastAuthEnd) :=
  match s.1.rest with
  | [] => return .inr .other
  | msgType :: _ => login.fastAuthMessage crypto draws flags msgType s

/-- The loop over the answer of the fast path; a message has at least its type. -/
def fastAuthLoop (payload : Bytes) : HandshakeM FastAuthEnd :=
  Built.repeated (.of .stuck) (login.fastAuthTurn crypto draws (payload.take 2)) (payload.length + 1)
    (⟨payload.drop 2, 0⟩, {})

/-- The part of `authenticate_with_fast_auth` up to the end of the loop. -/
def fastAuthExchange : HandshakeM FastAuthEnd := do
  let inner ← get
  let request ← ofExcept (WriteM.freezeAsData inner.largeSdu (login.writeFastAuth inner.capabilities))
  send request
  let response ← HandshakeInner.receiveResponse
  if response.length ≤ packetHeaderSize then fail (.protocol "Empty fast auth response")
  else if response.length < packetHeaderSize + 3 then fail (.protocol "Fast auth response too short")
  else login.fastAuthLoop crypto draws (response.drop packetHeaderSize)

/-- `authenticate_with_fast_auth`. -/
def authenticateWithFastAuth : HandshakeM Bool := do
  match ← login.fastAuthExchange crypto draws with
  | .renegotiate => return false
  | .authResponse auth =>
    if auth.phase ≠ .two then
      fail (.authenticationFailed "Fast auth did not produce a usable phase one response")
    else
      let auth ← authenticatePhaseTwo crypto login draws auth
      finishAuthentication auth
      return true
  | .other => fail (.authenticationFailed "Fast auth did not produce a usable phase one response")

/-- `perform_handshake`; the fast path and the other one draw their own numbers. -/
def performHandshake (fast : Draws) : HandshakeM Unit := do
  sendConnectPacket login.connect
  let serverInfo := (← get).serverInfo
  (if serverInfo.protocolVersion ≥ minOobCheck ∧ serverInfo.supportsOob then sendOobCheck else pure ())
  if (← get).capabilities.supportsFastAuth then
    if ← login.authenticateWithFastAuth crypto fast then return
    else
      negotiateDataTypes
      login.authenticate crypto draws
  else
    negotiateProtocol
    negotiateDataTypes
    login.authenticate crypto draws

end Login

end OracleRs
