import OracleRs.Messages.Encryption
import OracleRs.Messages.Execute
import OracleRs.Messages.KeyValues
import OracleRs.Packet.Header

set_option relaxedAutoImplicit false
set_option autoImplicit false

/-!
# Authentication requests

The two requests of the authentication (`messages/auth.rs`). The first one names the user and the client;
the second one carries the client's part of the session key, encrypted with the password hash, and the
password, encrypted with the combo key.

What the environment says about the client, the time zone and the random numbers are parameters.

## Main definitions

* `OracleRs.AuthClient` — what only the requests carry.
* `OracleRs.AuthClient.buildPhaseOne`, `OracleRs.AuthClient.buildPhaseTwo` — the requests.
* `OracleRs.AuthClient.phaseTwoPairs` — the keys and values of the second request.

## Main results

* `OracleRs.WriteM.freezeAsData_eq` — a DATA packet around what a writer writes.
* `OracleRs.AuthClient.buildPhaseTwo_eq` — the second request, if its values can be computed.
-/

namespace OracleRs

open Cursor
open Sink (Writes)

/-! ## Packets -/

/-- A DATA packet whose buffer begins with room for the header and the data flags. -/
def WriteM.freezeAsData (largeSdu : Bool) (m : WriteM Unit) : Except Error Bytes := do
  let buf ← WriteM.freeze do
    writeZeros packetHeaderSize
    writeU16Be dataFlagEndOfRequest
    m
  let header ← ((PacketHeader.new .data (UInt32.ofNat buf.length)).write largeSdu).freeze
  return header ++ buf.drop packetHeaderSize

/-- The DATA packet of a message. -/
def dataRequest (largeSdu : Bool) (message : Bytes) : Bytes :=
  packetHeader largeSdu .data (packetHeaderSize + 2 + message.length) ++
    (BigEndian.digits 2 dataFlagEndOfRequest.toNat ++ message)

lemma WriteM.freeze_of_writes {m : WriteM Unit} {b : Bytes} (h : Writes m b) : m.freeze = .ok b := by
  rw [WriteM.freeze, h Sink.empty (Sink.hasRoom_empty _)]
  simp [Sink.empty, Sink.push]

/-- A DATA packet around what a writer writes. -/
lemma WriteM.freezeAsData_eq (largeSdu : Bool) {m : WriteM Unit} {b : Bytes} (h : Writes m b) :
    WriteM.freezeAsData largeSdu m = .ok (dataRequest largeSdu b) := by
  have hbuf := (writes_writeZeros packetHeaderSize).bind
    ((writes_writeU16Be dataFlagEndOfRequest).bind h)
  have hlen : (List.replicate packetHeaderSize (0 : UInt8) ++
      (BigEndian.digits 2 dataFlagEndOfRequest.toNat ++ b)).length = packetHeaderSize + 2 + b.length := by
    simp only [List.length_append, List.length_replicate, BigEndian.length_digits]
    omega
  rw [freezeAsData, freeze_of_writes hbuf]
  show (do let header ← WriteM.freeze _; return header ++ _ : Except Error Bytes) = _
  rw [hlen, freeze_of_writes (writes_write largeSdu .data _), dataRequest]
  rfl

/-! ## The client -/

/-- `FunctionCode::AuthPhaseOne`. -/
def authPhaseOneCode : UInt8 := 118

/-- `FunctionCode::AuthPhaseTwo`. -/
def authPhaseTwoCode : UInt8 := 115

/-- `auth_mode::LOGON`. -/
def authModeLogon : UInt32 := 0x00000001

/-- `auth_mode::WITH_PASSWORD`. -/
def authModeWithPassword : UInt32 := 0x00000100

/-- The fields of an `AuthMessage` that only its requests carry. -/
structure AuthClient where
  /-- the name of the user, in upper case -/
  username : String
  /-- the mode flags -/
  authMode : UInt32 := authModeLogon ||| authModeWithPassword
  /-- the terminal -/
  terminal : String
  /-- the program -/
  program : String
  /-- the machine -/
  machine : String
  /-- the name of the user of the operating system -/
  osuser : String
  /-- the process -/
  pid : String
  /-- the driver -/
  driverName : String
  /-- `client_version_string` -/
  clientVersion : String
  /-- `get_alter_timezone_statement` -/
  alterTimezone : String
  /-- the sequence number of the first request -/
  sequenceNumber : UInt8 := 1
deriving DecidableEq, Repr, Inhabited

namespace AuthClient

variable (crypto : Crypto) (client : AuthClient)

/-- What both requests begin with. -/
def writeHead (caps : Capabilities) (function sequenceNumber : UInt8) : WriteM Unit := do
  writeU8 messageTypeFunction
  writeU8 function
  writeU8 sequenceNumber
  if caps.ttcFieldVersion ≥ 18 then writeUb8 0

/-- The name of the user, the mode and the number of pairs; behind that a pointer for the output values. -/
def writeUser (mode numPairs : UInt32) (pointer : UInt8) : WriteM Unit := do
  let userBytes := asBytes client.username
  let hasUser := userBytes ≠ []
  writeU8 (if hasUser then 1 else 0)
  writeUb4 (UInt32.ofNat userBytes.length)
  writeUb4 mode
  writeU8 1
  writeUb4 numPairs
  writeU8 pointer
  writeU8 1
  if hasUser then writeBytesWithLength (some userBytes)

/-- `write_phase_one_message`. -/
def writePhaseOneMessage (caps : Capabilities) : WriteM Unit := do
  writeHead caps authPhaseOneCode client.sequenceNumber
  client.writeUser client.authMode 5 0
  AuthMessage.writeKeyValue "AUTH_TERMINAL" client.terminal 0
  AuthMessage.writeKeyValue "AUTH_PROGRAM_NM" client.program 0
  AuthMessage.writeKeyValue "AUTH_MACHINE" client.machine 0
  AuthMessage.writeKeyValue "AUTH_PID" client.pid 0
  AuthMessage.writeKeyValue "AUTH_SID" client.osuser 0

/-- `build_phase_one`. -/
def buildPhaseOne (caps : Capabilities) (largeSdu : Bool) : Except Error Bytes :=
  WriteM.freezeAsData largeSdu (client.writePhaseOneMessage caps)

/-! ## The second request -/

/-- The value of the password: with a salt in front it is encrypted with the combo key
(`encode_password`). -/
def encodePassword (salt : Bytes) (msg : AuthMessage) : Except Error String :=
  match msg.comboKey with
  | none => .error (.protocol "Combo key not generated")
  | some comboKey => do
    let encrypted ←
      (if msg.verifierType = VerifierType.v12c then crypto.encryptCbc256Pkcs7 comboKey (salt ++ msg.password)
      else crypto.encryptCbc192 comboKey (salt ++ msg.password))
    return crypto.hexEncodeUpper encrypted

/-- `generate_speedy_key`: the first 80 bytes of the encrypted password key. -/
def generateSpeedyKey (salt : Bytes) (msg : AuthMessage) : Except Error (Option String) :=
  if msg.verifierType ≠ VerifierType.v12c then .ok none
  else
    match msg.comboKey, msg.sessionData.authVfrData with
    | none, _ => .error (.protocol "Combo key not generated")
    | some _, none => .error (.authenticationFailed "Missing AUTH_VFR_DATA")
    | some comboKey, some vfrData =>
      match crypto.hexDecode vfrData, msg.sessionData.authPbkdf2VgenCount with
      | .error e, _ => .error (.protocol ("Invalid AUTH_VFR_DATA hex: " ++ e))
      | .ok _, none => .error (.authenticationFailed "Missing iterations")
      | .ok vfrBytes, some iterations => do
        let passwordKey := crypto.pbkdf2Derive msg.password
          (vfrBytes ++ asBytes "AUTH_PBKDF2_SPEEDY_KEY") iterations 64
        let encrypted ← crypto.encryptCbc256Pkcs7 comboKey (salt ++ passwordKey)
        let speedy ← Crypto.keyPart 0 80 encrypted
        return some (crypto.hexEncodeUpper speedy)

/-- The first digits of the client's session key; a hexadecimal digit is a single byte. -/
def sessionKeyText (verifierType : UInt32) (sessionKey : Bytes) : String :=
  String.ofList ((crypto.hexEncodeUpper sessionKey).toList.take
    (if verifierType = VerifierType.v12c then 64 else 96))

/-- The number of pairs that the second request declares. -/
def numPairs (verifierType : UInt32) : UInt32 := if verifierType = VerifierType.v12c then 7 else 6

/-- The pair of the speedy key. -/
def writeSpeedyKey (salt : Bytes) (msg : AuthMessage) : WriteM Unit :=
  if msg.verifierType = VerifierType.v12c then do
    match ← WriteM.ofExcept (generateSpeedyKey crypto salt msg) with
    | some speedy => AuthMessage.writeKeyValue "AUTH_PBKDF2_SPEEDY_KEY" speedy 0
    | none => pure ()
  else pure ()

/-- `write_phase_two_message`. -/
def writePhaseTwoMessage (caps : Capabilities) (speedySalt : Bytes) (msg : AuthMessage)
    (sessionKey : Bytes) (encodedPassword : String) : WriteM Unit := do
  writeHead caps authPhaseTwoCode 2
  client.writeUser (client.authMode ||| authModeWithPassword) (numPairs msg.verifierType) 1
  AuthMessage.writeKeyValue "AUTH_SESSKEY" (sessionKeyText crypto msg.verifierType sessionKey) 1
  writeSpeedyKey crypto speedySalt msg
  AuthMessage.writeKeyValue "AUTH_PASSWORD" encodedPassword 0
  AuthMessage.writeKeyValue "SESSION_CLIENT_CHARSET" "873" 0
  AuthMessage.writeKeyValue "SESSION_CLIENT_DRIVER_NAME" client.driverName 0
  AuthMessage.writeKeyValue "SESSION_CLIENT_VERSION" client.clientVersion 0
  AuthMessage.writeKeyValue "AUTH_ALTER_SESSION" client.alterTimezone 1

/-- `build_phase_two`; the salts are drawn for the password and for the speedy key. -/
def buildPhaseTwo (caps : Capabilities) (largeSdu : Bool) (passwordSalt speedySalt : Bytes)
    (msg : AuthMessage) : Except Error Bytes := do
  let encodedPassword ← encodePassword crypto passwordSalt msg
  match msg.clientSessionKey with
  | none => .error (.protocol "Client session key not generated")
  | some sessionKey =>
    WriteM.freezeAsData largeSdu
      (client.writePhaseTwoMessage crypto caps speedySalt msg sessionKey encodedPassword)

/-- `build_request`. -/
def buildRequest (caps : Capabilities) (largeSdu : Bool) (passwordSalt speedySalt : Bytes)
    (msg : AuthMessage) : Except Error Bytes :=
  match msg.phase with
  | .one => client.buildPhaseOne caps largeSdu
  | .two => client.buildPhaseTwo crypto caps largeSdu passwordSalt speedySalt msg
  | .complete => .error (.protocol "Authentication already complete")

/-! ## What is written -/

/-- The beginning of a request. -/
def headBytes (caps : Capabilities) (function sequenceNumber : UInt8) : Bytes :=
  [messageTypeFunction, function, sequenceNumber] ++ if caps.ttcFieldVersion ≥ 18 then [0] else []

/-- The user, the mode and the number of pairs. -/
def userBytes (mode numPairs : UInt32) (pointer : UInt8) : Bytes :=
  (if asBytes client.username ≠ [] then 1 else 0) ::
    (AuthMessage.lengthBytes (asBytes client.username) ++ (ubBytes mode.toNat ++ ([1] ++
      (ubBytes numPairs.toNat ++ ([pointer] ++ ([1] ++
        if asBytes client.username ≠ [] then (ByteString.ofBytes (asBytes client.username)).encode
        else []))))))

/-- The pairs of the first request. -/
def phaseOnePairs : List (String × String × UInt32) :=
  [("AUTH_TERMINAL", client.terminal, 0), ("AUTH_PROGRAM_NM", client.program, 0),
    ("AUTH_MACHINE", client.machine, 0), ("AUTH_PID", client.pid, 0), ("AUTH_SID", client.osuser, 0)]

/-- The pair of the speedy key, if there is one. -/
def speedyPairs (speedy : Option String) : List (String × String × UInt32) :=
  speedy.toList.map fun speedy => ("AUTH_PBKDF2_SPEEDY_KEY", speedy, 0)

/-- The pairs of the second request. -/
def phaseTwoPairs (sessionKey : String) (speedy : Option String) (password : String) :
    List (String × String × UInt32) :=
  ("AUTH_SESSKEY", sessionKey, 1) :: (speedyPairs speedy ++
    [("AUTH_PASSWORD", password, 0), ("SESSION_CLIENT_CHARSET", "873", 0),
      ("SESSION_CLIENT_DRIVER_NAME", client.driverName, 0),
      ("SESSION_CLIENT_VERSION", client.clientVersion, 0),
      ("AUTH_ALTER_SESSION", client.alterTimezone, 1)])

lemma writes_writeHead (caps : Capabilities) (function sequenceNumber : UInt8) :
    Writes (writeHead caps function sequenceNumber) (headBytes caps function sequenceNumber) := by
  unfold writeHead headBytes
  refine (writes_writeU8 _).bind ((writes_writeU8 _).bind ((writes_writeU8 _).bind ?_))
  split_ifs
  · exact writes_writeUb8 0
  · exact Writes.pure

lemma writes_writeUser (mode numPairs : UInt32) (pointer : UInt8) :
    Writes (client.writeUser mode numPairs pointer) (client.userBytes mode numPairs pointer) := by
  unfold writeUser userBytes
  refine (writes_writeU8 _).bind ((writes_writeUb4 _).bind ((writes_writeUb4 _).bind ?_))
  refine (writes_writeU8 _).bind ((writes_writeUb4 _).bind ((writes_writeU8 _).bind ?_))
  refine (writes_writeU8 _).bind ?_
  split_ifs
  · exact writes_writeBytesWithLength _
  · exact Writes.pure

/-- The first request. -/
def phaseOneMessage (caps : Capabilities) : Bytes :=
  headBytes caps authPhaseOneCode client.sequenceNumber ++ (client.userBytes client.authMode 5 0 ++
    client.phaseOnePairs.flatMap AuthMessage.pairBytes)

/-- Any pair is written. -/
lemma writes_pair (key value : String) (flags : UInt32) :
    Writes (AuthMessage.writeKeyValue key value flags) (AuthMessage.pairBytes (key, value, flags)) :=
  AuthMessage.writes_writeKeyValue (key, value, flags)

lemma writes_writePhaseOneMessage (caps : Capabilities) :
    Writes (client.writePhaseOneMessage caps) (client.phaseOneMessage caps) := by
  unfold writePhaseOneMessage phaseOneMessage phaseOnePairs
  simp only [List.flatMap_cons, List.flatMap_nil, List.append_nil]
  refine (writes_writeHead caps _ _).bind ((client.writes_writeUser _ 5 0).bind ?_)
  refine (writes_pair _ _ _).bind ((writes_pair _ _ _).bind ((writes_pair _ _ _).bind ?_))
  exact (writes_pair _ _ _).bind (writes_pair _ _ _)

/-- The first request is always built. -/
lemma buildPhaseOne_eq (caps : Capabilities) (largeSdu : Bool) :
    client.buildPhaseOne caps largeSdu = .ok (dataRequest largeSdu (client.phaseOneMessage caps)) :=
  WriteM.freezeAsData_eq largeSdu (client.writes_writePhaseOneMessage caps)

lemma writes_writeSpeedyKey {salt : Bytes} {msg : AuthMessage} {speedy : Option String}
    (h : generateSpeedyKey crypto salt msg = .ok speedy) :
    Writes (writeSpeedyKey crypto salt msg) ((speedyPairs speedy).flatMap AuthMessage.pairBytes) := by
  unfold writeSpeedyKey
  split_ifs with h12c
  · rw [h]
    cases speedy with
    | none => exact Writes.pure
    | some speedy =>
      rw [speedyPairs, Option.toList_some, List.map_singleton, List.flatMap_singleton]
      exact writes_pair _ _ _
  · obtain rfl : none = speedy := by
      rw [generateSpeedyKey, if_pos h12c] at h
      exact Except.ok.inj h
    exact Writes.pure

/-- The second request. -/
def phaseTwoMessage (caps : Capabilities) (verifierType : UInt32)
    (pairs : List (String × String × UInt32)) : Bytes :=
  headBytes caps authPhaseTwoCode 2 ++
    (client.userBytes (client.authMode ||| authModeWithPassword) (numPairs verifierType) 1 ++
      pairs.flatMap AuthMessage.pairBytes)

lemma writes_writePhaseTwoMessage (caps : Capabilities) {speedySalt : Bytes} {msg : AuthMessage}
    (sessionKey : Bytes) (encodedPassword : String) {speedy : Option String}
    (h : generateSpeedyKey crypto speedySalt msg = .ok speedy) :
    Writes (client.writePhaseTwoMessage crypto caps speedySalt msg sessionKey encodedPassword)
      (client.phaseTwoMessage caps msg.verifierType (client.phaseTwoPairs
        (sessionKeyText crypto msg.verifierType sessionKey) speedy encodedPassword)) := by
  unfold writePhaseTwoMessage phaseTwoMessage phaseTwoPairs
  simp only [List.flatMap_cons, List.flatMap_append, List.flatMap_nil, List.append_nil]
  refine (writes_writeHead caps _ _).bind ((client.writes_writeUser _ _ 1).bind ?_)
  refine (writes_pair _ _ _).bind ((writes_writeSpeedyKey crypto h).bind ?_)
  refine (writes_pair _ _ _).bind ((writes_pair _ _ _).bind ((writes_pair _ _ _).bind ?_))
  exact (writes_pair _ _ _).bind (writes_pair _ _ _)

/-- The second request, if its values can be computed. -/
lemma buildPhaseTwo_eq (caps : Capabilities) (largeSdu : Bool) {passwordSalt speedySalt : Bytes}
    {msg : AuthMessage} {sessionKey : Bytes} {encodedPassword : String} {speedy : Option String}
    (hpassword : encodePassword crypto passwordSalt msg = .ok encodedPassword)
    (hkey : msg.clientSessionKey = some sessionKey)
    (hspeedy : generateSpeedyKey crypto speedySalt msg = .ok speedy) :
    client.buildPhaseTwo crypto caps largeSdu passwordSalt speedySalt msg =
      .ok (dataRequest largeSdu (client.phaseTwoMessage caps msg.verifierType (client.phaseTwoPairs
        (sessionKeyText crypto msg.verifierType sessionKey) speedy encodedPassword))) := by
  rw [buildPhaseTwo, hpassword, hkey]
  exact WriteM.freezeAsData_eq largeSdu
    (client.writes_writePhaseTwoMessage crypto caps sessionKey encodedPassword hspeedy)

/-! ## What a server reads -/

end AuthClient

/-- A reader that reads exactly the payload. -/
lemma ReadM.runOn_of_reads {α : Type} {m : ReadM α} {b : Bytes} {a : α} (h : Reads m b a) :
    m.runOn b = .ok a := by
  have hrun := h ⟨b, 0⟩ [] (by simp)
  rw [runOn, hrun]

/-- A request of the authentication, as a server reads it. -/
structure AuthRequest where
  /-- the function -/
  function : UInt8
  /-- the sequence number -/
  sequenceNumber : UInt8
  /-- the name of the user -/
  user : Option String
  /-- the mode flags -/
  mode : UInt32
  /-- the pairs -/
  pairs : List (String × String × UInt32)
deriving DecidableEq, Repr, Inhabited

/-- The name of the user, and what stands around it. -/
def AuthRequest.readUser : ReadM (Option String × UInt32 × List (String × String × UInt32)) := do
  let hasUser ← readU8
  skipUb4
  let mode ← readUb4
  skip 1
  let numPairs ← readUb4
  skip 2
  let user ← (if hasUser ≠ 0 then readStringWithLength else pure none)
  let pairs ← times readPair numPairs.toNat
  return (user, mode, pairs)

/-- The reader of the requests: a packet with its header, the data flags and the message. -/
def AuthRequest.read (caps : Capabilities) (largeSdu : Bool) : ReadM AuthRequest := do
  let _ ← PacketHeader.read largeSdu
  skip 2 -- data flags
  skip 1 -- message type
  let function ← readU8
  let sequenceNumber ← readU8
  (if caps.ttcFieldVersion ≥ 18 then skipUb8 else pure ())
  (fun user => ⟨function, sequenceNumber, user.1, user.2.1, user.2.2⟩) <$> readUser

namespace AuthClient

variable (crypto : Crypto) (client : AuthClient)

/-- The name of the user, if there is one. -/
def user? : Option String := if client.username = "" then none else some client.username

lemma reads_user : Reads (if (if asBytes client.username ≠ [] then (1 : UInt8) else 0) ≠ 0 then
      readStringWithLength else pure none)
    (if asBytes client.username ≠ [] then (ByteString.ofBytes (asBytes client.username)).encode else [])
    client.user? := by
  unfold user?
  by_cases huser : client.username = ""
  · rw [if_pos huser, (asBytes_eq_nil_iff _).mpr huser]
    exact Reads.pure none
  · have hbytes : asBytes client.username ≠ [] := mt (asBytes_eq_nil_iff _).mp huser
    rw [if_neg huser, if_pos hbytes, if_pos hbytes, if_pos (by decide)]
    exact AuthMessage.reads_text client.username

/-- The user, the mode and the pairs are read back if no value is lost. -/
lemma reads_readUser (mode n : UInt32) (pointer : UInt8) {pairs : List (String × String × UInt32)}
    (hn : n.toNat = pairs.length) (hkept : ∀ pair ∈ pairs, AuthMessage.ValueKept pair.2.1) :
    Reads AuthRequest.readUser
      (client.userBytes mode n pointer ++ pairs.flatMap AuthMessage.pairBytes)
      (client.user?, mode, pairs) := by
  have hpairs := (AuthMessage.reads_times_readPair_iff pairs).mpr hkept
  unfold userBytes
  simp only [List.cons_append, List.append_assoc, List.nil_append]
  refine (reads_readU8 _).cons ((AuthMessage.reads_skipUb4 _).bind ((reads_ubBytes4 mode).bind ?_))
  refine (reads_skip_one 1).cons ((reads_ubBytes4 n).bind ?_)
  refine (reads_skip [pointer, 1]).bind (client.reads_user.bind ?_)
  rw [hn]
  exact hpairs.map fun pairs => (client.user?, mode, pairs)

/-- A request is read back if no value is lost. -/
lemma reads_request (caps : Capabilities) (largeSdu : Bool) (function sequenceNumber : UInt8)
    (mode n : UInt32) (pointer : UInt8) {pairs : List (String × String × UInt32)}
    (hn : n.toNat = pairs.length) (hkept : ∀ pair ∈ pairs, AuthMessage.ValueKept pair.2.1) :
    Reads (AuthRequest.read caps largeSdu)
      (dataRequest largeSdu (headBytes caps function sequenceNumber ++
        (client.userBytes mode n pointer ++ pairs.flatMap AuthMessage.pairBytes)))
      ⟨function, sequenceNumber, client.user?, mode, pairs⟩ := by
  have huser := (client.reads_readUser mode n pointer hn hkept).map
    fun user => (⟨function, sequenceNumber, user.1, user.2.1, user.2.2⟩ : AuthRequest)
  unfold dataRequest headBytes
  simp only [List.cons_append, List.nil_append]
  refine (reads_packetHeader largeSdu .data _).bind ((reads_skip [0x08, 0x00]).bind ?_)
  refine (reads_skip_one _).cons ((reads_readU8 function).cons ((reads_readU8 sequenceNumber).cons ?_))
  have htoken : Reads (if caps.ttcFieldVersion ≥ 18 then skipUb8 else pure ())
      (if caps.ttcFieldVersion ≥ 18 then [0] else []) () := by
    split_ifs
    · exact (Ub.zero : Ub 8).reads_skipUb (by decide)
    · exact Reads.pure ()
  exact htoken.bind huser

end AuthClient

end OracleRs
