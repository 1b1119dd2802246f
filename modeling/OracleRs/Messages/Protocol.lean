import OracleRs.Buffer.Capacity
import OracleRs.Buffer.Wire
import OracleRs.Connection.Capabilities
import OracleRs.Lib.Recording
import OracleRs.Messages.AuthRequests

set_option relaxedAutoImplicit false
set_option autoImplicit false

/-!
# Protocol negotiation

The message behind ACCEPT (`messages/protocol.rs`): the client names its driver, the server answers with its
banner, its character sets and its capabilities. The parser changes the message and the capabilities as it
reads, so that an error leaves what has been read up to there.

## Main definitions

* `OracleRs.ConnectError` — the errors of connecting.
* `OracleRs.ProtocolMessage` — the message, `OracleRs.ProtocolMessage.buildRequest`,
  `OracleRs.ProtocolMessage.parseMessage`.
* `OracleRs.ServerProtocol` — a server's message, `OracleRs.ServerProtocol.encode`.
* `OracleRs.ServerProtocol.applied` — what it says about the message and the capabilities.

## Main results

* `OracleRs.ServerProtocol.readsAs_parseMessage` — every server's message is read to its end, and applied.
-/

namespace OracleRs

open Cursor
open Recording (ReadsAs readsAs_lift readsAs_record)
open Sink (Writes)

/-- The errors of connecting: those of `Error`, and the ones that only connecting can fail with. -/
inductive ConnectError where
  /-- an error of `Error` -/
  | of (e : Error)
  /-- `InvalidMessageType` -/
  | invalidMessageType (code : UInt8)
  /-- `ConnectionRefused` -/
  | connectionRefused (errorCode : Option UInt32) (message : Option String)
  /-- `ConnectionRedirect` -/
  | connectionRedirect (message : String)
  /-- `InvalidCredentials` -/
  | invalidCredentials
deriving DecidableEq, Repr, Inhabited

/-- A computation that fails only with errors of `Error`. -/
def ConnectError.lift {σ α : Type} (m : EStateM Error σ α) : EStateM ConnectError σ α := fun s =>
  match m s with
  | .ok a s' => .ok a s'
  | .error e s' => .error (.of e) s'

/-- `MessageType::Protocol`. -/
def messageTypeProtocol : UInt8 := 1

/-- `DRIVER_NAME`. -/
def driverName : String := "oracle-rs : 0.1.0"

/-- The message (`ProtocolMessage`). -/
structure ProtocolMessage where
  /-- the version of the server -/
  serverVersion : UInt8 := 0
  /-- the flags of the server -/
  serverFlags : UInt8 := 0
  /-- the banner -/
  serverBanner : Option String := none
  /-- the compile-time capabilities -/
  serverCompileCaps : Option Bytes := none
  /-- the runtime capabilities -/
  serverRuntimeCaps : Option Bytes := none
deriving DecidableEq, Repr, Inhabited

namespace ProtocolMessage

/-! ## The request -/

/-- `encode`. -/
def encode : WriteM Unit := do
  writeU8 messageTypeProtocol
  writeU8 6 -- the version of the protocol
  writeU8 0 -- the end of the array
  writeBytes (asBytes driverName)
  writeU8 0

/-- `build_request`. -/
def buildRequest (largeSdu : Bool) : Except Error Bytes := WriteM.freezeAsData largeSdu encode

/-- The request. -/
def request : Bytes := [messageTypeProtocol, 6, 0] ++ (asBytes driverName ++ [0])

lemma writes_encode : Writes encode request := by
  refine (writes_writeU8 _).bind ((writes_writeU8 6).bind ((writes_writeU8 0).bind ?_))
  exact (writes_writeBytes _).bind (writes_writeU8 0)

/-- The request is always built. -/
lemma buildRequest_eq (largeSdu : Bool) : buildRequest largeSdu = .ok (dataRequest largeSdu request) :=
  WriteM.freezeAsData_eq largeSdu writes_encode

/-! ## The response -/

/-- What the parser changes: the message and the capabilities. -/
abbrev ParseM := EStateM Error (ReadBuffer × (ProtocolMessage × Capabilities))

/-- Change the message. -/
def setMessage (f : ProtocolMessage → ProtocolMessage) : ParseM Unit :=
  Recording.record fun r => (f r.1, r.2)

/-- Change the capabilities. -/
def setCaps (f : Capabilities → Capabilities) : ParseM Unit := Recording.record fun r => (r.1, f r.2)

/-- A turn of the loop of `read_null_terminated_string`. -/
def nullTerminatedTurn (bytes : Bytes) : ReadM (Bytes ⊕ String) := do
  let b ← readU8
  if b = 0 then return .inr (fromUtf8Lossy bytes)
  else return .inl (bytes ++ [b])

/-- `read_null_terminated_string`. -/
def readNullTerminatedString : ReadM String := iterate .stuck nullTerminatedTurn []

/-- The national character set in the format description, if this is long enough. -/
def fdoNcharsetId (fdo : Bytes) : Option UInt16 :=
  if fdo.length > 6 then
    let offset := 6 + (fdo.getD 5 0).toNat + (fdo.getD 6 0).toNat
    if offset + 5 ≤ fdo.length then
      some (((fdo.getD (offset + 3) 0).toUInt16 <<< 8) ||| (fdo.getD (offset + 4) 0).toUInt16)
    else none
  else none

/-- The capabilities with the national character set of the format description. -/
def withFdo (caps : Capabilities) (fdo : Bytes) : Capabilities :=
  { caps with ncharsetId := (fdoNcharsetId fdo).getD caps.ncharsetId }

/-- The capabilities adjusted to those of the server. -/
def adjusted (adjust : Capabilities → Bytes → Capabilities) (serverCaps : Option Bytes)
    (caps : Capabilities) : Capabilities :=
  serverCaps.elim caps (adjust caps)

/-- `parse_body`. -/
def parseBody : ParseM Unit := do
  let serverVersion ← Recording.lift readU8
  setMessage ({ · with serverVersion := serverVersion })
  Recording.lift (skip 1)
  let serverBanner ← Recording.lift readNullTerminatedString
  setMessage ({ · with serverBanner := some serverBanner })
  let charsetId ← Recording.lift readU16Le
  setCaps ({ · with charsetId := charsetId })
  let serverFlags ← Recording.lift readU8
  setMessage ({ · with serverFlags := serverFlags })
  let numElem := (← Recording.lift readU16Le).toNat
  Recording.lift (if numElem > 0 then skip (numElem * 5) else pure ())
  let fdoLength := (← Recording.lift readU16Be).toNat
  let fdo ← Recording.lift (if fdoLength > 0 then readBytesVec fdoLength else pure [])
  setCaps (withFdo · fdo)
  let serverCompileCaps ← Recording.lift readBytesWithLength
  setMessage ({ · with serverCompileCaps := serverCompileCaps })
  setCaps (adjusted Capabilities.adjustForServerCompileCaps serverCompileCaps)
  let serverRuntimeCaps ← Recording.lift readBytesWithLength
  setMessage ({ · with serverRuntimeCaps := serverRuntimeCaps })
  setCaps (adjusted Capabilities.adjustForServerRuntimeCaps serverRuntimeCaps)

/-- `parse_message`. -/
def parseMessage : ParseM Unit := do
  let msgType ← Recording.lift readU8
  if msgType ≠ messageTypeProtocol then throw (.unexpectedPacketType .data .data)
  else parseBody

/-- `parse_response`. -/
def parseResponse (payload : Bytes) : EStateM Error (ProtocolMessage × Capabilities) Unit := fun r =>
  let parse : ParseM Unit := do
    Recording.lift (skip 2) -- data flags
    parseMessage
  match parse (⟨payload, 0⟩, r) with
  | .ok _ s => .ok () s.2
  | .error e s => .error e s.2

end ProtocolMessage

/-! ## What a server sends -/

/-- The message of a server. -/
structure ServerProtocol where
  /-- the version -/
  version : UInt8
  /-- a byte that is skipped -/
  skipped : UInt8
  /-- the banner -/
  banner : Bytes
  /-- the character set -/
  charsetId : UInt16
  /-- the flags -/
  flags : UInt8
  /-- the number of elements -/
  numElem : UInt16
  /-- the elements -/
  elements : Bytes
  /-- the format description -/
  fdo : Bytes
  /-- the compile-time capabilities -/
  compileCaps : Option ByteString
  /-- the runtime capabilities -/
  runtimeCaps : Option ByteString
  /-- the banner ends at the first zero -/
  banner_ne_zero : ∀ b ∈ banner, b ≠ 0
  /-- an element has five bytes -/
  length_elements : elements.length = numElem.toNat * 5
  /-- the length of the format description has two bytes -/
  length_fdo : fdo.length < 2 ^ 16

namespace ServerProtocol

variable (m : ServerProtocol)

/-- The message behind its type. -/
def body : Bytes :=
  [m.version] ++ ([m.skipped] ++ ((m.banner ++ [0]) ++ ((BigEndian.digits 2 m.charsetId.toNat).reverse ++
    ([m.flags] ++ ((BigEndian.digits 2 m.numElem.toNat).reverse ++ (m.elements ++
      (BigEndian.digits 2 m.fdo.length ++ (m.fdo ++
        (encodeNullable m.compileCaps ++ encodeNullable m.runtimeCaps)))))))))

/-- The message. -/
def encode : Bytes := messageTypeProtocol :: m.body

/-- What the server says about its message and its capabilities. -/
def applied (r : ProtocolMessage × Capabilities) : ProtocolMessage × Capabilities :=
  ({ r.1 with
      serverVersion := m.version
      serverFlags := m.flags
      serverBanner := some (fromUtf8Lossy m.banner)
      serverCompileCaps := m.compileCaps.map ByteString.content
      serverRuntimeCaps := m.runtimeCaps.map ByteString.content },
    ProtocolMessage.adjusted Capabilities.adjustForServerRuntimeCaps (m.runtimeCaps.map ByteString.content)
      (ProtocolMessage.adjusted Capabilities.adjustForServerCompileCaps (m.compileCaps.map ByteString.content)
        (ProtocolMessage.withFdo { r.2 with charsetId := m.charsetId } m.fdo)))

/-! ## It is read -/

/-- The banner is read up to the zero. -/
lemma readsLoop_nullTerminatedTurn {banner : Bytes} (h : ∀ b ∈ banner, b ≠ 0) (bytes : Bytes) :
    ReadsLoop .stuck ProtocolMessage.nullTerminatedTurn bytes (banner ++ [0])
      (fromUtf8Lossy (bytes ++ banner)) := by
  induction banner generalizing bytes with
  | nil =>
    rw [List.append_nil]
    exact ReadsLoop.done ((reads_readU8 0).bind_nil (Reads.pure _))
  | cons b banner ih =>
    have hturn : Reads (ProtocolMessage.nullTerminatedTurn bytes) [b] (.inl (bytes ++ [b])) := by
      refine (reads_readU8 b).bind_nil ?_
      rw [if_neg (h b List.mem_cons_self)]
      exact Reads.pure _
    have hrest := ih (fun b' hb' => h b' (List.mem_cons_of_mem b hb')) (bytes ++ [b])
    rw [List.append_assoc, List.singleton_append] at hrest
    show ReadsLoop _ _ _ ([b] ++ (banner ++ [0])) _
    exact ReadsLoop.more hturn (List.cons_ne_nil _ _) hrest

lemma reads_readNullTerminatedString : Reads ProtocolMessage.readNullTerminatedString (m.banner ++ [0])
    (fromUtf8Lossy m.banner) :=
  (readsLoop_nullTerminatedTurn m.banner_ne_zero []).reads

lemma reads_u16Le (value : UInt16) : Reads readU16Le (BigEndian.digits 2 value.toNat).reverse value := by
  have hread := reads_readU16Le (BigEndian.digits 2 value.toNat).reverse (by simp)
  rwa [List.reverse_reverse, BigEndian.eval_digits _ _ value.toNat_lt, UInt16.ofNat_toNat] at hread

lemma reads_elements :
    Reads (if m.numElem.toNat > 0 then skip (m.numElem.toNat * 5) else pure ()) m.elements () := by
  split_ifs with hpos
  · rw [← m.length_elements]
    exact reads_skip m.elements
  · rw [List.eq_nil_of_length_eq_zero (l := m.elements) (by rw [m.length_elements]; omega)]
    exact Reads.pure ()

lemma reads_fdoLength : Reads readU16Be (BigEndian.digits 2 m.fdo.length) (UInt16.ofNat m.fdo.length) := by
  have hread := reads_readU16Be (BigEndian.digits 2 m.fdo.length) (by simp)
  rwa [BigEndian.eval_digits _ _ m.length_fdo] at hread

lemma reads_fdo : Reads (if (UInt16.ofNat m.fdo.length).toNat > 0 then
    readBytesVec (UInt16.ofNat m.fdo.length).toNat else pure []) m.fdo m.fdo := by
  rw [UInt16.toNat_ofNat', Nat.mod_eq_of_lt m.length_fdo]
  split_ifs with hpos
  · exact reads_readBytesVec m.fdo
  · rw [List.eq_nil_of_length_eq_zero (l := m.fdo) (by omega)]
    exact Reads.pure []

/-- Every server's message is read to its end, whatever stands behind it, and applied to the message and the
capabilities. -/
theorem readsAs_parseMessage (r : ProtocolMessage × Capabilities) :
    ReadsAs ProtocolMessage.parseMessage m.encode () r (m.applied r) := by
  show ReadsAs _ ([messageTypeProtocol] ++ m.body) () r (m.applied r)
  refine (readsAs_lift (reads_readU8 messageTypeProtocol) r).bind ?_
  rw [if_neg (not_not.mpr rfl)]
  refine (readsAs_lift (reads_readU8 m.version) r).bind (ReadsAs.record ?_)
  refine (readsAs_lift (reads_skip_one m.skipped) _).bind ?_
  refine (readsAs_lift m.reads_readNullTerminatedString _).bind (ReadsAs.record ?_)
  refine (readsAs_lift (reads_u16Le m.charsetId) _).bind (ReadsAs.record ?_)
  refine (readsAs_lift (reads_readU8 m.flags) _).bind (ReadsAs.record ?_)
  refine (readsAs_lift (reads_u16Le m.numElem) _).bind ((readsAs_lift m.reads_elements _).bind ?_)
  refine (readsAs_lift m.reads_fdoLength _).bind ((readsAs_lift m.reads_fdo _).bind (ReadsAs.record ?_))
  refine (readsAs_lift (OracleRs.reads_readBytesWithLength m.compileCaps) _).bind ?_
  refine ReadsAs.record (ReadsAs.record ?_)
  exact (readsAs_lift (OracleRs.reads_readBytesWithLength m.runtimeCaps) _).bind_nil
    (ReadsAs.record (readsAs_record _ _))

/-- The response of the server is parsed, behind its flags. -/
theorem parseResponse_encode (flags : UInt8 × UInt8) (tail : Bytes) (r : ProtocolMessage × Capabilities) :
    ProtocolMessage.parseResponse ([flags.1, flags.2] ++ (m.encode ++ tail)) r = .ok () (m.applied r) := by
  have hskip := readsAs_lift (reads_skip [flags.1, flags.2]) r
  have hread : ReadsAs (do Recording.lift (skip 2); ProtocolMessage.parseMessage)
      ([flags.1, flags.2] ++ m.encode) () r (m.applied r) :=
    ReadsAs.bind (k := fun _ => ProtocolMessage.parseMessage) hskip (m.readsAs_parseMessage r)
  have hrun := hread ⟨[flags.1, flags.2] ++ (m.encode ++ tail), 0⟩ tail (by simp)
  unfold ProtocolMessage.parseResponse
  dsimp only
  rw [hrun]

end ServerProtocol

end OracleRs
