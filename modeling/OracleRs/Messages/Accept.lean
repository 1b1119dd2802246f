import OracleRs.Connection.Capabilities
import OracleRs.Lib.Triple
import OracleRs.Packet.Header
import OracleRs.Text

set_option relaxedAutoImplicit false
set_option autoImplicit false

/-!
# ACCEPT packets

The packet with which a server accepts a connection (`messages/accept.rs`). The size of the session
data unit that it carries is not checked.

## Main definitions

* `OracleRs.Packet` — a packet, `OracleRs.Packet.fromBytes`.
* `OracleRs.AcceptMessage`, `OracleRs.AcceptMessage.parse` — the message.
* `OracleRs.acceptSdu` — the size of the session data unit in the payload.

## Main results

* `OracleRs.AcceptMessage.sdu_of_parse` — the message has the size that is in the payload.
-/

namespace OracleRs

open Cursor

/-! ## Packets -/

/-- A packet (`Packet`). -/
structure Packet where
  /-- the header -/
  header : PacketHeader
  /-- everything behind the header -/
  payload : Bytes
deriving DecidableEq, Repr

/-- `PacketHeader::parse`: a header with a length of two bytes. -/
def PacketHeader.parse (data : Bytes) : Except Error PacketHeader :=
  if data.length < packetHeaderSize then .error (.packetTooShort packetHeaderSize data.length)
  else (PacketHeader.read false).runOn data

/-- `Packet::from_bytes`. -/
def Packet.fromBytes (data : Bytes) : Except Error Packet := do
  let header ← PacketHeader.parse data
  return { header := header, payload := data.drop packetHeaderSize }

/-! ## The message -/

/-- `version::MIN_ACCEPTED`. -/
def minAccepted : UInt16 := 315

/-- `version::MIN_LARGE_SDU`. -/
def minLargeSdu : UInt16 := 315

/-- `version::MIN_OOB_CHECK`. -/
def minOobCheck : UInt16 := 318

/-- `nsi_flags::NA_REQUIRED`. -/
def naRequired : UInt8 := 0x10

/-- An ACCEPT message (`AcceptMessage`). -/
structure AcceptMessage where
  protocolVersion : UInt16
  serviceOptions : UInt16
  /-- the size of the session data unit -/
  sdu : UInt32
  /-- the size of the transport data unit -/
  tdu : UInt32
  flags : UInt8
  flags2 : UInt32
  acceptData : Option String
  supportsFastAuth : Bool
  supportsOob : Bool
  supportsEndOfResponse : Bool
deriving DecidableEq, Repr

namespace AcceptMessage

/-- The accept data, which begin at the offset if that has not been passed. -/
def readAcceptData (dataLength dataOffset : ℕ) : ReadM (Option String) := do
  if dataLength > 0 ∧ dataOffset > 0 then
    let buf ← get
    let dataStart := dataOffset - buf.pos
    (if dataStart > 0 ∧ buf.remaining ≥ dataStart then skip dataStart else pure ())
    let buf ← get
    if buf.remaining ≥ dataLength then
      return some (fromUtf8Lossy (← readBytesVec dataLength))
    else return none
  else return none

/-- What follows the checks. -/
def readRest (protocolVersion serviceOptions : UInt16) (sdu16 tdu16 : UInt32)
    (dataLength dataOffset : ℕ) (flags : UInt8) : ReadM AcceptMessage := do
  skip 8
  let sdu ← if protocolVersion ≥ minLargeSdu then readU32Be else pure sdu16
  let flags2 ← (if protocolVersion ≥ minOobCheck then do
    skip 5
    readU32Be
    else pure 0)
  let acceptData ← readAcceptData dataLength dataOffset
  return {
    protocolVersion := protocolVersion
    serviceOptions := serviceOptions
    sdu := sdu
    tdu := tdu16
    flags := flags
    flags2 := flags2
    acceptData := acceptData
    supportsFastAuth := flags2 &&& acceptFastAuth ≠ 0
    supportsOob := serviceOptions &&& 0x0400 ≠ 0
    supportsEndOfResponse :=
      protocolVersion ≥ minEndOfResponse ∧ flags2 &&& acceptHasEndOfResponse ≠ 0 }

/-- The payload. -/
def read : ReadM AcceptMessage := do
  let protocolVersion ← readU16Be
  if protocolVersion < minAccepted then
    throw (.protocolVersionNotSupported protocolVersion minAccepted)
  else
    let serviceOptions ← readU16Be
    let sdu16 := (← readU16Be).toUInt32
    let tdu16 := (← readU16Be).toUInt32
    skip 2 -- the hardware byte order
    let dataLength := (← readU16Be).toNat
    let dataOffset := (← readU16Be).toNat
    let flags ← readU8
    let _flags1 ← readU8
    if flags &&& naRequired ≠ 0 then throw .nativeNetworkEncryptionRequired
    else readRest protocolVersion serviceOptions sdu16 tdu16 dataLength dataOffset flags

/-- `AcceptMessage::parse`. -/
def parse (packet : Packet) : Except Error AcceptMessage :=
  if packet.header.packetType ≠ .accept then
    .error (.unexpectedPacketType .accept packet.header.packetType)
  else AcceptMessage.read.runOn packet.payload

/-- `uses_large_sdu`. -/
def usesLargeSdu (accept : AcceptMessage) : Bool := accept.protocolVersion ≥ minLargeSdu

end AcceptMessage

/-! ## The session data unit -/

/-- The size of the session data unit in the payload of an ACCEPT packet: the four bytes from
offset 24 on. -/
def acceptSdu (payload : Bytes) : UInt32 :=
  UInt32.ofNat (BigEndian.eval ((payload.drop 24).take 4))

section Positions

open Triple

variable {data : Bytes} {p : ℕ}

/-- Reading at a position. -/
lemma holds_ensureRemaining (n : ℕ) : Holds (fun c => c = ⟨data, p⟩) (ensureRemaining n)
    (fun _ c => c = ⟨data, p⟩) (fun _ => True) := by
  rintro c rfl
  rw [ensureRemaining]
  split_ifs
  · trivial
  · rfl

lemma holds_skip (n : ℕ) : Holds (fun c => c = ⟨data, p⟩) (skip n)
    (fun _ c => c = ⟨data, p + n⟩) (fun _ => True) :=
  (holds_ensureRemaining n).bind fun _ => Holds.modify fun _ h => by rw [h]; rfl

lemma holds_readU8 : Holds (fun c => c = ⟨data, p⟩) readU8
    (fun _ c => c = ⟨data, p + 1⟩) (fun _ => True) := by
  refine (holds_ensureRemaining 1).bind fun _ => ?_
  rintro c rfl
  exact rfl

lemma holds_readBytesVec (n : ℕ) : Holds (fun c => c = ⟨data, p⟩) (readBytesVec n)
    (fun bytes c => bytes = (data.drop p).take n ∧ c = ⟨data, p + n⟩) (fun _ => True) := by
  refine (holds_ensureRemaining n).bind fun _ => ?_
  rintro c rfl
  exact ⟨rfl, rfl⟩

lemma holds_readU16Be : Holds (fun c => c = ⟨data, p⟩) readU16Be
    (fun _ c => c = ⟨data, p + 2⟩) (fun _ => True) :=
  (holds_readBytesVec 2).bind fun _ => Holds.pure fun _ h => h.2

lemma holds_readU32Be : Holds (fun c => c = ⟨data, p⟩) readU32Be
    (fun v c => v = UInt32.ofNat (BigEndian.eval ((data.drop p).take 4)) ∧ c = ⟨data, p + 4⟩)
    (fun _ => True) :=
  (holds_readBytesVec 4).bind fun _ => Holds.pure fun _ h => ⟨by rw [h.1], h.2⟩

end Positions

namespace AcceptMessage

open Triple

variable {data : Bytes}

/-- What follows the checks begins at offset 16; the size of the session data unit is behind the
reserved bytes. -/
lemma holds_readRest {protocolVersion : UInt16} (hversion : protocolVersion ≥ minLargeSdu)
    (serviceOptions : UInt16) (sdu16 tdu16 : UInt32) (dataLength dataOffset : ℕ) (flags : UInt8) :
    Holds (fun c => c = ⟨data, 16⟩)
      (readRest protocolVersion serviceOptions sdu16 tdu16 dataLength dataOffset flags)
      (fun accept _ => accept.protocolVersion = protocolVersion ∧ accept.sdu = acceptSdu data)
      (fun _ => True) := by
  rw [readRest, if_pos hversion]
  refine (holds_skip 8).bind fun _ => ?_
  refine holds_readU32Be.bind fun sdu => ?_
  refine Holds.assume fun hsdu => ?_
  refine Holds.unspecified.bind fun flags2 => ?_
  refine Holds.unspecified.bind fun acceptData => ?_
  exact Holds.pure fun _ _ => ⟨rfl, hsdu⟩

/-- The message has the size that is in the payload. -/
lemma holds_read : Holds (fun c => c = ⟨data, 0⟩) AcceptMessage.read
    (fun accept _ => minAccepted ≤ accept.protocolVersion ∧ accept.sdu = acceptSdu data)
    (fun _ => True) := by
  rw [AcceptMessage.read]
  refine holds_readU16Be.bind fun protocolVersion => ?_
  refine Holds.ite (fun _ => Holds.throw trivial) fun hversion => ?_
  refine holds_readU16Be.bind fun serviceOptions => ?_
  refine holds_readU16Be.bind fun sdu16 => ?_
  refine holds_readU16Be.bind fun tdu16 => ?_
  refine (holds_skip 2).bind fun _ => ?_
  refine holds_readU16Be.bind fun dataLength => ?_
  refine holds_readU16Be.bind fun dataOffset => ?_
  refine holds_readU8.bind fun flags => ?_
  refine holds_readU8.bind fun _ => ?_
  refine Holds.ite (fun _ => Holds.throw trivial) fun _ => ?_
  have hle : minAccepted ≤ protocolVersion := UInt16.not_lt.mp hversion
  refine (holds_readRest hle _ _ _ _ _ _).weaken ?_
  rintro accept c ⟨rfl, hsdu⟩
  exact ⟨hle, hsdu⟩

/-- A message that is accepted has the size of the session data unit that is in the payload, and its
version is one with long packet lengths. -/
theorem sdu_of_parse {packet : Packet} {accept : AcceptMessage} (h : parse packet = .ok accept) :
    accept.sdu = acceptSdu packet.payload ∧ accept.usesLargeSdu = true := by
  rw [parse] at h
  split_ifs at h with htype
  rw [ReadM.runOn] at h
  cases hread : AcceptMessage.read ⟨packet.payload, 0⟩ with
  | error e c => rw [hread] at h; cases h
  | ok accept' c =>
    rw [hread] at h
    cases h
    obtain ⟨hversion, hsdu⟩ := holds_read.of_ok rfl hread
    exact ⟨hsdu, decide_eq_true hversion⟩

end AcceptMessage

end OracleRs
