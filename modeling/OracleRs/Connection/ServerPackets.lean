import OracleRs.Connection.Receive
import OracleRs.Lib.Triple
import OracleRs.Messages.Accept
import OracleRs.Messages.DataTypes

set_option relaxedAutoImplicit false
set_option autoImplicit false

/-!
# Packets of a server

What a server sends: packets whose headers have their lengths, responses in one or more packets, and the ACCEPT
message in its fields.

## Main definitions

* `OracleRs.IsPacket` — a packet with its header, `OracleRs.HasPayload` — what is looked at in a packet.
* `OracleRs.Carries` — the packets of a response.
* `OracleRs.ServerAccept` — an ACCEPT message, `OracleRs.ServerAccept.encode`.

## Main results

* `OracleRs.ServerAccept.exists_parse` — a packet with an ACCEPT message is accepted.
-/

namespace OracleRs

open Cursor
open Triple

/-! ## Packets -/

/-- A packet with a payload: the length is in four bytes, or in two of these. -/
def IsPacket (largeSdu : Bool) (packetType : PacketType) (payload packet : Bytes) : Prop :=
  ∃ field tail : Bytes, field.length = 4 ∧ tail.length = 3 ∧
    packet = field ++ (packetType.code :: (tail ++ payload)) ∧
    BigEndian.eval (field.take (if largeSdu then 4 else 2)) = packet.length

section Packets

variable {largeSdu : Bool} {t : PacketType} {payload packet : Bytes}

lemma IsPacket.length_eq (h : IsPacket largeSdu t payload packet) :
    packet.length = packetHeaderSize + payload.length := by
  obtain ⟨field, tail, hfield, htail, rfl, -⟩ := h
  simp only [List.length_append, List.length_cons, hfield, htail, packetHeaderSize]
  omega

lemma IsPacket.drop_eq (h : IsPacket largeSdu t payload packet) :
    packet.drop packetHeaderSize = payload := by
  obtain ⟨field, tail, hfield, htail, rfl, -⟩ := h
  have hsplit : field ++ (t.code :: (tail ++ payload)) = (field ++ (t.code :: tail)) ++ payload := by simp
  rw [hsplit, List.drop_left']
  simp [hfield, htail, packetHeaderSize]

lemma IsPacket.getD_four (h : IsPacket largeSdu t payload packet) : packet.getD 4 0 = t.code := by
  obtain ⟨field, tail, hfield, -, rfl, -⟩ := h
  rw [List.getD_eq_getElem?_getD, List.getElem?_append_right hfield.le, hfield]
  rfl

lemma IsPacket.eval_take (h : IsPacket largeSdu t payload packet) :
    BigEndian.eval ((packet.take packetHeaderSize).take (if largeSdu then 4 else 2)) = packet.length := by
  obtain ⟨field, tail, hfield, -, heq, hlen⟩ := h
  have hle : (if largeSdu then 4 else 2) ≤ 4 := by split_ifs <;> omega
  rw [List.take_take, Nat.min_eq_left (by rw [packetHeaderSize]; omega), ← hlen]
  refine congrArg BigEndian.eval ?_
  rw [heq]
  exact List.take_append_of_le_length (by omega)

/-- What the client looks at in a packet. -/
structure HasPayload (packetType : PacketType) (payload packet : Bytes) : Prop where
  /-- the length -/
  length_eq : packet.length = packetHeaderSize + payload.length
  /-- the type -/
  getD_four : packet.getD 4 0 = packetType.code
  /-- what is behind the header -/
  drop_eq : packet.drop packetHeaderSize = payload

lemma IsPacket.hasPayload (h : IsPacket largeSdu t payload packet) : HasPayload t payload packet :=
  ⟨h.length_eq, h.getD_four, h.drop_eq⟩

lemma hasPayload_buildDataPacketFromPayload (largeSdu : Bool) (payload : Bytes) :
    HasPayload .data payload (buildDataPacketFromPayload largeSdu payload) := by
  have hfield : (packetLengthField largeSdu (packetHeaderSize + payload.length)).length = 4 := by
    cases largeSdu <;> simp [packetLengthField]
  have hlen : (packetLengthField largeSdu (packetHeaderSize + payload.length) ++
      [PacketType.data.code, 0, 0, 0]).length = packetHeaderSize := by
    rw [List.length_append, hfield]
    rfl
  refine ⟨?_, ?_, List.drop_left' hlen⟩
  · rw [buildDataPacketFromPayload, List.length_append, hlen]
  · rw [buildDataPacketFromPayload, List.append_assoc, List.getD_eq_getElem?_getD,
      List.getElem?_append_right hfield.le, hfield]
    rfl

/-- A byte of the payload. -/
lemma HasPayload.getD_add (h : HasPayload t payload packet) (i : ℕ) :
    packet.getD (packetHeaderSize + i) 0 = payload.getD i 0 := by
  rw [← h.drop_eq, List.getD_eq_getElem?_getD, List.getD_eq_getElem?_getD, List.getElem?_drop]

end Packets

/-- The packets of a response, and the payload that is collected from them. -/
structure Carries (largeSdu : Bool) (payload : Bytes) (packets : List Bytes) : Prop where
  /-- they are packets -/
  isPacket : ∀ packet ∈ packets, ∃ t payload, IsPacket largeSdu t payload packet
  /-- the loop ends with the last one -/
  complete : Drive.drive receiveTurn .start packets = .returned (.ok (.complete payload)) []

section Packaging

variable {largeSdu : Bool}

/-- A packet as it is built. -/
lemma isPacket_packetHeader (t : PacketType) {payload : Bytes}
    (hlen : packetHeaderSize + payload.length < lengthBound largeSdu) :
    IsPacket largeSdu t payload (packetHeader largeSdu t (packetHeaderSize + payload.length) ++ payload) := by
  refine ⟨lengthField largeSdu (packetHeaderSize + payload.length), [0, 0, 0], length_lengthField _ _, rfl,
    by simp [packetHeader], ?_⟩
  rw [List.length_append, length_packetHeader]
  cases largeSdu with
  | true =>
    have hnat : (UInt32.ofNat (packetHeaderSize + payload.length)).toNat = packetHeaderSize + payload.length :=
      UInt32.toNat_ofNat_of_lt hlen
    rw [lengthField, if_pos rfl, hnat, if_pos rfl, List.take_of_length_le (by simp)]
    exact BigEndian.eval_digits _ _ hlen
  | false =>
    have hnat : (UInt16.ofNat (packetHeaderSize + payload.length)).toNat = packetHeaderSize + payload.length :=
      UInt16.toNat_ofNat_of_lt hlen
    have hlen' : packetHeaderSize + payload.length < 256 ^ 2 := hlen
    rw [lengthField, if_neg Bool.false_ne_true, hnat, if_neg Bool.false_ne_true, List.take_left' (by simp)]
    exact BigEndian.eval_digits _ _ hlen'

/-- A DATA packet with the flag of the last one is a response. -/
lemma carries_single {payload packet : Bytes} (h : IsPacket largeSdu .data payload packet)
    (hlen : 2 ≤ payload.length)
    (hflag : UInt16.ofNat (BigEndian.eval (payload.take 2)) &&& dataFlagEndOfResponse ≠ 0) :
    Carries largeSdu payload [packet] := by
  have hpacket := h.length_eq
  have hturn : receiveTurn .start packet = .inr (.ok (.complete payload)) := by
    have hshort : ¬ packet.length < packetHeaderSize := by omega
    have hdata : ¬ packet.getD 4 0 ≠ PacketType.data.code := not_not.mpr h.getD_four
    have hpayload : ¬ payload.length < 2 := by omega
    simp only [receiveTurn, if_neg hshort, if_neg hdata, h.drop_eq, if_neg hpayload]
    rw [if_pos (Or.inl (Or.inl hflag))]
    rfl
  refine ⟨fun p hp => ?_, Drive.drive_cons_of_done hturn []⟩
  obtain rfl := List.mem_singleton.mp hp
  exact ⟨_, _, h⟩

end Packaging

/-! ## ACCEPT -/

/-- An ACCEPT message of a server. -/
structure ServerAccept where
  /-- the protocol version -/
  protocolVersion : UInt16
  /-- the service options -/
  serviceOptions : UInt16
  /-- the size of the session data unit, in two bytes -/
  sdu16 : UInt16
  /-- the size of the transport data unit, in two bytes -/
  tdu16 : UInt16
  /-- the byte order of the hardware -/
  byteOrder : UInt16
  /-- the length of the accept data -/
  dataLength : UInt16
  /-- the offset of the accept data -/
  dataOffset : UInt16
  /-- the flags -/
  flags : UInt8
  /-- the other flags -/
  flags1 : UInt8
  /-- reserved bytes -/
  reserved : Bytes
  /-- the size of the session data unit -/
  sdu : UInt32
  /-- more reserved bytes -/
  reserved' : Bytes
  /-- the second flags, in long messages -/
  flags2 : UInt32
  /-- whatever stands behind that -/
  tail : Bytes
  /-- the version is one that the client supports -/
  minAccepted_le : minAccepted ≤ protocolVersion
  /-- encryption is not required -/
  flags_eq : flags &&& naRequired = 0
  /-- their number -/
  length_reserved : reserved.length = 8
  /-- their number -/
  length_reserved' : reserved'.length = 5

namespace ServerAccept

variable (m : ServerAccept)

/-- Is the message a long one? -/
def isLong : Prop := m.protocolVersion ≥ minOobCheck

instance : Decidable m.isLong := inferInstanceAs (Decidable (_ ≥ _))

/-- The bytes of a number. -/
def u16Bytes (value : UInt16) : Bytes := BigEndian.digits 2 value.toNat

/-- The bytes of a number. -/
def u32Bytes (value : UInt32) : Bytes := BigEndian.digits 4 value.toNat

/-- What follows the size of the session data unit. -/
def longBytes : Bytes := if m.isLong then m.reserved' ++ u32Bytes m.flags2 else []

/-- The message. -/
def encode : Bytes :=
  u16Bytes m.protocolVersion ++ (u16Bytes m.serviceOptions ++ (u16Bytes m.sdu16 ++ (u16Bytes m.tdu16 ++
    (u16Bytes m.byteOrder ++ (u16Bytes m.dataLength ++ (u16Bytes m.dataOffset ++ ([m.flags] ++ ([m.flags1] ++
      (m.reserved ++ (u32Bytes m.sdu ++ (m.longBytes ++ m.tail)))))))))))

/-- Does the server have out-of-band data? -/
def hasOob : Prop := m.protocolVersion ≥ minOobCheck ∧ m.serviceOptions &&& 0x0400 ≠ 0

/-- Does the server have the fast path? -/
def hasFastAuth : Prop := m.isLong ∧ m.flags2 &&& acceptFastAuth ≠ 0

/-- A message that is read says what the server has. -/
structure SaidBy (accept : AcceptMessage) : Prop where
  /-- the version -/
  protocolVersion : accept.protocolVersion = m.protocolVersion
  /-- the flags -/
  flags2 : accept.flags2 = if m.isLong then m.flags2 else 0
  /-- out-of-band data -/
  supportsOob : accept.supportsOob = true ↔ m.serviceOptions &&& 0x0400 ≠ 0

section Read

variable {α : Type} {b r : Bytes}

/-- A reader that consumes its bytes. -/
lemma holds_of_reads {n : ReadM α} {a : α} (h : Reads n b a) :
    Holds (fun c => c.rest = b ++ r) n (fun x c => x = a ∧ c.rest = r) fun _ => False := by
  intro c hc
  rw [h c r hc]
  exact ⟨rfl, rest_advance_of_append hc⟩

lemma holds_ensureRemaining_le (n : ℕ) :
    Holds (fun c => n ≤ c.remaining) (ensureRemaining n) (fun _ _ => True) fun _ => False := by
  intro c hc
  rw [ensureRemaining, if_neg (Nat.not_lt.mpr hc)]
  trivial

/-- The accept data are read as far as they are there. -/
lemma holds_readAcceptData (dataLength dataOffset : ℕ) :
    Holds (fun _ => True) (AcceptMessage.readAcceptData dataLength dataOffset) (fun _ _ => True) fun _ => False := by
  have hskip (n : ℕ) : Holds (fun c => n ≤ c.remaining) (skip n) (fun _ _ => True) fun _ => False :=
    (holds_ensureRemaining_le n).bind fun _ => Holds.modify fun _ _ => trivial
  have hread (n : ℕ) : Holds (fun c => n ≤ c.remaining) (readBytesVec n) (fun _ _ => True) fun _ => False :=
    (holds_ensureRemaining_le n).bind fun _ => Holds.get_bind fun c _ => fun _ _ => trivial
  refine Holds.ite (fun _ => ?_) fun _ => Holds.pure fun _ _ => trivial
  refine Holds.get_bind fun c _ => Holds.bind (Q := fun _ _ => True) ?_ fun _ => ?_
  · refine Holds.ite (fun h => ?_) fun _ => Holds.pure fun _ _ => trivial
    exact (hskip _).strengthen fun c' hc' => hc' ▸ h.2
  · refine Holds.get_bind fun c _ => Holds.ite (fun h => ?_) fun _ => Holds.pure fun _ _ => trivial
    exact ((hread _).strengthen fun c' hc' => hc' ▸ h).bind fun _ => Holds.pure fun _ _ => trivial

variable (r) in
lemma holds_readU16Be_of (value : UInt16) : Holds (fun c => c.rest = u16Bytes value ++ r) readU16Be
    (fun x c => x = value ∧ c.rest = r) fun _ => False := holds_of_reads (DataTypesMessage.reads_u16Be value)

variable (r) in
lemma holds_readU32Be_of (value : UInt32) : Holds (fun c => c.rest = u32Bytes value ++ r) readU32Be
    (fun x c => x = value ∧ c.rest = r) fun _ => False := by
  have hread := reads_readU32Be (u32Bytes value) (by simp [u32Bytes])
  rw [u32Bytes, BigEndian.eval_digits _ _ value.toNat_lt, UInt32.ofNat_toNat] at hread
  exact holds_of_reads hread

/-- What follows the checks is read. -/
lemma holds_readRest (sdu16 tdu16 : UInt32) (dataLength dataOffset : ℕ) (flags : UInt8) :
    Holds (fun c => c.rest = m.reserved ++ (u32Bytes m.sdu ++ (m.longBytes ++ m.tail)))
      (AcceptMessage.readRest m.protocolVersion m.serviceOptions sdu16 tdu16 dataLength dataOffset flags)
      (fun accept _ => m.SaidBy accept) fun _ => False := by
  have hskip := holds_of_reads (r := u32Bytes m.sdu ++ (m.longBytes ++ m.tail)) (reads_skip m.reserved)
  rw [m.length_reserved] at hskip
  refine hskip.bind fun _ => Holds.assume fun _ => ?_
  have hlarge : m.protocolVersion ≥ minLargeSdu := m.minAccepted_le
  rw [if_pos hlarge]
  refine (holds_readU32Be_of _ m.sdu).bind fun sdu => Holds.assume fun _ => ?_
  have hflags2 : Holds (fun c => c.rest = m.longBytes ++ m.tail)
      (if m.protocolVersion ≥ minOobCheck then do skip 5; readU32Be else pure 0)
      (fun x _ => x = (if m.isLong then m.flags2 else 0) ∧ True) fun _ => False := by
    unfold longBytes
    by_cases hlong : m.isLong
    · have hskip' := holds_of_reads (r := u32Bytes m.flags2 ++ m.tail) (reads_skip m.reserved')
      rw [m.length_reserved'] at hskip'
      rw [if_pos hlong, if_pos hlong, List.append_assoc]
      have hversion : m.protocolVersion ≥ minOobCheck := hlong
      rw [if_pos hversion]
      refine hskip'.bind fun _ => Holds.assume fun _ => ?_
      exact (holds_readU32Be_of m.tail m.flags2).weaken fun _ _ h => ⟨h.1, trivial⟩
    · have hversion : ¬ m.protocolVersion ≥ minOobCheck := hlong
      rw [if_neg hlong, if_neg hversion]
      exact Holds.pure fun _ _ => ⟨(if_neg hlong).symm, trivial⟩
  refine hflags2.bind fun flags2 => Holds.assume ?_
  rintro rfl
  refine (holds_readAcceptData dataLength dataOffset).bind fun acceptData => Holds.pure fun _ _ => ?_
  exact ⟨rfl, rfl, decide_eq_true_iff⟩

/-- The message is read. -/
lemma holds_read : Holds (fun c => c.rest = m.encode) AcceptMessage.read (fun accept _ => m.SaidBy accept)
    fun _ => False := by
  have hversion : ¬ m.protocolVersion < minAccepted := UInt16.not_lt.mpr m.minAccepted_le
  have hflags : ¬ m.flags &&& naRequired ≠ 0 := not_not.mpr m.flags_eq
  refine (holds_readU16Be_of _ m.protocolVersion).bind fun version => Holds.assume ?_
  rintro rfl
  rw [if_neg hversion]
  refine (holds_readU16Be_of _ m.serviceOptions).bind fun options => Holds.assume ?_
  rintro rfl
  refine (holds_readU16Be_of _ m.sdu16).bind fun sdu16 => Holds.assume fun _ => ?_
  refine (holds_readU16Be_of _ m.tdu16).bind fun tdu16 => Holds.assume fun _ => ?_
  have hskip := reads_skip (u16Bytes m.byteOrder)
  rw [u16Bytes, BigEndian.length_digits] at hskip
  refine (holds_of_reads hskip).bind fun _ => Holds.assume fun _ => ?_
  refine (holds_readU16Be_of _ m.dataLength).bind fun dataLength => Holds.assume fun _ => ?_
  refine (holds_readU16Be_of _ m.dataOffset).bind fun dataOffset => Holds.assume fun _ => ?_
  refine (holds_of_reads (reads_readU8 m.flags)).bind fun flags => Holds.assume ?_
  rintro rfl
  refine (holds_of_reads (reads_readU8 m.flags1)).bind fun flags1 => Holds.assume fun _ => ?_
  rw [if_neg hflags]
  exact m.holds_readRest _ _ _ _ _

/-- Any header is read. -/
lemma exists_reads_header {field tail : Bytes} (hfield : field.length = 4) (htail : tail.length = 3)
    (t : PacketType) : ∃ header : PacketHeader, header.packetType = t ∧
      Reads (PacketHeader.read false) (field ++ (t.code :: tail)) header := by
  obtain ⟨flags, checksum, rfl⟩ : ∃ flags checksum, tail = flags :: checksum :=
    List.exists_cons_of_length_eq_add_one htail
  have hlength := reads_readU16Be (field.take 2) (by rw [List.length_take, hfield]; rfl)
  have hskip := reads_skip (field.drop 2)
  rw [List.length_drop, hfield] at hskip
  have hread : Reads (PacketHeader.readLength false) (field.take 2 ++ field.drop 2) _ :=
    hlength.bind (hskip.bind_nil (Reads.pure _))
  rw [List.take_append_drop] at hread
  refine ⟨⟨(UInt16.ofNat (BigEndian.eval (field.take 2))).toUInt32, 0, t, flags,
    UInt16.ofNat (BigEndian.eval checksum)⟩, rfl, hread.bind ?_⟩
  refine (reads_readU8 t.code).cons ?_
  rw [PacketType.tryFrom_code]
  refine (reads_readU8 flags).cons ?_
  exact (reads_readU16Be checksum (by simpa using htail)).bind_nil (Reads.pure _)

/-- A packet with the message is accepted. -/
lemma exists_parse {packet : Bytes} (h : IsPacket false .accept m.encode packet) :
    ∃ p accept, Packet.fromBytes packet = .ok p ∧ AcceptMessage.parse p = .ok accept ∧ m.SaidBy accept := by
  have hlen := h.length_eq
  have hdrop := h.drop_eq
  obtain ⟨field, tail, hfield, htail, heq, -⟩ := h
  obtain ⟨header, htype, hreads⟩ := exists_reads_header hfield htail .accept
  have hheader : PacketHeader.parse packet = .ok header := by
    have hrun := hreads ⟨packet, 0⟩ m.encode (by rw [heq]; simp)
    rw [PacketHeader.parse, if_neg (by omega), ReadM.runOn, hrun]
  have hread := m.holds_read ⟨m.encode, 0⟩ (by simp)
  have hparse : ∃ accept, AcceptMessage.read.runOn m.encode = .ok accept ∧ m.SaidBy accept := by
    rw [ReadM.runOn]
    cases hrun : AcceptMessage.read ⟨m.encode, 0⟩ with
    | ok accept c =>
      rw [hrun] at hread
      exact ⟨accept, rfl, hread⟩
    | error e c =>
      rw [hrun] at hread
      exact hread.elim
  obtain ⟨accept, haccept, hsaid⟩ := hparse
  refine ⟨⟨header, packet.drop packetHeaderSize⟩, accept, ?_, ?_, hsaid⟩
  · rw [Packet.fromBytes, hheader]
    rfl
  · rw [AcceptMessage.parse, if_neg (not_not.mpr htype), hdrop, haccept]

end Read

end ServerAccept

end OracleRs
