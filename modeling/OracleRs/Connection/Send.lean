import OracleRs.Messages.RequestLength
import OracleRs.Utf16

set_option relaxedAutoImplicit false
set_option autoImplicit false

/-!
# Sending requests

How `connection.rs` puts requests on the wire. A write to a LOB is cut into packets of the size of the
session data unit where it does not fit into one; every other request is sent in a single packet,
however long it is.

## Main definitions

* `OracleRs.Transport` — the part of a connection that sending depends on.
* `OracleRs.Transport.sendTurn`, `OracleRs.Transport.sendMultiPacket` — the packets of a long payload.
* `OracleRs.Operation` — an operation of the driver, `OracleRs.Operation.Sends` — it puts a packet on
  the wire.
* `OracleRs.Operation.FitsSdu` — the message of the operation fits the session data unit.

## Main results

* `OracleRs.Transport.length_le_of_mem_sendMultiPacket` — no packet of a long payload exceeds the
  session data unit.
* `OracleRs.Operation.withinSdu_iff` — no packet of an operation exceeds the session data unit if and
  only if the operation is a write to a LOB, or its message fits.
-/

namespace OracleRs

/-- The part of a connection that sending depends on (`ConnectionInner`). -/
structure Transport where
  /-- the capabilities -/
  capabilities : Capabilities
  /-- the size of the session data unit -/
  sduSize : UInt16
  /-- are lengths written in four bytes? -/
  largeSdu : Bool
deriving DecidableEq, Repr

/-- The connection after the server has accepted it with a session data unit of the size. -/
def Transport.accepted (capabilities : Capabilities) (sdu : UInt32) (largeSdu : Bool) : Transport where
  capabilities := capabilities
  sduSize := (min sdu 65535).toUInt16
  largeSdu := largeSdu

namespace Transport

variable (inner : Transport)

/-! ## Long payloads -/

/-- The most bytes of payload in a packet. The subtraction wraps around, as it does in a release
build. -/
def maxPayloadPerPacket : ℕ := (2 ^ 64 + inner.sduSize.toNat - packetHeaderSize - 2) % 2 ^ 64

/-- The state of the loop: how much of the payload has been sent, and whether nothing has. -/
structure SendState where
  /-- the number of bytes sent -/
  offset : ℕ := 0
  /-- is the next packet the first one? -/
  isFirst : Bool := true
deriving DecidableEq, Repr

/-- One turn of the loop: the next packet, if there is something left to send. -/
def sendTurn (payload : Bytes) (initialDataFlags : UInt16) (s : SendState) :
    Option (Bytes × SendState) :=
  if s.offset < payload.length then
    let remaining := payload.length - s.offset
    let chunkSize := min remaining inner.maxPayloadPerPacket
    let isLast := s.offset + chunkSize ≥ payload.length
    let packetDataFlags :=
      if isLast then dataFlagEndOfRequest else if s.isFirst then initialDataFlags else 0
    some (packetHeader inner.largeSdu .data (packetHeaderSize + 2 + chunkSize) ++
      (BigEndian.digits 2 packetDataFlags.toNat ++ (payload.drop s.offset).take chunkSize),
      { offset := s.offset + chunkSize, isFirst := false })
  else
    none

/-- `send_multi_packet`: the packets that are sent in so many turns of the loop. -/
def sendMultiPacket (payload : Bytes) (initialDataFlags : UInt16) : ℕ → SendState → List Bytes
  | 0, _ => []
  | turns + 1, s =>
    match inner.sendTurn payload initialDataFlags s with
    | some (packet, s') => packet :: sendMultiPacket payload initialDataFlags turns s'
    | none => []

/-- A packet has a header, data flags and a chunk of the payload. -/
lemma length_of_sendTurn {payload : Bytes} {flags : UInt16} {s s' : SendState} {packet : Bytes}
    (h : inner.sendTurn payload flags s = some (packet, s')) :
    10 ≤ packet.length ∧ packet.length ≤ 10 + inner.maxPayloadPerPacket := by
  by_cases hlt : s.offset < payload.length
  · rw [sendTurn, if_pos hlt] at h
    simp only [Option.some.injEq, Prod.mk.injEq] at h
    rw [← h.1]
    simp only [List.length_append, length_packetHeader, BigEndian.length_digits, List.length_take,
      List.length_drop, packetHeaderSize]
    omega
  · rw [sendTurn, if_neg hlt] at h
    cases h

/-- What holds of the packet of every turn holds of all packets. -/
lemma forall_mem_sendMultiPacket {payload : Bytes} {flags : UInt16} {P : Bytes → Prop}
    (h : ∀ s s' packet, inner.sendTurn payload flags s = some (packet, s') → P packet) (turns : ℕ)
    (s : SendState) : ∀ packet ∈ inner.sendMultiPacket payload flags turns s, P packet := by
  induction turns generalizing s with
  | zero => intro packet hmem; cases hmem
  | succ turns ih =>
    intro packet hmem
    rw [sendMultiPacket] at hmem
    cases hturn : inner.sendTurn payload flags s with
    | none => rw [hturn] at hmem; cases hmem
    | some next =>
      rw [hturn] at hmem
      rcases List.mem_cons.mp hmem with rfl | hmem
      · exact h s next.2 _ hturn
      · exact ih next.2 packet hmem

/-- No packet of a long payload exceeds the session data unit, if that has room for a header. -/
theorem length_le_of_mem_sendMultiPacket (hsdu : 10 ≤ inner.sduSize.toNat) (payload : Bytes)
    (flags : UInt16) (turns : ℕ) (s : SendState) :
    ∀ packet ∈ inner.sendMultiPacket payload flags turns s, packet.length ≤ inner.sduSize.toNat := by
  have hmax : inner.maxPayloadPerPacket = inner.sduSize.toNat - 10 := by
    have := inner.sduSize.toNat_lt
    unfold maxPayloadPerPacket packetHeaderSize
    omega
  refine inner.forall_mem_sendMultiPacket (fun s s' packet hturn => ?_) turns s
  have := (inner.length_of_sendTurn hturn).2
  omega

end Transport

/-! ## Operations -/

/-- An operation that is sent after the handshake. -/
inductive Operation where
  /-- an execution, by any of the functions that send an execute message -/
  | execute (serializers : Serializers) (msg : ExecuteMessage)
  /-- a fetch (`fetch_more`) -/
  | fetch (msg : FetchMessage)
  /-- a LOB operation other than `write_lob` -/
  | lobOp (msg : LobOpMessage)
  /-- `write_lob` -/
  | writeLob (locator : LobLocator) (offset : UInt64) (data : Bytes) (sequenceNumber : UInt8)

/-- What is written to the LOB: a text in UTF-16 if the locator asks for it. -/
def lobWriteData (locator : LobLocator) (data : Bytes) : Bytes :=
  if locator.oracleType = .clob ∧ locator.usesVarLengthCharset then
    encodeUtf16Be (fromUtf8Lossy data)
  else data

/-- The packets of `write_lob` in so many turns of the send loop. -/
def Transport.writeLob (inner : Transport) (turns : ℕ) (locator : LobLocator) (offset : UInt64)
    (data : Bytes) (sequenceNumber : UInt8) : Except Error (List Bytes) := do
  let lobMsg := { LobOpMessage.newWrite locator offset (lobWriteData locator data) with
    sequenceNumber := sequenceNumber }
  let message ← lobMsg.buildMessageOnly inner.capabilities
  let maxSinglePacketPayload := inner.sduSize.toNat - (packetHeaderSize + 2)
  if message.length > maxSinglePacketPayload then
    return inner.sendMultiPacket message 0 turns {}
  else
    return [← lobMsg.buildRequest inner.capabilities inner.largeSdu]

namespace Operation

/-- The packets that an operation sends; a long payload in so many turns of the send loop. -/
def packets (inner : Transport) (turns : ℕ) : Operation → Except Error (List Bytes)
  | execute serializers msg =>
    (Request.execute serializers inner.capabilities msg inner.largeSdu).build
  | fetch msg => (Request.fetch inner.capabilities msg inner.largeSdu).build
  | lobOp msg => (Request.lobOp inner.capabilities msg inner.largeSdu).build
  | writeLob locator offset data sequenceNumber =>
    inner.writeLob turns locator offset data sequenceNumber

/-- The operation puts the packet on the wire. -/
def Sends (inner : Transport) (op : Operation) (packet : Bytes) : Prop :=
  ∃ turns packets, op.packets inner turns = .ok packets ∧ packet ∈ packets

/-- No packet of the operation is longer than the negotiated session data unit. -/
def WithinSdu (capabilities : Capabilities) (sdu : UInt32) (largeSdu : Bool) (op : Operation) :
    Prop :=
  ∀ packet, op.Sends (.accepted capabilities sdu largeSdu) packet → packet.length ≤ sdu.toNat

/-- The message of the operation with its header and data flags fits the session data unit; a write to
a LOB asks for no more than room for these. -/
def FitsSdu (capabilities : Capabilities) (sdu : UInt32) : Operation → Prop
  | execute serializers msg => 10 + msg.size serializers capabilities ≤ sdu.toNat
  | fetch msg => 10 + msg.size capabilities ≤ sdu.toNat
  | lobOp msg => 10 + msg.size capabilities ≤ sdu.toNat
  | writeLob _ _ _ _ => 10 ≤ sdu.toNat

section Lengths

variable {inner : Transport} {packet : Bytes}

lemma length_of_sends_execute {serializers : Serializers} {msg : ExecuteMessage}
    (h : (execute serializers msg).Sends inner packet) :
    packet.length = 10 + msg.size serializers inner.capabilities := by
  obtain ⟨turns, packets, hpackets, hmem⟩ := h
  obtain ⟨single, hsingle, rfl⟩ := exists_of_map_single hpackets
  obtain ⟨message, hsize, rfl⟩ := msg.exists_message_of_build serializers inner.capabilities hsingle
    (msg.grows_writeMessage serializers inner.capabilities)
  rw [List.mem_singleton.mp hmem, length_data_packet, hsize]

lemma length_of_sends_fetch {msg : FetchMessage} (h : (fetch msg).Sends inner packet) :
    packet.length = 10 + msg.size inner.capabilities := by
  obtain ⟨turns, packets, hpackets, hmem⟩ := h
  obtain ⟨single, hsingle, rfl⟩ := exists_of_map_single hpackets
  obtain ⟨message, hsize, rfl⟩ := FetchMessage.exists_message_of_build hsingle
  rw [List.mem_singleton.mp hmem, length_data_packet, hsize]

/-- The packet of a LOB operation has a header, data flags and the message. -/
lemma length_of_buildRequest {caps : Capabilities} {msg : LobOpMessage} {largeSdu : Bool}
    {message : Bytes} (h : msg.buildRequest caps largeSdu = .ok packet)
    (hmessage : msg.buildMessageOnly caps = .ok message) : packet.length = 10 + message.length := by
  obtain ⟨message', hmessage', rfl⟩ := LobOpMessage.exists_message_of_build h
  rw [hmessage] at hmessage'
  cases hmessage'
  exact length_data_packet _ _ _ _

lemma length_of_sends_lobOp {msg : LobOpMessage} (h : (lobOp msg).Sends inner packet) :
    packet.length = 10 + msg.size inner.capabilities := by
  obtain ⟨turns, packets, hpackets, hmem⟩ := h
  obtain ⟨single, hsingle, rfl⟩ := exists_of_map_single hpackets
  obtain ⟨message, hmessage, -⟩ := LobOpMessage.exists_message_of_build hsingle
  rw [List.mem_singleton.mp hmem, length_of_buildRequest hsingle hmessage,
    length_of_freeze hmessage (msg.grows_writeMessage inner.capabilities)]

/-- A write to a LOB sends packets with at least a header and data flags, and none that exceeds the
session data unit, if that has room for these. -/
lemma length_of_sends_writeLob {locator : LobLocator} {offset : UInt64} {data : Bytes}
    {sequenceNumber : UInt8} (h : (writeLob locator offset data sequenceNumber).Sends inner packet) :
    10 ≤ packet.length ∧ (10 ≤ inner.sduSize.toNat → packet.length ≤ inner.sduSize.toNat) := by
  obtain ⟨turns, packets, hpackets, hmem⟩ := h
  simp only [Operation.packets, Transport.writeLob] at hpackets
  cases hmessage : LobOpMessage.buildMessageOnly inner.capabilities
      { LobOpMessage.newWrite locator offset (lobWriteData locator data) with
        sequenceNumber := sequenceNumber } with
  | error e => rw [hmessage] at hpackets; cases hpackets
  | ok message =>
    rw [hmessage] at hpackets
    simp only [bind, Except.bind] at hpackets
    split_ifs at hpackets with hlong
    · cases hpackets
      refine ⟨inner.forall_mem_sendMultiPacket (fun s s' p hturn =>
        (inner.length_of_sendTurn hturn).1) turns {} packet hmem, fun hsdu => ?_⟩
      exact inner.length_le_of_mem_sendMultiPacket hsdu message 0 turns {} packet hmem
    · cases hrequest : LobOpMessage.buildRequest inner.capabilities
          { LobOpMessage.newWrite locator offset (lobWriteData locator data) with
            sequenceNumber := sequenceNumber } inner.largeSdu with
      | error e => rw [hrequest] at hpackets; cases hpackets
      | ok request =>
        rw [hrequest] at hpackets
        cases hpackets
        rw [List.mem_singleton.mp hmem, length_of_buildRequest hrequest hmessage]
        refine ⟨Nat.le_add_right _ _, fun hsdu => ?_⟩
        rw [packetHeaderSize] at hlong
        omega

end Lengths

lemma toNat_sduSize_accepted (capabilities : Capabilities) (sdu : UInt32) (largeSdu : Bool) :
    (Transport.accepted capabilities sdu largeSdu).sduSize.toNat = min sdu.toNat 65535 := by
  have hmin : (min sdu 65535).toNat = min sdu.toNat 65535 := by
    change (if sdu ≤ 65535 then sdu else 65535 : UInt32).toNat = _
    have hconst : (65535 : UInt32).toNat = 65535 := rfl
    simp only [UInt32.le_iff_toNat_le, hconst]
    split_ifs with h
    · rw [min_eq_left h]
    · rw [min_eq_right (by omega), hconst]
  rw [Transport.accepted, UInt32.toNat_toUInt16, hmin]
  omega

/-- An operation all of whose packets have one length is within the session data unit if and only if
that length is. -/
private lemma withinSdu_iff_of_length {capabilities : Capabilities} {sdu : UInt32} {largeSdu : Bool}
    {op : Operation} {n : ℕ}
    (hlength : ∀ packet, op.Sends (.accepted capabilities sdu largeSdu) packet → packet.length = n)
    (h : ∃ packet, op.Sends (.accepted capabilities sdu largeSdu) packet) :
    op.WithinSdu capabilities sdu largeSdu ↔ n ≤ sdu.toNat := by
  obtain ⟨packet, hsends⟩ := h
  constructor
  · intro hwithin
    rw [← hlength packet hsends]
    exact hwithin packet hsends
  · intro hle packet' hsends'
    rw [hlength packet' hsends']
    exact hle

/-- For every operation that sends something and every negotiated session data unit, no packet is
longer than the unit if and only if the message of the operation fits, or the operation is a write to
a LOB and the unit has room for a header. -/
theorem withinSdu_iff (capabilities : Capabilities) (sdu : UInt32) (largeSdu : Bool) (op : Operation)
    (h : ∃ packet, op.Sends (.accepted capabilities sdu largeSdu) packet) :
    op.WithinSdu capabilities sdu largeSdu ↔ op.FitsSdu capabilities sdu := by
  cases op with
  | execute serializers msg => exact withinSdu_iff_of_length (fun _ => length_of_sends_execute) h
  | fetch msg => exact withinSdu_iff_of_length (fun _ => length_of_sends_fetch) h
  | lobOp msg => exact withinSdu_iff_of_length (fun _ => length_of_sends_lobOp) h
  | writeLob locator offset data sequenceNumber =>
    have hsize := toNat_sduSize_accepted capabilities sdu largeSdu
    constructor
    · intro hwithin
      obtain ⟨packet, hsends⟩ := h
      exact (length_of_sends_writeLob hsends).1.trans (hwithin packet hsends)
    · intro hfits packet hsends
      have hfits' : 10 ≤ sdu.toNat := hfits
      have := (length_of_sends_writeLob hsends).2 (by omega)
      omega

/-- A fetch of a hundred rows. -/
def fetchHundred : Operation := fetch { cursorId := 1, numRows := 100 }

/-- A fetch is within the default session data unit. -/
theorem withinSdu_fetchHundred : fetchHundred.WithinSdu {} 8192 false :=
  (withinSdu_iff {} 8192 false fetchHundred ⟨_, 0, _, rfl, List.mem_singleton_self _⟩).mpr
    (by show _ ≤ _; decide)

/-- An insertion of 512 bytes. -/
def insertBytes : ExecuteMessage :=
  (ExecuteMessage.new
    { sql := "INSERT INTO t VALUES (:1)", statementType := .dml, bindInfo := [⟨"1", false⟩] }
    (.forDml false)).setBindValues [.bytes (List.replicate 512 0)]

/-- A request that is built is sent, also if it exceeds the session data unit. -/
lemma not_withinSdu_execute {capabilities : Capabilities} {sdu : UInt32} {largeSdu : Bool}
    {serializers : Serializers} {msg : ExecuteMessage}
    (hbuild : (msg.buildRequestWithSdu serializers capabilities largeSdu).isOk = true)
    (hsize : ¬10 + msg.size serializers capabilities ≤ sdu.toNat) :
    ¬(execute serializers msg).WithinSdu capabilities sdu largeSdu := by
  intro hwithin
  cases hpacket : msg.buildRequestWithSdu serializers capabilities largeSdu with
  | error e => rw [hpacket] at hbuild; cases hbuild
  | ok packet =>
    have hpackets : (execute serializers msg).packets (.accepted capabilities sdu largeSdu) 0 =
        .ok [packet] := by
      rw [packets, Request.build]
      exact congrArg (Except.map fun packet => [packet]) hpacket
    have hsends : (execute serializers msg).Sends (.accepted capabilities sdu largeSdu) packet :=
      ⟨0, [packet], hpackets, List.mem_singleton_self _⟩
    have hlength := hwithin packet hsends
    rw [length_of_sends_execute hsends] at hlength
    exact hsize hlength

/-- An insertion that is longer than a session data unit of 512 bytes is sent in one packet. -/
theorem not_withinSdu : ¬∀ (capabilities : Capabilities) (sdu : UInt32) (largeSdu : Bool)
    (op : Operation), 10 ≤ sdu.toNat → op.WithinSdu capabilities sdu largeSdu := by
  intro hall
  have hbuild : (insertBytes.buildRequestWithSdu .rejecting {} false).isOk = true := by
    decide +kernel
  have hsize : ¬10 + insertBytes.size .rejecting {} ≤ (512 : UInt32).toNat := by decide +kernel
  exact not_withinSdu_execute hbuild hsize (hall {} 512 false _ (by decide))

end Operation

end OracleRs
