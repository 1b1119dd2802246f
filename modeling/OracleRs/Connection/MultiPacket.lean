import OracleRs.Connection.Send
import OracleRs.Messages.Accept

set_option relaxedAutoImplicit false
set_option autoImplicit false

/-!
# Payloads in several packets

What `send_multi_packet` puts on the wire, for a session data unit that leaves room for a payload: the
payload cut into pieces, each in a packet that fits and declares its length, with the end of the
request marked on the last one. The size of the session data unit is the server's, and is not checked;
where it leaves no room the loop does not end.

## Main definitions

* `OracleRs.dataPacket`, `OracleRs.packetFlags`, `OracleRs.packetBody` — a DATA packet and its parts.
* `OracleRs.Transport.SentFaithfully` — packets carry a payload.
* `OracleRs.Transport.Finishes` — the loop ends.
* `OracleRs.Transport.acceptPacket` — the connection after an ACCEPT packet.

## Main results

* `OracleRs.Transport.sentFaithfully` — every payload is sent faithfully.
* `OracleRs.Transport.makesProgress_iff` — when sending ends, for every ACCEPT packet.
-/

namespace OracleRs

/-! ## DATA packets -/

/-- A DATA packet. -/
def dataPacket (largeSdu : Bool) (flags : UInt16) (body : Bytes) : Bytes :=
  packetHeader largeSdu .data (packetHeaderSize + 2 + body.length) ++
    (BigEndian.digits 2 flags.toNat ++ body)

/-- The data flags of a packet. -/
def packetFlags (packet : Bytes) : UInt16 :=
  UInt16.ofNat (BigEndian.eval ((packet.drop packetHeaderSize).take 2))

/-- What is behind the data flags. -/
def packetBody (packet : Bytes) : Bytes := packet.drop (packetHeaderSize + 2)

section DataPacket

variable (largeSdu : Bool) (flags : UInt16) (body : Bytes)

@[simp] lemma length_dataPacket : (dataPacket largeSdu flags body).length = 10 + body.length :=
  length_data_packet largeSdu flags body _

@[simp] lemma packetFlags_dataPacket : packetFlags (dataPacket largeSdu flags body) = flags := by
  have hdrop : (dataPacket largeSdu flags body).drop packetHeaderSize =
      BigEndian.digits 2 flags.toNat ++ body :=
    List.drop_left' (length_packetHeader _ _ _)
  rw [packetFlags, hdrop, List.take_left' (BigEndian.length_digits _ _),
    BigEndian.eval_digits _ _ flags.toNat_lt, UInt16.ofNat_toNat]

@[simp] lemma packetBody_dataPacket : packetBody (dataPacket largeSdu flags body) = body := by
  rw [packetBody, dataPacket, ← List.append_assoc]
  apply List.drop_left'
  simp [packetHeaderSize]

lemma declaresLength_dataPacket (h : 10 + body.length < lengthBound largeSdu) :
    DeclaresLength largeSdu (dataPacket largeSdu flags body) := by
  rw [dataPacket, Nat.add_assoc packetHeaderSize]
  exact (declaresLength_data_iff largeSdu (BigEndian.length_digits _ _) body).mpr h

end DataPacket

namespace Transport

variable (inner : Transport) {payload : Bytes}

/-! ## The packets of a payload -/

/-- The packets carry the payload. -/
structure SentFaithfully (payload : Bytes) (packets : List Bytes) : Prop where
  /-- the payload is in the packets, in order -/
  bodies : packets.flatMap packetBody = payload
  /-- no packet is longer than the session data unit -/
  bounded : ∀ packet ∈ packets, packet.length ≤ inner.sduSize.toNat
  /-- the length of each packet is that in its header -/
  declares : ∀ packet ∈ packets, DeclaresLength inner.largeSdu packet
  /-- the end of the request is marked on the last packet, and on no other -/
  endMarked : ∃ front last, packets = front ++ [last] ∧ packetFlags last = dataFlagEndOfRequest ∧
    ∀ packet ∈ front, packetFlags packet &&& dataFlagEndOfRequest = 0
  /-- the message of a LOB operation that fits is sent as `build_request` writes it -/
  single : 10 + payload.length ≤ inner.sduSize.toNat →
    ∀ (caps : Capabilities) (msg : LobOpMessage), msg.buildMessageOnly caps = .ok payload →
      ∃ request, msg.buildRequest caps inner.largeSdu = .ok request ∧ packets = [request]

/-- The subtraction does not wrap around where the session data unit has room for a header. -/
lemma maxPayloadPerPacket_eq (h : 10 ≤ inner.sduSize.toNat) :
    inner.maxPayloadPerPacket = inner.sduSize.toNat - 10 := by
  have := inner.sduSize.toNat_lt
  unfold maxPayloadPerPacket packetHeaderSize
  omega

/-- The chunk of a turn. -/
def chunk (payload : Bytes) (s : SendState) : Bytes :=
  (payload.drop s.offset).take inner.maxPayloadPerPacket

variable {inner} {flags : UInt16} {s : SendState}

lemma length_chunk : (inner.chunk payload s).length =
    min (payload.length - s.offset) inner.maxPayloadPerPacket := by
  rw [chunk, List.length_take, List.length_drop, min_comm]

/-- A turn sends a chunk, with the data flags of its place. -/
lemma sendTurn_of_lt (h : s.offset < payload.length) :
    inner.sendTurn payload flags s = some
      (dataPacket inner.largeSdu
        (if payload.length - s.offset ≤ inner.maxPayloadPerPacket then dataFlagEndOfRequest
          else if s.isFirst then flags else 0)
        (inner.chunk payload s),
      { offset := s.offset + (inner.chunk payload s).length, isFirst := false }) := by
  have hchunk : (payload.drop s.offset).take
      (min (payload.length - s.offset) inner.maxPayloadPerPacket) = inner.chunk payload s := by
    rw [chunk, ← List.length_drop, min_comm, ← List.take_eq_take_min]
  have hlast : s.offset + min (payload.length - s.offset) inner.maxPayloadPerPacket ≥
      payload.length ↔ payload.length - s.offset ≤ inner.maxPayloadPerPacket := by omega
  rw [sendTurn, if_pos h]
  simp only [hchunk, hlast, dataPacket, length_chunk]

/-- There is nothing left to send. -/
lemma sendTurn_of_ge (h : payload.length ≤ s.offset) : inner.sendTurn payload flags s = none :=
  if_neg (Nat.not_lt.mpr h)

/-- The loop goes on behind the chunk. -/
lemma sendMultiPacket_of_lt (turns : ℕ) (h : s.offset < payload.length) :
    inner.sendMultiPacket payload flags (turns + 1) s =
      dataPacket inner.largeSdu
        (if payload.length - s.offset ≤ inner.maxPayloadPerPacket then dataFlagEndOfRequest
          else if s.isFirst then flags else 0)
        (inner.chunk payload s) ::
      inner.sendMultiPacket payload flags turns
        { offset := s.offset + (inner.chunk payload s).length, isFirst := false } := by
  rw [sendMultiPacket, sendTurn_of_lt h]

/-- The packets of what is left of a payload: full chunks, and then the rest of it with the end of the
request.

**Proof sketch.** Induction on the turns. Either the chunk is what is left, and the loop ends, or it is
a full one, and there is less left behind it. -/
lemma exists_chunks (hroom : 0 < inner.maxPayloadPerPacket) (turns : ℕ) (s : SendState)
    (hturns : payload.length - s.offset ≤ turns) (hlt : s.offset < payload.length) :
    ∃ front last, inner.sendMultiPacket payload 0 turns s =
        front.map (dataPacket inner.largeSdu 0) ++
          [dataPacket inner.largeSdu dataFlagEndOfRequest last] ∧
      front.flatten ++ last = payload.drop s.offset ∧
      (∀ body ∈ front ++ [last], body.length ≤ inner.maxPayloadPerPacket) ∧
      (payload.length - s.offset ≤ inner.maxPayloadPerPacket → front = []) := by
  induction turns generalizing s with
  | zero => omega
  | succ turns ih =>
    have hlen : (inner.chunk payload s).length = _ := length_chunk
    rw [sendMultiPacket_of_lt turns hlt]
    by_cases hlast : payload.length - s.offset ≤ inner.maxPayloadPerPacket
    · have hall : inner.chunk payload s = payload.drop s.offset :=
        List.take_of_length_le (by rw [List.length_drop]; exact hlast)
      have hend : inner.sendMultiPacket payload 0 turns
          { offset := s.offset + (inner.chunk payload s).length, isFirst := false } = [] := by
        cases turns with
        | zero => rfl
        | succ turns => rw [sendMultiPacket, sendTurn_of_ge (by dsimp only; omega)]
      refine ⟨[], inner.chunk payload s, ?_, by simpa using hall, ?_, fun _ => rfl⟩
      · rw [if_pos hlast, hend]
        rfl
      · simp only [List.nil_append, List.forall_mem_singleton]
        omega
    · have hflags : (if s.isFirst then 0 else 0 : UInt16) = 0 := ite_self 0
      obtain ⟨front, last, hpackets, hflatten, hbound, -⟩ :=
        ih { offset := s.offset + (inner.chunk payload s).length, isFirst := false }
          (by dsimp only; omega) (by dsimp only; omega)
      refine ⟨inner.chunk payload s :: front, last, ?_, ?_, ?_, fun h => absurd h hlast⟩
      · rw [if_neg hlast, hflags, hpackets]
        rfl
      · have htake : inner.chunk payload s =
            (payload.drop s.offset).take (inner.chunk payload s).length := by
          rw [hlen, chunk, min_eq_right (by omega)]
        rw [List.flatten_cons, List.append_assoc, hflatten, ← List.drop_drop]
        nth_rewrite 1 [htake]
        exact List.take_append_drop _ _
      · rw [List.cons_append, List.forall_mem_cons]
        exact ⟨by omega, hbound⟩

/-- A message that fits is sent in the packet that `build_request` writes. -/
lemma buildRequest_eq_dataPacket {caps : Capabilities} {msg : LobOpMessage} {largeSdu : Bool}
    (h : msg.buildMessageOnly caps = .ok payload) :
    msg.buildRequest caps largeSdu = .ok (dataPacket largeSdu dataFlagEndOfRequest payload) := by
  have hpacket := freeze_of_writes ((LobOpMessage.writes_writeHeader largeSdu (2 + payload.length)).bind
    ((writes_writeU16Be dataFlagEndOfRequest).bind (writes_writeBytes payload)))
  rw [← Nat.add_assoc] at hpacket
  rw [LobOpMessage.buildRequest, h]
  exact hpacket

/-- For every payload and every session data unit that leaves room for one, the packets carry the
payload, as soon as the loop may take as many turns as there are bytes. -/
theorem sentFaithfully (inner : Transport) (hsdu : 10 < inner.sduSize.toNat) (payload : Bytes)
    (hpayload : payload ≠ []) (turns : ℕ) (hturns : payload.length ≤ turns) :
    inner.SentFaithfully payload (inner.sendMultiPacket payload 0 turns {}) := by
  have hmax := inner.maxPayloadPerPacket_eq hsdu.le
  have hpos : 0 < payload.length := List.length_pos_iff.mpr hpayload
  have hlt := inner.sduSize.toNat_lt
  have hroom : 0 < inner.maxPayloadPerPacket := by omega
  obtain ⟨front, last, hpackets, hflatten, hbound, hsingle⟩ :=
    exists_chunks hroom turns ({} : SendState) hturns hpos
  rw [hpackets]
  -- every packet has the body of a chunk
  have hmem : ∀ packet ∈ front.map (dataPacket inner.largeSdu 0) ++
      [dataPacket inner.largeSdu dataFlagEndOfRequest last],
      ∃ flags body, packet = dataPacket inner.largeSdu flags body ∧
        body.length ≤ inner.maxPayloadPerPacket := by
    intro packet h
    rcases List.mem_append.mp h with h | h
    · obtain ⟨body, hbody, rfl⟩ := List.mem_map.mp h
      exact ⟨0, body, rfl, hbound body (List.mem_append_left _ hbody)⟩
    · rw [List.mem_singleton] at h
      exact ⟨dataFlagEndOfRequest, last, h, hbound last (List.mem_append_right _ (by simp))⟩
  refine ⟨?_, ?_, ?_, ?_, ?_⟩
  · have hbodies : (front.map (dataPacket inner.largeSdu 0)).flatMap packetBody = front.flatten := by
      rw [List.flatMap_map, ← List.flatMap_id]
      exact List.flatMap_congr fun body _ => packetBody_dataPacket _ _ body
    rw [List.flatMap_append, List.flatMap_singleton, hbodies, packetBody_dataPacket, hflatten]
    rfl
  · intro packet h
    obtain ⟨flags, body, rfl, hle⟩ := hmem packet h
    rw [length_dataPacket]
    omega
  · intro packet h
    obtain ⟨flags, body, rfl, hle⟩ := hmem packet h
    have hwide : 2 ^ 16 ≤ lengthBound inner.largeSdu := by cases inner.largeSdu <;> decide
    exact declaresLength_dataPacket _ _ _ (by omega)
  · refine ⟨_, _, rfl, packetFlags_dataPacket _ _ _, fun packet h => ?_⟩
    obtain ⟨body, -, rfl⟩ := List.mem_map.mp h
    rw [packetFlags_dataPacket]
    rfl
  · intro hfits caps msg hmsg
    have hfront : front = [] := hsingle (by rw [hmax]; show payload.length - 0 ≤ _; omega)
    subst hfront
    refine ⟨_, buildRequest_eq_dataPacket hmsg, ?_⟩
    have hlast : last = payload := hflatten
    rw [hlast]
    rfl

/-- A payload of three bytes in packets of two. -/
theorem sentFaithfully_three : SentFaithfully ⟨{}, 12, false⟩ [1, 2, 3]
    (sendMultiPacket ⟨{}, 12, false⟩ [1, 2, 3] 0 3 {}) :=
  sentFaithfully ⟨{}, 12, false⟩ (by decide) [1, 2, 3] (by decide) 3 (by decide)

/-! ## Progress -/

/-- The loop ends. -/
inductive Finishes (inner : Transport) (payload : Bytes) (flags : UInt16) : SendState → Prop
  /-- there is nothing left to send -/
  | done {s : SendState} (h : inner.sendTurn payload flags s = none) :
      Finishes inner payload flags s
  /-- the loop ends behind the next packet -/
  | turn {s s' : SendState} {packet : Bytes}
      (h : inner.sendTurn payload flags s = some (packet, s'))
      (hrest : Finishes inner payload flags s') : Finishes inner payload flags s

/-- The subtraction in the size of a chunk does not underflow. -/
def NoUnderflow (inner : Transport) : Prop := packetHeaderSize + 2 ≤ inner.sduSize.toNat

/-- The ACCEPT arm of `send_connect_packet`: the connection after the server has accepted it. -/
def acceptPacket (inner : Transport) (response : Bytes) : Except Error Transport := do
  let packet ← Packet.fromBytes response
  let accept ← AcceptMessage.parse packet
  let capabilities := inner.capabilities.adjustForProtocol accept.protocolVersion
    accept.serviceOptions accept.flags2
  return .accepted { capabilities with sdu := accept.sdu } accept.sdu accept.usesLargeSdu

/-- A loop whose chunks are empty stays where it is. -/
lemma le_of_finishes (hmax : inner.maxPayloadPerPacket = 0) (h : inner.Finishes payload flags s) :
    payload.length ≤ s.offset := by
  induction h with
  | @done s h =>
    by_contra hlt
    rw [sendTurn_of_lt (Nat.not_le.mp hlt)] at h
    cases h
  | @turn s s' packet h hrest ih =>
    by_contra hlt
    rw [sendTurn_of_lt (Nat.not_le.mp hlt)] at h
    cases h
    have hlen : (inner.chunk payload s).length = _ := length_chunk
    dsimp only at ih
    omega

/-- A loop whose chunks are not empty ends: there is less left after every turn. -/
lemma finishes_of_pos (hmax : 0 < inner.maxPayloadPerPacket) (s : SendState) :
    inner.Finishes payload flags s := by
  induction hn : payload.length - s.offset using Nat.strong_induction_on generalizing s with
  | _ n ih =>
    by_cases hlt : s.offset < payload.length
    · have hlen : (inner.chunk payload s).length = _ := length_chunk
      refine Finishes.turn (sendTurn_of_lt hlt) (ih _ ?_ _ rfl)
      dsimp only
      omega
    · exact Finishes.done (sendTurn_of_ge (Nat.not_lt.mp hlt))

/-- A loop ends if and only if there is nothing to send or its chunks are not empty. -/
lemma finishes_iff : inner.Finishes payload flags s ↔
    payload.length ≤ s.offset ∨ 0 < inner.maxPayloadPerPacket := by
  constructor
  · intro h
    rcases Nat.eq_zero_or_pos inner.maxPayloadPerPacket with hmax | hmax
    · exact .inl (le_of_finishes hmax h)
    · exact .inr hmax
  · rintro (h | h)
    · exact Finishes.done (sendTurn_of_ge h)
    · exact finishes_of_pos h s

/-- What an ACCEPT packet leaves of the size of the session data unit. -/
lemma sduSize_of_acceptPacket {inner inner' : Transport} {response : Bytes}
    (h : inner.acceptPacket response = .ok inner') :
    inner'.sduSize.toNat = min (acceptSdu (response.drop packetHeaderSize)).toNat 65535 := by
  rw [acceptPacket] at h
  cases hpacket : Packet.fromBytes response with
  | error e => rw [hpacket] at h; cases h
  | ok packet =>
    rw [hpacket] at h
    simp only [bind, Except.bind] at h
    cases haccept : AcceptMessage.parse packet with
    | error e => rw [haccept] at h; cases h
    | ok accept =>
      rw [haccept] at h
      cases h
      have hpayload : packet.payload = response.drop packetHeaderSize := by
        rw [Packet.fromBytes] at hpacket
        cases hheader : PacketHeader.parse response with
        | error e => rw [hheader] at hpacket; cases hpacket
        | ok header => rw [hheader] at hpacket; cases hpacket; rfl
      rw [Operation.toNat_sduSize_accepted, (AcceptMessage.sdu_of_parse haccept).1, hpayload]

/-- For every ACCEPT packet that is accepted and every payload, the size of a chunk does not underflow
and the loop ends if and only if the session data unit in the packet leaves room for a payload, or room
for none and there is none. -/
theorem makesProgress_iff {inner inner' : Transport} {response : Bytes}
    (h : inner.acceptPacket response = .ok inner') (payload : Bytes) (flags : UInt16) :
    inner'.NoUnderflow ∧ inner'.Finishes payload flags {} ↔
      10 < (acceptSdu (response.drop packetHeaderSize)).toNat ∨
        (acceptSdu (response.drop packetHeaderSize)).toNat = 10 ∧ payload = [] := by
  have hsdu := sduSize_of_acceptPacket h
  generalize (acceptSdu (response.drop packetHeaderSize)).toNat = sdu at hsdu ⊢
  rw [finishes_iff, NoUnderflow, ← List.length_eq_zero_iff]
  show packetHeaderSize + 2 ≤ _ ∧ (payload.length ≤ 0 ∨ _) ↔ _
  rw [packetHeaderSize]
  constructor
  · rintro ⟨hroom, hfinishes⟩
    rw [inner'.maxPayloadPerPacket_eq hroom] at hfinishes
    omega
  · intro hcondition
    rw [inner'.maxPayloadPerPacket_eq (by omega)]
    omega

/-- An ACCEPT packet of a server of version 319 with a session data unit of the given size. -/
def acceptOf (sdu : UInt32) : Bytes :=
  packetHeader false .accept 45 ++ ([1, 63, 0, 0, 0x20, 0, 0xFF, 0xFF, 0, 1, 0, 0, 0, 0, 0, 0] ++
    (List.replicate 8 0 ++ (BigEndian.digits 4 sdu.toNat ++ List.replicate 9 0)))

/-- With the default size every payload is sent. -/
theorem makesProgress_default : ∃ inner' : Transport,
    acceptPacket ⟨{}, 8192, false⟩ (acceptOf 8192) = .ok inner' ∧
      inner'.NoUnderflow ∧ inner'.Finishes [1] 0 {} := by
  refine ⟨_, rfl, ?_⟩
  have haccept : acceptPacket ⟨{}, 8192, false⟩ (acceptOf 8192) = .ok _ := rfl
  exact (makesProgress_iff haccept [1] 0).mpr (.inl (by decide +kernel))

/-- With a size of ten bytes the loop does not end. -/
theorem not_makesProgress_ten : ∃ inner' : Transport,
    acceptPacket ⟨{}, 8192, false⟩ (acceptOf 10) = .ok inner' ∧ ¬ inner'.Finishes [1] 0 {} := by
  refine ⟨_, rfl, fun h => ?_⟩
  have hle := le_of_finishes (by decide +kernel) h
  exact absurd hle (by decide)

end Transport

end OracleRs
