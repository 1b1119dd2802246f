import OracleRs.Connection.Receive

set_option relaxedAutoImplicit false
set_option autoImplicit false

/-!
# Reassembly of a response from its packets

A server cuts the message stream of a response into DATA packets. This module says when the
receive loops of `OracleRs.Connection.Receive` put the packets together again: for servers that
mark the last packet with an end flag, and for servers that set no flags, where the loops have
to recognise the closing message.

## Main definitions

* `OracleRs.DataPacket` — a DATA packet, `OracleRs.assembled` — the payload a response denotes.
* `OracleRs.LooksComplete` — what has arrived is taken for a complete response.
* `OracleRs.InnerMessage`, `OracleRs.messageStream` — the messages of a response and the stream
  of a sequence of them with its closing message.
* `OracleRs.Recognised` — the closing message is within reach of the scan.

## Main results

* `OracleRs.receive_flagged_iff` — a response with an end flag on its last packet is put together
  if and only if no beginning of it looks complete.
* `OracleRs.looksTerminal_messageStream_iff` — the scan recognises a message stream if and only if
  its closing message is within reach.
* `OracleRs.receive_unflagged_iff` — a response without flags is put together, with no further
  packet asked for, if and only if its closing message is recognised and no beginning of it looks
  complete.
-/

namespace OracleRs

open Cursor Drive

/-! ## DATA packets -/

/-- A DATA packet as a server sends it. -/
structure DataPacket where
  /-- the packet header -/
  header : Bytes
  /-- the header has eight bytes -/
  header_length : header.length = packetHeaderSize
  /-- the header has the type of a DATA packet -/
  header_type : header.getD 4 0 = PacketType.data.code
  /-- the data flags -/
  flags : UInt16
  /-- the fragment of the message stream -/
  body : Bytes

namespace DataPacket

/-- The payload: the data flags and the fragment. -/
def payload (p : DataPacket) : Bytes := BigEndian.digits 2 p.flags.toNat ++ p.body

/-- The bytes on the wire. -/
def toBytes (p : DataPacket) : Bytes := p.header ++ p.payload

/-- The packet carries the END_OF_RESPONSE or the EOF flag. -/
def HasEndFlag (p : DataPacket) : Prop :=
  p.flags &&& dataFlagEndOfResponse ≠ 0 ∨ p.flags &&& dataFlagEof ≠ 0

instance (p : DataPacket) : Decidable p.HasEndFlag := inferInstanceAs (Decidable (_ ∨ _))

/-- The packet that `build_data_packet_from_payload` would make of a fragment. -/
def ofBody (flags : UInt16) (body : Bytes) : DataPacket where
  header := packetLengthField false (packetHeaderSize + 2 + body.length) ++
    [PacketType.data.code, 0, 0, 0]
  header_length := rfl
  header_type := rfl
  flags := flags
  body := body

@[simp] lemma length_payload (p : DataPacket) : p.payload.length = p.body.length + 2 := by
  simp [payload, Nat.add_comm]

@[simp] lemma drop_payload (p : DataPacket) : p.payload.drop 2 = p.body := by
  rw [payload, List.drop_left' (by simp)]

lemma drop_toBytes (p : DataPacket) : p.toBytes.drop packetHeaderSize = p.payload := by
  rw [toBytes, List.drop_left' p.header_length]

lemma getD_toBytes (p : DataPacket) : p.toBytes.getD 4 0 = PacketType.data.code := by
  have h4 : 4 < p.header.length := by
    rw [p.header_length]
    decide
  rw [← p.header_type, toBytes, List.getD_eq_getElem?_getD, List.getElem?_append_left h4,
    List.getD_eq_getElem?_getD]

/-- The flags are read back. -/
lemma flags_payload (p : DataPacket) :
    UInt16.ofNat (BigEndian.eval (p.payload.take 2)) = p.flags := by
  rw [payload, List.take_left' (by simp), BigEndian.eval_digits _ _ p.flags.toNat_lt,
    UInt16.ofNat_toNat]

/-- A fragment of one byte stands at index two of the payload. -/
lemma endMessage_iff (p : DataPacket) :
    (p.payload.length = 3 ∧ p.payload.getD 2 0 = MessageType.endOfResponse.code) ↔
      p.body = [MessageType.endOfResponse.code] := by
  have hget : p.payload.getD 2 0 = p.body.getD 0 0 := by
    rw [← p.drop_payload, List.getD_eq_getElem?_getD, List.getD_eq_getElem?_getD,
      List.getElem?_drop]
  rw [hget, length_payload]
  rcases p.body with _ | ⟨b, _ | ⟨b', l⟩⟩ <;> simp

end DataPacket

/-- The fragments of a sequence of packets, put together. -/
def bodies (ps : List DataPacket) : Bytes := ps.flatMap (·.body)

/-- The payload that a response denotes: the data flags of the first packet and the fragments of
all packets. -/
def assembled : List DataPacket → Bytes
  | [] => []
  | p :: ps => p.payload ++ bodies ps

/-- What has arrived is taken for a complete response: the last fragment is a lone end message,
or the fragments look terminal to the scan. -/
def LooksComplete (ps : List DataPacket) : Prop :=
  ps.getLast?.map (·.body) = some [MessageType.endOfResponse.code] ∨ LooksTerminal (bodies ps)

instance (ps : List DataPacket) : Decidable (LooksComplete ps) :=
  inferInstanceAs (Decidable (_ ∨ _))

@[simp] lemma bodies_append (ps qs : List DataPacket) :
    bodies (ps ++ qs) = bodies ps ++ bodies qs := by
  simp [bodies]

@[simp] lemma bodies_singleton (p : DataPacket) : bodies [p] = p.body := by simp [bodies]

lemma assembled_concat (ps : List DataPacket) (p : DataPacket) :
    assembled (ps ++ [p]) = if ps = [] then p.payload else assembled ps ++ p.body := by
  cases ps <;> simp [assembled, bodies]

/-- Behind the flags stand the fragments. -/
lemma drop_assembled (ps : List DataPacket) : (assembled ps).drop 2 = bodies ps := by
  cases ps with
  | nil => rfl
  | cons p ps =>
    rw [assembled, List.drop_append_of_le_length (by simp), p.drop_payload]
    rfl

lemma looksComplete_concat_iff (ps : List DataPacket) (p : DataPacket) :
    LooksComplete (ps ++ [p]) ↔
      p.body = [MessageType.endOfResponse.code] ∨ LooksTerminal (bodies (ps ++ [p])) := by
  simp [LooksComplete]

/-- Nothing has arrived yet. -/
lemma not_looksComplete_nil : ¬ LooksComplete [] := by
  rintro (h | h)
  · cases h
  · exact not_looksTerminal_nil h

/-! ## The receive loops over DATA packets -/

/-- The loop variables after a DATA packet that goes on. -/
def Accum.next (s : Accum) (p : DataPacket) : Accum :=
  ⟨if s.isFirstPacket then s.accumulatedPayload ++ p.payload else s.accumulatedPayload ++ p.body,
    false⟩

/-- The receive loops end with a packet: it has an end flag or is a lone end message, or what has
been collected looks terminal. -/
def EndsWith (s : Accum) (p : DataPacket) : Prop :=
  p.HasEndFlag ∨ p.body = [MessageType.endOfResponse.code] ∨
    LooksTerminal ((s.next p).accumulatedPayload.drop 2)

instance (s : Accum) (p : DataPacket) : Decidable (EndsWith s p) :=
  inferInstanceAs (Decidable (_ ∨ _))

/-- A turn of the receive loops on a DATA packet: what is collected, and whether that is the
end. -/
lemma receiveTurn_toBytes (s : Accum) (p : DataPacket) :
    (¬ EndsWith s p → receiveTurn s p.toBytes = .inl (s.next p)) ∧
      (EndsWith s p →
        receiveTurn s p.toBytes = .inr (.ok (.complete (s.next p).accumulatedPayload))) := by
  have hlen : ¬ p.toBytes.length < packetHeaderSize := by
    simp only [DataPacket.toBytes, List.length_append, p.header_length]
    omega
  have hpay : ¬ p.payload.length < 2 := by
    rw [p.length_payload]
    omega
  have hscan : ∀ data : Bytes, (data.length > 2 ∧ scanForTerminalMessage (data.drop 2) = true) ↔
      LooksTerminal (data.drop 2) := by
    intro data
    rw [scanForTerminalMessage_iff, and_iff_right_of_imp]
    intro hterm
    by_contra hle
    rw [List.drop_eq_nil_of_le (by omega)] at hterm
    exact not_looksTerminal_nil hterm
  have hturn : receiveTurn s p.toBytes = if EndsWith s p then
      .inr (.ok (.complete (s.next p).accumulatedPayload)) else .inl (s.next p) := by
    unfold receiveTurn
    rw [if_neg hlen, if_neg (by rw [p.getD_toBytes]; simp)]
    simp only [p.drop_toBytes, hpay, if_false, p.flags_payload, p.endMessage_iff, p.drop_payload,
      hscan]
    rw [show (if s.isFirstPacket = true then s.accumulatedPayload ++ p.payload else
      s.accumulatedPayload ++ p.body) = (s.next p).accumulatedPayload from rfl]
    refine if_congr ?_ rfl rfl
    unfold EndsWith DataPacket.HasEndFlag
    tauto
  constructor
  · intro h
    rw [hturn, if_neg h]
  · intro h
    rw [hturn, if_pos h]

/-- The receive loops over DATA packets go on until a packet ends them. -/
lemma receiveTurn_stopsAt : StopsAt receiveTurn DataPacket.toBytes Accum.next EndsWith
    (fun s p => .ok (.complete (s.next p).accumulatedPayload)) :=
  ⟨fun s p => (receiveTurn_toBytes s p).1, fun s p => (receiveTurn_toBytes s p).2⟩

/-- What the receive loops have collected from the start of a response. -/
lemma foldl_next (ps : List DataPacket) :
    ps.foldl Accum.next .start = ⟨assembled ps, ps.isEmpty⟩ := by
  induction ps using List.reverseRecOn with
  | nil => rfl
  | append_singleton ps p ih =>
    rw [List.foldl_append, ih, List.foldl_cons, List.foldl_nil, Accum.next, assembled_concat]
    cases ps <;> simp [assembled]

lemma next_foldl (ps : List DataPacket) (p : DataPacket) :
    ((ps.foldl Accum.next .start).next p).accumulatedPayload = assembled (ps ++ [p]) := by
  have h := foldl_next (ps ++ [p])
  rw [List.foldl_append, List.foldl_cons, List.foldl_nil] at h
  rw [h]

/-- Which packet ends the receive loops, in terms of what has arrived. -/
lemma endsWith_foldl_iff (ps : List DataPacket) (p : DataPacket) :
    EndsWith (ps.foldl Accum.next .start) p ↔ p.HasEndFlag ∨ LooksComplete (ps ++ [p]) := by
  rw [EndsWith, next_foldl, drop_assembled, looksComplete_concat_iff]

/-- Nothing that arrives before the last packet ends the receive loops: no packet has an end flag
and no beginning looks complete. -/
lemma not_early_iff {front : List DataPacket} (hfront : ∀ p ∈ front, ¬ p.HasEndFlag) :
    ¬ Early Accum.next EndsWith .start front ↔ ∀ ps, ps <+: front → ¬ LooksComplete ps := by
  constructor
  · rintro h ps ⟨post, rfl⟩ hps
    rcases List.eq_nil_or_concat ps with rfl | ⟨pre, p, rfl⟩
    · exact not_looksComplete_nil hps
    · refine h ⟨pre, p, post, by simp, ?_⟩
      rw [endsWith_foldl_iff]
      exact .inr (by simpa using hps)
  · rintro h ⟨pre, p, post, rfl, hp⟩
    rw [endsWith_foldl_iff] at hp
    rcases hp with hp | hp
    · exact hfront p (by simp) hp
    · exact h (pre ++ [p]) ⟨post, by simp⟩ hp

/-- **The receive loops return at the last packet**, with the assembled payload, if and only if
that packet ends them and nothing before it does. Both loops do, whatever they make of what has
been collected. -/
lemma receive_concat_iff {α : Type} (f : Received → α) {front : List DataPacket}
    (hfront : ∀ p ∈ front, ¬ p.HasEndFlag) (last : DataPacket) :
    (drive receiveTurn .start ((front ++ [last]).map DataPacket.toBytes)).map (Except.map f) =
        .returned (.ok (f (.complete (assembled (front ++ [last]))))) [] ↔
      (∀ ps, ps <+: front → ¬ LooksComplete ps) ∧
        (last.HasEndFlag ∨ LooksComplete (front ++ [last])) := by
  rw [Driven.map_eq_returned_iff]
  constructor
  · rintro ⟨r, hr, -⟩
    obtain ⟨hearly, hend, -⟩ := receiveTurn_stopsAt.drive_concat_eq_returned_iff.mp hr
    exact ⟨(not_early_iff hfront).mp hearly, (endsWith_foldl_iff front last).mp hend⟩
  · rintro ⟨hfirst, hlast⟩
    refine ⟨.ok (.complete (assembled (front ++ [last]))), ?_, rfl⟩
    refine receiveTurn_stopsAt.drive_concat_eq_returned_iff.mpr ⟨?_, ?_, by rw [next_foldl]⟩
    · exact (not_early_iff hfront).mpr hfirst
    · exact (endsWith_foldl_iff front last).mpr hlast

/-! ## Servers that mark the last packet -/

/-- **Reassembly with an end flag.** A response of which only the last packet carries an end flag
is put together by both receive loops, and none of its packets is left behind, if and only if no
beginning of it looks complete. -/
theorem receive_flagged_iff (largeSdu : Bool) (front : List DataPacket) (last : DataPacket)
    (hfront : ∀ p ∈ front, ¬ p.HasEndFlag) (hlast : last.HasEndFlag) :
    (receiveResponse largeSdu ((front ++ [last]).map DataPacket.toBytes) =
        .returned (.ok (buildDataPacketFromPayload largeSdu (assembled (front ++ [last])))) [] ∧
      receiveResponseOrMarker largeSdu ((front ++ [last]).map DataPacket.toBytes) =
        .returned (.ok (buildDataPacketFromPayload largeSdu (assembled (front ++ [last])), []))
          []) ↔
      ∀ ps, ps <+: front → ¬ LooksComplete ps := by
  have hresponse := receive_concat_iff (Received.response largeSdu) hfront last
  have hmarker := receive_concat_iff (Received.responseOrMarker largeSdu) hfront last
  rw [receiveResponse_eq, receiveResponseOrMarker]
  simp only [Received.response, Received.responseOrMarker] at hresponse hmarker
  rw [hresponse, hmarker]
  simp [hlast]

/-- A query response of two packets, a row header in the first one and the closing message in the
second one. -/
theorem receive_flagged_two :
    receiveResponse false ([DataPacket.ofBody 0 (6 :: List.replicate 7 0),
          DataPacket.ofBody dataFlagEndOfResponse (4 :: List.replicate 32 0)].map
        DataPacket.toBytes) =
        .returned (.ok (buildDataPacketFromPayload false
          ([0, 0, 6] ++ List.replicate 7 0 ++ 4 :: List.replicate 32 0))) [] ∧
      receiveResponseOrMarker false ([DataPacket.ofBody 0 (6 :: List.replicate 7 0),
          DataPacket.ofBody dataFlagEndOfResponse (4 :: List.replicate 32 0)].map
        DataPacket.toBytes) =
        .returned (.ok (buildDataPacketFromPayload false
          ([0, 0, 6] ++ List.replicate 7 0 ++ 4 :: List.replicate 32 0), [])) [] :=
  (receive_flagged_iff false [DataPacket.ofBody 0 (6 :: List.replicate 7 0)]
    (DataPacket.ofBody dataFlagEndOfResponse (4 :: List.replicate 32 0)) (by decide) (by decide)).mpr
    (by
      have hinits : ∀ ps ∈ [DataPacket.ofBody 0 (6 :: List.replicate 7 0)].inits,
          ¬ LooksComplete ps := by decide +kernel
      exact fun ps hps => hinits ps ((List.mem_inits _ _).mpr hps))

/-- The closing message of a successful call, cut in two behind its tenth byte: both receive loops
return the first fragment and leave the packet with the end flag behind. -/
theorem receive_flagged_cut_closing :
    receiveResponse false ([DataPacket.ofBody 0 (4 :: List.replicate 9 0),
          DataPacket.ofBody dataFlagEndOfResponse (List.replicate 23 0)].map DataPacket.toBytes) =
        .returned (.ok (buildDataPacketFromPayload false ([0, 0, 4] ++ List.replicate 9 0)))
          [(DataPacket.ofBody dataFlagEndOfResponse (List.replicate 23 0)).toBytes] ∧
      receiveResponseOrMarker false ([DataPacket.ofBody 0 (4 :: List.replicate 9 0),
          DataPacket.ofBody dataFlagEndOfResponse (List.replicate 23 0)].map DataPacket.toBytes) =
        .returned (.ok (buildDataPacketFromPayload false ([0, 0, 4] ++ List.replicate 9 0), []))
          [(DataPacket.ofBody dataFlagEndOfResponse (List.replicate 23 0)).toBytes] := by
  constructor <;> rfl

/-! ## Servers that set no flags -/

/-- The kinds of messages that stand before the closing message of a response, LOB data apart. -/
inductive InnerKind where
  | describeInfo
  | rowHeader
  | bitVector
  | rowData
  | parameter
  | serverSidePiggyback
  | ioVector
deriving DecidableEq, Repr

/-- The message type of a kind. -/
def InnerKind.messageType : InnerKind → MessageType
  | describeInfo => .describeInfo
  | rowHeader => .rowHeader
  | bitVector => .bitVector
  | rowData => .rowData
  | parameter => .parameter
  | serverSidePiggyback => .serverSidePiggyback
  | ioVector => .ioVector

/-- A message before the closing message: LOB data is a byte string with a length prefix, the
bodies of the other kinds are not looked into. -/
inductive InnerMessage where
  | lobData (data : ByteString)
  | other (kind : InnerKind) (body : Bytes)

/-- The bytes of a message. -/
def InnerMessage.encode : InnerMessage → Bytes
  | lobData data => MessageType.lobData.code :: data.encode
  | other kind body => kind.messageType.code :: body

/-- The kinds of the message that closes a response. -/
inductive ClosingKind where
  | error
  | status
deriving DecidableEq, Repr

/-- The message type of a closing message. -/
def ClosingKind.messageType : ClosingKind → MessageType
  | error => .error
  | status => .status

/-- The message stream of a response: messages and one closing message with its body. -/
def messageStream (messages : List InnerMessage) (closing : ClosingKind) (body : Bytes) : Bytes :=
  messages.flatMap InnerMessage.encode ++ closing.messageType.code :: body

/-- The scan recognises the end of a message stream: behind the leading LOB messages stands the
closing message, or a parameter message behind which the code of an error or of an end message
occurs. -/
def Recognised : List InnerMessage → ClosingKind → Bytes → Prop
  | [], _, _ => True
  | .lobData _ :: messages, closing, body => Recognised messages closing body
  | .other .parameter parameters :: messages, closing, body =>
    MessageType.error.code ∈ parameters ++ messageStream messages closing body ∨
      MessageType.endOfResponse.code ∈ parameters ++ messageStream messages closing body
  | .other _ _ :: _, _, _ => False

lemma messageStream_cons (message : InnerMessage) (messages : List InnerMessage)
    (closing : ClosingKind) (body : Bytes) :
    messageStream (message :: messages) closing body =
      message.encode ++ messageStream messages closing body := by
  simp [messageStream]

/-- A byte string that begins with the code of a message kind the scan does not know. -/
lemma not_looksTerminal_of_code {t : MessageType} {rest : Bytes}
    (ht : t ∉ [MessageType.endOfResponse, .error, .status, .parameter, .lobData]) :
    ¬ LooksTerminal (t.code :: rest) := by
  intro h
  generalize hd : t.code :: rest = data at h
  cases h with
  | closing h =>
    injection hd with hcode
    rw [MessageType.code_injective hcode] at ht
    rcases h with rfl | rfl | rfl <;> simp at ht
  | parameter h =>
    injection hd with hcode
    rw [MessageType.code_injective hcode] at ht
    simp at ht
  | lobData hb h =>
    injection hd with hcode
    rw [MessageType.code_injective hcode] at ht
    simp at ht

/-- A parameter message looks terminal if the code of an error or an end message occurs behind. -/
lemma looksTerminal_parameter_iff (rest : Bytes) :
    LooksTerminal (MessageType.parameter.code :: rest) ↔
      MessageType.error.code ∈ rest ∨ MessageType.endOfResponse.code ∈ rest := by
  constructor
  · intro h
    generalize hd : MessageType.parameter.code :: rest = data at h
    cases h with
    | closing h =>
      injection hd with hcode
      have := MessageType.code_injective hcode
      rcases h with rfl | rfl | rfl <;> cases this
    | parameter h =>
      injection hd with _ hrest
      rw [hrest]
      exact h
    | lobData hb h =>
      injection hd with hcode
      cases MessageType.code_injective hcode
  · exact .parameter

/-- The scan recognises a message stream if and only if its closing message is within reach.

**Proof sketch.** Induction on the messages: LOB messages are skipped, a parameter message decides
by the bytes behind it, and every other kind makes the scan give up. -/
theorem looksTerminal_messageStream_iff (messages : List InnerMessage) (closing : ClosingKind)
    (body : Bytes) :
    LooksTerminal (messageStream messages closing body) ↔ Recognised messages closing body := by
  induction messages with
  | nil =>
    have h : LooksTerminal (closing.messageType.code :: body) := by
      refine .closing ?_
      cases closing <;> simp [ClosingKind.messageType]
    simpa [messageStream, Recognised] using h
  | cons message messages ih =>
    rw [messageStream_cons]
    cases message with
    | lobData data => exact (looksTerminal_lobData_iff data _).trans ih
    | other kind parameters =>
      cases kind with
      | parameter => exact looksTerminal_parameter_iff _
      | _ => exact iff_of_false (not_looksTerminal_of_code (by decide)) (fun h => h)

/-- **Reassembly without flags.** A response of a server that sets no end flags, cut in any way,
is put together by both receive loops, which return at its last packet and ask for no further
one, if and only if

* the closing message is recognised, or the last fragment is a lone end message, and
* no beginning of the response looks complete. -/
theorem receive_unflagged_iff (largeSdu : Bool) (messages : List InnerMessage)
    (closing : ClosingKind) (body : Bytes) (front : List DataPacket) (last : DataPacket)
    (hflags : ∀ p ∈ front ++ [last], ¬ p.HasEndFlag)
    (hbodies : bodies (front ++ [last]) = messageStream messages closing body) :
    (receiveResponse largeSdu ((front ++ [last]).map DataPacket.toBytes) =
        .returned (.ok (buildDataPacketFromPayload largeSdu (assembled (front ++ [last])))) [] ∧
      receiveResponseOrMarker largeSdu ((front ++ [last]).map DataPacket.toBytes) =
        .returned (.ok (buildDataPacketFromPayload largeSdu (assembled (front ++ [last])), []))
          []) ↔
      (Recognised messages closing body ∨ last.body = [MessageType.endOfResponse.code]) ∧
        ∀ ps, ps <+: front → ¬ LooksComplete ps := by
  have hfront : ∀ p ∈ front, ¬ p.HasEndFlag := fun p hp => hflags p (by simp [hp])
  have hlast : ¬ last.HasEndFlag := hflags last (by simp)
  have hresponse := receive_concat_iff (Received.response largeSdu) hfront last
  have hmarker := receive_concat_iff (Received.responseOrMarker largeSdu) hfront last
  rw [receiveResponse_eq, receiveResponseOrMarker]
  simp only [Received.response, Received.responseOrMarker] at hresponse hmarker
  rw [hresponse, hmarker, looksComplete_concat_iff, hbodies, looksTerminal_messageStream_iff]
  tauto

/-- A LOB response without flags in two packets, cut inside the LOB data. -/
theorem receive_unflagged_lob :
    receiveResponse false ([DataPacket.ofBody 0 [14, 3, 4], DataPacket.ofBody 0 [29, 9, 9, 0, 0]].map
        DataPacket.toBytes) =
        .returned (.ok (buildDataPacketFromPayload false [0, 0, 14, 3, 4, 29, 9, 9, 0, 0])) [] ∧
      receiveResponseOrMarker false ([DataPacket.ofBody 0 [14, 3, 4],
          DataPacket.ofBody 0 [29, 9, 9, 0, 0]].map DataPacket.toBytes) =
        .returned (.ok (buildDataPacketFromPayload false [0, 0, 14, 3, 4, 29, 9, 9, 0, 0], []))
          [] :=
  (receive_unflagged_iff false [.lobData (.short [4, 29, 9] (by decide))] .status [0, 0]
    [DataPacket.ofBody 0 [14, 3, 4]] (DataPacket.ofBody 0 [29, 9, 9, 0, 0]) (by decide) rfl).mpr
    ⟨.inl trivial, by
      have hinits : ∀ ps ∈ [DataPacket.ofBody 0 [14, 3, 4]].inits, ¬ LooksComplete ps := by
        decide +kernel
      exact fun ps hps => hinits ps ((List.mem_inits _ _).mpr hps)⟩

/-- A fetch response without flags in one packet, a row header and the closing message: both
receive loops ask for a further packet. -/
theorem receive_unflagged_waits :
    bodies [DataPacket.ofBody 0 (6 :: List.replicate 7 0 ++ 4 :: List.replicate 32 0)] =
        messageStream [.other .rowHeader (List.replicate 7 0)] .error (List.replicate 32 0) ∧
      receiveResponse false [(DataPacket.ofBody 0
          (6 :: List.replicate 7 0 ++ 4 :: List.replicate 32 0)).toBytes] =
        .waiting ⟨[0, 0] ++ 6 :: List.replicate 7 0 ++ 4 :: List.replicate 32 0, false⟩ ∧
      receiveResponseOrMarker false [(DataPacket.ofBody 0
          (6 :: List.replicate 7 0 ++ 4 :: List.replicate 32 0)).toBytes] =
        .waiting ⟨[0, 0] ++ 6 :: List.replicate 7 0 ++ 4 :: List.replicate 32 0, false⟩ :=
  ⟨rfl, rfl, rfl⟩

end OracleRs
