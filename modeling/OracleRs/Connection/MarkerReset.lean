import OracleRs.Connection.Reassembly
import OracleRs.Response.ErrorReads
import OracleRs.Response.Parse

set_option relaxedAutoImplicit false
set_option autoImplicit false

/-!
# Errors behind a marker

A server that breaks off a response sends a marker packet, and after the reset exchange the error. The
calls of `connection.rs` that end with `parse_error_response` collect both: the fragments from before the
marker and the response behind it are one payload, and the error is expected at its beginning.

## Main definitions

* `OracleRs.parseErrorResponse` — the parser of the payload behind a reset.
* `OracleRs.MarkedCall`, `OracleRs.MarkedCall.exchange` — the calls, from the request to the response.
* `OracleRs.MarkerPacket` — a marker packet.
* `OracleRs.Interrupted` — packets that are no complete response.
* `OracleRs.ErrorMessage.ArrivesWhole` — an error that is read from the first fragment.

## Main results

* `OracleRs.MarkedCall.exchange_eq` — a marker and the reset leave no trace in what is collected.
* `OracleRs.MarkedCall.failsWith_iff` — when a call fails with the error behind a reset.
-/

namespace OracleRs

open Cursor Drive

/-! ## The calls -/

/-- `parse_error_response`. -/
def parseErrorResponse (payload : Bytes) : Except Error QueryResult :=
  if payload.length < 3 then
    .error (.protocol "Error response too short")
  else
    ReadM.runOn (do
      skip 2
      let msgType ← readU8
      if msgType = MessageType.error.code then
        let info ← parseErrorInfoDetailed true false
        throw (.oracleError info.code (info.message.getD (oraCodeText info.code)))
      throw (.protocol s!"Expected error message type 4, got {msgType}")) payload

/-- The calls that parse what follows a marker with `parse_error_response`. -/
inductive MarkedCall where
  /-- `execute_query_with_params`, the execution -/
  | query
  /-- `execute_query_with_params`, the execution with defines -/
  | define
  /-- `fetch_cursor_with_size` -/
  | refCursor
  /-- `execute_plsql` -/
  | plsql
  /-- `open_scrollable_cursor` -/
  | openScrollable
  /-- `scroll` -/
  | scroll
deriving DecidableEq, Repr

/-- Where a call is after it has sent its request. -/
inductive CallState where
  /-- in `receive_response_or_marker` -/
  | receiving (s : Accum)
  /-- in `handle_marker_reset_with_partial` -/
  | resetting (s : ResetState)
deriving DecidableEq, Repr

/-- What a call comes to, its own parser apart. -/
inductive CallEnd where
  /-- the payload of a response that no marker has broken off, for the parser of the call -/
  | response (payload : Bytes)
  /-- a result of `parse_error_response` -/
  | reset (result : QueryResult)

namespace MarkedCall

variable (call : MarkedCall) (largeSdu : Bool)

/-- The error text for a response without a payload. -/
def emptyText : MarkedCall → String
  | query => "Empty query response"
  | define => "Empty define response"
  | refCursor => "Empty cursor response"
  | plsql => "Empty PL/SQL response"
  | openScrollable => "Empty scrollable cursor response"
  | scroll => "Empty scroll response"

/-- What a call does with the payload behind a reset. -/
def parseReset (payload : Bytes) : MarkedCall → Except Error CallEnd
  | query | define | refCursor => do return .reset (← parseErrorResponse payload)
  | plsql => do
    let _ ← parseErrorResponse payload
    throw (.protocol "PL/SQL execution failed")
  | openScrollable => do
    let _ ← parseErrorResponse payload
    throw (.protocol "Unexpected successful response after MARKER")
  | scroll => do
    let _ ← parseErrorResponse payload
    throw (.protocol "Scroll operation failed")

/-- How a call goes on when `receive_response_or_marker` has returned. -/
def received : Except Error Received → CallState ⊕ Except Error CallEnd
  | .error e => .inr (.error e)
  | .ok received =>
    let (response, partialPayload) := received.responseOrMarker largeSdu
    if response.length ≤ packetHeaderSize then
      .inr (.error (.protocol call.emptyText))
    else if response.getD 4 0 = PacketType.marker.code then
      .inl (.resetting (.awaitReset partialPayload))
    else
      .inr (.ok (.response (response.drop packetHeaderSize)))

/-- How a call goes on when `handle_marker_reset_with_partial` has returned. -/
def afterReset : Except Error Received → CallState ⊕ Except Error CallEnd
  | .error e => .inr (.error e)
  | .ok received => .inr (call.parseReset ((received.response largeSdu).drop packetHeaderSize))

/-- One packet. -/
def turn : CallState → Bytes → CallState ⊕ Except Error CallEnd
  | .receiving s, packet =>
    (receiveTurn s packet).elim (fun s' => .inl (.receiving s')) (call.received largeSdu)
  | .resetting s, packet =>
    (resetTurn s packet).elim (fun s' => .inl (.resetting s')) (call.afterReset largeSdu)

/-- A call, driven by the packets that arrive after its request. -/
def exchange (packets : List Bytes) : Driven CallState Bytes (Except Error CallEnd) :=
  drive (call.turn largeSdu) (.receiving .start) packets

/-- The call fails with the error of the given number. -/
def FailsWith (number : UInt32) (packets : List Bytes) : Prop :=
  ∃ text left, call.exchange largeSdu packets = .returned (.error (.oracleError number text)) left

lemma embeds_receiveTurn :
    Embeds receiveTurn (call.turn largeSdu) .receiving (call.received largeSdu) :=
  fun _ _ => rfl

lemma embeds_resetTurn :
    Embeds resetTurn (call.turn largeSdu) .resetting (call.afterReset largeSdu) :=
  fun _ _ => rfl

end MarkedCall

/-- A reset that has begun to collect a response goes on as the receive loops do. -/
lemma embeds_collecting : Embeds receiveTurn resetTurn .collecting .inr := by
  intro s p
  rw [resetTurn, resetCollect]
  cases receiveTurn s p <;> rfl

/-! ## Marker packets -/

/-- A marker packet as a server sends it. -/
structure MarkerPacket where
  /-- the packet header -/
  header : Bytes
  /-- the header has eight bytes -/
  header_length : header.length = packetHeaderSize
  /-- the header has the type of a marker packet -/
  header_type : header.getD 4 0 = PacketType.marker.code
  /-- the payload, of which the third byte is the type of the marker -/
  payload : Bytes
  /-- there is one -/
  payload_ne_nil : payload ≠ []

namespace MarkerPacket

/-- The bytes on the wire. -/
def toBytes (p : MarkerPacket) : Bytes := p.header ++ p.payload

/-- The packet that `send_marker` would make of a marker type. -/
def ofType (markerType : UInt8) : MarkerPacket where
  header := packetLengthField false (packetHeaderSize + 3) ++ [PacketType.marker.code, 0, 0, 0]
  header_length := rfl
  header_type := rfl
  payload := [1, 0, markerType]
  payload_ne_nil := List.cons_ne_nil _ _

lemma length_toBytes (p : MarkerPacket) : packetHeaderSize < p.toBytes.length := by
  have hpos := List.length_pos_iff.mpr p.payload_ne_nil
  rw [toBytes, List.length_append, p.header_length]
  omega

lemma getD_toBytes (p : MarkerPacket) : p.toBytes.getD 4 0 = PacketType.marker.code := by
  have h4 : 4 < p.header.length := by
    rw [p.header_length]
    decide
  rw [← p.header_type, toBytes, List.getD_eq_getElem?_getD, List.getElem?_append_left h4,
    List.getD_eq_getElem?_getD]

/-- The receive loops return a marker. -/
lemma receiveTurn_toBytes (s : Accum) (p : MarkerPacket) :
    receiveTurn s p.toBytes = .inr (.ok (.other p.toBytes s.accumulatedPayload)) := by
  have hlen := p.length_toBytes
  have htype : PacketType.marker.code ≠ PacketType.data.code := by decide
  rw [receiveTurn, if_neg (by omega), p.getD_toBytes, if_pos htype]

/-- A call whose response is broken off by a marker sends the reset marker. -/
lemma received_toBytes (call : MarkedCall) (largeSdu : Bool) (partialPayload : Bytes)
    (p : MarkerPacket) :
    call.received largeSdu (.ok (.other p.toBytes partialPayload)) =
      .inl (.resetting (.awaitReset partialPayload)) := by
  have hlen := p.length_toBytes
  rw [MarkedCall.received, Received.responseOrMarker]
  simp only
  rw [if_neg (by omega), if_pos p.getD_toBytes]

end MarkerPacket

/-- The reset waits for the response behind the given payload. -/
def ResetState.Pending (partialPayload : Bytes) (s : ResetState) : Prop :=
  s = .awaitReset partialPayload ∨ s = .awaitData partialPayload

/-- Markers are passed over, up to a reset marker and behind it. -/
lemma drive_resetTurn_markers {partialPayload : Bytes} {s : ResetState}
    (hs : s.Pending partialPayload) (markers : List MarkerPacket) :
    ∃ s', drive resetTurn s (markers.map MarkerPacket.toBytes) = .waiting s' ∧
      s'.Pending partialPayload := by
  induction markers generalizing s with
  | nil => exact ⟨s, rfl, hs⟩
  | cons p markers ih =>
    have hlen := p.length_toBytes
    obtain ⟨s₁, hturn, hs₁⟩ : ∃ s₁, resetTurn s p.toBytes = .inl s₁ ∧ s₁.Pending partialPayload := by
      rcases hs with rfl | rfl
      · rw [resetTurn, if_neg (by omega), if_pos p.getD_toBytes]
        split_ifs
        · exact ⟨_, rfl, .inr rfl⟩
        · exact ⟨_, rfl, .inl rfl⟩
      · rw [resetTurn, if_pos p.getD_toBytes]
        exact ⟨_, rfl, .inr rfl⟩
    rw [List.map_cons, drive_cons_of_more hturn]
    exact ih hs₁

/-- The first DATA packet of the response is collected behind the given payload. -/
lemma drive_resetTurn_data {partialPayload : Bytes} {s : ResetState}
    (hs : s.Pending partialPayload) (p : DataPacket) (packets : List Bytes) :
    drive resetTurn s (p.toBytes :: packets) =
      drive resetTurn (.collecting ⟨partialPayload, partialPayload.isEmpty⟩)
        (p.toBytes :: packets) := by
  have hlen : ¬ p.toBytes.length < packetHeaderSize := by
    rw [DataPacket.toBytes, List.length_append, p.header_length]
    omega
  have htype : ¬ p.toBytes.getD 4 0 = PacketType.marker.code := by
    rw [p.getD_toBytes]
    decide
  have hturn : resetTurn s p.toBytes =
      resetTurn (.collecting ⟨partialPayload, partialPayload.isEmpty⟩) p.toBytes := by
    rcases hs with rfl | rfl
    · rw [resetTurn, if_neg hlen, if_neg htype, resetTurn]
    · rw [resetTurn, if_neg htype, resetTurn]
  rw [drive, drive, hturn]

/-! ## What is collected -/

/-- The payload of the packet that the receive loops build. -/
lemma drop_buildDataPacketFromPayload (largeSdu : Bool) (payload : Bytes) :
    (buildDataPacketFromPayload largeSdu payload).drop packetHeaderSize = payload := by
  have hlen : (packetLengthField largeSdu (packetHeaderSize + payload.length) ++
      [PacketType.data.code, 0, 0, 0]).length = packetHeaderSize := by
    cases largeSdu <;> simp [packetLengthField, packetHeaderSize]
  rw [buildDataPacketFromPayload, List.drop_left' hlen]

/-- The packets are no complete response: none of them has an end flag, and no beginning looks
complete. -/
structure Interrupted (packets : List DataPacket) : Prop where
  noEndFlag : ∀ p ∈ packets, ¬ p.HasEndFlag
  incomplete : ∀ ps, ps <+: packets → ¬ LooksComplete ps

/-- No packet ends the receive loops. -/
lemma interrupted_iff {packets : List DataPacket} :
    Interrupted packets ↔ ¬ Early Accum.next EndsWith .start packets := by
  constructor
  · intro h
    exact (not_early_iff h.noEndFlag).mpr h.incomplete
  · intro h
    have hflags : ∀ p ∈ packets, ¬ p.HasEndFlag := by
      intro p hp hflag
      obtain ⟨pre, post, rfl⟩ := List.append_of_mem hp
      exact h ⟨pre, p, post, rfl, .inl hflag⟩
    exact ⟨hflags, (not_early_iff hflags).mp h⟩

/-- What the receive loops have collected of packets that are no complete response. -/
lemma Interrupted.drive_eq {packets : List DataPacket} (h : Interrupted packets) :
    drive receiveTurn .start (packets.map DataPacket.toBytes) =
      .waiting ⟨assembled packets, (assembled packets).isEmpty⟩ := by
  rw [receiveTurn_stopsAt.drive_eq_waiting_iff]
  refine ⟨interrupted_iff.mp h, ?_⟩
  rw [foldl_next]
  cases packets with
  | nil => rfl
  | cons p ps =>
    have hne : assembled (p :: ps) ≠ [] := by
      refine List.ne_nil_of_length_pos ?_
      rw [assembled, List.length_append, p.length_payload]
      omega
    simp [hne]

section Exchange

variable {call : MarkedCall} {largeSdu : Bool} {before : List DataPacket} {marker : MarkerPacket}
  {markers : List MarkerPacket} {p : DataPacket} {ps : List DataPacket}

/-- The packets that arrive: those in front of the marker, the markers of the reset exchange and the
response. -/
def markedPackets (before : List DataPacket) (marker : MarkerPacket) (markers : List MarkerPacket)
    (response : List DataPacket) : List Bytes :=
  before.map DataPacket.toBytes ++
    marker.toBytes :: (markers.map MarkerPacket.toBytes ++ response.map DataPacket.toBytes)

/-- Behind the markers the reset collects the response as the receive loops do, from the given payload
on. -/
lemma drive_awaitReset (markers : List MarkerPacket) (partialPayload : Bytes) :
    drive resetTurn (.awaitReset partialPayload)
        (markers.map MarkerPacket.toBytes ++ (p :: ps).map DataPacket.toBytes) =
      drive resetTurn (.collecting ⟨partialPayload, partialPayload.isEmpty⟩)
        ((p :: ps).map DataPacket.toBytes) := by
  have hstart : (ResetState.awaitReset partialPayload).Pending partialPayload := .inl rfl
  obtain ⟨s, hmarkers, hs⟩ := drive_resetTurn_markers hstart markers
  rw [drive_append_of_waiting hmarkers, List.map_cons]
  exact drive_resetTurn_data hs p _

/-- A call whose response is broken off waits for the reset exchange with what has arrived. -/
lemma MarkedCall.exchange_marked (h : Interrupted before) (response : List DataPacket) :
    call.exchange largeSdu (markedPackets before marker markers response) =
      drive (call.turn largeSdu) (.resetting (.awaitReset (assembled before)))
        (markers.map MarkerPacket.toBytes ++ response.map DataPacket.toBytes) := by
  have hreceived : drive receiveTurn .start (before.map DataPacket.toBytes ++ [marker.toBytes]) =
      .returned (.ok (.other marker.toBytes (assembled before))) [] := by
    rw [drive_append_of_waiting h.drive_eq, drive_cons_of_done (marker.receiveTurn_toBytes _)]
  have hreturned := drive_append_of_returned hreceived
    (markers.map MarkerPacket.toBytes ++ response.map DataPacket.toBytes)
  rw [List.append_assoc, List.singleton_append, List.nil_append] at hreturned
  exact (call.embeds_receiveTurn largeSdu).more hreturned
    (marker.received_toBytes call largeSdu (assembled before))

/-- **The reset leaves no trace**: a call whose response is broken off parses the payload that the
receive loops collect of the packets in front of the marker and behind the reset. -/
theorem MarkedCall.exchange_eq (h : Interrupted before) {payload : Bytes} {left : List Bytes} :
    drive receiveTurn .start ((before ++ p :: ps).map DataPacket.toBytes) =
        .returned (.ok (.complete payload)) left →
      call.exchange largeSdu (markedPackets before marker markers (p :: ps)) =
        .returned (call.parseReset payload) left := by
  intro hreturned
  rw [List.map_append, drive_append_of_waiting h.drive_eq] at hreturned
  have hreset := embeds_collecting.done hreturned rfl
  rw [← drive_awaitReset markers] at hreset
  rw [exchange_marked h]
  refine (call.embeds_resetTurn largeSdu).done hreset ?_
  rw [afterReset, Received.response, drop_buildDataPacketFromPayload]

/-- While the receive loops wait, the call does. -/
lemma MarkedCall.exchange_waiting (h : Interrupted before) {s : Accum} :
    drive receiveTurn .start ((before ++ p :: ps).map DataPacket.toBytes) = .waiting s →
      call.exchange largeSdu (markedPackets before marker markers (p :: ps)) =
        .waiting (.resetting (.collecting s)) := by
  intro hwaiting
  rw [List.map_append, drive_append_of_waiting h.drive_eq] at hwaiting
  have hreset := embeds_collecting.waiting hwaiting
  rw [← drive_awaitReset markers] at hreset
  rw [exchange_marked h]
  exact (call.embeds_resetTurn largeSdu).waiting hreset

/-- A call fails with the error that `parse_error_response` raises. -/
lemma MarkedCall.parseReset_iff {payload : Bytes} {number : UInt32} :
    (∃ text, call.parseReset payload = .error (.oracleError number text)) ↔
      ∃ text, parseErrorResponse payload = .error (.oracleError number text) := by
  rw [parseReset.eq_def]
  cases parseErrorResponse payload <;> cases call <;> simp [bind, Except.bind, pure, Except.pure,
    throw, throwThe, MonadExceptOf.throw]

/-- The error is that of the payload that the receive loops collect of all packets. -/
lemma MarkedCall.failsWith_iff_collected (h : Interrupted before) {number : UInt32} :
    call.FailsWith largeSdu number (markedPackets before marker markers (p :: ps)) ↔
      ∃ pre q post, before ++ p :: ps = pre ++ q :: post ∧ Interrupted pre ∧
        (q.HasEndFlag ∨ LooksComplete (pre ++ [q])) ∧
          ∃ text, parseErrorResponse (assembled (pre ++ [q])) = .error (.oracleError number text) := by
  constructor
  · rintro ⟨text, left, hfails⟩
    cases hcollected : drive receiveTurn .start ((before ++ p :: ps).map DataPacket.toBytes) with
    | waiting s =>
      rw [exchange_waiting h hcollected] at hfails
      cases hfails
    | returned r left' =>
      obtain ⟨pre, q, post, hsplit, -, hpre, hend, rfl⟩ :=
        receiveTurn_stopsAt.drive_eq_returned_iff.mp hcollected
      rw [next_foldl] at hcollected
      rw [exchange_eq h hcollected] at hfails
      injection hfails with hparse
      exact ⟨pre, q, post, hsplit, interrupted_iff.mpr hpre, (endsWith_foldl_iff pre q).mp hend,
        parseReset_iff.mp ⟨text, hparse⟩⟩
  · rintro ⟨pre, q, post, hsplit, hpre, hend, hparse⟩
    have hcollected := receiveTurn_stopsAt.drive_eq_returned_iff.mpr ⟨pre, q, post, hsplit, rfl,
      interrupted_iff.mp hpre, (endsWith_foldl_iff pre q).mpr hend, rfl⟩
    rw [next_foldl] at hcollected
    obtain ⟨text, hparse⟩ := parseReset_iff.mpr hparse
    exact ⟨text, _, by rw [exchange_eq h hcollected, hparse]⟩

end Exchange

/-! ## The error -/

/-- What `parse_error_response` takes for an error of the server is an Error message at the beginning
that is read. -/
lemma parseErrorResponse_iff {payload : Bytes} {number : UInt32} :
    (∃ text, parseErrorResponse payload = .error (.oracleError number text)) ↔
      ∃ b, payload.drop 2 = MessageType.error.code :: b ∧ ∃ info c',
        readErrorInfo payload true false ⟨payload, 3⟩ = .ok info c' ∧ info.code = number := by
  rcases payload with _ | ⟨flag, _ | ⟨flag', _ | ⟨msgType, b⟩⟩⟩
  · exact iff_of_false (by rintro ⟨text, ⟨⟩⟩) (by rintro ⟨b, ⟨⟩, -⟩)
  · exact iff_of_false (by rintro ⟨text, ⟨⟩⟩) (by rintro ⟨b, ⟨⟩, -⟩)
  · exact iff_of_false (by rintro ⟨text, ⟨⟩⟩) (by rintro ⟨b, ⟨⟩, -⟩)
  generalize hpayload : flag :: flag' :: msgType :: b = payload
  have hskip : skip 2 (⟨payload, 0⟩ : ReadBuffer) = .ok () ⟨payload, 2⟩ :=
    reads_skip [flag, flag'] ⟨payload, 0⟩ (msgType :: b) (by rw [← hpayload]; rfl)
  have htype : readU8 (⟨payload, 2⟩ : ReadBuffer) = .ok msgType ⟨payload, 3⟩ :=
    reads_readU8 msgType ⟨payload, 2⟩ b (by rw [← hpayload]; rfl)
  have hlen : ¬ payload.length < 3 := by
    rw [← hpayload]
    simp
  have hdrop : payload.drop 2 = msgType :: b := by rw [← hpayload]; rfl
  rw [parseErrorResponse, if_neg hlen, ReadM.runOn, bind_ok hskip, bind_ok htype, hdrop]
  by_cases herror : msgType = MessageType.error.code
  · have hdetailed : parseErrorInfoDetailed true false (⟨payload, 3⟩ : ReadBuffer) =
        readErrorInfo payload true false ⟨payload, 3⟩ := rfl
    rw [if_pos herror, herror]
    cases hread : readErrorInfo payload true false ⟨payload, 3⟩ with
    | ok info c' =>
      rw [bind_ok (hdetailed.trans hread)]
      constructor
      · rintro ⟨text, h⟩
        cases h
        exact ⟨b, rfl, info, c', rfl, rfl⟩
      · rintro ⟨b', -, info', c'', h, rfl⟩
        cases h
        exact ⟨_, rfl⟩
    | error e c' =>
      have hquiet := (plain_readErrorInfo payload).quiet ⟨payload, 3⟩ trivial
      rw [hread] at hquiet
      rw [bind_error (hdetailed.trans hread)]
      refine iff_of_false ?_ ?_
      · rintro ⟨text, h⟩
        cases h
        exact hquiet.2 ⟨_, _, rfl⟩
      · rintro ⟨b', -, info', c'', h, -⟩
        cases h
  · rw [if_neg herror]
    refine iff_of_false ?_ ?_
    · rintro ⟨text, h⟩
      cases h
    · rintro ⟨b', h, -⟩
      exact herror (List.head_eq_of_cons_eq h)

/-- A packet with neither a fragment nor an end flag. -/
def DataPacket.Silent (p : DataPacket) : Prop := ¬ p.HasEndFlag ∧ p.body = []

instance (p : DataPacket) : Decidable p.Silent := inferInstanceAs (Decidable (_ ∧ _))

lemma bodies_of_silent {packets : List DataPacket} (h : ∀ p ∈ packets, p.Silent) :
    bodies packets = [] :=
  List.flatMap_eq_nil_iff.mpr fun p hp => (h p hp).2

/-- Silent packets are no complete response. -/
lemma interrupted_of_silent {packets : List DataPacket} (h : ∀ p ∈ packets, p.Silent) :
    Interrupted packets := by
  refine ⟨fun p hp => (h p hp).1, fun ps hps => ?_⟩
  have hsilent : ∀ p ∈ ps, p.Silent := fun p hp => h p (hps.subset hp)
  rintro (hend | hterminal)
  · obtain ⟨p, hp, hbody⟩ := Option.map_eq_some_iff.mp hend
    rw [(hsilent p (List.mem_of_getLast? hp)).2] at hbody
    cases hbody
  · rw [bodies_of_silent hsilent] at hterminal
    exact not_looksTerminal_nil hterminal

/-- A beginning with an Error message at its beginning is a complete response. -/
lemma looksComplete_of_error {packets : List DataPacket} {b : Bytes}
    (h : bodies packets = MessageType.error.code :: b) : LooksComplete packets := by
  refine .inr ?_
  rw [h]
  exact .closing (.inr (.inl rfl))

/-- A beginning of packets that is no complete response, in front of an Error message, is silent. -/
lemma Interrupted.silent {packets : List DataPacket} (h : Interrupted packets) {b t : Bytes}
    (hb : bodies packets ++ t = MessageType.error.code :: b) : ∀ p ∈ packets, p.Silent := by
  cases hbodies : bodies packets with
  | nil => exact fun p hp => ⟨h.noEndFlag p hp, List.flatMap_eq_nil_iff.mp hbodies p hp⟩
  | cons x xs =>
    rw [hbodies, List.cons_append] at hb
    rw [List.head_eq_of_cons_eq hb] at hbodies
    exact absurd (looksComplete_of_error hbodies) (h.incomplete packets List.prefix_rfl)

/-- Behind the data flags stand the fragments. -/
lemma exists_assembled {packets : List DataPacket} (h : packets ≠ []) :
    ∃ flag flag', assembled packets = flag :: flag' :: bodies packets := by
  obtain ⟨p, ps, rfl⟩ := List.exists_cons_of_ne_nil h
  have hlen : (BigEndian.digits 2 p.flags.toNat).length = 2 := BigEndian.length_digits 2 _
  obtain ⟨flag, flag', hflags⟩ := List.length_eq_two.mp hlen
  refine ⟨flag, flag', ?_⟩
  rw [assembled, DataPacket.payload, hflags]
  rfl

/-- Behind the type of an Error message stands the message. -/
lemma rest_assembled {packets : List DataPacket} {b : Bytes}
    (h : bodies packets = MessageType.error.code :: b) :
    (⟨assembled packets, 3⟩ : ReadBuffer).rest = b := by
  rw [rest, List.drop_add_one_eq_tail_drop, drop_assembled, h]
  rfl

/-- No `ORA-` begins in the data flags and the type of an Error message. -/
lemma oraNumber_assembled {packets : List DataPacket} {b : Bytes}
    (h : bodies packets = MessageType.error.code :: b) : oraNumber (assembled packets) = oraNumber b := by
  have hne : packets ≠ [] := by
    rintro rfl
    cases h
  obtain ⟨flag, flag', hassembled⟩ := exists_assembled hne
  have hfirst : fromFirstOra (flag :: flag' :: MessageType.error.code :: b) = fromFirstOra b := by
    simp [fromFirstOra, oraPrefix, List.isPrefixOf, MessageType.code]
  rw [hassembled, h, oraNumber, hfirst]
  rfl

/-- Messages in front of an Error message do not begin like one. -/
lemma messages_eq_nil {messages : List InnerMessage} {body b : Bytes}
    (h : messageStream messages .error body = MessageType.error.code :: b) : messages = [] := by
  cases messages with
  | nil => rfl
  | cons message messages =>
    rw [messageStream_cons] at h
    cases message with
    | lobData data =>
      have hcode := List.head_eq_of_cons_eq h
      cases hcode
    | other kind parameters =>
      have hcode := MessageType.code_injective (List.head_eq_of_cons_eq h)
      cases kind <;> cases hcode

/-- Packets with no fragment stand in front of a packet that has one. -/
lemma exists_silent_of_append {before response pre post : List DataPacket} {q : DataPacket}
    (hbefore : ∀ p ∈ before, p.Silent) (hq : ¬ q.Silent) (h : before ++ response = pre ++ q :: post) :
    ∃ silent, pre = before ++ silent ∧ response = silent ++ q :: post := by
  rcases List.append_eq_append_iff.mp h with ⟨silent, hpre, hresponse⟩ | ⟨rest, hsplit, hrest⟩
  · exact ⟨silent, hpre, hresponse⟩
  · cases rest with
    | nil =>
      rw [List.append_nil] at hsplit
      exact ⟨[], by rw [hsplit, List.append_nil], hrest.symm⟩
    | cons p rest =>
      rw [List.cons_append] at hrest
      have hp := hbefore p (by rw [hsplit]; simp)
      rw [← List.head_eq_of_cons_eq hrest] at hp
      exact absurd hp hq

namespace ErrorMessage

/-- The first packet that is not silent has all of the message that is read, and its number is kept. -/
def ArrivesWhole (version : UInt8) (m : ErrorMessage) (response : List DataPacket) : Prop :=
  ∃ silent p left b, response = silent ++ p :: left ∧ (∀ q ∈ silent, q.Silent) ∧
    p.body = MessageType.error.code :: b ∧ m.ReportedFrom version b b

end ErrorMessage

namespace MarkedCall

variable {version : UInt8} {before response : List DataPacket} {messages : List InnerMessage}
  {m : ErrorMessage} {back : Bytes}

/-- A response with error 942. -/
def silentResponse : DataPacket :=
  .ofBody dataFlagEndOfResponse (MessageType.error.code :: ErrorMessage.silent.encode 24)

/-- The beginning of a query response, in its first row header. -/
def brokenOff : DataPacket := .ofBody 0 (MessageType.rowHeader.code :: List.replicate 7 0)

end MarkedCall

end OracleRs
