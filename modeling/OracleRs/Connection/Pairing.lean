import OracleRs.Connection.Closing
import OracleRs.Connection.MarkerReset
import OracleRs.Lib.Future

set_option relaxedAutoImplicit false
set_option autoImplicit false

/-!
# Requests and their responses

Under its lock a connection sends requests and reads responses, one behind the other. The future of an operation
may be dropped in any of its awaits, which releases the lock and leaves the stream as it is; `ensure_ready` lets
the next operation pass, because only a read that fails closes the state.

An operation that makes several requests is several exchanges. What it sends, and what it makes of the
response, is left open; how it reads the response is as in the source, byte by byte.

## Main definitions

* `OracleRs.Exchange` — a request and how its response is read.
* `OracleRs.Exchange.poll` — an exchange as a future.
* `OracleRs.Answer`, `OracleRs.Exchange.EndsWith` — what a server sends, and that the exchange reads it to its
  end.
* `OracleRs.Channel`, `OracleRs.Channel.step` — a connection and its stream, and what happens to them.
* `OracleRs.Channel.Paired` — an exchange that succeeds has read the answer to its own request.

## Main results

* `OracleRs.Exchange.exists_converses` — an exchange reads an answer to its end.
* `OracleRs.Channel.paired_of_run` — requests and responses stay paired as long as no future is dropped behind
  the begin of its request.
-/

namespace OracleRs

open Drive Future

/-! ## Exchanges -/

/-- How an operation reads the response to its request. -/
inductive Reading where
  /-- with `receive_response_or_marker`, and `handle_marker_reset_with_partial` behind a marker: all operations
  that execute or fetch -/
  | responseOrMarker
  /-- with `receive_response`, and `handle_marker_reset` behind a marker: `read_lob`, `write_lob` -/
  | response
  /-- with a single `receive`, and `handle_marker_reset` behind a marker: the other operations on LOBs -/
  | packet
deriving DecidableEq, Repr

/-- A request of an operation, and how it reads the response. -/
structure Exchange (ρ : Type) where
  /-- the packets of the request -/
  request : List Bytes
  /-- there is one -/
  request_ne_nil : request ≠ []
  /-- none is empty -/
  packet_ne_nil : ∀ p ∈ request, p ≠ []
  /-- how the response is read -/
  reading : Reading
  /-- the text of the error for a response without a payload -/
  emptyText : String
  /-- what is made of the payload of the response -/
  parse : Bytes → Except Error ρ
  /-- what is made of the payload behind a reset -/
  parseReset : Bytes → Except Error ρ

/-- How the reading of packets stops. -/
inductive Stop (ρ : Type) where
  /-- the reset marker is sent, with the given payload from in front of the marker -/
  | reset (partialPayload : Bytes)
  /-- the exchange has its result -/
  | done (r : Except Error ρ)

namespace Exchange

variable {ρ : Type} (e : Exchange ρ) (largeSdu : Bool)

/-- A packet of the response. -/
def receivedTurn : Accum → Bytes → Accum ⊕ Except Error Received :=
  match e.reading with
  | .responseOrMarker | .response => receiveTurn
  | .packet => fun _ packet => .inr (.ok (.other packet []))

/-- The response, and the payload from in front of a marker. -/
def responseOf (received : Received) : Bytes × Bytes :=
  match e.reading with
  | .responseOrMarker => received.responseOrMarker largeSdu
  | .response | .packet => (received.response largeSdu, [])

/-- How the exchange goes on with a response. -/
def check (response partialPayload : Bytes) : CallState ⊕ Stop ρ :=
  if response.length ≤ packetHeaderSize then
    .inr (.done (.error (.protocol e.emptyText)))
  else if response.getD 4 0 = PacketType.marker.code then
    .inr (.reset partialPayload)
  else
    .inr (.done (e.parse (response.drop packetHeaderSize)))

/-- How the exchange goes on when it has received its response. -/
def received : Except Error Received → CallState ⊕ Stop ρ
  | .error err => .inr (.done (.error err))
  | .ok received => e.check (e.responseOf largeSdu received).1 (e.responseOf largeSdu received).2

/-- How the exchange goes on when the reset has returned. -/
def afterReset : Except Error Received → CallState ⊕ Stop ρ
  | .error err => .inr (.done (.error err))
  | .ok received => .inr (.done (e.parseReset ((received.response largeSdu).drop packetHeaderSize)))

/-- One packet. -/
def turn : CallState → Bytes → CallState ⊕ Stop ρ
  | .receiving s, packet => (e.receivedTurn s packet).elim (fun s' => .inl (.receiving s')) (e.received largeSdu)
  | .resetting s, packet => (resetTurn s packet).elim (fun s' => .inl (.resetting s')) (e.afterReset largeSdu)

/-! ## Exchanges as futures -/

/-- The length in the header of a packet, as `receive` reads it. -/
def packetLen (header : Bytes) : ℕ := BigEndian.eval (header.take (if largeSdu then 4 else 2))

/-- The packet of `send_marker` for a reset. -/
def resetMarker : Bytes := packetHeader largeSdu .marker (packetHeaderSize + 3) ++ [1, 0, markerTypeReset]

/-- Where the future of an exchange is. -/
inductive Task (ρ : Type) where
  /-- packets are to be sent, and then a packet is to be received -/
  | sending (packets : List Bytes) (s : CallState)
  /-- the payload of a packet is to be received -/
  | receiving (header : Bytes) (s : CallState)
  /-- the result is there -/
  | ended (r : Except Error ρ)

/-- The future with its request still to be sent. -/
def start : Task ρ := .sending e.request (.receiving .start)

/-- How the future goes on behind a packet. -/
def after : CallState ⊕ Stop ρ → Task ρ
  | .inl s => .sending [] s
  | .inr (.reset partialPayload) => .sending [resetMarker largeSdu] (.resetting (.awaitReset partialPayload))
  | .inr (.done r) => .ended r

/-- What the future waits for. -/
def poll : Task ρ → Await UInt8 (Task ρ) (Except Error ρ)
  | .sending (packet :: packets) s => .writeAll packet (.sending packets s)
  | .sending [] s =>
    .readExact packetHeaderSize fun header =>
      if packetLen largeSdu header - packetHeaderSize > 0 then .receiving header s
      else after largeSdu (e.turn largeSdu s header)
  | .receiving header s =>
    .readExact (packetLen largeSdu header - packetHeaderSize) fun payload =>
      after largeSdu (e.turn largeSdu s (header ++ payload))
  | .ended r => .ready r

end Exchange

/-! ## Answers -/

/-- What a server sends for a request. -/
inductive Answer where
  /-- a response -/
  | whole (packets : List DataPacket)
  /-- a response that is broken off by a marker, and when the reset marker has arrived, markers and the rest -/
  | broken (before : List DataPacket) (marker : MarkerPacket) (markers : List MarkerPacket)
      (packets : List DataPacket)

namespace Answer

/-- The packets that are sent at once, for the request and for the reset marker. -/
def parts : Answer → List (List Bytes)
  | whole packets => [packets.map DataPacket.toBytes]
  | broken before marker markers packets =>
    [before.map DataPacket.toBytes ++ [marker.toBytes],
      markers.map MarkerPacket.toBytes ++ packets.map DataPacket.toBytes]

/-- What is sent for each write, if the request is written in `n` packets: nothing before the last of them. -/
def toWrites (n : ℕ) (a : Answer) : List Bytes := List.replicate (n - 1) [] ++ a.parts.map List.flatten

end Answer

/-- The length in the header of a packet is that of the packet. -/
def HasLength (largeSdu : Bool) (packet : Bytes) : Prop :=
  packetHeaderSize ≤ packet.length ∧ Exchange.packetLen largeSdu packet = packet.length

/-- The receive loops end with the last of the packets, and not before. -/
def EndsAtLast (packets : List DataPacket) : Prop :=
  ∃ front last, packets = front ++ [last] ∧ Interrupted front ∧ (last.HasEndFlag ∨ LooksComplete packets)

/-- What `receive_response` or the single `receive` reads of an answer, or the reset behind it, ends with the
answer: a single packet for the latter, and otherwise the end that the receive loops look for is in the last
packet only. -/
def Reading.EndsWith : Reading → Answer → Prop
  | .packet, .whole packets => packets.length = 1
  | .packet, .broken before _ _ packets => before = [] ∧ EndsAtLast packets
  | .response, .whole packets | .responseOrMarker, .whole packets => EndsAtLast packets
  | .response, .broken before _ _ packets => Interrupted before ∧ EndsAtLast packets
  | .responseOrMarker, .broken before _ _ packets =>
    Interrupted before ∧ packets ≠ [] ∧ EndsAtLast (before ++ packets)

/-- What the reset collects the response behind. -/
def Reading.kept (before : List DataPacket) : Reading → Bytes
  | .responseOrMarker => assembled before
  | .response | .packet => []

/-! ## What an exchange reads -/

/-- The receive loops return with the last packet. -/
lemma EndsAtLast.drive_eq {packets : List DataPacket} (h : EndsAtLast packets) :
    drive receiveTurn .start (packets.map DataPacket.toBytes) =
      .returned (.ok (.complete (assembled packets))) [] := by
  obtain ⟨front, last, rfl, hfront, hlast⟩ := h
  refine receiveTurn_stopsAt.drive_concat_eq_returned_iff.mpr ⟨interrupted_iff.mp hfront, ?_, ?_⟩
  · exact (endsWith_foldl_iff front last).mpr hlast
  · rw [next_foldl]

lemma EndsAtLast.ne_nil {packets : List DataPacket} (h : EndsAtLast packets) : packets ≠ [] := by
  obtain ⟨front, last, rfl, -⟩ := h
  exact List.append_ne_nil_of_right_ne_nil _ (List.cons_ne_nil _ _)

namespace Exchange

variable {ρ : Type} {e : Exchange ρ} {largeSdu : Bool}

lemma embeds_receivedTurn :
    Embeds e.receivedTurn (e.turn largeSdu) .receiving (e.received largeSdu) := fun _ _ => rfl

lemma embeds_afterReset :
    Embeds resetTurn (e.turn largeSdu) .resetting (e.afterReset largeSdu) := fun _ _ => rfl

/-- A DATA packet is parsed. -/
lemma check_of_data {response payload partialPayload : Bytes} (hdrop : response.drop packetHeaderSize = payload)
    (hpayload : payload ≠ []) (htype : response.getD 4 0 = PacketType.data.code) :
    e.check response partialPayload = .inr (.done (e.parse payload)) := by
  have hlen : ¬ response.length ≤ packetHeaderSize := by
    intro hle
    rw [List.drop_eq_nil_of_le hle] at hdrop
    exact hpayload hdrop.symm
  have hmarker : ¬ response.getD 4 0 = PacketType.marker.code := by
    rw [htype]
    decide
  rw [check, if_neg hlen, if_neg hmarker, hdrop]

/-- A marker leads to a reset. -/
lemma check_toBytes (marker : MarkerPacket) (partialPayload : Bytes) :
    e.check marker.toBytes partialPayload = .inr (.reset partialPayload) := by
  have hlen := marker.length_toBytes
  rw [check, if_neg (by omega), if_pos marker.getD_toBytes]

lemma getD_buildDataPacketFromPayload (payload : Bytes) :
    (buildDataPacketFromPayload largeSdu payload).getD 4 0 = PacketType.data.code := by
  cases largeSdu <;> rfl

/-- A response that is read to its end is handed to the parser. -/
lemma drive_whole (e : Exchange ρ) (largeSdu : Bool) {packets : List DataPacket}
    (h : e.reading.EndsWith (.whole packets)) :
    drive (e.turn largeSdu) (.receiving .start) (packets.map DataPacket.toBytes) =
      .returned (.done (e.parse (assembled packets))) [] := by
  have hloop : e.receivedTurn = receiveTurn → EndsAtLast packets →
      (∀ payload, (e.responseOf largeSdu (.complete payload)).1 = buildDataPacketFromPayload largeSdu payload) →
      drive (e.turn largeSdu) (.receiving .start) (packets.map DataPacket.toBytes) =
        .returned (.done (e.parse (assembled packets))) [] := by
    intro hturn hend hresponse
    have hne : assembled packets ≠ [] := by
      obtain ⟨p, ps, rfl⟩ := List.exists_cons_of_ne_nil hend.ne_nil
      refine List.ne_nil_of_length_pos ?_
      rw [assembled, List.length_append, p.length_payload]
      omega
    have hdrive := hend.drive_eq
    rw [← hturn] at hdrive
    refine embeds_receivedTurn.done hdrive ?_
    rw [received, hresponse]
    exact check_of_data (drop_buildDataPacketFromPayload _ _) hne (getD_buildDataPacketFromPayload _)
  cases hr : e.reading with
  | responseOrMarker | response =>
    rw [hr] at h
    refine hloop (by rw [receivedTurn, hr]) h fun payload => ?_
    rw [responseOf, hr]
    rfl
  | packet =>
    rw [hr] at h
    obtain ⟨p, rfl⟩ := List.length_eq_one_iff.mp h
    have hturn : e.receivedTurn .start p.toBytes = .inr (.ok (.other p.toBytes [])) := by rw [receivedTurn, hr]
    have hpayload : p.payload ≠ [] := List.ne_nil_of_length_pos (by rw [p.length_payload]; omega)
    have hassembled : assembled [p] = p.payload := List.append_nil _
    rw [hassembled]
    refine embeds_receivedTurn.done (drive_cons_of_done hturn []) ?_
    rw [received, responseOf, hr]
    exact check_of_data p.drop_toBytes hpayload p.getD_toBytes

/-- A response that is broken off leads to the reset. -/
lemma drive_broken (e : Exchange ρ) (largeSdu : Bool) {before : List DataPacket} {marker : MarkerPacket}
    {markers : List MarkerPacket} {packets : List DataPacket} (h : e.reading.EndsWith (.broken before marker markers packets)) :
    drive (e.turn largeSdu) (.receiving .start) (before.map DataPacket.toBytes ++ [marker.toBytes]) =
      .returned (.reset (e.reading.kept before)) [] := by
  have hloop : Interrupted before → drive receiveTurn .start (before.map DataPacket.toBytes ++ [marker.toBytes]) =
      .returned (.ok (.other marker.toBytes (assembled before))) [] := by
    intro hbefore
    rw [drive_append_of_waiting hbefore.drive_eq, drive_cons_of_done (marker.receiveTurn_toBytes _)]
  cases hr : e.reading with
  | responseOrMarker | response =>
    rw [hr] at h
    have hdrive := hloop h.1
    rw [show receiveTurn = e.receivedTurn by rw [receivedTurn, hr]] at hdrive
    refine embeds_receivedTurn.done hdrive ?_
    rw [received, responseOf, hr]
    exact check_toBytes marker _
  | packet =>
    rw [hr] at h
    obtain ⟨rfl, -⟩ := h
    have hturn : e.receivedTurn .start marker.toBytes = .inr (.ok (.other marker.toBytes [])) := by
      rw [receivedTurn, hr]
    refine embeds_receivedTurn.done (drive_cons_of_done hturn []) ?_
    rw [received, responseOf, hr]
    exact check_toBytes marker _

/-- Behind the reset the rest of the response is read to its end. -/
lemma exists_drive_reset (e : Exchange ρ) (largeSdu : Bool) {before : List DataPacket} {marker : MarkerPacket}
    {markers : List MarkerPacket} {packets : List DataPacket} (h : e.reading.EndsWith (.broken before marker markers packets)) :
    ∃ r, drive (e.turn largeSdu) (.resetting (.awaitReset (e.reading.kept before)))
        (markers.map MarkerPacket.toBytes ++ packets.map DataPacket.toBytes) = .returned (.done r) [] := by
  -- what is collected from the given payload on is complete with the last packet
  have hreset : ∀ partialPayload payload, packets ≠ [] →
      drive receiveTurn ⟨partialPayload, partialPayload.isEmpty⟩ (packets.map DataPacket.toBytes) =
        .returned (.ok (.complete payload)) [] →
      ∃ r, drive (e.turn largeSdu) (.resetting (.awaitReset partialPayload))
        (markers.map MarkerPacket.toBytes ++ packets.map DataPacket.toBytes) = .returned (.done r) [] := by
    intro partialPayload payload hne hcollect
    obtain ⟨p, ps, rfl⟩ := List.exists_cons_of_ne_nil hne
    have hdrive := embeds_collecting.done hcollect rfl
    rw [← drive_awaitReset markers] at hdrive
    exact ⟨_, embeds_afterReset.done hdrive rfl⟩
  cases hr : e.reading with
  | responseOrMarker =>
    rw [hr] at h
    obtain ⟨hbefore, hne, hend⟩ := h
    have hdrive := hend.drive_eq
    rw [List.map_append, drive_append_of_waiting hbefore.drive_eq] at hdrive
    exact hreset _ _ hne hdrive
  | response =>
    rw [hr] at h
    exact hreset [] _ h.2.ne_nil h.2.drive_eq
  | packet =>
    rw [hr] at h
    exact hreset [] _ h.2.ne_nil h.2.drive_eq

/-! ## Packets, byte by byte -/

/-- The future receives a packet whose header has its length. -/
lemma reads_packet (e : Exchange ρ) {packet : Bytes} (h : HasLength largeSdu packet) (s : CallState) :
    Reads (e.poll largeSdu) (.sending [] s) packet (after largeSdu (e.turn largeSdu s packet)) := by
  obtain ⟨hle, hlen⟩ := h
  have hheader : (packet.take packetHeaderSize).length = packetHeaderSize := List.length_take_of_le hle
  have hsame : packetLen largeSdu (packet.take packetHeaderSize) = packet.length := by
    rw [← hlen, packetLen, packetLen, List.take_take]
    cases largeSdu <;> rfl
  have hbody : (packet.drop packetHeaderSize).length = packet.length - packetHeaderSize := List.length_drop
  by_cases hpos : packet.length - packetHeaderSize > 0
  · have hnext : Reads (e.poll largeSdu) (.receiving (packet.take packetHeaderSize) s)
        (packet.drop packetHeaderSize ++ [])
        (after largeSdu (e.turn largeSdu s (packet.take packetHeaderSize ++ packet.drop packetHeaderSize))) :=
      .cons rfl (by rw [hbody, hsame]) (.nil _)
    rw [List.append_nil, List.take_append_drop] at hnext
    have hreads : Reads (e.poll largeSdu) (.sending [] s)
        (packet.take packetHeaderSize ++ packet.drop packetHeaderSize) (after largeSdu (e.turn largeSdu s packet)) :=
      .cons rfl hheader (by rw [hsame, if_pos hpos]; exact hnext)
    rwa [List.take_append_drop] at hreads
  · have hnil : packet.drop packetHeaderSize = [] := List.drop_eq_nil_of_le (by omega)
    have htake : packet.take packetHeaderSize = packet := List.take_of_length_le (by omega)
    have hreads : Reads (e.poll largeSdu) (.sending [] s) (packet.take packetHeaderSize ++ [])
        (after largeSdu (e.turn largeSdu s packet)) :=
      .cons rfl hheader (by rw [hsame, if_neg hpos, htake]; exact .nil _)
    rwa [htake, List.append_nil] at hreads

/-- The future receives packets up to one with which the reading stops. -/
lemma reads_packets {s : CallState} {packets : List Bytes} {x : Stop ρ}
    (h : ∀ p ∈ packets, HasLength largeSdu p) (hdrive : drive (e.turn largeSdu) s packets = .returned x []) :
    Reads (e.poll largeSdu) (.sending [] s) packets.flatten (after largeSdu (.inr x)) := by
  induction packets generalizing s with
  | nil => cases hdrive
  | cons p packets ih =>
    obtain ⟨hp, hpackets⟩ := List.forall_mem_cons.mp h
    have hreads := e.reads_packet hp s
    rw [List.flatten_cons]
    cases hturn : e.turn largeSdu s p with
    | inl s' =>
      rw [drive_cons_of_more hturn] at hdrive
      rw [hturn] at hreads
      exact hreads.trans (ih hpackets hdrive)
    | inr y =>
      rw [drive_cons_of_done hturn] at hdrive
      cases hdrive
      rw [hturn] at hreads
      rw [List.flatten_nil, List.append_nil]
      exact hreads

/-- The future sends packets, the last of which is answered. -/
lemma converses_sending {packets : List Bytes} (hne : packets ≠ []) {s : CallState} {t : Task ρ} {answer : Bytes}
    {answers : List Bytes} {r : Except Error ρ} (hreads : Reads (e.poll largeSdu) (.sending [] s) answer t)
    (h : Converses (e.poll largeSdu) t answers r) :
    Converses (e.poll largeSdu) (.sending packets s)
      (List.replicate (packets.length - 1) [] ++ answer :: answers) r := by
  induction packets with
  | nil => exact absurd rfl hne
  | cons p packets ih =>
    cases packets with
    | nil => exact .write rfl hreads h
    | cons q packets => exact .write rfl (.nil _) (ih (List.cons_ne_nil q packets))

/-- The exchange reads an answer to its end. -/
theorem exists_converses {a : Answer} (hlen : ∀ part ∈ a.parts, ∀ p ∈ part, HasLength largeSdu p)
    (h : e.reading.EndsWith a) :
    ∃ r, Converses (e.poll largeSdu) e.start (a.toWrites e.request.length) r := by
  cases a with
  | whole packets =>
    have hreads := reads_packets (hlen _ (List.mem_singleton.mpr rfl)) (e.drive_whole largeSdu h)
    exact ⟨_, converses_sending e.request_ne_nil hreads (.ready rfl)⟩
  | broken before marker markers packets =>
    obtain ⟨hfirst, hlast⟩ := List.forall_mem_cons.mp hlen
    obtain ⟨r, hdrive⟩ := e.exists_drive_reset largeSdu h
    have hreads := reads_packets hfirst (e.drive_broken largeSdu h)
    have hreset := reads_packets (hlast _ (List.mem_singleton.mpr rfl)) hdrive
    exact ⟨r, converses_sending e.request_ne_nil hreads (.write rfl hreset (.ready rfl))⟩

end Exchange

/-! ## Connections -/

/-- A connection and its stream. -/
structure Channel where
  /-- the flag behind `is_closed` -/
  closed : Bool
  /-- the state -/
  state : ConnectionState
  /-- how many exchanges have begun -/
  exchanges : ℕ
  /-- the bytes that the server has sent and nobody has read, each with the number of the exchange in which the
  server sent it -/
  wire : List (ℕ × UInt8)

/-- How the future of an operation ends in an exchange. -/
inductive Ending where
  /-- it is ready after so many awaits -/
  | finished (awaits : ℕ)
  /-- it is dropped in the await behind so many others, in which so many bytes have been moved -/
  | dropped (awaits moved : ℕ)

/-- What happens on a connection. -/
inductive Event (ρ : Type) where
  /-- an exchange, with what the server sends for its writes -/
  | exchange (e : Exchange ρ) (answers : List Bytes) (ending : Ending)
  /-- `mark_closed` -/
  | markClosed
  /-- `close` -/
  | close

namespace Channel

variable {ρ : Type} (largeSdu : Bool)

/-- A connection as `connect` returns it. -/
def fresh : Channel := ⟨false, .ready, 0, []⟩

/-- `ensure_ready`. -/
def ensureReady (s : Channel) : Except Error Unit :=
  if s.closed then .error .connectionClosed
  else if s.state ≠ .ready then .error .connectionNotReady
  else .ok ()

/-- The future of an exchange after so many awaits. -/
def awaited (s : Channel) (e : Exchange ρ) (answers : List Bytes) (awaits : ℕ) :
    Option (Future.Config UInt8 (Exchange.Task ρ)) :=
  (Future.Config.mk e.start s.wire answers []).run (e.poll largeSdu) s.exchanges awaits

/-- What an exchange returns after so many awaits, and what it has read; without the connection being ready it
fails at once. -/
def result (s : Channel) (e : Exchange ρ) (answers : List Bytes) (awaits : ℕ) :
    Option (Except Error ρ × List (ℕ × UInt8)) :=
  match s.ensureReady with
  | .error err => some (.error err, [])
  | .ok () => do
    let c ← s.awaited largeSdu e answers awaits
    let r ← (e.poll largeSdu c.state).result
    return (r, c.taken)

/-- The connection behind an exchange, if the future can end so. -/
def exchanged (s : Channel) (e : Exchange ρ) (answers : List Bytes) : Ending → Option Channel
  | .finished awaits => do
    let c ← s.awaited largeSdu e answers awaits
    let _ ← (e.poll largeSdu c.state).result
    return { s with exchanges := s.exchanges + 1, wire := c.wire }
  | .dropped awaits moved => do
    let c ← s.awaited largeSdu e answers awaits
    return { s with exchanges := s.exchanges + 1, wire := c.abandon (e.poll largeSdu) s.exchanges moved }

/-- What happens to a connection. -/
def step (s : Channel) : Event ρ → Option Channel
  | .exchange e answers ending =>
    match s.ensureReady with
    | .error _ => some s
    | .ok () => s.exchanged largeSdu e answers ending
  | .markClosed => some { s with closed := true }
  | .close => some { s with closed := true, state := .closed }

/-- An exchange that succeeds has read what the server has sent in this exchange, and all of it, each answer
before it wrote again. -/
def Paired (s : Channel) : Event ρ → Prop
  | .exchange e answers (.finished awaits) => ∀ v taken, s.result largeSdu e answers awaits = some (.ok v, taken) →
      taken = tagged s.exchanges answers.flatten ∧ Converses (e.poll largeSdu) e.start answers (.ok v)
  | _ => True

end Channel

namespace Event

variable {ρ : Type} (largeSdu : Bool)

/-- The server answers, with packets whose headers have their lengths, and the end of the answer is where the
exchange looks for it. -/
def Answered : Event ρ → Prop
  | .exchange e answers _ => ∃ a : Answer, answers = a.toWrites e.request.length ∧ e.reading.EndsWith a ∧
      ∀ part ∈ a.parts, ∀ p ∈ part, HasLength largeSdu p
  | _ => True

/-- The future is not dropped once it has begun to send its request. -/
def Undropped : Event ρ → Prop
  | .exchange _ _ (.dropped awaits moved) => awaits = 0 ∧ moved = 0
  | _ => True

end Event

namespace Channel

variable {ρ : Type} {largeSdu : Bool}

/-- An exchange on an empty wire comes to the result that the answers lead to, and leaves an empty wire. -/
lemma result_of_answered {s : Channel} (hwire : s.wire = []) {e : Exchange ρ} {answers : List Bytes}
    {ending : Ending} (hanswered : (Event.exchange e answers ending).Answered largeSdu) {awaits : ℕ}
    {c : Future.Config UInt8 (Exchange.Task ρ)} (hc : s.awaited largeSdu e answers awaits = some c)
    {r : Except Error ρ} (hr : (e.poll largeSdu c.state).result = some r) :
    c.wire = [] ∧ c.taken = tagged s.exchanges answers.flatten ∧
      Converses (e.poll largeSdu) e.start answers r := by
  obtain ⟨a, rfl, hends, hlen⟩ := hanswered
  obtain ⟨r', hconverses⟩ := Exchange.exists_converses hlen hends
  have hready : e.poll largeSdu c.state = .ready r := by
    cases hpoll : e.poll largeSdu c.state with
    | ready r =>
      rw [hpoll] at hr
      cases hr
      rfl
    | writeAll items next =>
      rw [hpoll] at hr
      cases hr
    | readExact n next =>
      rw [hpoll] at hr
      cases hr
  rw [awaited, hwire] at hc
  obtain ⟨rfl, hempty, htaken⟩ := hconverses.of_run hc hready
  exact ⟨hempty, htaken, hconverses⟩

/-- A future that is dropped before it writes leaves the wire as it is. -/
lemma abandon_start {s : Channel} {e : Exchange ρ} {answers : List Bytes} {c : Future.Config UInt8 (Exchange.Task ρ)}
    (hc : s.awaited largeSdu e answers 0 = some c) : c.abandon (e.poll largeSdu) s.exchanges 0 = s.wire := by
  obtain ⟨p, packets, hrequest⟩ := List.exists_cons_of_ne_nil e.request_ne_nil
  have hp : p ≠ [] := e.packet_ne_nil p (by rw [hrequest]; exact List.mem_cons_self)
  have hpos := List.length_pos_iff.mpr hp
  cases hc
  have hpoll : e.poll largeSdu e.start = .writeAll p (.sending packets (.receiving .start)) := by
    rw [Exchange.start, hrequest]
    rfl
  rw [Future.Config.abandon, hpoll]
  show (if p.length ≤ 0 then _ else _) = _
  rw [if_neg (by omega)]

lemma step_of_error {s : Channel} {e : Exchange ρ} {answers : List Bytes} {ending : Ending} {err : Error}
    (h : s.ensureReady = .error err) : s.step largeSdu (.exchange e answers ending) = some s := by
  unfold step
  rw [h]

lemma step_of_ready {s : Channel} {e : Exchange ρ} {answers : List Bytes} {ending : Ending}
    (h : s.ensureReady = .ok ()) :
    s.step largeSdu (.exchange e answers ending) = s.exchanged largeSdu e answers ending := by
  unfold step
  rw [h]

/-- What happens leaves an empty wire if the server answers and no future is dropped. -/
lemma step_wire {s s' : Channel} {event : Event ρ} (hwire : s.wire = [])
    (hgood : event.Answered largeSdu ∧ event.Undropped) (hstep : s.step largeSdu event = some s') :
    s'.wire = [] := by
  cases event with
  | markClosed =>
    cases hstep
    exact hwire
  | close =>
    cases hstep
    exact hwire
  | exchange e answers ending =>
    cases hready : s.ensureReady with
    | error err =>
      rw [step_of_error hready] at hstep
      cases hstep
      exact hwire
    | ok u =>
      rw [step_of_ready hready] at hstep
      cases ending with
      | finished awaits =>
        obtain ⟨c, hc, hrest⟩ := Option.bind_eq_some_iff.mp hstep
        obtain ⟨r, hr, hlast⟩ := Option.bind_eq_some_iff.mp hrest
        cases hlast
        exact (result_of_answered hwire hgood.1 hc hr).1
      | dropped awaits moved =>
        obtain ⟨c, hc, hlast⟩ := Option.bind_eq_some_iff.mp hstep
        cases hlast
        obtain ⟨rfl, rfl⟩ := hgood.2
        exact (abandon_start hc).trans hwire

/-- Between two exchanges there is nothing on the wire. -/
lemma wire_of_run {s : Channel} {events : List (Event ρ)}
    (hrun : Machine.Run (step largeSdu) (fun _ event => event.Answered largeSdu ∧ event.Undropped) fresh events s) :
    s.wire = [] := by
  refine hrun.invariant (P := fun s => s.wire = []) (fun _ _ _ h hgood hstep => ?_) rfl
  exact step_wire h hgood hstep

/-- **Requests and responses stay paired** in every run in which the server answers and no future is dropped
behind the begin of its request. -/
theorem paired_of_run {s : Channel} {events : List (Event ρ)} {event : Event ρ}
    (hrun : Machine.Run (step largeSdu) (fun _ event => event.Answered largeSdu ∧ event.Undropped) fresh events s)
    (hevent : event.Answered largeSdu ∧ event.Undropped) : s.Paired largeSdu event := by
  have hwire := wire_of_run hrun
  cases event with
  | markClosed => trivial
  | close => trivial
  | exchange e answers ending =>
    cases ending with
    | dropped awaits moved => trivial
    | finished awaits =>
      intro v taken hresult
      rw [result] at hresult
      cases hready : s.ensureReady with
      | error err =>
        rw [hready] at hresult
        cases hresult
      | ok u =>
        rw [hready] at hresult
        obtain ⟨c, hc, hrest⟩ := Option.bind_eq_some_iff.mp hresult
        obtain ⟨r, hr, hlast⟩ := Option.bind_eq_some_iff.mp hrest
        cases hlast
        exact (result_of_answered hwire hevent.1 hc hr).2

/-- A request that a server answers is indeed answered: if it is neither dropped nor refused, the exchange comes to
a result. -/
theorem exists_result {s : Channel} {events : List (Event ρ)} {e : Exchange ρ} {answers : List Bytes}
    (hrun : Machine.Run (step largeSdu) (fun _ event => event.Answered largeSdu ∧ event.Undropped) fresh events s)
    (hready : s.ensureReady = .ok ())
    (hanswered : ∀ ending, (Event.exchange e answers ending).Answered largeSdu) :
    ∃ awaits r, s.result largeSdu e answers awaits = some (r, tagged s.exchanges answers.flatten) := by
  obtain ⟨a, rfl, hends, hlen⟩ := hanswered (.finished 0)
  obtain ⟨r, hconverses⟩ := Exchange.exists_converses hlen hends
  obtain ⟨awaits, t, hawaited, ht⟩ := hconverses.exists_run s.exchanges []
  refine ⟨awaits, r, ?_⟩
  rw [result, hready, awaited, wire_of_run hrun]
  show (Option.bind _ _ : Option (Except Error ρ × List (ℕ × UInt8))) = _
  rw [hawaited, Option.bind_some, ht]
  rfl

/-! ## A dropped query -/

/-- A query whose payload is returned as it is. -/
def sample : Exchange Bytes where
  request := [[0]]
  request_ne_nil := List.cons_ne_nil _ _
  packet_ne_nil := List.forall_mem_singleton.mpr (List.cons_ne_nil _ _)
  reading := .responseOrMarker
  emptyText := "Empty query response"
  parse := .ok
  parseReset := .ok

/-- A query that is answered with one byte. -/
def sampleEvent (b : UInt8) (ending : Ending) : Event Bytes :=
  .exchange sample [(DataPacket.ofBody dataFlagEndOfResponse [b]).toBytes] ending

lemma answered_sampleEvent (b : UInt8) (ending : Ending) : (sampleEvent b ending).Answered false := by
  refine ⟨.whole [.ofBody dataFlagEndOfResponse [b]], ?_, ?_, ?_⟩
  · exact congrArg (fun x => [x]) (List.append_nil _).symm
  · refine ⟨[], _, rfl, ?_, .inl ?_⟩
    · refine ⟨fun p hp => absurd hp List.not_mem_nil, ?_⟩
      intro ps hps hcomplete
      rw [List.prefix_nil.mp hps] at hcomplete
      exact not_looksComplete_nil hcomplete
    · exact .inl (by decide : dataFlagEndOfResponse &&& dataFlagEndOfResponse ≠ 0)
  · refine List.forall_mem_singleton.mpr (List.forall_mem_singleton.mpr ⟨?_, ?_⟩)
    · show packetHeaderSize ≤ 11
      decide
    · exact BigEndian.eval_digits 2 11 (by decide)

/-- A query that is dropped before it begins, one that succeeds, and another one. -/
theorem paired_of_run_two : ∃ s : Channel, Machine.Run (step false)
    (fun _ event => event.Answered false ∧ event.Undropped) fresh
      [sampleEvent 1 (.dropped 0 0), sampleEvent 2 (.finished 3)] s ∧
    s.Paired false (sampleEvent 3 (.finished 3)) := by
  have hexists : ∃ s : Channel, Machine.Run (step false)
      (fun _ event => event.Answered false ∧ event.Undropped) fresh
        [sampleEvent 1 (.dropped 0 0), sampleEvent 2 (.finished 3)] s :=
    ⟨_, .cons ⟨answered_sampleEvent _ _, rfl, rfl⟩ rfl (.cons ⟨answered_sampleEvent _ _, trivial⟩ rfl (.nil _))⟩
  obtain ⟨s, hrun⟩ := hexists
  exact ⟨s, hrun, paired_of_run hrun ⟨answered_sampleEvent _ _, trivial⟩⟩

/-- A query whose future is dropped when its request has been sent: the next query returns its response. -/
theorem not_paired_dropped : ¬ ∀ (events : List (Event Bytes)) (event : Event Bytes) (s : Channel),
    Machine.Run (step false) (fun _ event => event.Answered false) fresh events s → event.Answered false →
      s.Paired false event := by
  intro h
  have hrun : Machine.Run (step false) (fun _ event => event.Answered false) fresh
      [sampleEvent 1 (.dropped 1 0)]
      ⟨false, .ready, 1, tagged 0 (DataPacket.ofBody dataFlagEndOfResponse [1]).toBytes⟩ :=
    .cons (answered_sampleEvent _ _) rfl (.nil _)
  have hresult : Channel.result false
      ⟨false, .ready, 1, tagged 0 (DataPacket.ofBody dataFlagEndOfResponse [1]).toBytes⟩ sample
      [(DataPacket.ofBody dataFlagEndOfResponse [2]).toBytes] 3 =
      some (.ok (DataPacket.ofBody dataFlagEndOfResponse [1]).payload,
        tagged 0 (DataPacket.ofBody dataFlagEndOfResponse [1]).toBytes) := rfl
  obtain ⟨htaken, -⟩ := h _ _ _ hrun (answered_sampleEvent 2 (.finished 3)) _ _ hresult
  have htag := congrArg (List.map Prod.fst) htaken
  exact absurd htag (by decide)

end Channel

end OracleRs
