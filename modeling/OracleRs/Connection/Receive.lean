import OracleRs.Buffer.Read
import OracleRs.Lib.Drive

set_option relaxedAutoImplicit false
set_option autoImplicit false

/-!
# Receiving a response

The receive loops of `ConnectionInner` (`connection.rs`): a response arrives as a sequence of
packets, and the loops collect the payloads of DATA packets until a packet carries an end flag
or what has been collected looks complete to a scan. A packet is the byte string that
`receive` returns: the header of eight bytes and the payload.

The loops are driven by the packets that arrive. Their outcome says whether they have returned
or ask the transport for a further packet.

## Main definitions

* `OracleRs.scanForTerminalMessage` — the scan of the collected bytes.
* `OracleRs.receiveTurn` — what the receive loops do with one packet.
* `OracleRs.receiveResponse`, `OracleRs.receiveResponseOrMarker` — the receive loops.
* `OracleRs.resetTurn` — what the marker reset does with one packet.
* `OracleRs.LooksTerminal` — the byte strings that the scan takes for a complete response.

## Main results

* `OracleRs.scanForTerminalMessage_iff` — the scan decides `LooksTerminal`.
-/

namespace OracleRs

open Cursor Drive

/-! ## Scanning for a terminal message -/

/-- One turn of the loop of `scan_for_terminal_message`. -/
def scanTurn (_ : Unit) : ReadM (Unit ⊕ Bool) := do
  let buf ← get
  if buf.remaining = 0 then
    return .inr false
  let msgType ← readU8
  if msgType = MessageType.endOfResponse.code then
    return .inr true
  if msgType = MessageType.error.code then
    return .inr true
  if msgType = MessageType.status.code then
    return .inr true
  if msgType = MessageType.lobData.code then
    let _ ← readRawBytesChunked
    return .inl ()
  if msgType = MessageType.parameter.code then
    let remaining := (← get).rest
    return .inr (remaining.contains MessageType.error.code ||
      remaining.contains MessageType.endOfResponse.code)
  return .inr false

/-- `scan_for_terminal_message`: does the collected data hold a terminal message? -/
def scanForTerminalMessage (data : Bytes) : Bool :=
  -- a read that fails means that more packets are needed
  match ReadM.runOn (iterate .stuck scanTurn ()) data with
  | .ok found => found
  | .error _ => false

/-! ## Collecting the packets of a response -/

/-- The length field of a packet header, in the form of the negotiated SDU mode. -/
def packetLengthField (largeSdu : Bool) (totalLen : ℕ) : Bytes :=
  if largeSdu then BigEndian.digits 4 totalLen else BigEndian.digits 2 totalLen ++ [0, 0]

/-- `build_data_packet_from_payload`. -/
def buildDataPacketFromPayload (largeSdu : Bool) (accumulatedPayload : Bytes) : Bytes :=
  packetLengthField largeSdu (packetHeaderSize + accumulatedPayload.length) ++
    [PacketType.data.code, 0, 0, 0] ++ accumulatedPayload

/-- The loop variables of the receive loops. -/
structure Accum where
  /-- `accumulated_payload` -/
  accumulatedPayload : Bytes
  /-- `is_first_packet` -/
  isFirstPacket : Bool
deriving DecidableEq, Repr

/-- The loop variables before the first packet of a response. -/
def Accum.start : Accum := ⟨[], true⟩

/-- How the receive loops end without an error. -/
inductive Received where
  /-- a packet that is no DATA packet, and the payload collected before it -/
  | other (packet accumulatedPayload : Bytes)
  /-- a complete response -/
  | complete (accumulatedPayload : Bytes)
deriving DecidableEq, Repr

/-- One turn of the receive loops: the checks and the end detection for one packet. -/
def receiveTurn (s : Accum) (packet : Bytes) : Accum ⊕ Except Error Received :=
  if packet.length < packetHeaderSize then
    .inr (.error (.protocol "Packet too small"))
  else if packet.getD 4 0 ≠ PacketType.data.code then
    .inr (.ok (.other packet s.accumulatedPayload))
  else
    let payload := packet.drop packetHeaderSize
    if payload.length < 2 then
      .inr (.error (.protocol "DATA packet payload too small"))
    else
      let dataFlagsValue := UInt16.ofNat (BigEndian.eval (payload.take 2))
      let hasEndFlag := dataFlagsValue &&& dataFlagEndOfResponse ≠ 0
      let hasEofFlag := dataFlagsValue &&& dataFlagEof ≠ 0
      let hasEndMessage := payload.length = 3 ∧ payload.getD 2 0 = MessageType.endOfResponse.code
      let accumulatedPayload :=
        if s.isFirstPacket then s.accumulatedPayload ++ payload
        else s.accumulatedPayload ++ payload.drop 2
      let isEndOfResponse := hasEndFlag ∨ hasEofFlag ∨ hasEndMessage
      let hasTerminalMessage :=
        ¬ isEndOfResponse ∧ accumulatedPayload.length > 2 ∧
          scanForTerminalMessage (accumulatedPayload.drop 2)
      if isEndOfResponse ∨ hasTerminalMessage then
        .inr (.ok (.complete accumulatedPayload))
      else
        .inl ⟨accumulatedPayload, false⟩

/-- The result of `receive_response_from_first_packet_with_payload`: the packet that is no DATA
packet, or the collected payload as one DATA packet. -/
def Received.response (largeSdu : Bool) : Received → Bytes
  | .other packet _ => packet
  | .complete payload => buildDataPacketFromPayload largeSdu payload

/-- The result of `receive_response_or_marker`: with a packet that is no DATA packet, also the
payload collected before it. -/
def Received.responseOrMarker (largeSdu : Bool) : Received → Bytes × Bytes
  | .other packet payload => (packet, payload)
  | .complete payload => (buildDataPacketFromPayload largeSdu payload, [])

/-- `receive_response_from_first_packet_with_payload`, driven by the packets that arrive after
the first one. -/
def receiveResponseFromFirstPacketWithPayload (largeSdu : Bool) (firstPacket : Bytes)
    (accumulatedPayload : Bytes) (packets : List Bytes) :
    Driven Accum Bytes (Except Error Bytes) :=
  (drive receiveTurn ⟨accumulatedPayload, accumulatedPayload.isEmpty⟩
    (firstPacket :: packets)).map (Except.map (Received.response largeSdu))

/-- `receive_response_from_first_packet`. -/
def receiveResponseFromFirstPacket (largeSdu : Bool) (firstPacket : Bytes)
    (packets : List Bytes) : Driven Accum Bytes (Except Error Bytes) :=
  receiveResponseFromFirstPacketWithPayload largeSdu firstPacket [] packets

/-- `receive_response`, driven by the packets that arrive. -/
def receiveResponse (largeSdu : Bool) : List Bytes → Driven Accum Bytes (Except Error Bytes)
  | [] => .waiting .start
  | firstPacket :: packets => receiveResponseFromFirstPacket largeSdu firstPacket packets

/-- `receive_response_or_marker`, driven by the packets that arrive. -/
def receiveResponseOrMarker (largeSdu : Bool) (packets : List Bytes) :
    Driven Accum Bytes (Except Error (Bytes × Bytes)) :=
  (drive receiveTurn .start packets).map (Except.map (Received.responseOrMarker largeSdu))

/-- `receive_response` is the common loop with its own result. -/
lemma receiveResponse_eq (largeSdu : Bool) (packets : List Bytes) :
    receiveResponse largeSdu packets =
      (drive receiveTurn .start packets).map (Except.map (Received.response largeSdu)) := by
  cases packets <;> rfl

/-! ## The marker reset -/

/-- The type of the marker that resets the connection (`MARKER_TYPE_RESET`). -/
def markerTypeReset : UInt8 := 2

/-- Where `handle_marker_reset_with_partial` is after its reset marker has been sent. -/
inductive ResetState where
  /-- reading packets until a reset marker arrives -/
  | awaitReset (partialPayload : Bytes)
  /-- skipping markers until the response arrives -/
  | awaitData (partialPayload : Bytes)
  /-- collecting the response -/
  | collecting (s : Accum)
deriving DecidableEq, Repr

/-- The first turn of `receive_response_from_first_packet_with_payload` during a reset, with
which the reset goes on or ends. -/
def resetCollect (s : Accum) (packet : Bytes) : ResetState ⊕ Except Error Received :=
  (receiveTurn s packet).map .collecting id

/-- One turn of `handle_marker_reset_with_partial`. -/
def resetTurn (s : ResetState) (packet : Bytes) : ResetState ⊕ Except Error Received :=
  match s with
  | .awaitReset partialPayload =>
    if packet.length < packetHeaderSize then
      .inr (.error (.protocol "Invalid packet received"))
    else if packet.getD 4 0 = PacketType.marker.code then
      if packet.length ≥ packetHeaderSize + 3 ∧
          packet.getD (packetHeaderSize + 2) 0 = markerTypeReset then
        .inl (.awaitData partialPayload)
      else
        .inl (.awaitReset partialPayload)
    else
      resetCollect ⟨partialPayload, partialPayload.isEmpty⟩ packet
  | .awaitData partialPayload =>
    if packet.getD 4 0 = PacketType.marker.code then
      .inl (.awaitData partialPayload)
    else
      resetCollect ⟨partialPayload, partialPayload.isEmpty⟩ packet
  | .collecting s => resetCollect s packet

/-- `handle_marker_reset_with_partial`, driven by the packets that arrive after the reset marker
has been sent. -/
def handleMarkerResetWithPartial (largeSdu : Bool) (partialPayload : Bytes)
    (packets : List Bytes) : Driven ResetState Bytes (Except Error Bytes) :=
  (drive resetTurn (.awaitReset partialPayload) packets).map
    (Except.map (Received.response largeSdu))

/-! ## What the scan takes for a complete response -/

/-- The byte strings in which the scan finds a terminal message: behind any number of LOB
messages stands an end, error or status message, or a parameter message behind which the code
of an end or of an error message occurs somewhere. -/
inductive LooksTerminal : Bytes → Prop
  | closing {t : MessageType} {rest : Bytes} (h : t = .endOfResponse ∨ t = .error ∨ t = .status) :
      LooksTerminal (t.code :: rest)
  | parameter {rest : Bytes}
      (h : MessageType.error.code ∈ rest ∨ MessageType.endOfResponse.code ∈ rest) :
      LooksTerminal (MessageType.parameter.code :: rest)
  | lobData {b content rest : Bytes} (hb : Reads readRawBytesChunked b content)
      (h : LooksTerminal rest) : LooksTerminal (MessageType.lobData.code :: (b ++ rest))

/-- What a turn does once it has read the type of a message. -/
private def scanMessage (msgType : UInt8) : ReadM (Unit ⊕ Bool) := do
  if msgType = MessageType.endOfResponse.code then
    return .inr true
  if msgType = MessageType.error.code then
    return .inr true
  if msgType = MessageType.status.code then
    return .inr true
  if msgType = MessageType.lobData.code then
    let _ ← readRawBytesChunked
    return .inl ()
  if msgType = MessageType.parameter.code then
    let remaining := (← get).rest
    return .inr (remaining.contains MessageType.error.code ||
      remaining.contains MessageType.endOfResponse.code)
  return .inr false

/-- A turn on a nonempty rest reads the type of a message. -/
private lemma scanTurn_cons {c : ReadBuffer} {t : UInt8} {r : Bytes} (h : c.rest = t :: r) :
    scanTurn () c = scanMessage t (c.advance 1) := by
  have hrem : c.remaining ≠ 0 := by
    rw [remaining_eq, h]
    simp
  have hget : (get : ReadM ReadBuffer) c = .ok c c := rfl
  rw [scanTurn, bind_ok hget, if_neg hrem, bind_ok (reads_readU8 t c r h)]
  rfl

private lemma rest_advance_one {c : ReadBuffer} {t : UInt8} {r : Bytes} (h : c.rest = t :: r) :
    (c.advance 1).rest = r := by
  simp [h]

/-- A turn on an empty rest finds nothing. -/
private lemma scanTurn_nil {c : ReadBuffer} (h : c.rest = []) :
    scanTurn () c = .ok (.inr false) c := by
  have hrem : c.remaining = 0 := by rw [remaining_eq, h]; rfl
  have hget : (get : ReadM ReadBuffer) c = .ok c c := rfl
  rw [scanTurn, bind_ok hget, if_pos hrem]
  rfl

/-- A scan that succeeds has found a terminal message.

**Proof sketch.** Induction on the bound of the loop. The message type that a turn reads decides
the turn: only a LOB message goes on, and what it skips is an exact read. -/
private lemma looksTerminal_of_loop (n : ℕ) :
    ∀ (c c' : ReadBuffer), loop .stuck scanTurn n () c = .ok true c' → LooksTerminal c.rest := by
  induction n with
  | zero => intro c c' h; cases h
  | succ n ih =>
    intro c c' h
    obtain ⟨x, c₁, hx, hrun⟩ := exists_of_bind_ok h
    cases hc : c.rest with
    | nil =>
      rw [scanTurn_nil hc] at hx
      cases hx
      cases hrun
    | cons t r =>
      rw [scanTurn_cons hc] at hx
      unfold scanMessage at hx
      split at hx
      · next ht => exact ht ▸ .closing (.inl rfl)
      split at hx
      · next ht => exact ht ▸ .closing (.inr (.inl rfl))
      split at hx
      · next ht => exact ht ▸ .closing (.inr (.inr rfl))
      split at hx
      · next ht =>
        obtain ⟨content, c₂, hread, hpure⟩ := exists_of_bind_ok hx
        cases hpure
        obtain ⟨b, r', hr', rfl, hb⟩ := exact_readRawBytesChunked _ _ _ hread
        rw [rest_advance_one hc] at hr'
        have hrest : ((c.advance 1).advance b.length).rest = r' :=
          rest_advance_of_append (by rw [rest_advance_one hc, hr'])
        have hterm := ih _ c' hrun
        rw [hrest] at hterm
        rw [ht, hr']
        exact .lobData hb hterm
      split at hx
      · next ht =>
        cases hx
        injection hrun with hrun
        rw [rest_advance_one hc, Bool.or_eq_true, List.contains_iff_mem,
          List.contains_iff_mem] at hrun
        rw [ht]
        exact .parameter hrun
      · cases hx
        cases hrun

/-- A terminal message is found: the loop ends with success. -/
private lemma ends_of_looksTerminal {data : Bytes} (h : LooksTerminal data) :
    ∀ c : ReadBuffer, c.rest = data → ∃ c', Ends .stuck scanTurn () c (.ok true c') := by
  induction h with
  | closing h =>
    intro c hc
    refine ⟨c.advance 1, Ends.done ?_⟩
    rw [scanTurn_cons hc]
    rcases h with rfl | rfl | rfl <;> rfl
  | @parameter rest h =>
    intro c hc
    refine ⟨c.advance 1, Ends.done ?_⟩
    have hfound : ((c.advance 1).rest.contains MessageType.error.code ||
        (c.advance 1).rest.contains MessageType.endOfResponse.code) = true := by
      rw [rest_advance_one hc, Bool.or_eq_true, List.contains_iff_mem, List.contains_iff_mem]
      exact h
    rw [scanTurn_cons hc]
    change EStateM.Result.ok (Sum.inr _) _ = _
    rw [hfound]
  | @lobData b content rest hb h ih =>
    intro c hc
    have hrest : ((c.advance 1).advance b.length).rest = rest :=
      rest_advance_of_append (rest_advance_one hc)
    obtain ⟨c', hend⟩ := ih _ hrest
    refine ⟨c', Ends.more ?_ ?_ hend⟩
    · rw [scanTurn_cons hc]
      change (readRawBytesChunked >>= fun _ => pure (Sum.inl ())) (c.advance 1) = _
      rw [bind_ok (hb _ rest (rest_advance_one hc))]
      rfl
    · rw [hrest, hc]
      simp only [List.length_cons, List.length_append]
      omega

/-- The scan decides `LooksTerminal`. -/
theorem scanForTerminalMessage_iff (data : Bytes) :
    scanForTerminalMessage data = true ↔ LooksTerminal data := by
  have hstart : (⟨data, 0⟩ : ReadBuffer).rest = data := rest_mk_zero data
  unfold scanForTerminalMessage ReadM.runOn
  constructor
  · intro h
    cases hrun : iterate .stuck scanTurn () (⟨data, 0⟩ : ReadBuffer) with
    | error e c' => simp [hrun] at h
    | ok found c' =>
      simp only [hrun] at h
      subst h
      have := looksTerminal_of_loop _ _ _ hrun
      rwa [hstart] at this
  · intro h
    obtain ⟨c', hend⟩ := ends_of_looksTerminal h _ hstart
    rw [iterate_of_ends hend]

/-- Nothing has been found in an empty byte string. -/
@[simp] lemma not_looksTerminal_nil : ¬ LooksTerminal [] := by
  intro h
  cases h

instance (data : Bytes) : Decidable (LooksTerminal data) :=
  decidable_of_iff _ (scanForTerminalMessage_iff data)

/-- A LOB message is skipped. -/
lemma looksTerminal_lobData_iff (s : ByteString) (rest : Bytes) :
    LooksTerminal (MessageType.lobData.code :: (s.encode ++ rest)) ↔ LooksTerminal rest := by
  constructor
  · intro h
    generalize hd : MessageType.lobData.code :: (s.encode ++ rest) = data at h
    cases h with
    | closing h =>
      injection hd with ht
      have := MessageType.code_injective ht
      rcases h with rfl | rfl | rfl <;> cases this
    | parameter h => injection hd with ht; cases MessageType.code_injective ht
    | @lobData b content rest' hb h =>
      injection hd with _ hd
      have hlen := (s.reads_readRawBytesChunked.unique hb hd).2
      obtain ⟨-, rfl⟩ := List.append_inj hd hlen
      exact h
  · exact .lobData s.reads_readRawBytesChunked

end OracleRs
