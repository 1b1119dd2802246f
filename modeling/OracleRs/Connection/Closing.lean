import OracleRs.Connection.Receive
import OracleRs.Lib.Built
import OracleRs.Lib.Machine
import OracleRs.Packet.Header
import OracleRs.Response.ErrorInfo

set_option relaxedAutoImplicit false
set_option autoImplicit false

/-!
# Closing a connection

That a connection is closed is kept in three places of `connection.rs`: the flag behind `is_closed`, the
state of `ConnectionInner`, and the stream, which is there until `close` drops it. A read that fails sets
the state, some operations set the flag from the error with which they fail, `mark_closed` sets the flag
only, and `close` does nothing if the flag is set already.

An operation is any program over the transport: what it sends, what it makes of the packets that arrive and
with which errors of its own it fails is left open.

## Main definitions

* `OracleRs.ConnectionInner`, `OracleRs.Connection` — the three places.
* `OracleRs.Call` — an operation, `OracleRs.Connection.close`, `OracleRs.Connection.markClosed`.
* `OracleRs.Connection.step` — what happens to a connection.
* `OracleRs.Connection.WellClosed` — the flag, the state and the stream agree.

## Main results

* `OracleRs.Connection.wellClosed_iff` — what this says about a connection.
* `OracleRs.Connection.wellClosed_of_run` — they agree in every state of a run, as long as no operation
  comes upon a broken transport and nobody marks the connection closed.
* `OracleRs.Connection.not_wellClosed` — a read that fails during a fetch.
-/

namespace OracleRs

/-! ## The transport -/

/-- `ConnectionState`. -/
inductive ConnectionState where
  | disconnected
  | connected
  | protocolNegotiated
  | dataTypesNegotiated
  | ready
  | closed
deriving DecidableEq, Repr

/-- The stream of a connection (`OracleStream`), given by what it is going to do. -/
structure OracleStream where
  /-- does the next write succeed, and each one behind it? -/
  writes : ℕ → Bool
  /-- the bytes that arrive; a read that comes to `none` fails -/
  incoming : ℕ → Option UInt8

namespace OracleStream

/-- `write_all` and `flush`. -/
def writeAll (stream : OracleStream) (_data : Bytes) : Bool × OracleStream :=
  (stream.writes 0, { stream with writes := fun i => stream.writes (i + 1) })

/-- `read_exact`. -/
def readExact (stream : OracleStream) (n : ℕ) : Option Bytes × OracleStream :=
  ((List.range n).mapM stream.incoming, { stream with incoming := fun i => stream.incoming (n + i) })

/-- No read will fail. -/
def Reads (stream : OracleStream) : Prop := ∀ i, (stream.incoming i).isSome

/-- No write will fail. -/
def Writes (stream : OracleStream) : Prop := ∀ i, stream.writes i = true

end OracleStream

/-- The part of a connection behind its lock that this module needs (`ConnectionInner`). -/
structure ConnectionInner where
  /-- the stream, until it is dropped -/
  stream : Option OracleStream
  /-- the state -/
  state : ConnectionState
  /-- are lengths written in four bytes? -/
  largeSdu : Bool
  /-- the negotiated field version -/
  ttcFieldVersion : UInt8
  /-- the sequence number of the last message -/
  sequenceNumber : UInt8

/-- What is done under the lock. -/
abbrev InnerM := EStateM Error ConnectionInner

namespace ConnectionInner

/-- `next_sequence_number`. -/
def nextSequenceNumber : InnerM UInt8 := do
  let n := (← get).sequenceNumber + 1
  let sequenceNumber := if n = 0 then 1 else n
  modify fun inner => { inner with sequenceNumber := sequenceNumber }
  return sequenceNumber

/-- `send`. -/
def send (data : Bytes) : InnerM Unit := do
  match (← get).stream with
  | some stream =>
    let (written, stream') := stream.writeAll data
    modify fun inner => { inner with stream := some stream' }
    if written then return else throw .io
  | none => throw .connectionClosed

/-- A read of `receive`: one that fails closes the state. -/
def readExact (n : ℕ) : InnerM Bytes := do
  match (← get).stream with
  | some stream =>
    let (read, stream') := stream.readExact n
    modify fun inner => { inner with stream := some stream' }
    match read with
    | some bytes => return bytes
    | none =>
      modify fun inner => { inner with state := .closed }
      throw .io
  | none => throw .connectionClosed

/-- `receive`: a packet, whose header has its length. -/
def receive : InnerM Bytes := do
  let header ← readExact packetHeaderSize
  let packetLen := BigEndian.eval (header.take (if (← get).largeSdu then 4 else 2))
  let payloadLen := packetLen - packetHeaderSize
  if payloadLen > 0 then
    return header ++ (← readExact payloadLen)
  return header

/-- `receive` in the last loop of `handle_marker_reset_with_partial`, which has an error of its own. -/
def receiveAfterReset : InnerM Bytes :=
  tryCatch receive fun _ => do
    modify fun inner => { inner with state := .closed }
    throw (.connectionClosedByServer
      "Server closed the connection during error recovery without returning an error payload.")

/-- `send_marker`. -/
def sendMarker (markerType : UInt8) : InnerM Unit := do
  send (packetHeader (← get).largeSdu .marker (packetHeaderSize + 3) ++ [1, 0, markerType])

/-- A turn of a loop that takes a packet. -/
def turnOf {σ ρ : Type} (receive : InnerM Bytes) (turn : Bytes → σ ⊕ Except Error ρ) :
    InnerM (σ ⊕ ρ) := do
  match turn (← receive) with
  | .inl s => return .inl s
  | .inr (.ok r) => return .inr r
  | .inr (.error e) => throw e

/-- `receive_response_or_marker`, for so many packets at most. -/
def receiveResponseOrMarker (turns : ℕ) : InnerM (Bytes × Bytes) := do
  let received ← Built.repeated .stuck (fun s => turnOf receive (receiveTurn s)) turns .start
  return received.responseOrMarker (← get).largeSdu

/-- A turn of the loops of `handle_marker_reset_with_partial`. -/
def resetBody : ResetState → InnerM (ResetState ⊕ Received)
  | .awaitData partialPayload => turnOf receiveAfterReset (resetTurn (.awaitData partialPayload))
  | s => turnOf receive (resetTurn s)

/-- `handle_marker_reset_with_partial`, for so many packets at most. -/
def handleMarkerResetWithPartial (turns : ℕ) (partialPayload : Bytes) : InnerM Bytes := do
  sendMarker markerTypeReset
  let received ← Built.repeated .stuck resetBody turns (.awaitReset partialPayload)
  return received.response (← get).largeSdu

/-- A request and its response, as in `fetch_more`: a marker in place of the response leads to a reset.
Queries and calls do the same, with other texts in the error. -/
def exchange (turns : ℕ) (request : Bytes) : InnerM Bytes := do
  send request
  let (response, partialPayload) ← receiveResponseOrMarker turns
  if response.length ≤ packetHeaderSize then
    throw (.protocol "Empty fetch response")
  if response.getD 4 0 = PacketType.marker.code then
    handleMarkerResetWithPartial turns partialPayload
  else
    return response

/-- The error in the response to a logoff. -/
def logoffError (response : Bytes) : InnerM Unit :=
  let errorInfo : ReadM (UInt32 × Option String × UInt16) := do
    skip 2 -- data flags
    skip 1 -- message type
    parseErrorInfo
  match errorInfo.runOn (response.drop packetHeaderSize) with
  | .ok (errorCode, errorMsg, _) =>
    if errorCode ≠ 0 then
      throw (.oracleError errorCode (errorMsg.getD (oraCodeText errorCode)))
    else
      return
  | .error e => throw e

/-- `send_simple_function_inner` for the only function that is called: a logoff. -/
def sendLogoff : InnerM Unit := do
  let sequenceNumber ← nextSequenceNumber
  let inner ← get
  let token : Bytes := if inner.ttcFieldVersion ≥ 18 then [0] else []
  let payload := BigEndian.digits 2 dataFlagEndOfRequest.toNat ++
    [messageTypeFunction, FunctionCode.logoff.code, sequenceNumber] ++ token
  send (packetHeader inner.largeSdu .data (packetHeaderSize + payload.length) ++ payload)
  let response ← receive
  if response.length ≤ 4 then
    throw (.protocol "Response too short")
  let packetType := response.getD 4 0
  let code := response.getD (packetHeaderSize + 2) 0
  if packetType = PacketType.marker.code then
    -- the server breaks off when it closes the connection
    if response.length ≥ packetHeaderSize + 3 ∧ code = 1 then
      modify fun inner => { inner with state := .closed }
    return
  if packetType = PacketType.data.code then
    if response.length > packetHeaderSize + 2 ∧ code = MessageType.error.code then
      logoffError response
    return
  throw (.protocol s!"Unexpected packet type {packetType} for function call")

/-- The operations through which everything else works on the transport. -/
inductive Primitive : (α : Type) → InnerM α → Prop
  /-- the fields are read -/
  | get : Primitive ConnectionInner get
  /-- an error of its own -/
  | throw {α : Type} {e : Error} (h : e.isConnectionError = false) : Primitive α (throw e)
  | nextSequenceNumber : Primitive UInt8 nextSequenceNumber
  | send (data : Bytes) : Primitive Unit (send data)
  | receive : Primitive Bytes receive
  | receiveAfterReset : Primitive Bytes receiveAfterReset

/-! ## Exchanges are built from primitive operations -/

/-- The errors of a turn are errors of its own. -/
def OwnErrors {σ ρ : Type} (turn : Bytes → σ ⊕ Except Error ρ) : Prop :=
  ∀ packet e, turn packet = .inr (.error e) → e.isConnectionError = false

lemma ownErrors_receiveTurn (s : Accum) : OwnErrors (receiveTurn s) := by
  intro packet e h
  simp only [receiveTurn] at h
  split_ifs at h <;> cases h <;> rfl

lemma ownErrors_resetTurn (s : ResetState) : OwnErrors (resetTurn s) := by
  have hcollect : ∀ accum packet e, resetCollect accum packet = .inr (.error e) →
      e.isConnectionError = false := by
    intro accum packet e h
    rw [resetCollect] at h
    cases hturn : receiveTurn accum packet with
    | inl accum' =>
      rw [hturn] at h
      cases h
    | inr r =>
      rw [hturn] at h
      cases h
      exact ownErrors_receiveTurn accum packet e hturn
  intro packet e h
  cases s with
  | awaitReset partialPayload =>
    simp only [resetTurn] at h
    split_ifs at h
    · cases h
      rfl
    · exact hcollect _ _ _ h
  | awaitData partialPayload =>
    simp only [resetTurn] at h
    split_ifs at h
    exact hcollect _ _ _ h
  | collecting accum => exact hcollect _ _ _ h

lemma built_turnOf {σ ρ : Type} {receive : InnerM Bytes} {turn : Bytes → σ ⊕ Except Error ρ}
    (hreceive : Primitive Bytes receive) (hturn : OwnErrors turn) :
    Built.By Primitive (σ ⊕ ρ) (turnOf receive turn) := by
  refine (Built.By.prim hreceive).bind fun packet => ?_
  cases h : turn packet with
  | inl s => exact Built.By.pure _
  | inr r =>
    cases r with
    | ok r => exact Built.By.pure _
    | error e => exact Built.By.prim (.throw (hturn packet e h))

lemma built_exchange (turns : ℕ) (request : Bytes) :
    Built.By Primitive Bytes (exchange turns request) := by
  have hstuck : ∀ {α : Type}, Built.By Primitive α (throw .stuck) := Built.By.prim (.throw rfl)
  have hreceive : Built.By Primitive (Bytes × Bytes) (receiveResponseOrMarker turns) := by
    refine (Built.By.repeated hstuck (fun s => ?_) turns _).bind fun received => ?_
    · exact built_turnOf .receive (ownErrors_receiveTurn s)
    · exact (Built.By.prim .get).bind fun inner => Built.By.pure _
  have hreset : ∀ partialPayload,
      Built.By Primitive Bytes (handleMarkerResetWithPartial turns partialPayload) := by
    intro partialPayload
    refine Built.By.bind ((Built.By.prim .get).bind fun inner => Built.By.prim (.send _)) fun _ => ?_
    refine (Built.By.repeated hstuck (fun s => ?_) turns _).bind fun received => ?_
    · cases s with
      | awaitReset partialPayload => exact built_turnOf .receive (ownErrors_resetTurn _)
      | awaitData partialPayload => exact built_turnOf .receiveAfterReset (ownErrors_resetTurn _)
      | collecting accum => exact built_turnOf .receive (ownErrors_resetTurn _)
    · exact (Built.By.prim .get).bind fun inner => Built.By.pure _
  refine (Built.By.prim (.send request)).bind fun _ => hreceive.bind fun received => ?_
  refine Built.By.ite (Built.By.prim (.throw rfl)) ?_
  exact Built.By.ite (hreset received.2) (Built.By.pure received.1)

end ConnectionInner

/-! ## Connections -/

/-- A connection (`Connection`). -/
structure Connection where
  /-- the flag -/
  closed : Bool
  /-- what is behind the lock -/
  inner : ConnectionInner

/-- What the functions of a connection do. -/
abbrev ConnM := EStateM Error Connection

/-- An operation of a connection: what it does under the lock is built from the primitive operations. -/
structure Call where
  /-- what is done under the lock -/
  body : InnerM Unit
  /-- nothing else is done to the transport and the state -/
  built : Built.By ConnectionInner.Primitive Unit body
  /-- does the result go through `handle_result`? It does for `execute`, `query` and `execute_dml_sql`,
  and for what is built on them. -/
  handled : Bool

namespace Connection

/-- `is_closed`. -/
def isClosed (conn : Connection) : Bool := conn.closed

/-- `mark_closed`. -/
def markClosed (conn : Connection) : Connection := { conn with closed := true }

/-- Something is done under the lock. -/
def locked {α : Type} (m : InnerM α) : ConnM α := fun conn =>
  match m conn.inner with
  | .ok a inner => .ok a { conn with inner := inner }
  | .error e inner => .error e { conn with inner := inner }

/-- `handle_result`, of the result of `m`. -/
def handleResult {α : Type} (m : ConnM α) : ConnM α :=
  tryCatch m fun e => do
    if e.isConnectionError then
      modify markClosed
    throw e

/-- `ensure_ready`. -/
def ensureReady : ConnM Unit := do
  if (← get).isClosed then
    throw .connectionClosed
  if (← get).inner.state ≠ .ready then
    throw .connectionNotReady

/-- An operation. -/
def call (c : Call) : ConnM Unit := do
  ensureReady
  if c.handled then handleResult (locked c.body) else locked c.body

/-- Something is tried under the lock, `let _ = …`. -/
def attempt (m : InnerM Unit) : ConnM Unit := tryCatch (locked m) fun _ => return

/-- `close`. -/
def close : ConnM Unit := do
  let conn ← get
  set conn.markClosed
  if conn.closed then
    return
  if conn.inner.state = .ready then
    attempt ConnectionInner.sendLogoff
  modify fun conn => { conn with inner := { conn.inner with state := .closed, stream := none } }

/-! ## Runs -/

/-- The connection is as `connect` returns it. -/
structure Connected (conn : Connection) : Prop where
  notClosed : conn.closed = false
  ready : conn.inner.state = .ready
  stream : conn.inner.stream.isSome

/-- What happens to a connection. How the transport behaves during an operation is part of it. -/
inductive Event where
  /-- an operation -/
  | call (c : Call) (stream : OracleStream)
  /-- `mark_closed` -/
  | markClosed
  /-- `close` -/
  | close (stream : OracleStream)

/-- The stream, as long as it is there, is going to behave like this one. -/
def onStream (conn : Connection) (stream : OracleStream) : Connection :=
  { conn with inner := { conn.inner with stream := conn.inner.stream.map fun _ => stream } }

/-- The connection behind an outcome. -/
def after {α : Type} : EStateM.Result Error Connection α → Connection
  | .ok _ conn => conn
  | .error _ conn => conn

/-- One event. -/
def step (conn : Connection) (e : Event) : Option Connection :=
  some (match e with
    | .call c stream => after (Connection.call c (conn.onStream stream))
    | .markClosed => conn.markClosed
    | .close stream => after (Connection.close (conn.onStream stream)))

/-- The flag, the state and the stream agree: a connection whose state is closed is closed, and when
`close` returns, the state is closed and the stream has been dropped. -/
structure WellClosed (conn : Connection) : Prop where
  isClosed : conn.inner.state = .closed → conn.isClosed
  close : ∀ stream conn', Connection.close (conn.onStream stream) = .ok () conn' →
    conn'.inner.state = .closed ∧ conn'.inner.stream = none

/-- The transport does not break during an operation on an open connection, and such a connection is not
marked closed. A write may fail if the result does not go through `handle_result`. -/
def Unbroken (conn : Connection) : Event → Prop
  | .call c stream => conn.isClosed ∨ stream.Reads ∧ (c.handled → stream.Writes)
  | .markClosed => conn.isClosed
  | .close _ => True

/-! ## Closing -/

/-- `close` has nothing to do if the flag is set. -/
lemma close_of_closed {conn : Connection} (h : conn.closed = true) : close conn = .ok () conn := by
  have hmark : conn.markClosed = conn := by
    rw [markClosed, ← h]
  show (if conn.closed = true then _ else _ : ConnM Unit) conn.markClosed = _
  rw [if_pos h, hmark]
  rfl

/-- What is tried changes only what is behind the lock. -/
lemma exists_attempt (m : InnerM Unit) (conn : Connection) :
    ∃ inner, attempt m conn = .ok () { conn with inner := inner } := by
  cases hm : m conn.inner with
  | ok a inner =>
    have hlocked : locked m conn = .ok a { conn with inner := inner } := by rw [locked, hm]
    exact ⟨inner, Built.tryCatch_ok hlocked⟩
  | error e inner =>
    have hlocked : locked m conn = .error e { conn with inner := inner } := by rw [locked, hm]
    exact ⟨inner, Built.tryCatch_error hlocked⟩

/-- `close` of an open connection always succeeds. -/
lemma close_of_open {conn : Connection} (h : conn.closed = false) :
    ∃ conn', close conn = .ok () conn' ∧ conn'.closed = true ∧ conn'.inner.state = .closed ∧
      conn'.inner.stream = none := by
  show ∃ conn', (if conn.closed = true then _ else _ : ConnM Unit) conn.markClosed = _ ∧ _
  rw [if_neg (by rw [h]; exact Bool.false_ne_true)]
  by_cases hready : conn.inner.state = .ready
  · obtain ⟨inner, hlogoff⟩ := exists_attempt ConnectionInner.sendLogoff conn.markClosed
    rw [if_pos hready, Built.bind_ok hlogoff]
    exact ⟨_, rfl, rfl, rfl, rfl⟩
  · rw [if_neg hready]
    exact ⟨_, rfl, rfl, rfl, rfl⟩

/-- The three places agree if and only if a closed state means a set flag, and a set flag means a closed
state without a stream. -/
theorem wellClosed_iff (conn : Connection) :
    conn.WellClosed ↔ (conn.inner.state = .closed → conn.closed) ∧
      (conn.closed → conn.inner.state = .closed ∧ conn.inner.stream = none) := by
  constructor
  · rintro ⟨hflag, hclose⟩
    refine ⟨hflag, fun hclosed => ?_⟩
    have hreturn := close_of_closed (show (conn.onStream ⟨fun _ => true, fun _ => none⟩).closed = true from hclosed)
    obtain ⟨hstate, hstream⟩ := hclose _ _ hreturn
    exact ⟨hstate, Option.map_eq_none_iff.mp hstream⟩
  · rintro ⟨hflag, hclosed⟩
    refine ⟨hflag, fun stream conn' hreturn => ?_⟩
    cases hc : conn.closed with
    | true =>
      have heq := close_of_closed (show (conn.onStream stream).closed = true from hc)
      rw [heq] at hreturn
      cases hreturn
      obtain ⟨hstate, hstream⟩ := hclosed hc
      exact ⟨hstate, Option.map_eq_none_iff.mpr hstream⟩
    | false =>
      obtain ⟨conn'', heq, -, hresult⟩ := close_of_open (show (conn.onStream stream).closed = false from hc)
      rw [heq] at hreturn
      cases hreturn
      exact hresult

/-! ## An unbroken transport -/

/-- The connection is open, and no read fails, nor a write if the result is handled. -/
structure Working (handled : Bool) (inner : ConnectionInner) : Prop where
  ready : inner.state = .ready
  stream : ∃ stream, inner.stream = some stream ∧ stream.Reads ∧ (handled → stream.Writes)

/-- An error that leaves the connection as it is. -/
def Harmless (handled : Bool) (e : Error) : Prop := handled → e.isConnectionError = false

lemma isSome_mapM {α β : Type} {f : α → Option β} (h : ∀ a, (f a).isSome) (l : List α) :
    (l.mapM f).isSome := by
  induction l with
  | nil => rfl
  | cons a l ih =>
    obtain ⟨b, hb⟩ := Option.isSome_iff_exists.mp (h a)
    obtain ⟨bs, hbs⟩ := Option.isSome_iff_exists.mp ih
    rw [List.mapM_cons, hb, hbs]
    rfl

/-- A read does not fail. -/
lemma keeps_readExact {handled : Bool} (n : ℕ) :
    Built.Keeps (Working handled) (fun _ => False) (ConnectionInner.readExact n) := by
  rintro inner ⟨hready, stream, hstream, hreads, hwrites⟩
  obtain ⟨bytes, hbytes⟩ := Option.isSome_iff_exists.mp (isSome_mapM hreads (List.range n))
  have hread : ConnectionInner.readExact n inner =
      .ok bytes { inner with stream := some (stream.readExact n).2 } := by
    have hget : (get : InnerM ConnectionInner) inner = .ok inner inner := rfl
    rw [ConnectionInner.readExact, Built.bind_ok hget, hstream]
    show (match (stream.readExact n).1 with | some bytes => _ | none => _ : InnerM Bytes) _ = _
    rw [OracleStream.readExact, hbytes]
    rfl
  rw [hread]
  exact ⟨hready, _, rfl, fun i => hreads (n + i), hwrites⟩

lemma keeps_receive {handled : Bool} :
    Built.Keeps (Working handled) (fun _ => False) ConnectionInner.receive := by
  refine (keeps_readExact packetHeaderSize).bind fun header => ?_
  refine Built.Keeps.get.bind fun inner => ?_
  exact Built.Keeps.ite ((keeps_readExact _).bind fun payload => Built.Keeps.pure _)
    (Built.Keeps.pure header)

lemma keeps_receiveAfterReset {handled : Bool} :
    Built.Keeps (Working handled) (fun _ => False) ConnectionInner.receiveAfterReset := by
  intro inner hinner
  have hkept := keeps_receive inner hinner
  cases hreceive : ConnectionInner.receive inner with
  | ok packet inner' =>
    rw [hreceive] at hkept
    rw [ConnectionInner.receiveAfterReset, Built.tryCatch_ok hreceive]
    exact hkept
  | error e inner' =>
    rw [hreceive] at hkept
    exact hkept.2.elim

lemma keeps_send {handled : Bool} (data : Bytes) :
    Built.Keeps (Working handled) (Harmless handled) (ConnectionInner.send data) := by
  rintro inner ⟨hready, stream, hstream, hreads, hwrites⟩
  have hget : (get : InnerM ConnectionInner) inner = .ok inner inner := rfl
  rw [ConnectionInner.send, Built.bind_ok hget, hstream]
  show Built.Kept _ _ ((if stream.writes 0 = true then _ else _ : InnerM Unit)
    { inner with stream := some (stream.writeAll data).2 })
  have hworking : Working handled { inner with stream := some (stream.writeAll data).2 } :=
    ⟨hready, _, rfl, hreads, fun h i => hwrites h (i + 1)⟩
  split_ifs with hwritten
  · exact hworking
  · exact ⟨hworking, fun h => absurd (hwrites h 0) hwritten⟩

/-- Each primitive operation keeps the connection open, and its errors are harmless. -/
lemma keeps_primitive {handled : Bool} {α : Type} {m : InnerM α} (h : ConnectionInner.Primitive α m) :
    Built.Keeps (Working handled) (Harmless handled) m := by
  have hnever : ∀ {β : Type} {m : InnerM β}, Built.Keeps (Working handled) (fun _ => False) m →
      Built.Keeps (Working handled) (Harmless handled) m :=
    fun hm => hm.mono fun _ h => h.elim
  cases h with
  | get => exact Built.Keeps.get
  | throw he => exact Built.Keeps.throw fun _ => he
  | nextSequenceNumber => exact fun inner hinner => ⟨hinner.ready, hinner.stream⟩
  | send data => exact keeps_send data
  | receive => exact hnever keeps_receive
  | receiveAfterReset => exact hnever keeps_receiveAfterReset

/-! ## What a run keeps -/

/-- The connection has been closed by `close`. -/
structure Dropped (conn : Connection) : Prop where
  closed : conn.closed = true
  state : conn.inner.state = .closed
  stream : conn.inner.stream = none

/-- An operation on a closed connection fails at once. -/
lemma call_of_closed (c : Call) {conn : Connection} (h : conn.closed = true) :
    call c conn = .error .connectionClosed conn := by
  show ((if conn.closed = true then throw .connectionClosed else _ : ConnM Unit) >>= _) conn = _
  rw [if_pos h]
  rfl

/-- An operation on an open connection comes to its body. -/
lemma call_of_connected (c : Call) {conn : Connection} (hclosed : conn.closed = false)
    (hready : conn.inner.state = .ready) :
    call c conn = (if c.handled then handleResult (locked c.body) else locked c.body) conn := by
  have hensure : ensureReady conn = .ok () conn := by
    show (if conn.closed = true then throw .connectionClosed else _ : ConnM Unit) conn = _
    rw [if_neg (by rw [hclosed]; exact Bool.false_ne_true)]
    show (if conn.inner.state ≠ .ready then throw .connectionNotReady else _ : ConnM Unit) conn = _
    rw [if_neg (not_not.mpr hready)]
    rfl
  rw [call, Built.bind_ok hensure]

lemma after_locked {α : Type} (m : InnerM α) (conn : Connection) :
    (after (locked m conn)).closed = conn.closed ∧
      ∀ P E, Built.Keeps P E m → P conn.inner → P (after (locked m conn)).inner := by
  rw [locked]
  cases hm : m conn.inner with
  | ok a inner =>
    refine ⟨rfl, fun P E hkeeps hP => ?_⟩
    have hkept := hkeeps conn.inner hP
    rw [hm] at hkept
    exact hkept
  | error e inner =>
    refine ⟨rfl, fun P E hkeeps hP => ?_⟩
    have hkept := hkeeps conn.inner hP
    rw [hm] at hkept
    exact hkept.1

/-- A harmless error does not set the flag. -/
lemma after_handleResult {m : InnerM Unit} {conn : Connection} {P : ConnectionInner → Prop}
    (hkeeps : Built.Keeps P (Harmless true) m) (hP : P conn.inner) :
    after (handleResult (locked m) conn) = after (locked m conn) := by
  cases hm : m conn.inner with
  | ok a inner =>
    have hlocked : locked m conn = .ok a { conn with inner := inner } := by rw [locked, hm]
    rw [handleResult, Built.tryCatch_ok hlocked, hlocked]
  | error e inner =>
    have hlocked : locked m conn = .error e { conn with inner := inner } := by rw [locked, hm]
    have hkept := hkeeps conn.inner hP
    rw [hm] at hkept
    have he : e.isConnectionError = false := hkept.2 rfl
    rw [handleResult, Built.tryCatch_error hlocked, hlocked, he]
    rfl

/-- An operation leaves the connection open if the transport does not break. -/
lemma connected_after_call {conn : Connection} {c : Call} (hclosed : conn.closed = false)
    (hworking : Working c.handled conn.inner) : Connected (after (call c conn)) := by
  have hkeeps : Built.Keeps (Working c.handled) (Harmless c.handled) c.body :=
    c.built.keeps fun _ _ => keeps_primitive
  have hafter : after (call c conn) = after (locked c.body conn) := by
    rw [call_of_connected c hclosed hworking.ready]
    cases hh : c.handled with
    | false => rfl
    | true =>
      rw [hh] at hkeeps hworking
      exact after_handleResult hkeeps hworking
  obtain ⟨hflag, hinner⟩ := after_locked c.body conn
  have hworks := hinner _ _ hkeeps hworking
  obtain ⟨stream, hstream, -⟩ := hworks.stream
  rw [hafter]
  refine ⟨hflag.trans hclosed, hworks.ready, ?_⟩
  rw [hstream]
  rfl

lemma dropped_onStream {conn : Connection} (h : Dropped conn) (stream : OracleStream) :
    conn.onStream stream = conn := by
  have hnone := h.stream
  rw [onStream, hnone, Option.map_none, ← hnone]

/-- An unbroken event leads from an open or a dropped connection to one that is open or dropped. -/
lemma step_kept {conn conn' : Connection} {e : Event} (h : Connected conn ∨ Dropped conn)
    (hunbroken : conn.Unbroken e) (hstep : conn.step e = some conn') :
    Connected conn' ∨ Dropped conn' := by
  cases hstep
  rcases h with hconn | hdropped
  · obtain ⟨inner, hinner⟩ := Option.isSome_iff_exists.mp hconn.stream
    cases e with
    | call c stream =>
      have hfalse : ¬ conn.isClosed = true := by
        rw [isClosed, hconn.notClosed]
        exact Bool.false_ne_true
      obtain ⟨hreads, hwrites⟩ := hunbroken.resolve_left hfalse
      refine .inl (connected_after_call hconn.notClosed ⟨hconn.ready, stream, ?_, hreads, hwrites⟩)
      show conn.inner.stream.map _ = _
      rw [hinner, Option.map_some]
    | markClosed =>
      rw [Unbroken, isClosed, hconn.notClosed] at hunbroken
      exact absurd hunbroken Bool.false_ne_true
    | close stream =>
      obtain ⟨conn'', heq, hresult⟩ :=
        close_of_open (show (conn.onStream stream).closed = false from hconn.notClosed)
      refine .inr ?_
      show Dropped (after (close (conn.onStream stream)))
      rw [heq]
      exact ⟨hresult.1, hresult.2.1, hresult.2.2⟩
  · refine .inr ?_
    cases e with
    | call c stream =>
      show Dropped (after (call c (conn.onStream stream)))
      rw [dropped_onStream hdropped, call_of_closed c hdropped.closed]
      exact hdropped
    | markClosed => exact ⟨rfl, hdropped.state, hdropped.stream⟩
    | close stream =>
      show Dropped (after (close (conn.onStream stream)))
      rw [dropped_onStream hdropped, close_of_closed hdropped.closed]
      exact hdropped

/-- The flag, the state and the stream agree in every state of a run in which the transport does not break
during an operation and nobody marks the open connection closed.

**Proof sketch.** Until `close` the connection stays open: no primitive operation closes the state, and no
error sets the flag. `close` changes all three, and after it nothing changes any more. -/
theorem wellClosed_of_run {conn conn' : Connection} {events : List Event} (hconn : Connected conn)
    (hrun : Machine.Run step Unbroken conn events conn') : conn'.WellClosed := by
  have hkept : Connected conn' ∨ Dropped conn' :=
    hrun.invariant (fun _ _ _ h hgood hstep => step_kept h hgood hstep) (.inl hconn)
  rw [wellClosed_iff]
  rcases hkept with ⟨hclosed, hready, -⟩ | ⟨hclosed, hstate, hstream⟩
  · refine ⟨fun h => ?_, fun h => ?_⟩
    · rw [hready] at h
      cases h
    · rw [hclosed] at h
      cases h
  · exact ⟨fun _ => hclosed, fun _ => ⟨hstate, hstream⟩⟩

/-! ## Fetches -/

/-- A fetch (`fetch_more`), whose response is not looked at. Its result does not go through
`handle_result`. -/
def fetchMore (turns : ℕ) (request : Bytes) : Call where
  body := do
    let _response ← ConnectionInner.exchange turns request
  built := (ConnectionInner.built_exchange turns request).bind fun _ => Built.By.pure ()
  handled := false

/-- A stream on which every write succeeds and only these bytes arrive. -/
def streamOf (incoming : Bytes) : OracleStream where
  writes := fun _ => true
  incoming := fun i => incoming[i]?

/-- A stream on which every write succeeds, and zeros arrive behind these bytes. -/
def endlessStreamOf (incoming : Bytes) : OracleStream where
  writes := fun _ => true
  incoming := fun i => some (incoming.getD i 0)

/-- A connection as `connect` returns it. -/
def fresh : Connection where
  closed := false
  inner := {
    stream := some (streamOf [])
    state := .ready
    largeSdu := false
    ttcFieldVersion := 24
    sequenceNumber := 2 }

lemma connected_fresh : Connected fresh where
  notClosed := rfl
  ready := rfl
  stream := rfl

/-- A fetch and `close`. -/
theorem wellClosed_fetch : ∃ conn', Machine.Run step Unbroken fresh
    [.call (fetchMore 1 []) (endlessStreamOf [0, 11, 0, 0, 6, 0, 0, 0, 0x20, 0, 29]),
      .close (streamOf [])] conn' ∧ conn'.WellClosed := by
  have hexists : ∃ conn', Machine.Run step Unbroken fresh
      [.call (fetchMore 1 []) (endlessStreamOf [0, 11, 0, 0, 6, 0, 0, 0, 0x20, 0, 29]),
        .close (streamOf [])] conn' := by
    refine ⟨_, .cons (.inr ⟨fun _ => rfl, fun h => ?_⟩) rfl (.cons trivial rfl (.nil _))⟩
    cases h
  obtain ⟨conn', hrun⟩ := hexists
  exact ⟨conn', hrun, wellClosed_of_run connected_fresh hrun⟩

/-- A read that fails during a fetch closes the state, but does not set the flag. -/
theorem not_wellClosed : ¬ ∀ (conn conn' : Connection) (events : List Event), Connected conn →
    Machine.Run step (fun _ _ => True) conn events conn' → conn'.WellClosed := by
  intro h
  have hrun : Machine.Run step (fun _ _ => True) fresh [.call (fetchMore 1 []) (streamOf [])]
      (after (call (fetchMore 1 []) (fresh.onStream (streamOf [])))) :=
    .cons trivial rfl (.nil _)
  have hclosed := (h _ _ _ connected_fresh hrun).isClosed rfl
  cases hclosed

/-- Behind `mark_closed` the stream of an open connection is never dropped. -/
theorem not_wellClosed_markClosed {conn : Connection} (h : Connected conn) :
    ¬ conn.markClosed.WellClosed := by
  intro hclosed
  obtain ⟨-, hnone⟩ := ((wellClosed_iff _).mp hclosed).2 rfl
  have hsome := h.stream
  rw [show conn.inner.stream = none from hnone] at hsome
  cases hsome

end Connection

end OracleRs
