import OracleRs.Lib.Calls
import OracleRs.Connection.MultiPacket
import OracleRs.Connection.Pairing
import OracleRs.Messages.LobRequests
import OracleRs.Response.LobReplies

set_option relaxedAutoImplicit false
set_option autoImplicit false

/-!
# Calls on LOBs

The operations of a connection on LOBs, and programs of them, against any server. Each call sends a request in
one or more packets and reads the response, byte by byte; the server reads the request off the packets and answers
it. What comes of a program is what comes of it if every call were a call of a function of the server.

## Main definitions

* `OracleRs.LobCall` — the operations, `OracleRs.LobCall.exchange` — a call as an exchange.
* `OracleRs.LobLink`, `OracleRs.LobLink.step` — a connection, and a call on it.
* `OracleRs.LobServer` — a function of the server, `OracleRs.LobServer.Answers` — its answers.
* `OracleRs.LobServer.Does` — what a call does on the server itself, `OracleRs.LobServer.DoesRemotely` — and on a
  connection to it.
* `OracleRs.LobProgram` — a program of calls.

## Main results

* `OracleRs.LobProgram.remote_refines` — a program comes to its end on a connection, and all its runs there are
  runs on the server.
-/

namespace OracleRs

open Drive Future

/-! ## The operations -/

/-- The name of a type in an error text. -/
def OracleType.debug : OracleType → String
  | varchar => "Varchar"
  | number => "Number"
  | binaryInteger => "BinaryInteger"
  | long => "Long"
  | rowid => "Rowid"
  | date => "Date"
  | raw => "Raw"
  | longRaw => "LongRaw"
  | char => "Char"
  | binaryFloat => "BinaryFloat"
  | binaryDouble => "BinaryDouble"
  | cursor => "Cursor"
  | object => "Object"
  | clob => "Clob"
  | blob => "Blob"
  | bfile => "Bfile"
  | json => "Json"
  | vector => "Vector"
  | timestamp => "Timestamp"
  | timestampTz => "TimestampTz"
  | intervalYm => "IntervalYm"
  | intervalDs => "IntervalDs"
  | urowid => "Urowid"
  | timestampLtz => "TimestampLtz"
  | boolean => "Boolean"

/-- The operations of a connection on LOBs. -/
inductive LobCall where
  | readLobRange (locator : LobLocator) (offset amount : UInt64)
  | writeLob (locator : LobLocator) (offset : UInt64) (data : Bytes)
  | lobLength (locator : LobLocator)
  | lobTrim (locator : LobLocator) (newSize : UInt64)
  | lobChunkSize (locator : LobLocator)
  | createTempLob (oracleType : OracleType)
  | bfileExists (locator : LobLocator)
  | bfileOpen (locator : LobLocator)
  | bfileClose (locator : LobLocator)
  | bfileIsOpen (locator : LobLocator)
deriving DecidableEq, Repr

namespace LobCall

/-- What is checked of a BFILE locator, behind `ensure_ready`. -/
def checkBfile (name : String) (locator : LobLocator) (ready : Except Error Unit) : Except Error Unit := do
  ready
  if locator.oracleType ≠ .bfile then throw (.protocol s!"{name} called on non-BFILE locator")

/-- What is checked before anything is sent; `ready` is the outcome of `ensure_ready`. -/
def check (ready : Except Error Unit) : LobCall → Except Error Unit
  | createTempLob oracleType =>
    if oracleType = .clob ∨ oracleType = .blob then ready
    else .error (.protocol s!"create_temp_lob: invalid type {oracleType.debug}, must be Clob or Blob")
  | bfileExists locator => checkBfile "bfile_exists" locator ready
  | bfileOpen locator => checkBfile "bfile_open" locator ready
  | bfileClose locator => checkBfile "bfile_close" locator ready
  | bfileIsOpen locator => checkBfile "bfile_is_open" locator ready
  | _ => ready

/-- The message. -/
def message : LobCall → LobOpMessage
  | readLobRange locator offset amount => .newRead locator offset amount
  | writeLob locator offset data => .newWrite locator offset (lobWriteData locator data)
  | lobLength locator => .newGetLength locator
  | lobTrim locator newSize => .newTrim locator newSize
  | lobChunkSize locator => .newGetChunkSize locator
  | createTempLob oracleType => .newCreateTemp oracleType
  | bfileExists locator => .newFileExists locator
  | bfileOpen locator => .newFileOpen locator
  | bfileClose locator => .newFileClose locator
  | bfileIsOpen locator => .newFileIsOpen locator

/-- The packets of the request. -/
def packets (inner : Transport) (sequenceNumber : UInt8) (call : LobCall) : Except Error (List Bytes) :=
  match call with
  | writeLob locator offset data =>
    inner.writeLob (call.message.size inner.capabilities) locator offset data sequenceNumber
  | _ => do
    return [← (call.message.setSequenceNumber sequenceNumber).buildRequest inner.capabilities inner.largeSdu]

/-- How the response is read. -/
def reading : LobCall → Reading
  | readLobRange .. | writeLob .. => .response
  | _ => .packet

/-- The error text for a response without a payload. -/
def emptyText : LobCall → String
  | readLobRange .. => "Empty LOB read response"
  | writeLob .. => "Empty LOB write response"
  | lobLength _ => "Empty LOB get_length response"
  | lobTrim .. => "Empty LOB trim response"
  | lobChunkSize _ => "Empty LOB chunk size response"
  | createTempLob _ => "Empty CREATE_TEMP LOB response"
  | bfileExists _ => "Empty BFILE exists response"
  | bfileOpen _ => "Empty BFILE open response"
  | bfileClose _ => "Empty BFILE close response"
  | bfileIsOpen _ => "Empty BFILE is_open response"

/-- The parser of the response. -/
def parser : LobCall → LobParser
  | readLobRange .. => .read
  | writeLob .. | lobTrim .. | bfileOpen _ | bfileClose _ => .simple
  | lobLength _ | lobChunkSize _ => .amount
  | bfileExists _ | bfileIsOpen _ => .bool
  | createTempLob oracleType => .createTemp oracleType

/-- The locator, where there is one. -/
def locator : LobCall → LobLocator
  | readLobRange locator .. | writeLob locator .. | lobLength locator | lobTrim locator _ | lobChunkSize locator
  | bfileExists locator | bfileOpen locator | bfileClose locator | bfileIsOpen locator => locator
  | createTempLob _ => default

/-- The result of a call: a chunk size is narrowed. -/
def narrow (result : LobResult) : LobCall → LobResult
  | lobChunkSize _ => match result with
    | .amount n => .amount n.toUInt32.toUInt64
    | result => result
  | _ => result

/-- A call as an exchange. -/
def exchange (call : LobCall) (request : List Bytes) (hne : request ≠ []) (hpackets : ∀ p ∈ request, p ≠ []) :
    Exchange LobResult where
  request := request
  request_ne_nil := hne
  packet_ne_nil := hpackets
  reading := call.reading
  emptyText := call.emptyText
  parse payload := (call.narrow ·) <$> call.parser.parse call.locator payload
  parseReset := parseLobError

end LobCall

/-! ## Connections -/

/-- A connection. -/
structure LobLink where
  /-- the stream and whether it can be used -/
  channel : Channel
  /-- the sequence number of the last message -/
  sequenceNumber : UInt8

/-- `next_sequence_number`. -/
def nextSequenceNumber (sequenceNumber : UInt8) : UInt8 :=
  if sequenceNumber + 1 = 0 then 1 else sequenceNumber + 1

namespace LobLink

/-- A call on a connection: `answers` are what the server sends for its writes, and after so many awaits there is
a result. -/
def step (inner : Transport) (link : LobLink) (call : LobCall) (answers : List Bytes) (awaits : ℕ) :
    Option (LobLink × Except Error LobResult) :=
  match call.check link.channel.ensureReady with
  | .error e => some (link, .error e)
  | .ok () =>
    let sequenceNumber := nextSequenceNumber link.sequenceNumber
    match call.packets inner sequenceNumber with
    | .error e => some ({ link with sequenceNumber := sequenceNumber }, .error e)
    | .ok request =>
      if h : request ≠ [] ∧ ∀ p ∈ request, p ≠ [] then do
        let e := call.exchange request h.1 h.2
        let channel ← link.channel.exchanged inner.largeSdu e answers (.finished awaits)
        let (r, _) ← link.channel.result inner.largeSdu e answers awaits
        return (⟨channel, sequenceNumber⟩, r)
      else none

end LobLink

/-! ## Servers -/

/-- What a function of a server returns. -/
inductive LobReturned where
  /-- data -/
  | data (d : Option Bytes)
  /-- nothing -/
  | done
  /-- an amount -/
  | amount (n : UInt64)
  /-- a flag -/
  | flag (b : Bool)
  /-- a locator -/
  | locator (bytes : Bytes)
deriving DecidableEq, Repr

/-- A function of a server: from its state and a request to its next state and what it returns, unless it
fails. -/
abbrev LobServer (S : Type) := S → LobRequest → S × Option LobReturned

/-- What the messages of a reply say. -/
def LobParser.Says (messages : List LobMessage) : LobParser → LobReturned → Prop
  | read, .data d => messages.foldl LobMessage.keepData none = d
  | simple, .done => True
  | amount, .amount n => messages.foldl LobMessage.keepAmount 0 = n
  | bool, .flag b => messages.foldl LobMessage.keepFlag false = b
  | createTemp _, .locator bytes => messages.foldl LobMessage.keepLocator none = some bytes
  | _, _ => False

namespace LobRequest

variable (request : LobRequest)

/-- What the replies to a request are like. -/
def parser : LobParser :=
  if request.operation = LobOp.read then .read
  else if request.operation = LobOp.getLength ∨ request.operation = LobOp.getChunkSize then .amount
  else if request.operation = LobOp.fileExists ∨ request.operation = LobOp.fileIsopen then .bool
  else if request.operation = LobOp.createTemp then
    .createTemp ((OracleType.tryFrom request.destOffset.toUInt8).getD .blob)
  else .simple

/-- Only the replies to a read and to a write may be in several packets. -/
def reading : Reading :=
  if request.operation = LobOp.read ∨ request.operation = LobOp.write then .response else .packet

/-- An answer to a request says what the function has returned: a success in messages of which nothing is taken
for another one, a failure in an error behind such messages, or behind a marker. -/
inductive AnsweredBy (version : UInt8) : Option LobReturned → Answer → Prop
  | success {returned : LobReturned} {packets : List DataPacket} {r : LobReply}
    (hpayload : assembled packets = r.payload version)
    (hfits : ∀ m ∈ r.messages, request.parser.Fits request.locator.length m)
    (hclean : ∀ m ∈ r.messages, m.Clean request.parser.kind version)
    (hsaid : request.parser.Says r.messages returned) : AnsweredBy version (some returned) (.whole packets)
  | failure {packets : List DataPacket} {r : LobReply} {front rest : List LobMessage} {m : ErrorMessage}
    (hpayload : assembled packets = r.payload version) (hr : r.messages = front ++ .error m :: rest)
    (hfits : ∀ m ∈ front, request.parser.Fits request.locator.length m)
    (hclean : ∀ m ∈ front, m.Clean request.parser.kind version)
    (hm : m.reportedNumber (r.payload version) version ≠ 0) : AnsweredBy version none (.whole packets)
  | broken (before : List DataPacket) (marker : MarkerPacket) (markers : List MarkerPacket)
    (packets : List DataPacket) : AnsweredBy version none (.broken before marker markers packets)

end LobRequest

/-- The packets are a request with this message. -/
structure IsRequest (largeSdu : Bool) (packets : List Bytes) (message : Bytes) : Prop where
  /-- the packets have their lengths -/
  declares : ∀ packet ∈ packets, DeclaresLength largeSdu packet
  /-- the last one is marked -/
  endMarked : ∃ front last, packets = front ++ [last] ∧ packetFlags last = dataFlagEndOfRequest ∧
    ∀ packet ∈ front, packetFlags packet &&& dataFlagEndOfRequest = 0
  /-- the message is in the packets -/
  bodies : packets.flatMap packetBody = message

/-- The server reads a request off the packets, calls its function, and sends an answer that says what this has
returned. -/
def LobServer.Answers {S : Type} (serve : LobServer S) (inner : Transport) (store : S)
    (packets answers : List Bytes) (store' : S) : Prop :=
  ∃ message header request returned answer, IsRequest inner.largeSdu packets message ∧
    (readLobRequest inner.capabilities).runOn message = .ok (header, request) ∧
    serve store request = (store', returned) ∧
    request.AnsweredBy inner.capabilities.ttcFieldVersion returned answer ∧ request.reading.EndsWith answer ∧
    (∀ part ∈ answer.parts, ∀ p ∈ part, HasLength inner.largeSdu p) ∧ answers = answer.toWrites packets.length

/-! ## Calls -/

/-- What is shown of what the function has returned; only the creation of a LOB returns a locator. -/
def LobParser.shown (locator : LobLocator) : LobParser → LobReturned → LobResult
  | createTemp oracleType, .locator bytes => .locator (newLocator oracleType bytes)
  | _, .locator bytes => .locator (newLocator .blob bytes)
  | _, .data d => .content (locator.content d)
  | _, .done => .done
  | _, .amount n => .amount n
  | _, .flag b => .flag b

/-- What a call makes of it. -/
def LobCall.shown (returned : LobReturned) (call : LobCall) : LobResult :=
  call.narrow (call.parser.shown call.locator returned)

section Does

variable {S : Type} (serve : LobServer S)

/-- What a call does on the server itself: if it passes its check, the function is called; a failure is some
error. -/
inductive LobServer.Does : S → LobCall → S → Except Error LobResult → Prop
  /-- it does not pass its check -/
  | refused {store : S} {c : LobCall} {e : Error} (hcheck : c.check (.ok ()) = .error e) :
    Does store c store (.error e)
  /-- it succeeds -/
  | served {store store' : S} {c : LobCall} {returned : LobReturned} (hcheck : c.check (.ok ()) = .ok ())
    (hserve : serve store c.message.request = (store', some returned)) :
    Does store c store' (.ok (c.shown returned))
  /-- it fails -/
  | failed {store store' : S} {c : LobCall} (hcheck : c.check (.ok ()) = .ok ())
    (hserve : serve store c.message.request = (store', none)) (e : Error) : Does store c store' (.error e)

/-- The server follows a call on a connection: it answers if there is a request. -/
def LobServer.Follows (inner : Transport) (link : LobLink) (c : LobCall) (store : S) (answers : List Bytes)
    (store' : S) : Prop :=
  match c.check link.channel.ensureReady with
  | .error _ => store' = store
  | .ok () => ∃ packets, c.packets inner (nextSequenceNumber link.sequenceNumber) = .ok packets ∧
      serve.Answers inner store packets answers store'

/-- What a call does on a connection to the server: after some awaits there is a result. -/
def LobServer.DoesRemotely (inner : Transport) (s : LobLink × S) (c : LobCall) (s' : LobLink × S)
    (r : Except Error LobResult) : Prop :=
  ∃ answers awaits, serve.Follows inner s.1 c s.2 answers s'.2 ∧ s.1.step inner c answers awaits = some (s'.1, r)

end Does

/-- A program of calls. -/
abbrev LobProgram := Calls.Program LobCall (Except Error LobResult)

/-! ## Requests -/

/-- The request of a call can be sent: there is room for a payload, and the header has room for the length of a
packet, of which only a write makes several. -/
structure LobCall.Sendable (inner : Transport) (call : LobCall) : Prop where
  /-- there is room -/
  room : 10 < inner.sduSize.toNat
  /-- the length of the locator can be written -/
  locator : call.locator.locator.length < 2 ^ 32
  /-- the length of a single packet can be written -/
  fits : call.message.operation ≠ LobOp.write →
    10 + call.message.size inner.capabilities < lengthBound inner.largeSdu

namespace LobCall

variable {inner : Transport} {call : LobCall}

/-- Only a write is one. -/
lemma operation_ne_write (h : ∀ locator offset data, call ≠ writeLob locator offset data) :
    call.message.operation ≠ LobOp.write := by
  cases call with
  | writeLob locator offset data => exact absurd rfl (h locator offset data)
  | readLobRange => exact (by decide : LobOp.read ≠ LobOp.write)
  | lobLength => exact (by decide : LobOp.getLength ≠ LobOp.write)
  | lobTrim => exact (by decide : LobOp.trim ≠ LobOp.write)
  | lobChunkSize => exact (by decide : LobOp.getChunkSize ≠ LobOp.write)
  | createTempLob => exact (by decide : LobOp.createTemp ≠ LobOp.write)
  | bfileExists => exact (by decide : LobOp.fileExists ≠ LobOp.write)
  | bfileOpen => exact (by decide : LobOp.fileOpen ≠ LobOp.write)
  | bfileClose => exact (by decide : LobOp.fileClose ≠ LobOp.write)
  | bfileIsOpen => exact (by decide : LobOp.fileIsopen ≠ LobOp.write)

/-- Only a write has data. -/
lemma writeData_eq_none (h : ∀ locator offset data, call ≠ writeLob locator offset data) :
    call.message.writeData = none := by
  cases call with
  | writeLob locator offset data => exact absurd rfl (h locator offset data)
  | _ => rfl

lemma wellFormed_message (h : call.locator.locator.length < 2 ^ 32) (sequenceNumber : UInt8) :
    (call.message.setSequenceNumber sequenceNumber).WellFormed where
  data := by
    by_cases hcall : ∃ locator offset data, call = writeLob locator offset data
    · obtain ⟨locator, offset, data, rfl⟩ := hcall
      exact iff_of_true rfl rfl
    · have hne : ∀ locator offset data, call ≠ writeLob locator offset data :=
        fun locator offset data heq => hcall ⟨locator, offset, data, heq⟩
      refine iff_of_false ?_ (operation_ne_write hne)
      show ¬ call.message.writeData.isSome = true
      rw [writeData_eq_none hne]
      exact Bool.false_ne_true
  locator := by
    cases call with
    | createTempLob oracleType => exact (by decide : (List.replicate 40 (0 : UInt8)).length < 2 ^ 32)
    | _ => exact h

/-- A single packet is a request. -/
lemma isRequest_dataPacket {message : Bytes} (h : 10 + message.length < lengthBound inner.largeSdu) :
    IsRequest inner.largeSdu [dataPacket inner.largeSdu dataFlagEndOfRequest message] message where
  declares := List.forall_mem_singleton.mpr (declaresLength_dataPacket _ _ _ h)
  endMarked := ⟨[], _, rfl, packetFlags_dataPacket _ _ _, nofun⟩
  bodies := by rw [List.flatMap_singleton, packetBody_dataPacket]

/-- The length of a message. -/
lemma length_message {caps : Capabilities} {msg : LobOpMessage} {message : Bytes}
    {sequenceNumber : UInt8} (h : (msg.setSequenceNumber sequenceNumber).buildMessageOnly caps = .ok message) :
    message.length = msg.size caps :=
  length_of_freeze h ((msg.setSequenceNumber sequenceNumber).grows_writeMessage caps)

/-- A write is a request, in one packet or in several. -/
lemma exists_packets_writeLob (h : call.Sendable inner) {locator : LobLocator} {offset : UInt64} {data : Bytes}
    (hcall : call = writeLob locator offset data) {sequenceNumber : UInt8} {message : Bytes}
    (hmessage : (call.message.setSequenceNumber sequenceNumber).buildMessageOnly inner.capabilities = .ok message) :
    ∃ packets, call.packets inner sequenceNumber = .ok packets ∧ IsRequest inner.largeSdu packets message := by
  have hlen : message.length = call.message.size inner.capabilities := length_message hmessage
  have hroom := h.room
  have hlt := inner.sduSize.toNat_lt
  have hwide : 2 ^ 16 ≤ lengthBound inner.largeSdu := by cases inner.largeSdu <;> decide
  have hpackets : call.packets inner sequenceNumber =
      if message.length > inner.sduSize.toNat - (packetHeaderSize + 2) then
        .ok (inner.sendMultiPacket message 0 (call.message.size inner.capabilities) {})
      else .ok [dataPacket inner.largeSdu dataFlagEndOfRequest message] := by
    subst hcall
    have hbuild : LobOpMessage.buildRequest _ _ inner.largeSdu = _ := Transport.buildRequest_eq_dataPacket hmessage
    show (do
      let message ← ((writeLob locator offset data).message.setSequenceNumber sequenceNumber).buildMessageOnly
        inner.capabilities
      if message.length > inner.sduSize.toNat - (packetHeaderSize + 2) then
        return inner.sendMultiPacket message 0 _ {}
      else
        return [← ((writeLob locator offset data).message.setSequenceNumber sequenceNumber).buildRequest
          inner.capabilities inner.largeSdu]) = _
    rw [hmessage, hbuild]
    rfl
  by_cases hlong : message.length > inner.sduSize.toNat - (packetHeaderSize + 2)
  · have hne : message ≠ [] := List.ne_nil_of_length_pos (by omega)
    have hsent := Transport.sentFaithfully inner hroom message hne _ hlen.le
    exact ⟨_, by rw [hpackets, if_pos hlong], hsent.declares, hsent.endMarked, hsent.bodies⟩
  · have hfits : 10 + message.length < lengthBound inner.largeSdu := by
      simp only [packetHeaderSize] at hlong
      omega
    exact ⟨_, by rw [hpackets, if_neg hlong], isRequest_dataPacket hfits⟩

/-- **The server reads off the packets of a request what the call asks for.** -/
lemma exists_packets (h : call.Sendable inner) (sequenceNumber : UInt8) : ∃ packets message,
    call.packets inner sequenceNumber = .ok packets ∧ IsRequest inner.largeSdu packets message ∧
      (readLobRequest inner.capabilities).runOn message =
        .ok (⟨messageTypeFunction, FunctionCode.lobOp.code, sequenceNumber⟩, call.message.request) := by
  obtain ⟨message, hmessage, hread⟩ := LobOpMessage.exists_buildMessageOnly inner.capabilities
    (wellFormed_message h.locator sequenceNumber)
  have hlen : message.length = call.message.size inner.capabilities := length_message hmessage
  by_cases hcall : ∃ locator offset data, call = writeLob locator offset data
  · obtain ⟨locator, offset, data, hcall⟩ := hcall
    obtain ⟨packets, hpackets, hrequest⟩ := exists_packets_writeLob h hcall hmessage
    exact ⟨packets, message, hpackets, hrequest, hread⟩
  · have hne : ∀ locator offset data, call ≠ writeLob locator offset data :=
      fun locator offset data heq => hcall ⟨locator, offset, data, heq⟩
    have hpackets : call.packets inner sequenceNumber = (do
        return [← (call.message.setSequenceNumber sequenceNumber).buildRequest inner.capabilities
          inner.largeSdu]) := by
      cases call with
      | writeLob locator offset data => exact absurd rfl (hne locator offset data)
      | _ => rfl
    rw [Transport.buildRequest_eq_dataPacket hmessage] at hpackets
    exact ⟨_, message, hpackets, isRequest_dataPacket (hlen ▸ h.fits (operation_ne_write hne)), hread⟩

/-- The packets of a request are neither none nor empty. -/
lemma ne_nil_of_isRequest {largeSdu : Bool} {packets : List Bytes} {message : Bytes}
    (h : IsRequest largeSdu packets message) : packets ≠ [] ∧ ∀ p ∈ packets, p ≠ [] := by
  refine ⟨?_, ?_⟩
  · obtain ⟨front, last, rfl, -⟩ := h.endMarked
    exact List.append_ne_nil_of_right_ne_nil _ (List.cons_ne_nil _ _)
  · rintro p hp rfl
    obtain ⟨header, c, hread, -⟩ := h.declares [] hp
    cases largeSdu <;> cases hread

end LobCall

/-- The messages other than writes are short. -/
lemma LobCall.size_le {call : LobCall} (h : call.message.operation ≠ LobOp.write) (caps : Capabilities) :
    call.message.size caps ≤ 117 + call.locator.locator.length := by
  have hdata : call.message.writeData = none := by
    refine LobCall.writeData_eq_none fun locator offset data hcall => h ?_
    rw [hcall]
    rfl
  have hbytes : call.message.locatorBytes.length ≤ 40 + call.locator.locator.length := by
    cases call with
    | createTempLob oracleType => exact (by decide : (List.replicate 40 (0 : UInt8)).length ≤ 40 + 0)
    | _ => exact Nat.le_add_left _ _
  have hheader : functionHeaderSize caps ≤ 4 := by
    unfold functionHeaderSize
    split_ifs <;> omega
  have hcounted : ∀ present count, countedSize present count ≤ 10 := by
    intro present count
    have := ubSize_le count.toNat
    unfold countedSize
    split_ifs <;> omega
  have hlocator := hcounted (!call.message.locatorBytes.isEmpty) (UInt32.ofNat call.message.locatorBytes.length)
  have hlength := ubSize_le call.message.destLength.toNat
  have hoperation := ubSize_le call.message.operation.toNat
  have hsource := ubSize_le call.message.sourceOffset.toNat
  have hdest := ubSize_le call.message.destOffset.toNat
  have hamount := ubSize_le call.message.amount.toNat
  rw [LobOpMessage.size, LobOpMessage.fieldsSize, hdata]
  dsimp only
  split_ifs <;> omega

/-! ## Replies -/

section Replies

variable {inner : Transport} {call : LobCall} {r : LobReply}

/-- What the server takes a reply to be like is what the call takes it to be like. -/
lemma LobCall.parser_request {ready : Except Error Unit} (h : call.check ready = .ok ()) :
    call.message.request.parser = call.parser := by
  cases call with
  | createTempLob oracleType =>
    have htype : oracleType = .clob ∨ oracleType = .blob := by
      by_contra hne
      rw [check, if_neg hne] at h
      cases h
    rcases htype with rfl | rfl <;> rfl
  | _ => rfl

lemma LobCall.reading_request (call : LobCall) : call.message.request.reading = call.reading := by
  cases call <;> rfl

/-- Only a reply with a new locator is read without regard to the locator of the request. -/
lemma LobCall.fits_of_request {m : LobMessage} (h : call.parser.Fits call.message.request.locator.length m) :
    call.parser.Fits call.locator.locator.length m := by
  cases call <;> exact h

/-- The messages of a reply lead to what the function has returned. -/
lemma LobParser.result_of_says {parser : LobParser} {locator : LobLocator} {messages : List LobMessage}
    {returned : LobReturned} (h : parser.Says messages returned) :
    parser.result locator messages = .ok (parser.shown locator returned) := by
  cases parser with
  | read =>
    cases returned with
    | data d =>
      obtain rfl : messages.foldl LobMessage.keepData none = d := h
      rfl
    | _ => exact h.elim
  | simple =>
    cases returned with
    | done => rfl
    | _ => exact h.elim
  | amount =>
    cases returned with
    | amount n =>
      obtain rfl : messages.foldl LobMessage.keepAmount 0 = n := h
      rfl
    | _ => exact h.elim
  | bool =>
    cases returned with
    | flag b =>
      obtain rfl : messages.foldl LobMessage.keepFlag false = b := h
      rfl
    | _ => exact h.elim
  | createTemp oracleType =>
    cases returned with
    | locator bytes =>
      have hfound : messages.foldl LobMessage.keepLocator none = some bytes := h
      rw [result, hfound]
      rfl
    | _ => exact h.elim

/-- A clean reply shows what the function has returned. -/
lemma LobCall.parse_of_success {ready : Except Error Unit} (hcheck : call.check ready = .ok ()) {version : UInt8}
    {returned : LobReturned}
    (hfits : ∀ m ∈ r.messages, call.message.request.parser.Fits call.message.request.locator.length m)
    (hclean : ∀ m ∈ r.messages, m.Clean call.message.request.parser.kind version)
    (hsaid : call.message.request.parser.Says r.messages returned) :
    (call.narrow ·) <$> call.parser.parse call.locator (r.payload version) = .ok (call.shown returned) := by
  rw [parser_request hcheck] at hfits hclean hsaid
  rw [call.parser.parse_of_clean (fun m hm => fits_of_request (hfits m hm)) hclean, LobParser.result_of_says hsaid]
  rfl

/-- A reply with an error leaves one. -/
lemma LobCall.exists_parse_of_failure {ready : Except Error Unit} (hcheck : call.check ready = .ok ())
    {version : UInt8} {front rest : List LobMessage} {m : ErrorMessage}
    (hr : r.messages = front ++ .error m :: rest)
    (hfits : ∀ m ∈ front, call.message.request.parser.Fits call.message.request.locator.length m)
    (hclean : ∀ m ∈ front, m.Clean call.message.request.parser.kind version)
    (hm : m.reportedNumber (r.payload version) version ≠ 0) :
    ∃ e, (call.narrow ·) <$> call.parser.parse call.locator (r.payload version) = .error e := by
  rw [parser_request hcheck] at hfits hclean
  obtain ⟨e, he⟩ := call.parser.exists_parse_error hr (fun m hm => fits_of_request (hfits m hm)) hclean hm
  exact ⟨e, by rw [he]; rfl⟩

end Replies

/-! ## Exchanges -/

namespace Exchange

variable {ρ : Type} {e : Exchange ρ} {largeSdu : Bool}

/-- What is read behind a reset is an error, or what is made of a payload behind a reset. -/
lemma done_of_drive_resetting {s : ResetState} {packets left : List Bytes} {r : Except Error ρ}
    (h : drive (e.turn largeSdu) (.resetting s) packets = .returned (.done r) left) :
    (∃ err, r = .error err) ∨ ∃ payload, r = e.parseReset payload := by
  induction packets generalizing s with
  | nil => cases h
  | cons p packets ih =>
    cases hturn : resetTurn s p with
    | inl s' =>
      have hmore : e.turn largeSdu (.resetting s) p = .inl (.resetting s') := by rw [turn, hturn]; rfl
      rw [drive_cons_of_more hmore] at h
      exact ih h
    | inr received =>
      have hdone : e.turn largeSdu (.resetting s) p = e.afterReset largeSdu received := by rw [turn, hturn]; rfl
      cases received with
      | error err =>
        rw [drive_cons_of_done hdone] at h
        cases h
        exact .inl ⟨err, rfl⟩
      | ok received =>
        rw [drive_cons_of_done hdone] at h
        cases h
        exact .inr ⟨_, rfl⟩

/-- The exchange parses a whole answer. -/
lemma converses_whole {packets : List DataPacket}
    (hlen : ∀ part ∈ (Answer.whole packets).parts, ∀ p ∈ part, HasLength largeSdu p)
    (h : e.reading.EndsWith (.whole packets)) :
    Converses (e.poll largeSdu) e.start ((Answer.whole packets).toWrites e.request.length)
      (e.parse (assembled packets)) :=
  converses_sending e.request_ne_nil (reads_packets (hlen _ (List.mem_singleton.mpr rfl)) (e.drive_whole largeSdu h))
    (.ready rfl)

/-- What comes of an answer that is broken off is an error, or what is made of a payload behind a reset. -/
lemma exists_converses_broken {before : List DataPacket} {marker : MarkerPacket} {markers : List MarkerPacket}
    {packets : List DataPacket}
    (hlen : ∀ part ∈ (Answer.broken before marker markers packets).parts, ∀ p ∈ part, HasLength largeSdu p)
    (h : e.reading.EndsWith (.broken before marker markers packets)) : ∃ r, 
    Converses (e.poll largeSdu) e.start ((Answer.broken before marker markers packets).toWrites e.request.length) r ∧
      ((∃ err, r = .error err) ∨ ∃ payload, r = e.parseReset payload) := by
  obtain ⟨hfirst, hlast⟩ := List.forall_mem_cons.mp hlen
  obtain ⟨r, hdrive⟩ := e.exists_drive_reset largeSdu h
  have hreads := reads_packets hfirst (e.drive_broken largeSdu h)
  have hreset := reads_packets (hlast _ (List.mem_singleton.mpr rfl)) hdrive
  exact ⟨r, converses_sending e.request_ne_nil hreads (.write rfl hreset (.ready rfl)),
    done_of_drive_resetting hdrive⟩

end Exchange

/-! ## Calls -/

namespace LobLink

/-- Nothing is on the wire, and the connection can be used. -/
structure AtRest (link : LobLink) : Prop where
  /-- nothing is on the wire -/
  wire : link.channel.wire = []
  /-- the connection can be used -/
  ready : link.channel.ensureReady = .ok ()

/-- The connection behind an exchange. -/
def next (link : LobLink) : LobLink :=
  ⟨{ link.channel with exchanges := link.channel.exchanges + 1 }, nextSequenceNumber link.sequenceNumber⟩

variable {inner : Transport} {link link' : LobLink} {call : LobCall} {packets answers : List Bytes} {awaits : ℕ}
  {r r' : Except Error LobResult}

lemma AtRest.next (h : link.AtRest) : link.next.AtRest := ⟨h.wire, h.ready⟩

/-- A call that does not pass its check sends nothing. -/
lemma step_of_error {e : Error} (hready : link.channel.ensureReady = .ok ()) (h : call.check (.ok ()) = .error e)
    (answers : List Bytes) (awaits : ℕ) : link.step inner call answers awaits = some (link, .error e) := by
  rw [step, hready, h]

/-- A call whose request is sent is its exchange. -/
lemma step_of_packets (hrest : link.AtRest) (hcheck : call.check (.ok ()) = .ok ())
    (hpackets : call.packets inner (nextSequenceNumber link.sequenceNumber) = .ok packets)
    (hne : packets ≠ [] ∧ ∀ p ∈ packets, p ≠ []) (answers : List Bytes) (awaits : ℕ) :
    link.step inner call answers awaits =
      ((Future.Config.mk (call.exchange packets hne.1 hne.2).start [] answers []).run
        ((call.exchange packets hne.1 hne.2).poll inner.largeSdu) link.channel.exchanges awaits).bind fun c =>
      (((call.exchange packets hne.1 hne.2).poll inner.largeSdu c.state).result.map fun r =>
        (⟨{ link.next.channel with wire := c.wire }, link.next.sequenceNumber⟩, r)) := by
  rw [step, hrest.ready, hcheck]
  simp only [hpackets, dif_pos hne, Channel.exchanged, Channel.result, hrest.ready, Channel.awaited, hrest.wire]
  cases (Future.Config.mk (call.exchange packets hne.1 hne.2).start [] answers []).run
      ((call.exchange packets hne.1 hne.2).poll inner.largeSdu) link.channel.exchanges awaits with
  | none => rfl
  | some c =>
    show (Option.bind _ _ : Option _) = Option.map _ _
    cases hresult : ((call.exchange packets hne.1 hne.2).poll inner.largeSdu c.state).result with
    | none => simp [hresult]
    | some r => simp [hresult, next]

/-- A call whose exchange reads the answers comes to the result of the exchange, and to no other. -/
lemma step_of_converses (hrest : link.AtRest) (hcheck : call.check (.ok ()) = .ok ())
    (hpackets : call.packets inner (nextSequenceNumber link.sequenceNumber) = .ok packets)
    (hne : packets ≠ [] ∧ ∀ p ∈ packets, p ≠ [])
    (h : Converses ((call.exchange packets hne.1 hne.2).poll inner.largeSdu)
      (call.exchange packets hne.1 hne.2).start answers r) :
    (∃ awaits, link.step inner call answers awaits = some (link.next, r)) ∧
      ∀ awaits link' r', link.step inner call answers awaits = some (link', r') → link' = link.next ∧ r' = r := by
  have hsame : (⟨{ link.next.channel with wire := [] }, link.next.sequenceNumber⟩ : LobLink) = link.next := by
    obtain ⟨⟨closed, state, exchanges, wire⟩, sequenceNumber⟩ := link
    obtain rfl : wire = [] := hrest.wire
    rfl
  constructor
  · obtain ⟨awaits, t, hrun, hready⟩ := h.exists_run link.channel.exchanges []
    refine ⟨awaits, ?_⟩
    rw [step_of_packets hrest hcheck hpackets hne, hrun, Option.bind_some, hready]
    exact congrArg (fun l => some (l, r)) hsame
  · intro awaits link' r' hstep
    rw [step_of_packets hrest hcheck hpackets hne] at hstep
    obtain ⟨c, hrun, hlast⟩ := Option.bind_eq_some_iff.mp hstep
    obtain ⟨x, hx, hpair⟩ := Option.map_eq_some_iff.mp hlast
    have hready : (call.exchange packets hne.1 hne.2).poll inner.largeSdu c.state = .ready x := by
      cases hpoll : (call.exchange packets hne.1 hne.2).poll inner.largeSdu c.state with
      | ready y =>
        rw [hpoll] at hx
        cases hx
        rfl
      | writeAll items next =>
        rw [hpoll] at hx
        cases hx
      | readExact n next =>
        rw [hpoll] at hx
        cases hx
    obtain ⟨rfl, hwire, -⟩ := h.of_run hrun hready
    cases hpair
    rw [hwire]
    exact ⟨hsame, rfl⟩

end LobLink

/-! ## Programs on a connection -/

/-- If the call passes its check, it can be sent. -/
def LobCall.SendableIfSent (inner : Transport) (c : LobCall) : Prop := c.check (.ok ()) = .ok () → c.Sendable inner

/-- All calls can be sent if there is room for a payload and the locator is not long. -/
lemma LobCall.sendableIfSent {inner : Transport} (hroom : 10 < inner.sduSize.toNat) {call : LobCall}
    (hlocator : call.locator.locator.length < 65000) : call.SendableIfSent inner := fun _ => {
  room := hroom
  locator := by omega
  fits := fun h => by
    have hsize := LobCall.size_le h inner.capabilities
    have hwide : 2 ^ 16 ≤ lengthBound inner.largeSdu := by cases inner.largeSdu <;> decide
    omega }

/-- The server has an answer to what can be asked. -/
def LobServer.CanAnswer {S : Type} (serve : LobServer S) (inner : Transport) : Prop :=
  ∀ (store : S) (c : LobCall), c.check (.ok ()) = .ok () → ∃ answer : Answer,
    c.message.request.AnsweredBy inner.capabilities.ttcFieldVersion (serve store c.message.request).2 answer ∧
      c.message.request.reading.EndsWith answer ∧
      ∀ part ∈ answer.parts, ∀ p ∈ part, HasLength inner.largeSdu p

section Runs

variable {S α : Type} {serve : LobServer S} {inner : Transport} {link link' : LobLink} {store store' : S}
  {call : LobCall} {packets answers : List Bytes} {r : Except Error LobResult}

/-- What comes of a call is what the function has returned. -/
lemma LobCall.exists_converses_of_answers (hsend : call.Sendable inner) (hcheck : call.check (.ok ()) = .ok ())
    {sequenceNumber : UInt8} (hpackets : call.packets inner sequenceNumber = .ok packets)
    (hne : packets ≠ [] ∧ ∀ p ∈ packets, p ≠ []) (h : serve.Answers inner store packets answers store') :
    ∃ r, Converses ((call.exchange packets hne.1 hne.2).poll inner.largeSdu)
        (call.exchange packets hne.1 hne.2).start answers r ∧ serve.Does store call store' r := by
  -- the server has read the request
  obtain ⟨message, header, request, returned, answer, hrequest, hread, hserve, hanswered, hends, hlen, rfl⟩ := h
  obtain ⟨packets', message', hpackets', hrequest', hread'⟩ := LobCall.exists_packets hsend sequenceNumber
  rw [hpackets] at hpackets'
  cases hpackets'
  obtain rfl : message = message' := hrequest.bodies.symm.trans hrequest'.bodies
  rw [hread] at hread'
  cases hread'
  have hreading : (call.exchange packets hne.1 hne.2).reading.EndsWith answer := by
    rw [call.reading_request] at hends
    exact hends
  -- and the call reads the answer
  cases hanswered with
  | @success returned packets' reply hpayload hfits hclean hsaid =>
    have hparse : (call.exchange packets hne.1 hne.2).parse (assembled packets') = .ok (call.shown returned) := by
      rw [hpayload]
      exact LobCall.parse_of_success hcheck hfits hclean hsaid
    exact ⟨_, Exchange.converses_whole hlen hreading, hparse ▸ .served hcheck hserve⟩
  | @failure packets' reply front rest m hpayload hr hfits hclean hm =>
    obtain ⟨e, he⟩ := LobCall.exists_parse_of_failure hcheck hr hfits hclean hm
    have hparse : (call.exchange packets hne.1 hne.2).parse (assembled packets') = .error e := by
      rw [hpayload]
      exact he
    exact ⟨_, Exchange.converses_whole hlen hreading, hparse ▸ .failed hcheck hserve e⟩
  | broken before marker markers packets' =>
    obtain ⟨r, hconverses, hr⟩ := Exchange.exists_converses_broken hlen hreading
    have herror : ∃ e, r = .error e := by
      rcases hr with hr | ⟨payload, rfl⟩
      · exact hr
      · exact exists_parseLobError_error LobResult payload
    obtain ⟨e, rfl⟩ := herror
    exact ⟨_, hconverses, .failed hcheck hserve e⟩

/-- A call on a connection at rest does what it does on the server. -/
lemma LobServer.does_of_doesRemotely (hsend : call.SendableIfSent inner) (hrest : link.AtRest)
    (h : serve.DoesRemotely inner (link, store) call (link', store') r) :
    serve.Does store call store' r ∧ link'.AtRest := by
  obtain ⟨answers, awaits, hfollows, hstep⟩ := h
  rw [Follows, hrest.ready] at hfollows
  cases hcheck : call.check (.ok ()) with
  | error e =>
    rw [hcheck] at hfollows
    obtain rfl : store' = store := hfollows
    rw [LobLink.step_of_error hrest.ready hcheck] at hstep
    cases hstep
    exact ⟨.refused hcheck, hrest⟩
  | ok u =>
    rw [hcheck] at hfollows
    obtain ⟨packets, hpackets, hanswers⟩ := hfollows
    have hne : packets ≠ [] ∧ ∀ p ∈ packets, p ≠ [] := by
      obtain ⟨message, -, -, -, -, hrequest, -⟩ := hanswers
      exact LobCall.ne_nil_of_isRequest hrequest
    obtain ⟨r', hconverses, hdoes⟩ :=
      LobCall.exists_converses_of_answers (hsend hcheck) hcheck hpackets hne hanswers
    obtain ⟨rfl, rfl⟩ := (LobLink.step_of_converses hrest hcheck hpackets hne hconverses).2 _ _ _ hstep
    exact ⟨hdoes, hrest.next⟩

/-- A call on a connection at rest comes to its end. -/
lemma LobServer.exists_doesRemotely (hserve : serve.CanAnswer inner) (hsend : call.SendableIfSent inner)
    (hrest : link.AtRest) (store : S) : ∃ link' store' r,
      serve.DoesRemotely inner (link, store) call (link', store') r ∧ link'.AtRest := by
  cases hcheck : call.check (.ok ()) with
  | error e =>
    have hfollows : serve.Follows inner link call store [] store := by
      rw [Follows, hrest.ready, hcheck]
    exact ⟨link, store, _, ⟨[], 0, hfollows, LobLink.step_of_error hrest.ready hcheck [] 0⟩, hrest⟩
  | ok u =>
    obtain ⟨packets, message, hpackets, hrequest, hread⟩ :=
      LobCall.exists_packets (hsend hcheck) (nextSequenceNumber link.sequenceNumber)
    obtain ⟨answer, hanswered, hends, hlen⟩ := hserve store call hcheck
    have hanswers : serve.Answers inner store packets (answer.toWrites packets.length)
        (serve store call.message.request).1 :=
      ⟨message, _, _, _, answer, hrequest, hread, rfl, hanswered, hends, hlen, rfl⟩
    have hne := LobCall.ne_nil_of_isRequest hrequest
    obtain ⟨r, hconverses, -⟩ :=
      LobCall.exists_converses_of_answers (hsend hcheck) hcheck hpackets hne hanswers
    obtain ⟨awaits, hstep⟩ := (LobLink.step_of_converses hrest hcheck hpackets hne hconverses).1
    have hfollows : serve.Follows inner link call store (answer.toWrites packets.length)
        (serve store call.message.request).1 := by
      rw [Follows, hrest.ready, hcheck]
      exact ⟨packets, hpackets, hanswers⟩
    exact ⟨_, _, r, ⟨_, awaits, hfollows, hstep⟩, hrest.next⟩

/-- A run of a program on a connection is a run on the server itself. -/
lemma LobProgram.runs_of_remote {program : LobProgram α} {a : α} (hsend : program.All (·.SendableIfSent inner))
    (hrest : link.AtRest) (h : Calls.Runs (serve.DoesRemotely inner) (link, store) program (link', store') a) :
    Calls.Runs serve.Does store program store' a ∧ link'.AtRest := by
  have hstep : ∀ {s s' : LobLink × S} {t : S} {c : LobCall} {r : Except Error LobResult},
      c.SendableIfSent inner → s.2 = t ∧ s.1.AtRest → serve.DoesRemotely inner s c s' r →
        ∃ t', serve.Does t c t' r ∧ s'.2 = t' ∧ s'.1.AtRest := by
    intro s s' t c r hc hR hdoes
    obtain ⟨rfl, hrest⟩ := hR
    obtain ⟨hdoes', hrest'⟩ := LobServer.does_of_doesRemotely hc hrest hdoes
    exact ⟨_, hdoes', rfl, hrest'⟩
  obtain ⟨t, hruns, rfl, hrest'⟩ :=
    h.simulates (R := fun (s : LobLink × S) t => s.2 = t ∧ s.1.AtRest) hstep hsend ⟨rfl, hrest⟩
  exact ⟨hruns, hrest'⟩

/-- Every program comes to its end on a connection at rest. -/
lemma LobProgram.exists_remote {program : LobProgram α} (hsend : program.All (·.SendableIfSent inner))
    (hserve : serve.CanAnswer inner) (hrest : link.AtRest) (store : S) :
    ∃ link' store' a, Calls.Runs (serve.DoesRemotely inner) (link, store) program (link', store') a ∧
      link'.AtRest := by
  have hstep : ∀ {s : LobLink × S} {c : LobCall}, c.SendableIfSent inner → s.1.AtRest →
      ∃ s' r, serve.DoesRemotely inner s c s' r ∧ s'.1.AtRest := by
    intro s c hc hs
    obtain ⟨link', store', r, hdoes, hrest'⟩ := LobServer.exists_doesRemotely hserve hc hs s.2
    exact ⟨(link', store'), r, hdoes, hrest'⟩
  obtain ⟨⟨link', store'⟩, a, hruns, hrest'⟩ := 
    Calls.exists_runs (I := fun (s : LobLink × S) => s.1.AtRest) hsend hstep (s := (link, store)) hrest
  exact ⟨link', store', a, hruns, hrest'⟩

end Runs

/-! ## Servers that answer in one packet -/

namespace LobRequest

variable {request : LobRequest} {version : UInt8}

lemma interrupted_nil : Interrupted [] := by
  refine ⟨fun p hp => absurd hp List.not_mem_nil, fun ps hps hcomplete => ?_⟩
  rw [List.prefix_nil.mp hps] at hcomplete
  exact not_looksComplete_nil hcomplete

/-- A packet that is marked as the last one. -/
lemma endsAtLast_ofBody (body : Bytes) : EndsAtLast [.ofBody dataFlagEndOfResponse body] :=
  ⟨[], _, rfl, interrupted_nil, .inl (.inl (by decide : dataFlagEndOfResponse &&& dataFlagEndOfResponse ≠ 0))⟩

lemma hasLength_ofBody {flags : UInt16} {body : Bytes} (h : body.length < 65000) :
    HasLength false (DataPacket.ofBody flags body).toBytes := by
  have hlen : (DataPacket.ofBody flags body).toBytes.length = packetHeaderSize + 2 + body.length := by
    rw [DataPacket.toBytes, List.length_append, DataPacket.length_payload, DataPacket.header_length]
    show packetHeaderSize + (body.length + 2) = _
    omega
  refine ⟨by omega, ?_⟩
  rw [hlen]
  have hsmall : packetHeaderSize + 2 + body.length < 2 ^ 16 := by
    have : packetHeaderSize = 8 := rfl
    omega
  exact BigEndian.eval_digits 2 _ hsmall

/-- Messages that say in one packet what is returned. -/
structure Reports (request : LobRequest) (version : UInt8) (messages : List LobMessage) (returned : LobReturned) :
    Prop where
  /-- they are messages of the operation -/
  fits : ∀ m ∈ messages, request.parser.Fits request.locator.length m
  /-- nothing of them is taken for another message -/
  clean : ∀ m ∈ messages, m.Clean request.parser.kind version
  /-- they say what is returned -/
  said : request.parser.Says messages returned
  /-- they are short -/
  short : (messages.flatMap (LobMessage.encode version)).length < 65000

/-- There is an answer in one packet. -/
lemma Reports.exists_answer {returned : LobReturned} {messages : List LobMessage}
    (h : request.Reports version messages returned) :
    ∃ answer, request.AnsweredBy version (some returned) answer ∧ request.reading.EndsWith answer ∧
      ∀ part ∈ answer.parts, ∀ p ∈ part, HasLength false p := by
  have hends := endsAtLast_ofBody (messages.flatMap (LobMessage.encode version))
  refine ⟨.whole [.ofBody dataFlagEndOfResponse (messages.flatMap (LobMessage.encode version))], ?_, ?_, ?_⟩
  · refine .success (r := ⟨0x20, 0, messages, false⟩) ?_ h.fits h.clean h.said
    have hflags : BigEndian.digits 2 dataFlagEndOfResponse.toNat = [0x20, 0] := by decide
    show (BigEndian.digits 2 dataFlagEndOfResponse.toNat ++ messages.flatMap (LobMessage.encode version)) ++ [] = _
    rw [hflags, List.append_assoc]
    rfl
  · unfold reading
    split_ifs
    · exact hends
    · exact rfl
  · exact List.forall_mem_singleton.mpr (List.forall_mem_singleton.mpr (hasLength_ofBody h.short))

lemma reports_done (h : request.parser = .simple) : request.Reports version [] .done where
  fits := nofun
  clean := nofun
  said := by
    rw [h]
    trivial
  short := (by decide : (0 : ℕ) < 65000)

lemma reports_flag (h : request.parser = .bool) (hlen : request.locator.length < 60000) (b : Bool) :
    request.Reports version [.parameter request.locator (.flag (if b then 1 else 0))] (.flag b) where
  fits := by
    rw [h]
    exact List.forall_mem_singleton.mpr ⟨rfl, trivial⟩
  clean := by
    rw [h]
    exact List.forall_mem_singleton.mpr ⟨nofun, nofun⟩
  said := by
    rw [h]
    cases b <;> rfl
  short := by
    rw [List.flatMap_singleton]
    simp only [LobMessage.encode, LobReturn.encode, List.length_cons, List.length_append, List.length_nil]
    omega

lemma reports_data (h : request.parser = .read) {data : Bytes} (hlen : data.length ≤ 252) :
    request.Reports version [.lobData (.short data hlen)] (.data (some data)) where
  fits := by
    rw [h]
    exact List.forall_mem_singleton.mpr trivial
  clean := by
    rw [h]
    exact List.forall_mem_singleton.mpr ⟨nofun, nofun⟩
  said := by
    rw [h]
    rfl
  short := by
    rw [List.flatMap_singleton]
    simp only [LobMessage.encode, ByteString.encode, List.length_cons]
    omega

/-- A locator of a new LOB. -/
lemma reports_locator {oracleType : OracleType} (h : request.parser = .createTemp oracleType) {bytes : Bytes}
    (hlen : bytes.length = 40) :
    request.Reports version [.parameter (bytes ++ ((Ub.zero : Ub 2).encode ++ [0])) .nothing] (.locator bytes) where
  fits := by
    rw [h]
    exact List.forall_mem_singleton.mpr ⟨rfl, bytes, Ub.zero, 0, hlen, rfl⟩
  clean := by
    rw [h]
    exact List.forall_mem_singleton.mpr ⟨nofun, nofun⟩
  said := by
    rw [h]
    exact congrArg some (List.take_left' hlen)
  short := by
    rw [List.flatMap_singleton]
    simp only [LobMessage.encode, LobReturn.encode, List.length_cons, List.length_append, List.length_nil, hlen]
    decide

/-- There is an answer to a request that fails. -/
lemma exists_answer_none (request : LobRequest) (version : UInt8) :
    ∃ answer, request.AnsweredBy version none answer ∧ request.reading.EndsWith answer ∧
      ∀ part ∈ answer.parts, ∀ p ∈ part, HasLength false p := by
  have hends := endsAtLast_ofBody []
  refine ⟨.broken [] (.ofType markerTypeReset) [] [.ofBody dataFlagEndOfResponse []], .broken _ _ _ _, ?_, ?_⟩
  · unfold reading
    split_ifs
    · exact ⟨interrupted_nil, hends⟩
    · exact ⟨rfl, hends⟩
  · have hmarker : HasLength false (MarkerPacket.ofType markerTypeReset).toBytes := ⟨by decide, by decide⟩
    refine List.forall_mem_cons.mpr ⟨List.forall_mem_singleton.mpr hmarker, List.forall_mem_singleton.mpr ?_⟩
    exact List.forall_mem_singleton.mpr (hasLength_ofBody (by decide))

end LobRequest

/-- A server has an answer to everything if it can say in one packet what it returns. -/
lemma LobServer.canAnswer_of_reports {S : Type} {serve : LobServer S} {inner : Transport}
    (hsdu : inner.largeSdu = false)
    (h : ∀ (store : S) (request : LobRequest) (returned : LobReturned), (serve store request).2 = some returned →
      ∃ messages, request.Reports inner.capabilities.ttcFieldVersion messages returned) : serve.CanAnswer inner := by
  intro store c _
  rw [hsdu]
  cases hreturned : (serve store c.message.request).2 with
  | none => exact LobRequest.exists_answer_none c.message.request _
  | some returned =>
    obtain ⟨messages, hreports⟩ := h store c.message.request returned hreturned
    exact hreports.exists_answer

/-- A connection behind the handshake. -/
def LobLink.fresh : LobLink := ⟨.fresh, 0⟩

lemma LobLink.atRest_fresh : LobLink.fresh.AtRest := ⟨rfl, rfl⟩

/-- A server that numbers its temporary LOBs, and has no others. -/
def temporaryLobs : LobServer ℕ := fun n request =>
  if request.operation = LobOp.createTemp then (n + 1, some (.locator (List.replicate 40 (UInt8.ofNat n))))
  else (n, none)

lemma canAnswer_temporaryLobs {inner : Transport} (hsdu : inner.largeSdu = false) :
    temporaryLobs.CanAnswer inner := by
  refine LobServer.canAnswer_of_reports hsdu fun n request returned hreturned => ?_
  rw [temporaryLobs] at hreturned
  split_ifs at hreturned with hcreate
  cases hreturned
  have hparser : request.parser = .createTemp ((OracleType.tryFrom request.destOffset.toUInt8).getD .blob) := by
    rw [LobRequest.parser, hcreate]
    rfl
  exact ⟨_, LobRequest.reports_locator hparser List.length_replicate⟩

end OracleRs
