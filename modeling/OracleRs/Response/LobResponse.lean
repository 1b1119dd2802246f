import OracleRs.Response.ErrorDecoders
import OracleRs.Response.RowStream
import OracleRs.Utf16

set_option relaxedAutoImplicit false
set_option autoImplicit false

/-!
# Responses to LOB operations

The four parsers of `connection.rs` for the responses to LOB operations. Each of them is a loop over
messages that handles LOB data, a returned parameter, errors and the end of the response, and takes
any other byte for a message type that it skips. What it leaves unread of a message is therefore read
as further message types: the amount behind a locator, and the two fields that modern servers put
behind the number of an Error message.

## Main definitions

* `OracleRs.parseLobReadResponse`, `OracleRs.parseLobSimpleResponse`,
  `OracleRs.parseLobAmountResponse`, `OracleRs.parseLobBoolResponse` — the parsers.
* `OracleRs.LobMessage`, `OracleRs.LobResponse` — the messages and the responses of a server.
* `OracleRs.LobMessage.unread` — what a parser leaves unread of a message.
* `OracleRs.LobStop` — where a parser stops, or loses its place.

## Main results

* `OracleRs.LobResponse.failed_iff` — a parser that does not lose its place fails if and only if it
  stops at an error.
* `OracleRs.LobResponse.errorsReported_iff` — when it does so if and only if there is an error.
-/

namespace OracleRs

open Cursor

/-! ## The parsers -/

/-- `if let Ok(…) = …`: a failure is dropped, and the buffer is left where it failed. -/
def attempt {α : Type} (m : ReadM α) : ReadM (Option α) := fun buf =>
  match m buf with
  | .ok a buf' => .ok (some a) buf'
  | .error _ buf' => .ok none buf'

section Parsers

variable {σ α : Type}

/-- The Error arm of the parsers. -/
def lobError (s : σ) : ReadM (σ ⊕ α) := do
  match ← attempt parseErrorInfo with
  | some (code, msg, _) =>
    if code ≠ 0 then
      throw (.oracleError code (msg.getD "LOB error"))
    else
      return .inl s
  | none => return .inl s

/-- The arms of the parsers. -/
def lobMessage (lobData parameter : σ → ReadM σ) (result : σ → α) (s : σ) :
    Option MessageType → ReadM (σ ⊕ α)
  | some .lobData => do return .inl (← lobData s)
  | some .parameter => do return .inl (← parameter s)
  | some .error => lobError s
  | some .endOfResponse => return .inr (result s)
  | _ => return .inl s

/-- One turn of the loops. -/
def lobTurn (lobData parameter : σ → ReadM σ) (result : σ → α) : σ → ReadM (σ ⊕ α) :=
  messageTurn (fun _ => false) result (lobMessage lobData parameter result)

/-- The loops, behind the data flags. -/
def parseLob (lobData parameter : σ → ReadM σ) (result : σ → α) (start : σ) (payload : Bytes) :
    Except Error α :=
  ReadM.runOn (do skip 2; iterate .stuck (lobTurn lobData parameter result) start) payload

end Parsers

/-- The content of a LOB (`LobData`). -/
inductive LobData where
  /-- the text of a CLOB -/
  | string (text : String)
  /-- the bytes of a BLOB or a BFILE -/
  | bytes (bytes : Bytes)
deriving DecidableEq, Repr

/-- The content that `parse_lob_read_response` makes of the data it has read. -/
def LobLocator.content (locator : LobLocator) (data : Option Bytes) : LobData :=
  if locator.oracleType = .blob ∨ locator.oracleType = .bfile then .bytes (data.getD [])
  else
    .string (match data with
      | none => ""
      | some data =>
        if locator.usesVarLengthCharset then String.ofList (fromUtf16Lossy (utf16Units data))
        else fromUtf8Lossy data)

section Members

variable (locator : LobLocator) (payload : Bytes)

/-- `parse_lob_read_response`. -/
def parseLobReadResponse : Except Error LobData :=
  parseLob (fun _ => some <$> readRawBytesChunked)
    (fun lobData => do
      skip locator.locator.length
      let _returnedAmount ← readUb8
      return lobData)
    locator.content none payload

/-- `parse_lob_simple_response`. -/
def parseLobSimpleResponse : Except Error Unit :=
  parseLob pure (fun _ => skip locator.locator.length) id () payload

/-- `parse_lob_amount_response`. -/
def parseLobAmountResponse : Except Error UInt64 :=
  parseLob pure
    (fun _ => do
      skip locator.locator.length
      readUb8)
    id 0 payload

/-- `parse_lob_bool_response`. -/
def parseLobBoolResponse : Except Error Bool :=
  parseLob pure
    (fun _ => do
      skip locator.locator.length
      let flag ← readU8
      return decide (flag > 0))
    id false payload

end Members

/-! ## Error messages as the parsers read them -/

namespace ErrorMessage

/-- The bytes that `parse_error_info` reads: it takes the first of the modern fields for the text of
an error. -/
def encodeRead (ttcFieldVersion : UInt8) (m : ErrorMessage) : Bytes :=
  m.encodeFront ++
    if m.number.value = 0 then [] else
    if ttcFieldVersion ≥ fieldVersion21_1 then m.sqlType.encode else m.encodeText

/-- The bytes that `parse_error_info` leaves unread. -/
def unread (ttcFieldVersion : UInt8) (m : ErrorMessage) : Bytes :=
  if ttcFieldVersion ≥ fieldVersion21_1 then
    if m.number.value = 0 then m.sqlType.encode ++ m.serverChecksum.encode
    else m.serverChecksum.encode ++ m.encodeText
  else []

/-- The text that `parse_error_info` reads; there is none if it is no text. -/
def textRead? (ttcFieldVersion : UInt8) (m : ErrorMessage) : Option (Option String) :=
  if m.number.value = 0 then some none
  else if ttcFieldVersion ≥ fieldVersion21_1 then (fromUtf8 m.sqlType.digits).map some
  else some m.text?

/-- The number under which the parsers report an Error message; it is zero if they do not. -/
def reportedNumber (packet : Bytes) (ttcFieldVersion : UInt8) (m : ErrorMessage) : UInt32 :=
  match m.textRead? ttcFieldVersion with
  | some text => (overrideErrorText packet m.code (text.map trim)).1
  | none => 0

lemma encode_eq_append (version : UInt8) (m : ErrorMessage) :
    m.encode version = m.encodeRead version ++ m.unread version := by
  rw [encode, encodeRead, unread, encodeFront, encodeMiddle, encodeModern]
  split_ifs <;> simp_all

/-- The bytes of a short integer are read as a byte string with a length prefix. -/
lemma reads_readBytesWithLength_ub (u : Ub 4) :
    Reads readBytesWithLength u.encode (some u.digits) := by
  have hshort : u.digits.length ≤ 252 := u.le.trans (by norm_num)
  exact (ByteString.short u.digits hshort).reads_readBytesWithLength

/-- The text of an error, or the first of the modern fields in its place. -/
lemma reads_readErrorText_of_textRead {m : ErrorMessage} {version : UInt8} {text : Option String}
    (h : m.textRead? version = some text) :
    Reads (readErrorText m.code)
      (if m.number.value = 0 then [] else
        if version ≥ fieldVersion21_1 then m.sqlType.encode else m.encodeText) text := by
  have hcode := m.code_ne_zero_iff
  rw [textRead?] at h
  rw [readErrorText]
  by_cases hnum : m.number.value = 0
  · rw [if_pos hnum] at h ⊢
    rw [if_neg (by simpa [hnum] using hcode)]
    cases h
    exact Reads.pure none
  · rw [if_neg hnum] at h ⊢
    rw [if_pos (hcode.mpr hnum)]
    by_cases hv : version ≥ fieldVersion21_1
    · rw [if_pos hv] at h ⊢
      obtain ⟨s, hs, rfl⟩ := Option.map_eq_some_iff.mp h
      refine (reads_readBytesWithLength_ub m.sqlType).bind_nil ?_
      simp only [hs]
      exact Reads.pure _
    · rw [if_neg hv] at h ⊢
      cases h
      rw [text?, if_pos hnum]
      exact m.reads_text

/-- The first of the modern fields is no text. -/
lemma throws_readErrorText {m : ErrorMessage} {version : UInt8} (h : m.textRead? version = none) :
    Throws (readErrorText m.code)
      (if m.number.value = 0 then [] else
        if version ≥ fieldVersion21_1 then m.sqlType.encode else m.encodeText)
      (.dataConversionError "invalid utf-8 sequence") := by
  have hcode := m.code_ne_zero_iff
  rw [textRead?] at h
  split_ifs at h with hnum hv
  rw [readErrorText, if_neg hnum, if_pos hv, if_pos (hcode.mpr hnum), ← List.append_nil m.sqlType.encode]
  refine (reads_readBytesWithLength_ub m.sqlType).bind_throws ?_
  simp only [Option.map_eq_none_iff.mp h]
  exact Throws.throw _

/-- What `parse_error_info` comes to when the text is one. -/
lemma reads_readErrorInfo_of_textRead {m : ErrorMessage} {version : UInt8} {text : Option String}
    (h : m.textRead? version = some text) (packet : Bytes) :
    ∃ info, Reads (readErrorInfo packet true false) (m.encodeRead version) info ∧
      (info.code, info.message) = overrideErrorText packet m.code (text.map trim) := by
  have hcodes := m.batchCodes.reads_readBatchCodes
  have hoffsets := m.batchOffsets.reads_readBatchOffsets
  have hmessages := m.batchMessages.reads_readBatchMessages
  obtain ⟨code, message, hover⟩ : ∃ code message,
      overrideErrorText packet m.code (text.map trim) = (code, message) := ⟨_, _, rfl⟩
  refine ⟨⟨code, message, m.cursor, UInt64.ofNat m.rowCount.value,
    zipBatchErrors code message m.batchCodes.numbers m.batchOffsets.offsets m.batchMessages.texts⟩,
    ?_, hover.symm⟩
  rw [encodeRead, encodeFront, encodeMiddle]
  simp only [List.append_assoc]
  refine m.head.reads_readErrorHead.bind ?_
  refine hcodes.bind ?_
  refine hoffsets.bind ?_
  refine hmessages.bind ?_
  refine m.number.reads_readUb4.bind ?_
  refine m.rowCount.reads_readUb8.bind ?_
  refine (Reads.pure ()).bind ?_
  refine (reads_readErrorText_of_textRead h).bind_nil ?_
  rw [ErrorMessage.code] at hover
  simp only [hover]
  exact Reads.pure _

/-- What `parse_error_info` comes to when the text is none. -/
lemma throws_readErrorInfo {m : ErrorMessage} {version : UInt8} (h : m.textRead? version = none)
    (packet : Bytes) :
    Throws (readErrorInfo packet true false) (m.encodeRead version)
      (.dataConversionError "invalid utf-8 sequence") := by
  have hcodes := m.batchCodes.reads_readBatchCodes
  have hoffsets := m.batchOffsets.reads_readBatchOffsets
  have hmessages := m.batchMessages.reads_readBatchMessages
  rw [encodeRead, encodeFront, encodeMiddle]
  simp only [List.append_assoc]
  refine m.head.reads_readErrorHead.bind_throws ?_
  refine hcodes.bind_throws ?_
  refine hoffsets.bind_throws ?_
  refine hmessages.bind_throws ?_
  refine m.number.reads_readUb4.bind_throws ?_
  refine m.rowCount.reads_readUb8.bind_throws ?_
  refine (Reads.pure ()).bind_throws ?_
  exact (throws_readErrorText h).bind

end ErrorMessage

section ErrorArm

variable {σ α : Type} {m : ErrorMessage} {version : UInt8} {c : ReadBuffer} {r : Bytes}

lemma parseErrorInfo_eq (c : ReadBuffer) :
    parseErrorInfo c = (do
      let info ← readErrorInfo c.data true false
      return (info.code, info.message, info.cursorId)) c := by
  have hget : (get : ReadM ReadBuffer) c = .ok c c := rfl
  rw [parseErrorInfo, parseErrorInfoDetailed, bind_assoc, bind_ok hget]

/-- An Error message whose text is none is dropped. -/
lemma attempt_of_throws (hc : c.rest = m.encode version ++ r) (h : m.textRead? version = none) :
    attempt parseErrorInfo c = .ok none (c.advance (m.encodeRead version).length) := by
  rw [m.encode_eq_append, List.append_assoc] at hc
  rw [attempt, parseErrorInfo_eq, bind_error (ErrorMessage.throws_readErrorInfo h c.data c _ hc)]

/-- Another one is read, with a number that may be that of a text elsewhere in the packet. -/
lemma attempt_of_reads (hc : c.rest = m.encode version ++ r) {text : Option String}
    (h : m.textRead? version = some text) :
    ∃ message cursorId, attempt parseErrorInfo c =
      .ok (some (m.reportedNumber c.data version, message, cursorId))
        (c.advance (m.encodeRead version).length) := by
  rw [m.encode_eq_append, List.append_assoc] at hc
  obtain ⟨info, hread, hover⟩ := ErrorMessage.reads_readErrorInfo_of_textRead h c.data
  have hcode : m.reportedNumber c.data version = info.code := by
    rw [ErrorMessage.reportedNumber, h]
    exact (congrArg Prod.fst hover).symm
  refine ⟨info.message, info.cursorId, ?_⟩
  rw [attempt, parseErrorInfo_eq, bind_ok (hread c _ hc), hcode]
  rfl

/-- An Error message that is not reported is passed over, up to what is left unread of it. -/
lemma lobError_of_eq_zero (s : σ) (hc : c.rest = m.encode version ++ r)
    (h : m.reportedNumber c.data version = 0) :
    (lobError s : ReadM (σ ⊕ α)) c = .ok (.inl s) (c.advance (m.encodeRead version).length) := by
  cases htext : m.textRead? version with
  | none =>
    rw [lobError, bind_ok (attempt_of_throws hc htext)]
    rfl
  | some text =>
    obtain ⟨message, cursorId, hattempt⟩ := attempt_of_reads hc htext
    rw [h] at hattempt
    rw [lobError, bind_ok hattempt]
    rfl

/-- An Error message that is reported ends the loop. -/
lemma lobError_of_ne_zero (s : σ) (hc : c.rest = m.encode version ++ r)
    (h : m.reportedNumber c.data version ≠ 0) :
    ∃ e c', (lobError s : ReadM (σ ⊕ α)) c = .error e c' := by
  cases htext : m.textRead? version with
  | none =>
    rw [ErrorMessage.reportedNumber, htext] at h
    exact absurd rfl h
  | some text =>
    obtain ⟨message, cursorId, hattempt⟩ := attempt_of_reads hc htext
    refine ⟨.oracleError (m.reportedNumber c.data version) (message.getD "LOB error"),
      c.advance (m.encodeRead version).length, ?_⟩
    rw [lobError, bind_ok hattempt]
    exact congrFun (if_pos h) _

end ErrorArm

namespace ErrorMessage

/-- Only an error is reported. -/
lemma number_ne_zero_of_reported {m : ErrorMessage} {packet : Bytes} {version : UInt8}
    (h : m.reportedNumber packet version ≠ 0) : m.number.value ≠ 0 := by
  intro hnum
  apply h
  have hcode : m.code = 0 := by rw [code, hnum]; rfl
  rw [reportedNumber, textRead?, if_pos hnum]
  simp only [overrideErrorText, hcode, Option.map_none]
  rfl

end ErrorMessage

/-! ## Responses -/

/-- The four parsers. -/
inductive LobKind where
  | read
  | simple
  | amount
  | bool
deriving DecidableEq, Repr

/-- What a Parameter message returns behind the locator. -/
inductive LobReturn where
  /-- nothing -/
  | nothing
  /-- an amount -/
  | amount (n : Ub 8)
  /-- a flag -/
  | flag (b : UInt8)

/-- The bytes on the wire. -/
def LobReturn.encode : LobReturn → Bytes
  | nothing => []
  | amount n => n.encode
  | flag b => [b]

/-- What the operations return whose responses the parser is for: some of those with the simple
parser return an amount. -/
def LobKind.Returns : LobKind → LobReturn → Prop
  | read, .amount _ => True
  | simple, .nothing => True
  | simple, .amount _ => True
  | amount, .amount _ => True
  | bool, .flag _ => True
  | _, _ => False

/-- The message types that the parser handles. -/
def LobKind.handles (kind : LobKind) (code : UInt8) : Bool :=
  code = MessageType.error.code || code = MessageType.parameter.code ||
    code = MessageType.endOfResponse.code || kind = read && code = MessageType.lobData.code

/-- A message of a response to a LOB operation. -/
inductive LobMessage where
  /-- LOB data -/
  | lobData (data : ByteString)
  /-- a locator, and what is returned behind it -/
  | parameter (locator : Bytes) (returned : LobReturn)
  /-- an error, or a success -/
  | error (m : ErrorMessage)

namespace LobMessage

/-- The bytes on the wire. -/
def encode (ttcFieldVersion : UInt8) : LobMessage → Bytes
  | lobData data => MessageType.lobData.code :: data.encode
  | parameter locator returned => MessageType.parameter.code :: (locator ++ returned.encode)
  | error m => MessageType.error.code :: m.encode ttcFieldVersion

/-- A locator has the length of that in the request, and the operation returns what it does. -/
def Fits (kind : LobKind) (locatorLen : ℕ) : LobMessage → Prop
  | parameter locator returned => locator.length = locatorLen ∧ kind.Returns returned
  | _ => True

/-- What the parser leaves unread of a message. -/
def unread (kind : LobKind) (ttcFieldVersion : UInt8) : LobMessage → Bytes
  | lobData data => if kind = .read then [] else data.encode
  | parameter _ returned => if kind = .simple then returned.encode else []
  | error m => m.unread ttcFieldVersion

/-- An Error message with a number that is not zero. -/
def IsError : LobMessage → Prop
  | error m => m.number.value ≠ 0
  | _ => False

/-- An Error message that the parsers report. -/
def Reported (packet : Bytes) (ttcFieldVersion : UInt8) : LobMessage → Prop
  | error m => m.reportedNumber packet ttcFieldVersion ≠ 0
  | _ => False

instance (packet : Bytes) (version : UInt8) (m : LobMessage) : Decidable (m.Reported packet version) :=
  match m with
  | error m => inferInstanceAs (Decidable (m.reportedNumber packet version ≠ 0))
  | lobData _ => inferInstanceAs (Decidable False)
  | parameter _ _ => inferInstanceAs (Decidable False)

end LobMessage

/-- A response to a LOB operation. -/
structure LobResponse (kind : LobKind) (locatorLen : ℕ) where
  /-- the two bytes of the data flags -/
  flag : UInt8
  flag' : UInt8
  /-- the messages -/
  messages : List LobMessage
  /-- the messages are those of the operation -/
  fits : ∀ m ∈ messages, m.Fits kind locatorLen
  /-- is the end of the response marked? -/
  endMarked : Bool

/-- The payload of the response. -/
def LobResponse.payload {kind : LobKind} {locatorLen : ℕ} (ttcFieldVersion : UInt8)
    (r : LobResponse kind locatorLen) : Bytes :=
  r.flag :: r.flag' :: (r.messages.flatMap (LobMessage.encode ttcFieldVersion) ++
    if r.endMarked then [MessageType.endOfResponse.code] else [])

/-- Where a parser stops. -/
inductive LobStop where
  /-- behind the last message -/
  | finished
  /-- at an error -/
  | reported
  /-- at a byte that was left unread, taken for the end of the response -/
  | ended
  /-- at a byte that was left unread, taken for another message -/
  | misread
deriving DecidableEq, Repr

/-- Where the parser stops in the messages of a response. -/
def LobKind.stop (kind : LobKind) (packet : Bytes) (ttcFieldVersion : UInt8) :
    List LobMessage → LobStop
  | [] => .finished
  | m :: ms =>
    if m.Reported packet ttcFieldVersion then .reported
    else match (m.unread kind ttcFieldVersion).find? kind.handles with
      | none => kind.stop packet ttcFieldVersion ms
      | some code => if code = MessageType.endOfResponse.code then .ended else .misread

/-! ## The loops -/

section Loops

variable {σ α : Type} {kind : LobKind} {locatorLen : ℕ} {lobData parameter : σ → ReadM σ}
  {result : σ → α} {version : UInt8} {c : ReadBuffer} {r : Bytes}

/-- What the arms of a parser read: LOB data if it is for read operations, and what is returned behind
the locator unless it is the simple parser. -/
structure LobArms (kind : LobKind) (locatorLen : ℕ) (lobData parameter : σ → ReadM σ) : Prop where
  reads_lobData : ∀ s (data : ByteString),
    ∃ s', Reads (lobData s) (if kind = .read then data.encode else []) s'
  reads_parameter : ∀ s (locator : Bytes) returned, locator.length = locatorLen →
    kind.Returns returned →
    ∃ s', Reads (parameter s) (locator ++ if kind = .simple then [] else returned.encode) s'

/-- A turn reads a message type. -/
lemma lobTurn_eq (s : σ) {b : UInt8} (hc : c.rest = b :: r) :
    lobTurn lobData parameter result s c =
      lobMessage lobData parameter result s (MessageType.tryFrom b) (c.advance 1) := by
  have hrem : ¬ (false = true ∨ c.remaining = 0) := by simp [remaining_eq, hc]
  have hread : readU8 c = .ok b (c.advance 1) := reads_readU8 b c r hc
  have hget : (get : ReadM ReadBuffer) c = .ok c c := rfl
  rw [lobTurn, messageTurn, bind_ok hget, if_neg hrem, bind_ok hread]

/-- A byte that is no message type for the parser is skipped. -/
lemma exists_reads_skipped (harms : LobArms kind locatorLen lobData parameter) (result : σ → α)
    (s : σ) {b : UInt8} (hb : kind.handles b = false) :
    ∃ s', Reads (lobTurn lobData parameter result s) [b] (.inl s') := by
  simp only [LobKind.handles, Bool.or_eq_false_iff, Bool.and_eq_false_iff, decide_eq_false_iff_not]
    at hb
  obtain ⟨⟨⟨herror, hparameter⟩, hend⟩, hdata⟩ := hb
  have hskip : ∀ {message : ReadM (σ ⊕ α)} {s' : σ}, Reads message [] (.inl s') →
      lobMessage lobData parameter result s (MessageType.tryFrom b) = message →
      Reads (lobTurn lobData parameter result s) [b] (.inl s') := by
    intro message s' hread hmessage c r hc
    rw [lobTurn_eq s hc, hmessage, hread (c.advance 1) r (by simp [hc])]
    rfl
  cases htype : MessageType.tryFrom b with
  | none => exact ⟨s, hskip (Reads.pure _) (by rw [htype]; rfl)⟩
  | some t =>
    have hcode := MessageType.code_of_tryFrom htype
    cases t with
    | error => exact absurd hcode herror
    | parameter => exact absurd hcode hparameter
    | endOfResponse => exact absurd hcode hend
    | lobData =>
      have hkind : kind ≠ .read := hdata.resolve_right fun h => h hcode
      obtain ⟨s', hread⟩ := harms.reads_lobData s (.short [] (by simp))
      rw [if_neg hkind] at hread
      exact ⟨s', hskip (hread.bind (Reads.pure _)) (by rw [htype]; rfl)⟩
    | _ => exact ⟨s, hskip (Reads.pure _) (by rw [htype]; rfl)⟩

/-- Bytes that are no message types for the parser are skipped. -/
lemma exists_turns_skipped (harms : LobArms kind locatorLen lobData parameter) (result : σ → α)
    (s : σ) {gap : Bytes} (hgap : ∀ b ∈ gap, kind.handles b = false) :
    ∃ s', Turns .stuck (lobTurn lobData parameter result) s gap s' := by
  induction gap generalizing s with
  | nil => exact ⟨s, Turns.refl s⟩
  | cons b gap ih =>
    rw [List.forall_mem_cons] at hgap
    obtain ⟨s₁, hb⟩ := exists_reads_skipped harms result s hgap.1
    obtain ⟨s', hrest⟩ := ih s₁ hgap.2
    exact ⟨s', Turns.more hb (by simp) hrest⟩

/-- A message that is not reported is passed over, up to what the parser leaves unread of it. -/
lemma exists_turn_message (harms : LobArms kind locatorLen lobData parameter) (result : σ → α) (s : σ)
    {m : LobMessage} (hfits : m.Fits kind locatorLen) (hc : c.rest = m.encode version ++ r)
    (hm : ¬ m.Reported c.data version) :
    ∃ s' n, lobTurn lobData parameter result s c = .ok (.inl s') (c.advance (n + 1)) ∧
      (c.advance (n + 1)).rest = m.unread kind version ++ r := by
  -- the arm of the message type reads `b`, and the rest is left unread
  have hturn : ∀ (b : Bytes) (s' : σ) (t : MessageType),
      m.encode version = t.code :: (b ++ m.unread kind version) →
      (∀ r', (c.advance 1).rest = b ++ r' →
        lobMessage lobData parameter result s (some t) (c.advance 1) =
          .ok (.inl s') ((c.advance 1).advance b.length)) →
      ∃ s' n, lobTurn lobData parameter result s c = .ok (.inl s') (c.advance (n + 1)) ∧
        (c.advance (n + 1)).rest = m.unread kind version ++ r := by
    intro b s' t hencode hmessage
    rw [hencode, List.cons_append, List.append_assoc] at hc
    have hrest : (c.advance 1).rest = b ++ (m.unread kind version ++ r) := by simp [hc]
    refine ⟨s', b.length, ?_, by simp [hc]⟩
    rw [lobTurn_eq s hc, MessageType.tryFrom_code, hmessage _ hrest, advance_advance, Nat.add_comm]
  cases m with
  | lobData data =>
    obtain ⟨s', hread⟩ := harms.reads_lobData s data
    refine hturn (if kind = .read then data.encode else []) s' .lobData ?_ fun r' hr => ?_
    · rw [LobMessage.encode, LobMessage.unread]
      split_ifs <;> simp
    · show (lobData s >>= fun s₁ => pure (Sum.inl s₁ : σ ⊕ α)) (c.advance 1) = _
      exact (hread.bind_nil (Reads.pure (Sum.inl s' : σ ⊕ α))) _ r' hr
  | parameter locator returned =>
    obtain ⟨s', hread⟩ := harms.reads_parameter s locator returned hfits.1 hfits.2
    refine hturn (locator ++ if kind = .simple then [] else returned.encode) s' .parameter ?_
      fun r' hr => ?_
    · rw [LobMessage.encode, LobMessage.unread]
      split_ifs <;> simp
    · show (parameter s >>= fun s₁ => pure (Sum.inl s₁ : σ ⊕ α)) (c.advance 1) = _
      exact (hread.bind_nil (Reads.pure (Sum.inl s' : σ ⊕ α))) _ r' hr
  | error m =>
    have hzero : m.reportedNumber c.data version = 0 := not_not.mp hm
    refine hturn (m.encodeRead version) s .error (congrArg _ (m.encode_eq_append version)) fun r' hr => ?_
    have hrest : (c.advance 1).rest = m.encode version ++ r := by
      rw [rest_advance, hc]
      rfl
    exact lobError_of_eq_zero s hrest hzero

/-- What is behind the last message. -/
lemma exists_ends_tail (s : σ) {marked : Bool}
    (hc : c.rest = if marked then [MessageType.endOfResponse.code] else []) :
    ∃ a c', Ends .stuck (lobTurn lobData parameter result) s c (.ok a c') := by
  cases marked with
  | true =>
    refine ⟨result s, c.advance 1, Ends.done ?_⟩
    rw [lobTurn_eq s hc, MessageType.tryFrom_code]
    rfl
  | false => exact ⟨result s, c, Ends.done (messageTurn_end (.inr hc))⟩

/-- A loop that does not lose its place fails where it stops at an error, and succeeds everywhere
else.

**Proof sketch.** Induction on the messages. The first one is reported, or it is passed over up to
what is left unread of it; of that, nothing is taken for a message, or its first byte that is one ends
the loop. -/
lemma exists_ends_messages (harms : LobArms kind locatorLen lobData parameter) (result : σ → α)
    {packet : Bytes} {marked : Bool} (s : σ) {ms : List LobMessage}
    (hfits : ∀ m ∈ ms, m.Fits kind locatorLen) (hdata : c.data = packet)
    (hc : c.rest = ms.flatMap (LobMessage.encode version) ++
      if marked then [MessageType.endOfResponse.code] else [])
    (hstop : kind.stop packet version ms ≠ .misread) :
    (kind.stop packet version ms = .reported ∧
      ∃ e c', Ends .stuck (lobTurn lobData parameter result) s c (.error e c')) ∨
    (kind.stop packet version ms ≠ .reported ∧
      ∃ a c', Ends .stuck (lobTurn lobData parameter result) s c (.ok a c')) := by
  induction ms generalizing s c with
  | nil => exact .inr ⟨by simp [LobKind.stop], exists_ends_tail s hc⟩
  | cons m ms ih =>
    rw [List.forall_mem_cons] at hfits
    rw [List.flatMap_cons, List.append_assoc] at hc
    rw [LobKind.stop] at hstop ⊢
    by_cases hm : m.Reported packet version
    · rw [if_pos hm]
      refine .inl ⟨rfl, ?_⟩
      cases m with
      | lobData data => exact hm.elim
      | parameter locator returned => exact hm.elim
      | error m =>
        have hrest := rest_advance_of_append (b := [MessageType.error.code]) hc
        rw [← hdata] at hm
        obtain ⟨e, c', herror⟩ := lobError_of_ne_zero s hrest hm
        refine ⟨e, c', Ends.fail ?_⟩
        rw [lobTurn_eq s hc, MessageType.tryFrom_code]
        exact herror
    · rw [if_neg hm] at hstop ⊢
      rw [← hdata] at hm
      obtain ⟨s₁, n, hturn, hrest⟩ := exists_turn_message harms result s hfits.1 hc hm
      have hlt : (c.advance (n + 1)).rest.length < c.rest.length := by
        have hpos : 0 < c.rest.length := by
          rw [hc]
          cases m <;> simp [LobMessage.encode]
        rw [rest_advance, List.length_drop]
        omega
      cases hfind : (m.unread kind version).find? kind.handles with
      | none =>
        simp only [hfind] at hstop ⊢
        have hgap : ∀ b ∈ m.unread kind version, kind.handles b = false := by
          simpa using List.find?_eq_none.mp hfind
        obtain ⟨s₂, hturns⟩ := exists_turns_skipped harms result s₁ hgap
        have hbehind := rest_advance_of_append hrest
        refine (ih s₂ hfits.2 (by simpa using hdata) hbehind hstop).imp ?_ ?_
        · rintro ⟨h, e, c', hend⟩
          exact ⟨h, e, c', Ends.more hturn hlt (hturns _ _ hrest _ hend)⟩
        · rintro ⟨h, a, c', hend⟩
          exact ⟨h, a, c', Ends.more hturn hlt (hturns _ _ hrest _ hend)⟩
      | some code =>
        simp only [hfind] at hstop ⊢
        have hcode : code = MessageType.endOfResponse.code := by
          by_contra hne
          exact hstop (if_neg hne)
        rw [if_pos hcode]
        refine .inr ⟨by simp, ?_⟩
        obtain ⟨-, gap, behind, hunread, hgap⟩ := List.find?_eq_some_iff_append.mp hfind
        have hgap' : ∀ b ∈ gap, kind.handles b = false := by simpa using hgap
        obtain ⟨s₂, hturns⟩ := exists_turns_skipped harms result s₁ hgap'
        rw [hunread, List.append_assoc] at hrest
        have hbehind := rest_advance_of_append hrest
        have hdone : lobTurn lobData parameter result s₂ ((c.advance (n + 1)).advance gap.length) =
            .ok (.inr (result s₂)) (((c.advance (n + 1)).advance gap.length).advance 1) := by
          rw [lobTurn_eq s₂ hbehind, hcode, MessageType.tryFrom_code]
          rfl
        exact ⟨_, _, Ends.more hturn hlt (hturns _ _ hrest _ (Ends.done hdone))⟩

/-- What a parser makes of a response. -/
lemma parseLob_fails_iff (harms : LobArms kind locatorLen lobData parameter) (result : σ → α)
    (start : σ) (version : UInt8) (response : LobResponse kind locatorLen)
    (hstop : kind.stop (response.payload version) version response.messages ≠ .misread) :
    (∃ e, parseLob lobData parameter result start (response.payload version) = .error e) ↔
      kind.stop (response.payload version) version response.messages = .reported := by
  let c : ReadBuffer := ⟨response.payload version, 0⟩
  have hrest : c.rest =
      [response.flag, response.flag'] ++ (response.messages.flatMap (LobMessage.encode version) ++
        if response.endMarked then [MessageType.endOfResponse.code] else []) :=
    rest_mk_zero _
  have hskip : skip 2 c = .ok () (c.advance 2) :=
    reads_skip [response.flag, response.flag'] c _ hrest
  have hbehind : (c.advance 2).rest = response.messages.flatMap (LobMessage.encode version) ++
      if response.endMarked then [MessageType.endOfResponse.code] else [] :=
    rest_advance_of_append hrest
  have hdata : (c.advance 2).data = response.payload version := rfl
  have hrun : parseLob lobData parameter result start (response.payload version) =
      match iterate .stuck (lobTurn lobData parameter result) start (c.advance 2) with
      | .ok a _ => .ok a
      | .error e _ => .error e := by
    rw [parseLob, ReadM.runOn, bind_ok hskip]
    rfl
  rw [hrun]
  obtain ⟨hreported, e, c', hend⟩ | ⟨hreported, a, c', hend⟩ :=
    exists_ends_messages harms result start response.fits hdata hbehind hstop
  · rw [iterate_of_ends hend]
    exact ⟨fun _ => hreported, fun _ => ⟨e, rfl⟩⟩
  · rw [iterate_of_ends hend]
    refine ⟨?_, fun h => absurd h hreported⟩
    rintro ⟨e, h⟩
    cases h

end Loops

/-! ## The four parsers -/

section Members

variable (locator : LobLocator)

lemma lobArms_read : LobArms (σ := Option Bytes) .read locator.locator.length
    (fun _ => some <$> readRawBytesChunked)
    (fun lobData => do
      skip locator.locator.length
      let _returnedAmount ← readUb8
      return lobData) where
  reads_lobData _ data := ⟨some data.content, data.reads_readRawBytesChunked.map some⟩
  reads_parameter s bytes returned hlen hreturns := by
    cases returned with
    | amount n =>
      refine ⟨s, ?_⟩
      rw [← hlen]
      exact (reads_skip bytes).bind (n.reads_readUb8.bind_nil (Reads.pure s))
    | nothing => exact hreturns.elim
    | flag b => exact hreturns.elim

lemma lobArms_simple : LobArms (σ := Unit) .simple locator.locator.length pure
    (fun _ => skip locator.locator.length) where
  reads_lobData s _ := ⟨s, Reads.pure s⟩
  reads_parameter s bytes returned hlen _ := by
    refine ⟨(), ?_⟩
    rw [if_pos rfl, List.append_nil, ← hlen]
    exact reads_skip bytes

lemma lobArms_amount : LobArms (σ := UInt64) .amount locator.locator.length pure
    (fun _ => do
      skip locator.locator.length
      readUb8) where
  reads_lobData s _ := ⟨s, Reads.pure s⟩
  reads_parameter s bytes returned hlen hreturns := by
    cases returned with
    | amount n =>
      refine ⟨UInt64.ofNat n.value, ?_⟩
      rw [← hlen]
      exact (reads_skip bytes).bind n.reads_readUb8
    | nothing => exact hreturns.elim
    | flag b => exact hreturns.elim

lemma lobArms_bool : LobArms (σ := Bool) .bool locator.locator.length pure
    (fun _ => do
      skip locator.locator.length
      let flag ← readU8
      return decide (flag > 0)) where
  reads_lobData s _ := ⟨s, Reads.pure s⟩
  reads_parameter s bytes returned hlen hreturns := by
    cases returned with
    | flag b =>
      refine ⟨decide (b > 0), ?_⟩
      rw [← hlen]
      exact (reads_skip bytes).bind ((reads_readU8 b).bind_nil (Reads.pure _))
    | nothing => exact hreturns.elim
    | amount n => exact hreturns.elim

/-- The parser of an operation fails on a payload. -/
def LobKind.Fails (kind : LobKind) (locator : LobLocator) (payload : Bytes) : Prop :=
  match kind with
  | read => ∃ e, parseLobReadResponse locator payload = .error e
  | simple => ∃ e, parseLobSimpleResponse locator payload = .error e
  | amount => ∃ e, parseLobAmountResponse locator payload = .error e
  | bool => ∃ e, parseLobBoolResponse locator payload = .error e

end Members

namespace LobResponse

variable {kind : LobKind} {locator : LobLocator}

/-- A parser that does not lose its place fails if and only if it stops at an error. -/
theorem failed_iff (version : UInt8) (r : LobResponse kind locator.locator.length)
    (hstop : kind.stop (r.payload version) version r.messages ≠ .misread) :
    kind.Fails locator (r.payload version) ↔
      kind.stop (r.payload version) version r.messages = .reported := by
  cases kind with
  | read => exact parseLob_fails_iff (lobArms_read locator) _ _ version r hstop
  | simple => exact parseLob_fails_iff (lobArms_simple locator) _ _ version r hstop
  | amount => exact parseLob_fails_iff (lobArms_amount locator) _ _ version r hstop
  | bool => exact parseLob_fails_iff (lobArms_bool locator) _ _ version r hstop

/-- Where a parser stops at an error there is one. -/
lemma exists_isError_of_reported {packet : Bytes} {version : UInt8} {ms : List LobMessage}
    (h : kind.stop packet version ms = .reported) : ∃ m ∈ ms, m.IsError := by
  induction ms with
  | nil => cases h
  | cons m ms ih =>
    rw [LobKind.stop] at h
    split_ifs at h with hm
    · refine ⟨m, List.mem_cons_self, ?_⟩
      cases m with
      | error m => exact ErrorMessage.number_ne_zero_of_reported hm
      | lobData data => exact hm.elim
      | parameter locator returned => exact hm.elim
    · cases hfind : (m.unread kind version).find? kind.handles with
      | none =>
        simp only [hfind] at h
        obtain ⟨m', hm', herror⟩ := ih h
        exact ⟨m', List.mem_cons_of_mem m hm', herror⟩
      | some code =>
        simp only [hfind] at h
        split_ifs at h

/-- Nothing that is left unread is taken for a message in front of the first error that is reported,
and if there is an error then one is reported. -/
def Orderly (version : UInt8) (r : LobResponse kind locator.locator.length) : Prop :=
  kind.stop (r.payload version) version r.messages ≠ .misread ∧
    ((∃ m ∈ r.messages, m.IsError) →
      kind.stop (r.payload version) version r.messages = .reported)

/-- The parsers fail on an orderly response if and only if there is an error in it, and they do so on
no other response, except by chance where they take for a message what they have left unread. -/
theorem errorsReported_iff (version : UInt8) (r : LobResponse kind locator.locator.length) :
    (r.Orderly version →
      (kind.Fails locator (r.payload version) ↔ ∃ m ∈ r.messages, m.IsError)) ∧
    (kind.stop (r.payload version) version r.messages ≠ .misread →
      (kind.Fails locator (r.payload version) ↔ ∃ m ∈ r.messages, m.IsError) →
      r.Orderly version) := by
  constructor
  · rintro ⟨hstop, hreported⟩
    rw [failed_iff version r hstop]
    exact ⟨exists_isError_of_reported, hreported⟩
  · intro hstop hiff
    rw [failed_iff version r hstop] at hiff
    exact ⟨hstop, hiff.mpr⟩

/-- An amount of 29 behind a locator of two bytes. -/
def amountMessage : LobMessage := .parameter [0, 0] (.amount ⟨[29], by decide⟩)

/-- A failure with error number 942. -/
def failure : ErrorMessage :=
  .plain Ub.zero ⟨[3, 0xAE], length_failureNumber_le⟩ (some (.short "ORA-00942" length_failureText_le))

lemma fits_amount_failure : ∀ m ∈ [amountMessage, .error failure], m.Fits .simple 2 := by
  rw [List.forall_mem_cons, List.forall_mem_singleton]
  exact ⟨⟨rfl, trivial⟩, trivial⟩

/-- The response to an operation that has returned an amount and failed. -/
def amountResponse : LobResponse .simple 2 :=
  ⟨0, 0, [amountMessage, .error failure], fits_amount_failure, true⟩

/-- The simple parser takes the amount for the end of the response. -/
theorem not_errorsReported_amount :
    (∃ m ∈ amountResponse.messages, m.IsError) ∧
      ¬ LobKind.simple.Fails { (default : LobLocator) with locator := [0, 0] }
        (amountResponse.payload 24) := by
  refine ⟨⟨.error failure, by simp [amountResponse], (by decide : failure.number.value ≠ 0)⟩, ?_⟩
  have hok : parseLobSimpleResponse { (default : LobLocator) with locator := [0, 0] }
      (amountResponse.payload 24) = .ok () := by rfl
  rintro ⟨e, herror⟩
  rw [hok] at herror
  cases herror

end LobResponse

end OracleRs
