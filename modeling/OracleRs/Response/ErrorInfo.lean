import OracleRs.Buffer.Wire

set_option relaxedAutoImplicit false
set_option autoImplicit false

/-!
# Error messages

The two readers of the Error message (type 4) that closes a response: `parse_error_info_detailed`
with its callers, used by every response parser but one, and `parse_error_message_info`, which
the parser of fetch responses uses.

The first one replaces the number and text of an error when the text does not look like an
Oracle error: it then searches the whole packet for one.

## Main definitions

* `OracleRs.extractOracleErrorText`, `OracleRs.overrideErrorText` — the search and the replacement.
* `OracleRs.parseErrorInfoDetailed`, `OracleRs.parseErrorInfoWithRowcount`,
  `OracleRs.parseErrorMessageInfo` — the readers.
* `OracleRs.ErrorMessage` — an Error message as a server may write it.

## Main results

* `OracleRs.ErrorMessage.parseErrorInfoWithRowcount_eq`,
  `OracleRs.ErrorMessage.reads_parseErrorMessageInfo` — what the readers return.
-/

namespace OracleRs

open Cursor

/-! ## Error texts -/

/-- The characters `ORA-`. -/
def oraPrefix : Bytes := [79, 82, 65, 45]

/-- The rest of a byte string from the first `ORA-` on. -/
def fromFirstOra : Bytes → Option Bytes
  | [] => none
  | b :: rest => if oraPrefix.isPrefixOf (b :: rest) then some (b :: rest) else fromFirstOra rest

/-- Does a text contain `ORA-`? -/
def containsOra (s : String) : Bool := (fromFirstOra (asBytes s)).isSome

/-- `extract_oracle_error_text`: the first `ORA-` with five digits behind it, and the text up to
the end of the line. -/
def extractOracleErrorText (data : Bytes) : Option (UInt32 × String) := do
  let rest ← fromFirstOra data
  let digits := (rest.drop 4).take 5
  if digits.length < 5 ∨ ¬ digits.all isAsciiDigit then
    none
  else
    let code ← parseInt 0 (2 ^ 32 - 1) digits
    let line := rest.takeWhile fun b => b ≠ 10 && b ≠ 0x1D && b ≠ 0
    let message := trim (fromUtf8Lossy line)
    if message = "" then none else some (UInt32.ofNat code.toNat, message)

/-- The number and text of an error: those of the first Oracle error text in the packet when the
message's own text does not look like one. -/
def overrideErrorText (packetBytes : Bytes) (code : UInt32) (message : Option String) :
    UInt32 × Option String :=
  if code ≠ 0 ∧ ¬ message.any containsOra then
    match extractOracleErrorText packetBytes with
    | some (code', message') => (code', some message')
    | none => (code, message)
  else
    (code, message)

/-- An error number that stands for a failure: neither success nor the end of the rows. -/
def IsFailure (code : UInt32) : Prop := code ≠ 0 ∧ code ≠ 1403

instance (code : UInt32) : Decidable (IsFailure code) := inferInstanceAs (Decidable (_ ∧ _))

/-! ## Readers -/

/-- The fields at the front of an Error message, up to the batch errors; the result is the
cursor id. -/
def readErrorHead : ReadM UInt16 := do
  let _callStatus ← readUb4
  skipUb2 -- end to end sequence number
  skipUb4 -- current row number
  skipUb2 -- error number, short form
  skipUb2 -- array element error
  skipUb2 -- array element error
  let cursorId ← readUb2
  let _errorPos ← readSb2
  skip 1 -- SQL type
  skip 1 -- fatal?
  skip 1 -- flags
  skip 1 -- user cursor options
  skip 1 -- UPI parameter
  skip 1 -- warning flag
  skipUb4 -- rba
  skipUb2 -- partition id
  skipUb1
  skipUb4 -- block number
  skipUb2 -- slot number
  skipUb4 -- OS error
  skip 1 -- statement number
  skip 1 -- call number
  skipUb2 -- padding
  skipUb4 -- success iterations
  let _oerrdd ← indicated4 skipRawBytesChunked
  return cursorId

/-- An error of one row of a batch (`BatchError`). -/
structure BatchError where
  /-- the index of the row -/
  rowIndex : ℕ
  /-- the error number -/
  code : UInt32
  /-- the error text -/
  message : String
deriving DecidableEq, Repr, Inhabited

/-- What an Error message says (`ParsedErrorInfo`). -/
structure ParsedErrorInfo where
  /-- the error number, zero for success -/
  code : UInt32
  /-- the error text -/
  message : Option String
  /-- the cursor id -/
  cursorId : UInt16
  /-- the number of rows affected or fetched -/
  rowCount : UInt64
  /-- the errors of a batch -/
  batchErrors : List BatchError
deriving DecidableEq, Repr, Inhabited

/-- The error numbers of a batch. -/
def readBatchCodes : ReadM (List UInt32) := do
  let numBatchErrors := (← readUb2).toNat
  if numBatchErrors ≠ 0 then
    skipUb1
    times (UInt16.toUInt32 <$> readUb2) numBatchErrors
  else
    return []

/-- The row offsets of a batch. -/
def readBatchOffsets : ReadM (List ℕ) := do
  let numOffsets := (← readUb4).toNat
  if numOffsets ≠ 0 then
    skipUb1
    times (UInt32.toNat <$> readUb4) numOffsets
  else
    return []

/-- A text of a batch. -/
def readBatchMessage : ReadM String := do
  skipUb2 -- chunk length
  let message ← readStringWithLength
  skip 2 -- end marker
  return trim (message.getD "")

/-- The error texts of a batch. -/
def readBatchMessages : ReadM (List String) := do
  let numBatchMsgs := (← readUb2).toNat
  if numBatchMsgs ≠ 0 then
    skipUb1
    times readBatchMessage numBatchMsgs
  else
    return []

/-- `format!("ORA-{code:05}")`. -/
def oraCodeText (code : UInt32) : String :=
  let digits := toString code.toNat
  "ORA-" ++ String.ofList (List.replicate (5 - digits.length) '0') ++ digits

/-- The batch errors, each with what the lists and the error itself say about it. -/
def zipBatchErrors (code : UInt32) (message : Option String) (codes : List UInt32)
    (offsets : List ℕ) (messages : List String) : List BatchError :=
  (List.range (max (max codes.length offsets.length) messages.length)).map fun idx =>
    let rowCode := codes.getD idx code
    let own := (messages[idx]?).filter (· ≠ "")
    { rowIndex := offsets.getD idx idx
      code := rowCode
      message := (own <|> message).getD (oraCodeText rowCode) }

/-- The fields that Oracle Database 20c has added to an Error message: SQL type and server
checksum. -/
def skipModernFields (present : Bool) : ReadM Unit :=
  if present then do
    skipUb4
    skipUb4
  else
    return

/-- The text of an error that is not a success. -/
def readErrorText (code : UInt32) : ReadM (Option String) :=
  if code ≠ 0 then readStringWithLength else pure none

/-- The body of `parse_error_info_detailed`, which searches `packetBytes` for error texts. -/
def readErrorInfo (packetBytes : Bytes) (readModernTail modernFields : Bool) :
    ReadM ParsedErrorInfo := do
  let cursorId ← readErrorHead
  let batchCodes ← readBatchCodes
  let batchOffsets ← readBatchOffsets
  let batchMessages ← readBatchMessages
  let errorCode ← readUb4
  let rowCount ← (if readModernTail then readUb8 else pure 0)
  skipModernFields modernFields
  let errorMsg := (← readErrorText errorCode).map trim
  let (code, message) := overrideErrorText packetBytes errorCode errorMsg
  return {
    code := code
    message := message
    cursorId := cursorId
    rowCount := rowCount
    batchErrors := zipBatchErrors code message batchCodes batchOffsets batchMessages }

/-- `parse_error_info_detailed`. -/
def parseErrorInfoDetailed (readModernTail modernFields : Bool) : ReadM ParsedErrorInfo := do
  readErrorInfo (← get).data readModernTail modernFields

/-- `parse_error_info_with_rowcount`: the number, text, cursor id and row count of an error. -/
def parseErrorInfoWithRowcount : ReadM (UInt32 × Option String × UInt16 × UInt64) := do
  let info ← parseErrorInfoDetailed true true
  return (info.code, info.message, info.cursorId, info.rowCount)

/-- `parse_error_info`: the number, text and cursor id of an error. -/
def parseErrorInfo : ReadM (UInt32 × Option String × UInt16) := do
  let info ← parseErrorInfoDetailed true false
  return (info.code, info.message, info.cursorId)

/-- `parse_error_message_info`: the number, text and cursor id of an error, and whether there are
more rows. -/
def parseErrorMessageInfo (ttcFieldVersion : UInt8) :
    ReadM (UInt32 × String × UInt16 × Bool) := do
  let cursorId ← readErrorHead
  let _batchCodes ← indicated2 skipRawBytesChunked
  let _batchOffsets ← indicated4 skipRawBytesChunked
  let _batchMessages ← indicated2 skipRawBytesChunked
  let errorNum ← readUb4
  let _rowCount ← readUb8
  skipModernFields (ttcFieldVersion ≥ fieldVersion21_1)
  let moreRows := errorNum ≠ 1403
  let errorMsg := (← readErrorText errorNum).getD ""
  return (errorNum, errorMsg, cursorId, moreRows)

/-! ## Error messages as a server writes them -/

/-- The fields at the front of an Error message. -/
structure ErrorHead where
  callStatus : Ub 4
  endToEndSeq : Ub 2
  currentRow : Ub 4
  shortNumber : Ub 2
  arrayElemError : Ub 2
  arrayElemError' : Ub 2
  cursorId : Ub 2
  errorPos : Ub 2
  sqlType : UInt8
  fatal : UInt8
  flags : UInt8
  cursorOptions : UInt8
  upiParameter : UInt8
  warnFlag : UInt8
  rba : Ub 4
  partitionId : Ub 2
  rowidPadding : UInt8
  blockNum : Ub 4
  slotNum : Ub 2
  osError : Ub 4
  statementNumber : UInt8
  callNumber : UInt8
  padding : Ub 2
  successIters : Ub 4
  oerrdd : Indicated 4 ByteString

namespace ErrorHead

/-- The bytes on the wire. -/
def encode (h : ErrorHead) : Bytes :=
  h.callStatus.encode ++ (h.endToEndSeq.encode ++ (h.currentRow.encode ++ (h.shortNumber.encode ++
    (h.arrayElemError.encode ++ (h.arrayElemError'.encode ++ (h.cursorId.encode ++
    (h.errorPos.encode ++ ([h.sqlType] ++ ([h.fatal] ++ ([h.flags] ++ ([h.cursorOptions] ++
    ([h.upiParameter] ++ ([h.warnFlag] ++ (h.rba.encode ++ (h.partitionId.encode ++
    ([h.rowidPadding] ++ (h.blockNum.encode ++ (h.slotNum.encode ++ (h.osError.encode ++
    ([h.statementNumber] ++ ([h.callNumber] ++ (h.padding.encode ++ (h.successIters.encode ++
    h.oerrdd.encode ByteString.encode)))))))))))))))))))))))

lemma reads_readErrorHead (h : ErrorHead) :
    Reads readErrorHead h.encode (UInt16.ofNat h.cursorId.value) := by
  obtain ⟨pos, hpos⟩ := h.errorPos.reads_readSb2
  refine h.callStatus.reads_readUb4.bind ?_
  refine (h.endToEndSeq.reads_skipUb (by omega)).bind ?_
  refine (h.currentRow.reads_skipUb (by omega)).bind ?_
  refine (h.shortNumber.reads_skipUb (by omega)).bind ?_
  refine (h.arrayElemError.reads_skipUb (by omega)).bind ?_
  refine (h.arrayElemError'.reads_skipUb (by omega)).bind ?_
  refine h.cursorId.reads_readUb2.bind ?_
  refine hpos.bind ?_
  refine (reads_skip_one h.sqlType).bind ?_
  refine (reads_skip_one h.fatal).bind ?_
  refine (reads_skip_one h.flags).bind ?_
  refine (reads_skip_one h.cursorOptions).bind ?_
  refine (reads_skip_one h.upiParameter).bind ?_
  refine (reads_skip_one h.warnFlag).bind ?_
  refine (h.rba.reads_skipUb (by omega)).bind ?_
  refine (h.partitionId.reads_skipUb (by omega)).bind ?_
  refine (reads_skipUb1 h.rowidPadding).bind ?_
  refine (h.blockNum.reads_skipUb (by omega)).bind ?_
  refine (h.slotNum.reads_skipUb (by omega)).bind ?_
  refine (h.osError.reads_skipUb (by omega)).bind ?_
  refine (reads_skip_one h.statementNumber).bind ?_
  refine (reads_skip_one h.callNumber).bind ?_
  refine (h.padding.reads_skipUb (by omega)).bind ?_
  refine (h.successIters.reads_skipUb (by omega)).bind ?_
  exact (h.oerrdd.reads_indicated4 ByteString.reads_skipRawBytesChunked).bind_nil (Reads.pure _)

/-- The front of an Error message with nothing to say but the cursor id. -/
def plain (cursorId : Ub 2) : ErrorHead where
  callStatus := Ub.zero
  endToEndSeq := Ub.zero
  currentRow := Ub.zero
  shortNumber := Ub.zero
  arrayElemError := Ub.zero
  arrayElemError' := Ub.zero
  cursorId := cursorId
  errorPos := Ub.zero
  sqlType := 0
  fatal := 0
  flags := 0
  cursorOptions := 0
  upiParameter := 0
  warnFlag := 0
  rba := Ub.zero
  partitionId := Ub.zero
  rowidPadding := 0
  blockNum := Ub.zero
  slotNum := Ub.zero
  osError := Ub.zero
  statementNumber := 0
  callNumber := 0
  padding := Ub.zero
  successIters := Ub.zero
  oerrdd := Indicated.none

end ErrorHead

/-- The error numbers of a batch. -/
abbrev BatchCodes := MarkedList 2 (Ub 2)

/-- The row offsets of a batch. -/
abbrev BatchOffsets := MarkedList 4 (Ub 4)

/-- A text of a batch. -/
structure BatchText where
  /-- the chunk length, which is not used -/
  chunkLength : Ub 2
  /-- the text -/
  text : TextBytes
  /-- the two bytes behind the text -/
  endMarker : UInt8
  endMarker' : UInt8

namespace BatchText

/-- The bytes on the wire. -/
def encode (t : BatchText) : Bytes :=
  t.chunkLength.encode ++ (t.text.raw.encode ++ [t.endMarker, t.endMarker'])

lemma reads_readBatchMessage (t : BatchText) :
    Reads readBatchMessage t.encode (trim t.text.text) := by
  refine (t.chunkLength.reads_skipUb (by omega)).bind ?_
  refine t.text.reads_readStringWithLength.bind ?_
  exact (reads_skip [t.endMarker, t.endMarker']).bind_nil (Reads.pure _)

end BatchText

namespace MarkedList

/-- The error numbers of a batch as they are read. -/
def numbers (l : BatchCodes) : List UInt32 := l.list.items.map fun u => (UInt16.ofNat u.value).toUInt32

/-- The row offsets of a batch as they are read. -/
def offsets (l : BatchOffsets) : List ℕ := l.list.items.map fun u => (UInt32.ofNat u.value).toNat

/-- The error texts of a batch as they are read. -/
def texts (l : MarkedList 2 BatchText) : List String := l.list.items.map fun t => trim t.text.text

lemma reads_readBatchCodes (l : BatchCodes) : Reads readBatchCodes (l.encode Ub.encode) l.numbers := by
  rw [numbers]
  refine l.list.size.reads_readUb2.bind ?_
  simp only [l.list.size.toNat_value2]
  rw [l.list.size_eq]
  by_cases h : l.list.items = []
  · simpa [h] using Reads.pure []
  · rw [if_pos (by simpa using h), if_neg h]
    refine (reads_skipUb1 l.marker).bind ?_
    exact Reads.times fun u _ => (Ub.reads_readUb2 u).map UInt16.toUInt32

lemma reads_readBatchOffsets (l : BatchOffsets) :
    Reads readBatchOffsets (l.encode Ub.encode) l.offsets := by
  rw [offsets]
  refine l.list.size.reads_readUb4.bind ?_
  simp only [l.list.size.toNat_value4]
  rw [l.list.size_eq]
  by_cases h : l.list.items = []
  · simpa [h] using Reads.pure []
  · rw [if_pos (by simpa using h), if_neg h]
    refine (reads_skipUb1 l.marker).bind ?_
    exact Reads.times fun u _ => (Ub.reads_readUb4 u).map UInt32.toNat

lemma reads_readBatchMessages (l : MarkedList 2 BatchText) :
    Reads readBatchMessages (l.encode BatchText.encode) l.texts := by
  rw [texts]
  refine l.list.size.reads_readUb2.bind ?_
  simp only [l.list.size.toNat_value2]
  rw [l.list.size_eq]
  by_cases h : l.list.items = []
  · simpa [h] using Reads.pure []
  · rw [if_pos (by simpa using h), if_neg h]
    refine (reads_skipUb1 l.marker).bind ?_
    exact Reads.times fun t _ => BatchText.reads_readBatchMessage t

/-- An empty list is skipped as an indicator without a value. -/
lemma reads_indicated2_of_nil {ω : Type} {enc : ω → Bytes} (l : MarkedList 2 ω)
    (h : l.list.items = []) : Reads (indicated2 skipRawBytesChunked) (l.encode enc) none := by
  have hsize : l.list.size.value = 0 := by simp [l.list.size_eq, h]
  have := (Indicated.absent l.list.size hsize).reads_indicated2 ByteString.reads_skipRawBytesChunked
  simpa [encode, h, Indicated.encode, Indicated.value?] using this

lemma reads_indicated4_of_nil {ω : Type} {enc : ω → Bytes} (l : MarkedList 4 ω)
    (h : l.list.items = []) : Reads (indicated4 skipRawBytesChunked) (l.encode enc) none := by
  have hsize : l.list.size.value = 0 := by simp [l.list.size_eq, h]
  have := (Indicated.absent l.list.size hsize).reads_indicated4 ByteString.reads_skipRawBytesChunked
  simpa [encode, h, Indicated.encode, Indicated.value?] using this

end MarkedList

/-- An Error message. The text is there if and only if the number is not zero; a missing text is
written as the NULL indicator. -/
structure ErrorMessage where
  /-- the front -/
  head : ErrorHead
  /-- the error numbers of a batch -/
  batchCodes : BatchCodes
  /-- the row offsets of a batch -/
  batchOffsets : BatchOffsets
  /-- the error texts of a batch -/
  batchMessages : MarkedList 2 BatchText
  /-- the error number -/
  number : Ub 4
  /-- the number of rows -/
  rowCount : Ub 8
  /-- SQL type, since 20c -/
  sqlType : Ub 4
  /-- server checksum, since 20c -/
  serverChecksum : Ub 4
  /-- the error text -/
  text : Option TextBytes

namespace ErrorMessage

/-- The bytes of the text. -/
def encodeText (m : ErrorMessage) : Bytes :=
  match m.text with
  | some t => t.raw.encode
  | none => [nullIndicator]

/-- The bytes of the fields that a server with the given field version may have added. -/
def encodeModern (m : ErrorMessage) (ttcFieldVersion : UInt8) : Bytes :=
  if ttcFieldVersion ≥ fieldVersion21_1 then m.sqlType.encode ++ m.serverChecksum.encode else []

/-- The bytes behind the message type, as a server with the given field version writes them. -/
def encode (ttcFieldVersion : UInt8) (m : ErrorMessage) : Bytes :=
  m.head.encode ++ (m.batchCodes.encode Ub.encode ++ (m.batchOffsets.encode Ub.encode ++
    (m.batchMessages.encode BatchText.encode ++ (m.number.encode ++ (m.rowCount.encode ++
    (m.encodeModern ttcFieldVersion ++
      if m.number.value ≠ 0 then m.encodeText else []))))))

/-- The error number. -/
def code (m : ErrorMessage) : UInt32 := UInt32.ofNat m.number.value

/-- The text that is read: there is none with a success. -/
def text? (m : ErrorMessage) : Option String :=
  if m.number.value ≠ 0 then m.text.map (·.text) else none

/-- The error text as `parse_error_info_detailed` keeps it. -/
def message (m : ErrorMessage) : Option String := m.text?.map trim

/-- The cursor id. -/
def cursor (m : ErrorMessage) : UInt16 := UInt16.ofNat m.head.cursorId.value

/-- There are no batch errors. -/
def NoBatch (m : ErrorMessage) : Prop :=
  m.batchCodes.list.items = [] ∧ m.batchOffsets.list.items = [] ∧
    m.batchMessages.list.items = []

/-- An Error message with a cursor id, a number and a text, and nothing else. -/
def plain (cursorId : Ub 2) (number : Ub 4) (text : Option TextBytes) : ErrorMessage where
  head := ErrorHead.plain cursorId
  batchCodes := MarkedList.nil
  batchOffsets := MarkedList.nil
  batchMessages := MarkedList.nil
  number := number
  rowCount := Ub.zero
  sqlType := Ub.zero
  serverChecksum := Ub.zero
  text := text

lemma code_ne_zero_iff (m : ErrorMessage) : m.code ≠ 0 ↔ m.number.value ≠ 0 := by
  have h := m.number.toNat_value4
  constructor
  · rintro hne hzero
    exact hne (by rw [code, hzero]; rfl)
  · rintro hne hzero
    rw [code] at hzero
    rw [hzero] at h
    exact hne h.symm

/-- The text of an error that is not a success. -/
lemma reads_text (m : ErrorMessage) :
    Reads readStringWithLength m.encodeText (m.text.map (·.text)) := by
  rw [encodeText]
  cases m.text with
  | some t => exact t.reads_readStringWithLength
  | none => exact reads_nullIndicator.bind_nil (Reads.pure _)

/-- The last field of an Error message. -/
lemma reads_readErrorText (m : ErrorMessage) :
    Reads (readErrorText m.code) (if m.number.value ≠ 0 then m.encodeText else []) m.text? := by
  have hcode := m.code_ne_zero_iff
  rw [readErrorText, text?]
  by_cases h : m.number.value ≠ 0
  · simp only [if_pos h, if_pos (hcode.mpr h)]
    exact m.reads_text
  · simp only [if_neg h, if_neg (mt hcode.mp h)]
    exact Reads.pure none

/-- The fields of modern servers. -/
lemma reads_skipModernFields (m : ErrorMessage) (version : UInt8) :
    Reads (skipModernFields (version ≥ fieldVersion21_1)) (m.encodeModern version) () := by
  rw [skipModernFields, encodeModern]
  by_cases h : version ≥ fieldVersion21_1
  · rw [if_pos (by simpa using h), if_pos h]
    exact (m.sqlType.reads_skipUb (by omega)).bind (m.serverChecksum.reads_skipUb (by omega))
  · rw [if_neg (by simpa using h), if_neg h]
    exact Reads.pure ()

/-- The batch errors of an Error message, in a packet whose bytes may replace its number and text. -/
def batchErrors (m : ErrorMessage) (packet : Bytes) : List BatchError :=
  zipBatchErrors (overrideErrorText packet m.code m.message).1 (overrideErrorText packet m.code m.message).2
    m.batchCodes.numbers m.batchOffsets.offsets m.batchMessages.texts

/-- What the body of `parse_error_info_detailed` reads. -/
lemma reads_readErrorInfo (m : ErrorMessage) (packet : Bytes) {version : UInt8}
    (hv : version ≥ fieldVersion21_1) :
    ∃ info, Reads (readErrorInfo packet true true) (m.encode version) info ∧
      (info.code, info.message) = overrideErrorText packet m.code m.message ∧
      info.cursorId = m.cursor ∧ info.rowCount = UInt64.ofNat m.rowCount.value ∧
      info.batchErrors = m.batchErrors packet := by
  have hmodern := m.reads_skipModernFields version
  rw [decide_eq_true hv] at hmodern
  obtain ⟨code, message, h⟩ : ∃ code message,
      overrideErrorText packet m.code m.message = (code, message) := ⟨_, _, rfl⟩
  rw [batchErrors, h]
  refine ⟨⟨code, message, m.cursor, UInt64.ofNat m.rowCount.value,
    zipBatchErrors code message m.batchCodes.numbers m.batchOffsets.offsets m.batchMessages.texts⟩,
    ?_, rfl, rfl, rfl, rfl⟩
  refine m.head.reads_readErrorHead.bind ?_
  refine m.batchCodes.reads_readBatchCodes.bind ?_
  refine m.batchOffsets.reads_readBatchOffsets.bind ?_
  refine m.batchMessages.reads_readBatchMessages.bind ?_
  refine m.number.reads_readUb4.bind ?_
  refine m.rowCount.reads_readUb8.bind ?_
  refine hmodern.bind ?_
  refine m.reads_readErrorText.bind_nil ?_
  rw [ErrorMessage.message, ErrorMessage.code] at h
  simp only [h]
  exact Reads.pure _

/-- What an Error message comes to for the parsers that use `parse_error_info_with_rowcount`, in
a packet whose bytes may replace its number and text. -/
theorem parseErrorInfoWithRowcount_eq (m : ErrorMessage) {version : UInt8}
    (hv : version ≥ fieldVersion21_1) (c : ReadBuffer) (r : Bytes)
    (hc : c.rest = m.encode version ++ r) :
    parseErrorInfoWithRowcount c =
      .ok ((overrideErrorText c.data m.code m.message).1,
        (overrideErrorText c.data m.code m.message).2, m.cursor, UInt64.ofNat m.rowCount.value)
        (c.advance (m.encode version).length) := by
  obtain ⟨info, hread, htext, hcursor, hcount, -⟩ := m.reads_readErrorInfo c.data hv
  have hinfo : parseErrorInfoDetailed true true c =
      .ok info (c.advance (m.encode version).length) := hread c r hc
  rw [parseErrorInfoWithRowcount, bind_ok hinfo, ← htext, ← hcursor, ← hcount]
  rfl

/-- What an Error message without batch errors comes to for the parser of fetch responses. -/
theorem reads_parseErrorMessageInfo (m : ErrorMessage) (version : UInt8) (h : m.NoBatch) :
    Reads (parseErrorMessageInfo version) (m.encode version)
      (m.code, m.text?.getD "", m.cursor, m.code ≠ 1403) := by
  obtain ⟨hcodes, hoffsets, hmessages⟩ := h
  refine m.head.reads_readErrorHead.bind ?_
  refine (m.batchCodes.reads_indicated2_of_nil hcodes).bind ?_
  refine (m.batchOffsets.reads_indicated4_of_nil hoffsets).bind ?_
  refine (m.batchMessages.reads_indicated2_of_nil hmessages).bind ?_
  refine m.number.reads_readUb4.bind ?_
  refine m.rowCount.reads_readUb8.bind ?_
  refine (m.reads_skipModernFields version).bind ?_
  exact m.reads_readErrorText.bind_nil (Reads.pure _)

end ErrorMessage

/-- The digits of the number 942 are few. -/
lemma length_failureNumber_le : ([3, 0xAE] : Bytes).length ≤ 4 := by decide

/-- A text of an error that is short. -/
lemma length_failureText_le : (asBytes "ORA-00942").length ≤ 252 := by decide

end OracleRs
