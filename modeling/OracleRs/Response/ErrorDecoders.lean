import OracleRs.Response.ErrorInfo

set_option relaxedAutoImplicit false
set_option autoImplicit false

/-!
# The decoders of the Error message

The Error message is decoded in three ways: `parse_error_message_info` asks for the field version
before it skips the fields that Oracle Database 20c has added, `parse_error_info` never skips them,
and `parse_error_info_with_rowcount` always does. The first one skips the lists of batch errors as
byte strings, the other two read them item by item. The other two also replace the number of an
error whose text does not look like an Oracle error.

## Main definitions

* `OracleRs.errorDecoders` — the decoders.
* `OracleRs.DecodersAgree` — they return the same number and cursor id, and stop at the end of the
  message.

## Main results

* `OracleRs.decodersAgree_iff` — on which messages they agree.
-/

namespace OracleRs

open Cursor

/-! ## The decoders -/

/-- The number and the cursor id that `parse_error_info_detailed` returns. -/
def decodeErrorInfo (modernFields : Bool) : ReadM (UInt32 × UInt16) := do
  let info ← parseErrorInfoDetailed true modernFields
  return (info.code, info.cursorId)

/-- The decoders of the Error message, with the number and the cursor id as their results:
`parse_error_message_info`, `parse_error_info` and `parse_error_info_with_rowcount`. -/
def errorDecoders (ttcFieldVersion : UInt8) : List (ReadM (UInt32 × UInt16)) :=
  [(fun (code, _, cursor, _) => (code, cursor)) <$> parseErrorMessageInfo ttcFieldVersion,
    (fun (code, _, cursor) => (code, cursor)) <$> parseErrorInfo,
    (fun (code, _, cursor, _) => (code, cursor)) <$> parseErrorInfoWithRowcount]

/-- On the message, whatever stands in front of it and behind it in the packet, the decoders return
the same number and cursor id, and stop at its end. -/
def DecodersAgree (ttcFieldVersion : UInt8) (m : ErrorMessage) : Prop :=
  ∀ (c : ReadBuffer) (r : Bytes), c.rest = m.encode ttcFieldVersion ++ r →
    ∃ result, ∀ decode ∈ errorDecoders ttcFieldVersion,
      decode c = .ok result (c.advance (m.encode ttcFieldVersion).length)

/-- The end of an Error message, behind the row count. -/
def readErrorEnd (modernFields : Bool) (code : UInt32) : ReadM (Option String) := do
  skipModernFields modernFields
  readErrorText code

/-- The lists of batch errors, as `parse_error_message_info` skips them, the number, and the text of
a server without modern fields. -/
def readNumberAndText : ReadM UInt32 := do
  let _batchCodes ← indicated2 skipRawBytesChunked
  let _batchOffsets ← indicated4 skipRawBytesChunked
  let _batchMessages ← indicated2 skipRawBytesChunked
  let errorNum ← readUb4
  let _rowCount ← readUb8
  let _errorMsg ← readErrorText errorNum
  return errorNum

/-- What has been read of an Error message before its end. -/
structure ErrorFront where
  /-- the cursor id -/
  cursorId : UInt16
  /-- the error numbers of a batch -/
  batchCodes : List UInt32
  /-- the row offsets of a batch -/
  batchOffsets : List ℕ
  /-- the error texts of a batch -/
  batchMessages : List String
  /-- the error number -/
  errorCode : UInt32
  /-- the row count -/
  rowCount : UInt64

/-- The first part of `parse_error_info_detailed`. -/
def readErrorFront : ReadM ErrorFront := do
  let cursorId ← readErrorHead
  let batchCodes ← readBatchCodes
  let batchOffsets ← readBatchOffsets
  let batchMessages ← readBatchMessages
  let errorCode ← readUb4
  let rowCount ← readUb8
  return ⟨cursorId, batchCodes, batchOffsets, batchMessages, errorCode, rowCount⟩

/-- The second part of `parse_error_info_detailed`. -/
def finishErrorInfo (packetBytes : Bytes) (modernFields : Bool) (front : ErrorFront) :
    ReadM ParsedErrorInfo := do
  let text ← readErrorEnd modernFields front.errorCode
  let shown := overrideErrorText packetBytes front.errorCode (text.map trim)
  return {
    code := shown.1
    message := shown.2
    cursorId := front.cursorId
    rowCount := front.rowCount
    batchErrors := zipBatchErrors shown.1 shown.2 front.batchCodes front.batchOffsets
      front.batchMessages }

lemma readErrorInfo_eq (packetBytes : Bytes) (modernFields : Bool) :
    readErrorInfo packetBytes true modernFields =
      readErrorFront >>= finishErrorInfo packetBytes modernFields := by
  simp only [readErrorInfo, readErrorFront, finishErrorInfo, readErrorEnd, bind_assoc, pure_bind]
  rfl

/-! ## The parts of a message -/

namespace ErrorMessage

/-- The batch errors, the number and the row count. -/
def encodeMiddle (m : ErrorMessage) : Bytes :=
  m.batchCodes.encode Ub.encode ++ (m.batchOffsets.encode Ub.encode ++
    (m.batchMessages.encode BatchText.encode ++ (m.number.encode ++ m.rowCount.encode)))

/-- Everything before the modern fields. -/
def encodeFront (m : ErrorMessage) : Bytes := m.head.encode ++ m.encodeMiddle

/-- The text, which is there if the number is not zero. -/
def encodeEnd (m : ErrorMessage) : Bytes := if m.number.value ≠ 0 then m.encodeText else []

lemma encode_eq (m : ErrorMessage) (version : UInt8) :
    m.encode version = m.encodeFront ++ (m.encodeModern version ++ m.encodeEnd) := by
  simp [encode, encodeFront, encodeMiddle, encodeEnd]

lemma encodeModern_of_old (m : ErrorMessage) {version : UInt8} (h : ¬ version ≥ fieldVersion21_1) :
    m.encodeModern version = [] := if_neg h

/-- The lists of batch errors can be skipped as byte strings, and what follows them then has the
number of the message and its end. -/
def ReadsAsByteStrings (m : ErrorMessage) : Prop :=
  Reads readNumberAndText (m.encodeMiddle ++ m.encodeEnd) m.code

/-- So it is if there are no batch errors. -/
lemma NoBatch.readsAsByteStrings {m : ErrorMessage} (h : m.NoBatch) : m.ReadsAsByteStrings := by
  obtain ⟨hcodes, hoffsets, hmessages⟩ := h
  rw [ReadsAsByteStrings, encodeMiddle]
  simp only [List.append_assoc]
  exact (m.batchCodes.reads_indicated2_of_nil hcodes).bind <|
    (m.batchOffsets.reads_indicated4_of_nil hoffsets).bind <|
      (m.batchMessages.reads_indicated2_of_nil hmessages).bind <|
        m.number.reads_readUb4.bind <| m.rowCount.reads_readUb8.bind <|
          m.reads_readErrorText.bind_nil (Reads.pure _)

/-- By coincidence, the bytes of the text are two variable-length integers and an Oracle error
text, so that it is read to its end by a decoder that skips two integers first. -/
def TextHoldsText (m : ErrorMessage) : Prop :=
  ∃ text, Reads (readErrorEnd true m.code) m.encodeEnd text ∧ (text.map trim).any containsOra

variable {m : ErrorMessage} {version : UInt8} {c : ReadBuffer} {r : Bytes}

/-- What the decoders that read the batch errors item by item have read before the end. -/
lemma reads_readErrorFront (m : ErrorMessage) : ∃ codes offsets messages,
    Reads readErrorFront m.encodeFront
      ⟨m.cursor, codes, offsets, messages, m.code, UInt64.ofNat m.rowCount.value⟩ := by
  have hcodes := m.batchCodes.reads_readBatchCodes
  have hoffsets := m.batchOffsets.reads_readBatchOffsets
  have hmessages := m.batchMessages.reads_readBatchMessages
  exact ⟨_, _, _, m.head.reads_readErrorHead.bind <| hcodes.bind <|
    hoffsets.bind <| hmessages.bind <| m.number.reads_readUb4.bind <|
      m.rowCount.reads_readUb8.bind_nil (Reads.pure _)⟩

/-- The decoders that read the batch errors item by item differ only in the end of the message. -/
lemma decodeErrorInfo_eq (modernFields : Bool)
    (hc : c.rest = m.encodeFront ++ r) :
    decodeErrorInfo modernFields c =
      (do
        let text ← readErrorEnd modernFields m.code
        return ((overrideErrorText c.data m.code (text.map trim)).1, m.cursor) : ReadM _)
      (c.advance m.encodeFront.length) := by
  obtain ⟨codes, offsets, messages, hfront⟩ := m.reads_readErrorFront
  have hdetailed : decodeErrorInfo modernFields c = (do
      let info ← readErrorInfo c.data true modernFields
      return (info.code, info.cursorId) : ReadM _) c := by
    rw [decodeErrorInfo, parseErrorInfoDetailed, bind_assoc]
    rfl
  rw [hdetailed, readErrorInfo_eq, bind_assoc, bind_ok (hfront c r hc), finishErrorInfo, bind_assoc]
  simp only [pure_bind]

/-- `parse_error_message_info` on a message without modern fields. -/
lemma parseErrorMessageInfo_eq (hv : ¬ version ≥ fieldVersion21_1)
    (hc : c.rest = m.head.encode ++ r) :
    ((fun (code, _, cursor, _) => (code, cursor)) <$> parseErrorMessageInfo version) c =
      (do
        let code ← readNumberAndText
        return (code, m.cursor) : ReadM _) (c.advance m.head.encode.length) := by
  have hmodern : skipModernFields (version ≥ fieldVersion21_1) = pure () := if_neg (by simpa using hv)
  rw [map_eq_pure_bind, parseErrorMessageInfo, hmodern, bind_assoc,
    bind_ok (m.head.reads_readErrorHead c r hc)]
  simp only [readNumberAndText, bind_assoc, pure_bind]
  rfl

/-! ## The end of a message -/

lemma exact_readErrorText (code : UInt32) : Exact (readErrorText code) := by
  unfold readErrorText
  split
  · exact exact_readStringWithLength
  · exact Exact.pure _

lemma exact_readErrorEnd (modernFields : Bool) (code : UInt32) :
    Exact (readErrorEnd modernFields code) := by
  refine Exact.bind ?_ fun _ => exact_readErrorText code
  unfold skipModernFields
  split
  · exact exact_skipUb.bind fun _ => exact_skipUb
  · exact Exact.pure _

lemma exact_readNumberAndText : Exact readNumberAndText :=
  (exact_indicated2 exact_skipRawBytesChunked).bind fun _ =>
    (exact_indicated4 exact_skipRawBytesChunked).bind fun _ =>
      (exact_indicated2 exact_skipRawBytesChunked).bind fun _ =>
        exact_readUb4.bind fun code => exact_readUb8.bind fun _ =>
          (exact_readErrorText code).bind fun _ => Exact.pure _

/-- When a decoder that reads the batch errors item by item stops behind `b`. -/
lemma decodeErrorInfo_ok_iff (modernFields : Bool) {b : Bytes} {code : UInt32} {cursor : UInt16}
    (hc : c.rest = m.encodeFront ++ (b ++ r)) :
    decodeErrorInfo modernFields c = .ok (code, cursor) (c.advance (m.encodeFront ++ b).length) ↔
      cursor = m.cursor ∧ ∃ text, Reads (readErrorEnd modernFields m.code) b text ∧
        (overrideErrorText c.data m.code (text.map trim)).1 = code := by
  have hrest := rest_advance_of_append hc
  have hend : c.advance (m.encodeFront ++ b).length =
      (c.advance m.encodeFront.length).advance b.length := by
    rw [List.length_append, advance_advance]
  rw [decodeErrorInfo_eq modernFields hc, hend]
  constructor
  · intro h
    obtain ⟨text, c₁, htext, hpure⟩ := exists_of_bind_ok h
    cases hpure
    exact ⟨rfl, text, (exact_readErrorEnd _ _).reads_of_ok hrest htext, rfl⟩
  · rintro ⟨rfl, text, htext, rfl⟩
    rw [bind_ok (htext _ r hrest)]
    rfl

/-- When the decoder that skips the batch errors stops at the end of a message without modern
fields. -/
lemma parseErrorMessageInfo_ok_iff (hv : ¬ version ≥ fieldVersion21_1) {code : UInt32}
    {cursor : UInt16} (hc : c.rest = m.encodeFront ++ (m.encodeEnd ++ r)) :
    ((fun (code, _, cursor, _) => (code, cursor)) <$> parseErrorMessageInfo version) c =
        .ok (code, cursor) (c.advance (m.encodeFront ++ m.encodeEnd).length) ↔
      cursor = m.cursor ∧ Reads readNumberAndText (m.encodeMiddle ++ m.encodeEnd) code := by
  have hhead : c.rest = m.head.encode ++ ((m.encodeMiddle ++ m.encodeEnd) ++ r) := by
    rw [hc, encodeFront]
    simp only [List.append_assoc]
  have hrest := rest_advance_of_append hhead
  have hend : c.advance (m.encodeFront ++ m.encodeEnd).length =
      (c.advance m.head.encode.length).advance (m.encodeMiddle ++ m.encodeEnd).length := by
    rw [advance_advance, encodeFront, List.append_assoc, List.length_append]
  rw [parseErrorMessageInfo_eq hv hhead, hend]
  constructor
  · intro h
    obtain ⟨code', c₁, hread, hpure⟩ := exists_of_bind_ok h
    cases hpure
    exact ⟨rfl, exact_readNumberAndText.reads_of_ok hrest hread⟩
  · rintro ⟨rfl, hread⟩
    rw [bind_ok (hread _ r hrest)]
    rfl

/-- A text is not read past the modern fields in front of it: their first number is taken for it. -/
lemma not_reads_modern (hv : version ≥ fieldVersion21_1) (text : Option String) :
    ¬ Reads (readErrorEnd false m.code) (m.encodeModern version ++ m.encodeEnd) text := by
  intro h
  have hend : readErrorEnd false m.code = readErrorText m.code := rfl
  rw [hend, readErrorText, encodeModern, if_pos hv, List.append_assoc] at h
  split at h
  · have hlen : m.sqlType.digits.length ≤ 252 := m.sqlType.le.trans (by omega)
    have hraw : Reads readBytesWithLength m.sqlType.encode (some m.sqlType.digits) :=
      (ByteString.short m.sqlType.digits hlen).reads_readBytesWithLength
    cases hutf8 : fromUtf8 m.sqlType.digits with
    | none =>
      have hall := h ⟨m.sqlType.encode ++ (m.serverChecksum.encode ++ m.encodeEnd), 0⟩ [] (by simp)
      rw [readStringWithLength, bind_ok (hraw _ _ rfl)] at hall
      simp only [hutf8] at hall
      cases hall
    | some s =>
      have hstring : Reads readStringWithLength m.sqlType.encode (some s) := by
        refine hraw.bind_nil ?_
        simp only [hutf8]
        exact Reads.pure _
      obtain ⟨-, hlen⟩ := hstring.unique h (List.append_nil _).symm
      have hpos := List.length_pos_iff.mpr m.serverChecksum.encode_ne_nil
      rw [List.length_append, List.length_append] at hlen
      omega
  · obtain ⟨-, hlen⟩ := (Reads.pure none).unique h
      (List.append_nil (m.sqlType.encode ++ (m.serverChecksum.encode ++ m.encodeEnd))).symm
    have hpos := List.length_pos_iff.mpr m.sqlType.encode_ne_nil
    rw [List.length_append] at hlen
    simp only [List.length_nil] at hlen
    omega

/-- A text that is read behind two numbers has bytes. -/
lemma code_ne_zero_of_reads {text : Option String}
    (h : Reads (readErrorEnd true m.code) m.encodeEnd text) : m.code ≠ 0 := by
  rw [code_ne_zero_iff]
  intro hzero
  rw [encodeEnd, if_neg (not_not.mpr hzero)] at h
  have := h ⟨[], 0⟩ [] rfl
  cases this

end ErrorMessage

/-! ## Error texts elsewhere in the packet -/

/-- A line with the text of error 1 or 2. -/
def oraLine (code : UInt8) : Bytes := [79, 82, 65, 45, 48, 48, 48, 48, 48 + code, 10]

/-- Such a line at the beginning of a packet is found first. -/
lemma exists_extractOracleErrorText {code : UInt8} (hcode : code = 1 ∨ code = 2) (b : Bytes) :
    ∃ message, extractOracleErrorText (oraLine code ++ b) = some (code.toUInt32, message) := by
  have hfirst : fromFirstOra (oraLine code ++ b) = some (oraLine code ++ b) := rfl
  have hdigits : ((oraLine code ++ b).drop 4).take 5 = [48, 48, 48, 48, 48 + code] := rfl
  have hline : (oraLine code ++ b).takeWhile (fun b => b ≠ 10 && b ≠ 0x1D && b ≠ 0) =
      [79, 82, 65, 45, 48, 48, 48, 48, 48 + code] := by
    obtain rfl | rfl := hcode <;> rfl
  have hparse : parseInt 0 (2 ^ 32 - 1) [48, 48, 48, 48, 48 + code] = some (code.toNat : ℤ) := by
    obtain rfl | rfl := hcode <;> decide
  have hdigit : ¬ ([48, 48, 48, 48, 48 + code].length < 5 ∨
      ¬ [48, 48, 48, 48, 48 + code].all isAsciiDigit) := by
    obtain rfl | rfl := hcode <;> decide
  have hmessage : trim (fromUtf8Lossy [79, 82, 65, 45, 48, 48, 48, 48, 48 + code]) ≠ "" := by
    obtain rfl | rfl := hcode <;> decide +kernel
  have hback : UInt32.ofNat (code.toNat : ℤ).toNat = code.toUInt32 := by
    obtain rfl | rfl := hcode <;> rfl
  refine ⟨trim (fromUtf8Lossy [79, 82, 65, 45, 48, 48, 48, 48, 48 + code]), ?_⟩
  simp only [extractOracleErrorText, hfirst, Option.bind_eq_bind, Option.bind_some, hdigits, hline,
    hparse, if_neg hdigit, if_neg hmessage, hback]

/-- The number of an error whose text looks like an Oracle error is kept. -/
lemma overrideErrorText_of_containsOra {packet : Bytes} {code : UInt32} {message : Option String}
    (h : message.any containsOra) : (overrideErrorText packet code message).1 = code := by
  rw [overrideErrorText, if_neg fun hne => hne.2 h]

/-- The number of any other error is replaced by that in the packet. -/
lemma overrideErrorText_oraLine {line : UInt8} (hline : line = 1 ∨ line = 2) (b : Bytes)
    {code : UInt32} (hcode : code ≠ 0) {message : Option String} (h : ¬ message.any containsOra) :
    (overrideErrorText (oraLine line ++ b) code message).1 = line.toUInt32 := by
  obtain ⟨text, htext⟩ := exists_extractOracleErrorText hline b
  rw [overrideErrorText, if_pos ⟨hcode, h⟩, htext]

/-- A text that gives the same number in every packet looks like an Oracle error, and the number is
its own. -/
lemma containsOra_of_forall_override {code number : UInt32} (hcode : code ≠ 0)
    {message : Option String} {b : Bytes}
    (h : ∀ line : UInt8, line = 1 ∨ line = 2 →
      (overrideErrorText (oraLine line ++ b) code message).1 = number) :
    message.any containsOra ∧ number = code := by
  have hora : message.any containsOra := by
    by_contra hora
    have hone := h 1 (.inl rfl)
    have htwo := h 2 (.inr rfl)
    rw [overrideErrorText_oraLine (.inl rfl) b hcode hora] at hone
    rw [overrideErrorText_oraLine (.inr rfl) b hcode hora, ← hone] at htwo
    exact absurd htwo (by decide)
  exact ⟨hora, by rw [← h 1 (.inl rfl), overrideErrorText_of_containsOra hora]⟩

/-! ## Agreement -/

variable {version : UInt8} {m : ErrorMessage} {c : ReadBuffer} {r : Bytes}

/-- The decoders on one message. -/
lemma errorDecoders_iff (b : Bytes) (result : UInt32 × UInt16) :
    (∀ decode ∈ errorDecoders version, decode c = .ok result (c.advance b.length)) ↔
      ((fun (code, _, cursor, _) => (code, cursor)) <$> parseErrorMessageInfo version) c =
        .ok result (c.advance b.length) ∧
      decodeErrorInfo false c = .ok result (c.advance b.length) ∧
      decodeErrorInfo true c = .ok result (c.advance b.length) := by
  have hplain : (fun (code, _, cursor) => (code, cursor)) <$> parseErrorInfo =
      decodeErrorInfo false := by
    rw [map_eq_pure_bind, parseErrorInfo, decodeErrorInfo, bind_assoc]
    rfl
  have hrowcount : (fun (code, _, cursor, _) => (code, cursor)) <$> parseErrorInfoWithRowcount =
      decodeErrorInfo true := by
    rw [map_eq_pure_bind, parseErrorInfoWithRowcount, decodeErrorInfo, bind_assoc]
    rfl
  simp only [errorDecoders, hplain, hrowcount, List.forall_mem_cons, List.not_mem_nil,
    false_imp_iff, forall_true_iff, and_true]

/-- When the decoders agree on a message of an older server at one place in a packet. -/
lemma agree_iff_of_old (hv : ¬ version ≥ fieldVersion21_1) (hc : c.rest = m.encode version ++ r)
    (code : UInt32) (cursor : UInt16) :
    (∀ decode ∈ errorDecoders version,
        decode c = .ok (code, cursor) (c.advance (m.encode version).length)) ↔
      cursor = m.cursor ∧ Reads readNumberAndText (m.encodeMiddle ++ m.encodeEnd) code ∧
        (overrideErrorText c.data m.code m.message).1 = code ∧
        ∃ text, Reads (readErrorEnd true m.code) m.encodeEnd text ∧
          (overrideErrorText c.data m.code (text.map trim)).1 = code := by
  have hold : m.encode version = m.encodeFront ++ m.encodeEnd := by
    rw [m.encode_eq, m.encodeModern_of_old hv, List.nil_append]
  have htext : Reads (readErrorEnd false m.code) m.encodeEnd m.text? := m.reads_readErrorText
  rw [hold, List.append_assoc] at hc
  rw [errorDecoders_iff, hold, ErrorMessage.parseErrorMessageInfo_ok_iff hv hc,
    ErrorMessage.decodeErrorInfo_ok_iff false hc, ErrorMessage.decodeErrorInfo_ok_iff true hc]
  constructor
  · rintro ⟨⟨rfl, hnumber⟩, ⟨-, text, hread, hinfo⟩, -, hrows⟩
    obtain rfl := hread.right_unique htext
    exact ⟨rfl, hnumber, hinfo, hrows⟩
  · rintro ⟨rfl, hnumber, hinfo, hrows⟩
    exact ⟨⟨rfl, hnumber⟩, ⟨rfl, m.text?, htext, hinfo⟩, rfl, hrows⟩

/-- On no message of a server since 20c the decoders agree. -/
lemma not_agree_of_modern (hv : version ≥ fieldVersion21_1) (hc : c.rest = m.encode version ++ r)
    (result : UInt32 × UInt16) :
    ¬ ∀ decode ∈ errorDecoders version,
      decode c = .ok result (c.advance (m.encode version).length) := by
  intro h
  obtain ⟨-, hresult, -⟩ := (errorDecoders_iff _ _).mp h
  rw [m.encode_eq] at hc hresult
  rw [List.append_assoc] at hc
  obtain ⟨-, text, hread, -⟩ := (ErrorMessage.decodeErrorInfo_ok_iff false hc).mp hresult
  exact ErrorMessage.not_reads_modern hv text hread

/-- The decoders agree on a message, whatever stands around it in the packet, exactly if the server
is older than 20c, the text looks like an Oracle error, and by coincidence the other ways to read
the message end with it, too. On servers since 20c they agree on no message.

**Proof sketch.** One decoder skips the modern fields and another does not, so without a coincidence
they stop in different places. If an error text does not look like an Oracle error, a line in front
of the message changes its number for two of them. -/
theorem decodersAgree_iff (version : UInt8) (m : ErrorMessage) :
    DecodersAgree version m ↔
      ¬ version ≥ fieldVersion21_1 ∧ m.message.any containsOra ∧ m.TextHoldsText ∧
        m.ReadsAsByteStrings := by
  constructor
  · intro h
    have hv : ¬ version ≥ fieldVersion21_1 := by
      intro hv
      obtain ⟨result, hresult⟩ := h ⟨m.encode version, 0⟩ [] (by simp)
      exact not_agree_of_modern hv (r := []) (by simp) result hresult
    -- the message behind a line with the text of error 1 or 2
    have hline (line : UInt8) : rest ⟨oraLine line ++ m.encode version, 10⟩ =
        m.encode version ++ [] := (List.append_nil _).symm
    have hresult (line : UInt8) : ∃ code,
        Reads readNumberAndText (m.encodeMiddle ++ m.encodeEnd) code ∧
        (overrideErrorText (oraLine line ++ m.encode version) m.code m.message).1 = code ∧
        ∃ text, Reads (readErrorEnd true m.code) m.encodeEnd text ∧
          (overrideErrorText (oraLine line ++ m.encode version) m.code (text.map trim)).1 = code := by
      obtain ⟨⟨code, cursor⟩, hresult⟩ := h _ [] (hline line)
      exact ⟨code, ((agree_iff_of_old hv (hline line) code cursor).mp hresult).2⟩
    obtain ⟨number, hnumber, -, text, htext, -⟩ := hresult 1
    have hcode : m.code ≠ 0 := ErrorMessage.code_ne_zero_of_reads htext
    have hsame (line : UInt8) :
        (overrideErrorText (oraLine line ++ m.encode version) m.code m.message).1 = number ∧
        (overrideErrorText (oraLine line ++ m.encode version) m.code (text.map trim)).1 = number := by
      obtain ⟨number', hnumber', hinfo, text', htext', hrows⟩ := hresult line
      obtain rfl := hnumber.right_unique hnumber'
      obtain rfl := htext.right_unique htext'
      exact ⟨hinfo, hrows⟩
    obtain ⟨hmessage, rfl⟩ :=
      containsOra_of_forall_override hcode fun line _ => (hsame line).1
    obtain ⟨hora, -⟩ :=
      containsOra_of_forall_override hcode fun line _ => (hsame line).2
    exact ⟨hv, hmessage, ⟨text, htext, hora⟩, hnumber⟩
  · rintro ⟨hv, hmessage, ⟨text, htext, hora⟩, hnumber⟩ c r hc
    refine ⟨(m.code, m.cursor), (agree_iff_of_old hv hc m.code m.cursor).mpr ⟨rfl, hnumber, ?_, ?_⟩⟩
    · exact overrideErrorText_of_containsOra hmessage
    · exact ⟨text, htext, overrideErrorText_of_containsOra hora⟩

/-- The decoders do not agree on the success message of a server of 23ai. -/
theorem not_decodersAgree :
    ¬ DecodersAgree 24 (ErrorMessage.plain (Ub.byte 5) Ub.zero none) := by
  intro h
  obtain ⟨result, hresult⟩ :=
    h ⟨(ErrorMessage.plain (Ub.byte 5) Ub.zero none).encode 24, 0⟩ [] (List.append_nil _).symm
  exact not_agree_of_modern (by decide) (List.append_nil _).symm result hresult

end OracleRs
