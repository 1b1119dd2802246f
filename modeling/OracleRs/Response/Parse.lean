import OracleRs.Response.Parameters
import OracleRs.Response.Row

set_option relaxedAutoImplicit false
set_option autoImplicit false

/-!
# Parsing responses

The four message loops of `connection.rs`: the parsers of query, fetch, DML and PL/SQL responses.
Each loop reads a message type and handles the kinds it knows; what it does with the others
differs from loop to loop.

## Main definitions

* `OracleRs.RowState` — what the row parsers carry from message to message.
* `OracleRs.queryTurn`, `OracleRs.fetchTurn`, `OracleRs.dmlTurn`, `OracleRs.plsqlTurn` — one turn
  of each loop.
* `OracleRs.parseQueryResponseWithColumns`, `OracleRs.parseFetchResponse`,
  `OracleRs.parseDmlResponse`, `OracleRs.parsePlsqlResponse` — the parsers.
-/

namespace OracleRs

open Cursor

/-- The result of a query, a fetch or a DML statement (`QueryResult`). -/
structure QueryResult where
  /-- column metadata -/
  columns : List ColumnInfo
  /-- the rows -/
  rows : List Row
  /-- the number of rows affected -/
  rowsAffected : UInt64
  /-- are there more rows to fetch? -/
  hasMoreRows : Bool
  /-- the cursor id -/
  cursorId : UInt16

/-! ## Rows -/

/-- The rows read so far, with what the next row depends on. -/
structure RowState where
  /-- the rows -/
  rows : List Row
  /-- the bit vector for the next row -/
  bitVector : Option Bytes
  /-- the values of the previous row -/
  previousRowValues : Option Row

namespace RowState

/-- No rows yet. -/
def start : RowState := ⟨[], none, none⟩

/-- The state after a row: its values are the previous ones, the bit vector is used up. -/
def push (s : RowState) (row : Row) : RowState := ⟨s.rows ++ [row], none, some row⟩

end RowState

/-- The RowData arm of the query and fetch parsers. -/
def readRowData (codecs : Codecs) (caps : Capabilities) (columns : List ColumnInfo)
    (s : RowState) : ReadM RowState := do
  let row ← parseRowDataWithBitvector codecs caps columns s.bitVector s.previousRowValues
  return s.push row

/-- The BitVector arm of the query and fetch parsers: one bit for each column, rounded up to
bytes. -/
def readBitVector (columns : List ColumnInfo) (s : RowState) : ReadM RowState := do
  let _numColumnsSent ← readUb2
  let numBytes := (columns.length + 7) / 8
  if numBytes > 0 then
    let bv ← readBytesVec numBytes
    return { s with bitVector := some bv }
  else
    return s

/-- The Status arm of the parsers that go on behind a Status message. -/
def skipStatus : ReadM Unit := do
  let _callStatus ← readUb4
  let _endToEndSeq ← readUb2

/-- One turn of a message loop: unless the loop has finished or nothing is left, the type of the
next message is read, and `message` says what is done with it. -/
def messageTurn {σ α : Type} (finished : σ → Bool) (result : σ → α)
    (message : σ → Option MessageType → ReadM (σ ⊕ α)) (s : σ) : ReadM (σ ⊕ α) := do
  let buf ← get
  if finished s ∨ buf.remaining = 0 then
    return .inr (result s)
  let msgType ← readU8
  message s (MessageType.tryFrom msgType)

/-- Run a message loop on a response: the payload has two bytes of data flags and at least one
byte more. -/
def parseMessages {σ α : Type} (tooShort : String) (turn : σ → ReadM (σ ⊕ α)) (s : σ)
    (payload : Bytes) : Except Error α :=
  if payload.length < 3 then
    .error (.protocol tooShort)
  else
    ReadM.runOn (do skip 2; iterate .stuck turn s) payload

/-! ## Queries -/

/-- The loop variables of `parse_query_response_with_columns`. -/
structure QueryState where
  /-- the columns known so far -/
  columns : List ColumnInfo
  /-- the rows -/
  rowState : RowState
  /-- the cursor id -/
  cursorId : UInt16
  /-- the number of rows affected -/
  rowCount : UInt64
  /-- are there more rows? -/
  hasMoreRows : Bool
  /-- has the closing message been read? -/
  endOfResponse : Bool

namespace QueryState

/-- The loop variables before the first message. -/
def start (knownColumns : List ColumnInfo) : QueryState :=
  ⟨knownColumns, .start, 0, 0, false, false⟩

/-- The result of the parser. -/
def result (s : QueryState) : QueryResult :=
  ⟨s.columns, s.rowState.rows, s.rowCount, s.hasMoreRows, s.cursorId⟩

end QueryState

/-- The Error arm of `parse_query_response_with_columns`. -/
def queryError (s : QueryState) : ReadM QueryState := do
  let (errorCode, errorMsg, cid, rc) ← parseErrorInfoWithRowcount
  if IsFailure errorCode then
    throw (.oracleError errorCode (errorMsg.getD ""))
  else
    return { s with
      cursorId := cid
      rowCount := rc
      hasMoreRows := cid ≠ 0 && errorCode ≠ 1403
      endOfResponse := true }

/-- What `parse_query_response_with_columns` does with a message. -/
def queryMessage (codecs : Codecs) (caps : Capabilities) (s : QueryState) :
    Option MessageType → ReadM (QueryState ⊕ QueryResult)
  | some .describeInfo => do
    skipRawBytesChunked
    let columns ← parseDescribeInfo caps.ttcFieldVersion
    return .inl { s with columns := columns }
  | some .rowHeader => do
    parseRowHeader
    return .inl s
  | some .rowData => do
    let rowState ← readRowData codecs caps s.columns s.rowState
    return .inl { s with rowState := rowState }
  | some .error => do
    return .inl (← queryError s)
  | some .parameter => do
    parseReturnParameters
    return .inl s
  | some .serverSidePiggyback => do
    parseServerSidePiggyback
    return .inl s
  | some .status => do
    skipStatus
    return .inl s
  | some .bitVector => do
    let rowState ← readBitVector s.columns s.rowState
    return .inl { s with rowState := rowState }
  -- an unknown message type ends the loop
  | _ => return .inr s.result

/-- One turn of the loop of `parse_query_response_with_columns`. -/
def queryTurn (codecs : Codecs) (caps : Capabilities) :
    QueryState → ReadM (QueryState ⊕ QueryResult) :=
  messageTurn QueryState.endOfResponse QueryState.result (queryMessage codecs caps)

/-- `parse_query_response_with_columns`. -/
def parseQueryResponseWithColumns (codecs : Codecs) (caps : Capabilities) (payload : Bytes)
    (knownColumns : List ColumnInfo) : Except Error QueryResult :=
  parseMessages "Query response too short" (queryTurn codecs caps) (.start knownColumns) payload

/-- `parse_query_response`. -/
def parseQueryResponse (codecs : Codecs) (caps : Capabilities) (payload : Bytes) :
    Except Error QueryResult :=
  parseQueryResponseWithColumns codecs caps payload []

/-! ## Fetches -/

/-- The loop variables of `parse_fetch_response`. -/
structure FetchState where
  /-- the rows -/
  rowState : RowState
  /-- are there more rows? -/
  hasMoreRows : Bool
  /-- the cursor id -/
  responseCursorId : UInt16

namespace FetchState

/-- The loop variables before the first message. -/
def start (cursorId : UInt16) : FetchState := ⟨.start, true, cursorId⟩

/-- The result of the parser. -/
def result (columns : List ColumnInfo) (s : FetchState) : QueryResult :=
  ⟨columns, s.rowState.rows, 0, s.hasMoreRows, s.responseCursorId⟩

end FetchState

/-- The RowHeader arm of `parse_fetch_response`: a bit vector in the header is for the next
row. -/
def fetchRowHeader (s : FetchState) : ReadM FetchState := do
  match ← readRowHeader with
  | some bv => return { s with rowState := { s.rowState with bitVector := some bv } }
  | none => return s

/-- The Error arm of `parse_fetch_response`. -/
def fetchError (ttcFieldVersion : UInt8) (s : FetchState) : ReadM FetchState := do
  let (errorCode, errorMsg, cid, moreRows) ← parseErrorMessageInfo ttcFieldVersion
  if IsFailure errorCode then
    throw (.oracleError errorCode errorMsg)
  else
    return { s with responseCursorId := cid, hasMoreRows := moreRows }

/-- What `parse_fetch_response` does with a message. -/
def fetchMessage (codecs : Codecs) (caps : Capabilities) (columns : List ColumnInfo)
    (s : FetchState) : Option MessageType → ReadM (FetchState ⊕ QueryResult)
  | some .rowHeader => do
    return .inl (← fetchRowHeader s)
  | some .rowData => do
    let rowState ← readRowData codecs caps columns s.rowState
    return .inl { s with rowState := rowState }
  | some .bitVector => do
    let rowState ← readBitVector columns s.rowState
    return .inl { s with rowState := rowState }
  | some .error => do
    return .inr ((← fetchError caps.ttcFieldVersion s).result columns)
  -- Status, EndOfResponse and every other message type end the loop
  | _ => return .inr (s.result columns)

/-- One turn of the loop of `parse_fetch_response`. -/
def fetchTurn (codecs : Codecs) (caps : Capabilities) (columns : List ColumnInfo) :
    FetchState → ReadM (FetchState ⊕ QueryResult) :=
  messageTurn (fun _ => false) (FetchState.result columns) (fetchMessage codecs caps columns)

/-- `parse_fetch_response`. -/
def parseFetchResponse (codecs : Codecs) (caps : Capabilities) (payload : Bytes)
    (cursorId : UInt16) (columns : List ColumnInfo) : Except Error QueryResult :=
  parseMessages "Fetch response too short" (fetchTurn codecs caps columns) (.start cursorId) payload

/-! ## DML -/

/-- The loop variables of `parse_dml_response`. -/
structure DmlState where
  /-- the number of rows affected -/
  rowsAffected : UInt64
  /-- the cursor id -/
  cursorId : UInt16
  /-- has the end marker been read? -/
  endOfResponse : Bool

namespace DmlState

/-- The loop variables before the first message. -/
def start : DmlState := ⟨0, 0, false⟩

/-- The result of the parser. -/
def result (s : DmlState) : QueryResult := ⟨[], [], s.rowsAffected, false, s.cursorId⟩

end DmlState

/-- The Error arm of `parse_dml_response`. -/
def dmlError (s : DmlState) : ReadM DmlState := do
  let (errorCode, errorMsg, cid, rowCount) ← parseErrorInfoWithRowcount
  if IsFailure errorCode then
    throw (.oracleError errorCode (errorMsg.getD ""))
  else
    return { s with cursorId := cid, rowsAffected := rowCount }

/-- The BitVector arm of `parse_dml_response`: one byte, if there is one. -/
def dmlBitVector : ReadM Unit := do
  let _numColumnsSent ← readUb2
  let buf ← get
  if buf.remaining > 0 then
    let _byte ← readU8

/-- What `parse_dml_response` does with a message. -/
def dmlMessage (s : DmlState) : Option MessageType → ReadM (DmlState ⊕ QueryResult)
  | some .error => do
    return .inl (← dmlError s)
  | some .parameter => do
    parseReturnParameters
    return .inl s
  | some .serverSidePiggyback => do
    parseServerSidePiggyback
    return .inl s
  | some .status => do
    skipStatus
    return .inl s
  | some .bitVector => do
    dmlBitVector
    return .inl s
  | some .endOfResponse => return .inl { s with endOfResponse := true }
  -- the type of an unknown message is skipped, its body is not
  | _ => return .inl s

/-- One turn of the loop of `parse_dml_response`. -/
def dmlTurn : DmlState → ReadM (DmlState ⊕ QueryResult) :=
  messageTurn DmlState.endOfResponse DmlState.result dmlMessage

/-- `parse_dml_response`. -/
def parseDmlResponse (payload : Bytes) : Except Error QueryResult :=
  parseMessages "DML response too short" dmlTurn .start payload

/-! ## PL/SQL -/

/-- The result of a PL/SQL call (`PlsqlResult`). -/
structure PlsqlResult where
  /-- the OUT values -/
  outValues : List Value
  /-- the number of rows affected -/
  rowsAffected : UInt64
  /-- the cursor id of the first open REF CURSOR -/
  cursorId : Option UInt16
  /-- implicit result sets -/
  implicitResults : List ImplicitResult

/-- The loop variables of `parse_plsql_response`. -/
structure PlsqlState where
  /-- the OUT values -/
  outValues : List Value
  /-- the number of rows affected -/
  rowCount : UInt64
  /-- the cursor id of the first open REF CURSOR -/
  cursorId : Option UInt16
  /-- has the closing message been read? -/
  endOfResponse : Bool
  /-- implicit result sets -/
  implicitResults : List ImplicitResult
  /-- the columns of the OUT parameters -/
  outColumns : List ColumnInfo

namespace PlsqlState

/-- The loop variables before the first message. -/
def start : PlsqlState := ⟨[], 0, none, false, [], []⟩

/-- The result of the parser. -/
def result (s : PlsqlState) : PlsqlResult :=
  ⟨s.outValues, s.rowCount, s.cursorId, s.implicitResults⟩

/-- The state after a row of OUT values: they replace the values at the same positions. -/
def push (s : PlsqlState) (row : Row) : PlsqlState :=
  let openCursors := row.filterMap fun value =>
    match value with
    | .cursor cursor => if cursor.cursorId ≠ 0 then some cursor.cursorId else none
    | _ => none
  { s with
    outValues := row ++ s.outValues.drop row.length
    cursorId := s.cursorId <|> openCursors.head? }

end PlsqlState

/-- The Error arm of `parse_plsql_response`. -/
def plsqlError (s : PlsqlState) : ReadM PlsqlState := do
  let (errorCode, errorMsg, _cid, rc) ← parseErrorInfoWithRowcount
  if errorCode ≠ 0 then
    throw (.oracleError errorCode (errorMsg.getD ""))
  else
    return { s with rowCount := rc, endOfResponse := true }

/-- What `parse_plsql_response` does with a message. -/
def plsqlMessage (codecs : Codecs) (caps : Capabilities) (params : List BindParam)
    (s : PlsqlState) : Option MessageType → ReadM (PlsqlState ⊕ PlsqlResult)
  | some .ioVector => do
    let (_indices, cols) ← parseIoVector params
    return .inl { s with outColumns := cols }
  | some .rowHeader => do
    parseRowHeader
    return .inl s
  | some .rowData => do
    if s.outColumns ≠ [] then
      let row ← parseOutBindRowData codecs caps s.outColumns
      return .inl (s.push row)
    else
      return .inr s.result
  | some .describeInfo => do
    skipRawBytesChunked
    let _cursorColumns ← parseDescribeInfo caps.ttcFieldVersion
    return .inl s
  | some .flushOutBinds => return .inl s
  | some .error => do
    return .inl (← plsqlError s)
  | some .parameter => do
    parseReturnParameters
    return .inl s
  | some .serverSidePiggyback => do
    parseServerSidePiggyback
    return .inl s
  | some .status => do
    skipStatus
    return .inl s
  | some .implicitResultset => do
    let parsedResults ← parseImplicitResults caps.ttcFieldVersion
    return .inl { s with implicitResults := parsedResults }
  -- an unknown message type ends the loop
  | _ => return .inr s.result

/-- One turn of the loop of `parse_plsql_response`. -/
def plsqlTurn (codecs : Codecs) (caps : Capabilities) (params : List BindParam) :
    PlsqlState → ReadM (PlsqlState ⊕ PlsqlResult) :=
  messageTurn PlsqlState.endOfResponse PlsqlState.result (plsqlMessage codecs caps params)

/-- `parse_plsql_response`. -/
def parsePlsqlResponse (codecs : Codecs) (caps : Capabilities) (payload : Bytes)
    (params : List BindParam) : Except Error PlsqlResult :=
  parseMessages "PL/SQL response too short" (plsqlTurn codecs caps params) .start payload

/-! ## Turns of a message loop -/

section Turn

variable {σ α : Type} {finished : σ → Bool} {result : σ → α}
  {message : σ → Option MessageType → ReadM (σ ⊕ α)} {s : σ} {t : MessageType}

/-- A turn that finds a byte. -/
lemma messageTurn_cons (hs : finished s = false) {c : ReadBuffer} {b : UInt8} {r : Bytes}
    (hc : c.rest = b :: r) :
    messageTurn finished result message s c = message s (MessageType.tryFrom b) (c.advance 1) := by
  have hrem : ¬ (finished s = true ∨ c.remaining = 0) := by
    simp [hs, remaining_eq, hc]
  have hread : readU8 c = .ok b (c.advance 1) := reads_readU8 b c r hc
  have hget : (get : ReadM ReadBuffer) c = .ok c c := rfl
  rw [messageTurn, bind_ok hget, if_neg hrem, bind_ok hread]

/-- A turn that finds a message of type `t`. -/
lemma messageTurn_eq (hs : finished s = false) {c : ReadBuffer} {r : Bytes}
    (hc : c.rest = t.code :: r) :
    messageTurn finished result message s c = message s (some t) (c.advance 1) := by
  rw [messageTurn_cons hs hc, MessageType.tryFrom_code]

/-- A turn reads a message exactly if its arm reads the message's body exactly. -/
lemma reads_messageTurn (hs : finished s = false) {b : Bytes} {x : σ ⊕ α}
    (h : Reads (message s (some t)) b x) :
    Reads (messageTurn finished result message s) (t.code :: b) x := by
  intro c r hr
  have hrest : (c.advance 1).rest = b ++ r := by simp [hr]
  rw [messageTurn_eq hs hr, h _ r hrest]
  simp [Nat.add_comm]

/-- A turn fails on a message if its arm fails on the message's body. -/
lemma failsOn_messageTurn (hs : finished s = false) {b : Bytes}
    (h : FailsOn (message s (some t)) b) :
    FailsOn (messageTurn finished result message s) (t.code :: b) := by
  intro c r hr
  have hrest : (c.advance 1).rest = b ++ r := by simp [hr]
  rw [messageTurn_eq hs hr]
  exact h _ r hrest

/-- A turn of a loop that has finished, or that finds nothing. -/
lemma messageTurn_end {c : ReadBuffer} (h : finished s = true ∨ c.rest = []) :
    messageTurn finished result message s c = .ok (.inr (result s)) c := by
  have hend : finished s = true ∨ c.remaining = 0 := by
    simpa [remaining_eq] using h
  have hget : (get : ReadM ReadBuffer) c = .ok c c := rfl
  rw [messageTurn, bind_ok hget, if_pos hend]
  rfl

/-- The outcome of a loop from what a parser returns. -/
def resultAt {α : Type} (c : ReadBuffer) : Except Error α → EStateM.Result Error ReadBuffer α
  | .ok a => .ok a c
  | .error e => .error e c

/-- An arm that fails or goes on. -/
lemma ite_throw_pure {P : Prop} [Decidable P] (e : Error) (s : σ) (c : ReadBuffer) :
    (if P then throw e else pure s : ReadM σ) c = if P then .error e c else .ok s c := by
  split_ifs <;> rfl

/-- A loop ends with a message whose arm reads the body and fails, or comes to a state in which nothing more is
read. -/
lemma ends_closing (hs : finished s = false) {body : Bytes} {arm : ReadM σ} {s' : σ} {e : Error} {a : α}
    {P : Prop} [Decidable P] {c : ReadBuffer} {r : Bytes} (hc : c.rest = t.code :: (body ++ r))
    (hmessage : message s (some t) = arm >>= fun s => pure (.inl s))
    (harm : (c.advance 1).rest = body ++ r → arm (c.advance 1) =
      if P then .error e ((c.advance 1).advance body.length) else .ok s' ((c.advance 1).advance body.length))
    (hend : finished s' = true ∨ r = []) (ha : result s' = a) :
    ∃ c', Ends .stuck (messageTurn finished result message) s c
      (resultAt c' (if P then .error e else .ok a)) := by
  subst ha
  have hrest : (c.advance 1).rest = body ++ r := by simp [hc]
  have hbehind := rest_advance_of_append hrest
  have hturn : messageTurn finished result message s c = message s (some t) (c.advance 1) := messageTurn_eq hs hc
  specialize harm hrest
  rw [hmessage] at hturn
  split_ifs at harm ⊢ with hfail
  · exact ⟨_, Ends.fail (hturn.trans (bind_error harm))⟩
  · refine ⟨_, Ends.more (hturn.trans (bind_ok harm)) ?_ (Ends.done (messageTurn_end ?_))⟩
    · rw [hbehind, hc, List.length_cons, List.length_append]
      omega
    · rwa [hbehind]

/-- A parser returns what its loop ends with behind the two bytes of data flags. -/
lemma parseMessages_eq {tooShort : String} {turn : σ → ReadM (σ ⊕ α)} {f g : UInt8} {b : Bytes}
    (hb : b ≠ []) {x : Except Error α} {c' : ReadBuffer}
    (h : Ends .stuck turn s ⟨f :: g :: b, 2⟩ (resultAt c' x)) :
    parseMessages tooShort turn s (f :: g :: b) = x := by
  have hlen : ¬ (f :: g :: b).length < 3 := by
    have := List.length_pos_iff.mpr hb
    simp only [List.length_cons]
    omega
  have hskip : skip 2 (⟨f :: g :: b, 0⟩ : ReadBuffer) = .ok () ⟨f :: g :: b, 2⟩ :=
    reads_skip [f, g] _ b rfl
  rw [parseMessages, if_neg hlen, ReadM.runOn, bind_ok hskip, iterate_of_ends h]
  cases x <;> rfl

end Turn

end OracleRs
