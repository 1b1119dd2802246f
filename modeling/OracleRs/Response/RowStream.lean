import OracleRs.Response.Parse

set_option relaxedAutoImplicit false
set_option autoImplicit false

/-!
# Streams of rows

The RowHeader, BitVector and RowData messages of a response as a server writes them, the rows
they stand for, and what the query and fetch parsers make of them.

A server may leave out a value that is the same as in the previous row. It says so in a bit
vector, which comes in a message of its own or in a row header. Both parsers read the same rows
from the same messages, except that the execute path does not look at the bit vector of a row
header: it reads the rows of a stream if what it takes for the vector in force marks the same
duplicates as the vector that the server has used.

## Main definitions

* `OracleRs.Cell`, `OracleRs.RowMessage` — the messages.
* `OracleRs.Sent` — the messages are written as the bit vectors in force say.
* `OracleRs.decodeRows` — the rows that a stream stands for.
* `OracleRs.Follows` — a reader of bit vectors sees the same duplicates as the server.
* `OracleRs.Batch` — a response with rows and a closing Error message.

## Main results

* `OracleRs.Batch.parseFetchResponse_eq`, `OracleRs.Batch.parseQueryResponse_eq` — what the
  parsers make of a response with rows.
-/

namespace OracleRs

open Cursor

variable {codecs : Codecs} {caps : Capabilities} {columns : List ColumnInfo}

/-! ## Messages -/

/-- One column of a row on the wire: left out as a duplicate, or the bytes of its value with the
value itself, if the bytes can be decoded. -/
inductive Cell where
  | duplicate
  | sent (bytes : Bytes) (value : Option Value)

namespace Cell

/-- The bytes on the wire. -/
def encode : Cell → Bytes
  | duplicate => []
  | sent bytes _ => bytes

/-- The cell is written as a column of this kind, marked as a duplicate or not. -/
def Fits (codecs : Codecs) (caps : Capabilities) (col : ColumnInfo) (marked : Bool) :
    Cell → Prop
  | duplicate => marked = true
  | sent bytes (some v) => marked = false ∧ Reads (parseColumnValue codecs caps col) bytes v
  | sent bytes none => marked = false ∧ FailsOn (parseColumnValue codecs caps col) bytes

/-- The value of column `i`, given the previous row. -/
def value (prev : Option Row) (i : ℕ) : Cell → Option Value
  | duplicate => some (duplicateValue prev i)
  | sent _ v => v

end Cell

/-- The cells fit the columns from position `i` on. -/
def CellsFit (codecs : Codecs) (caps : Capabilities) (marked : ℕ → Bool) :
    ℕ → List ColumnInfo → List Cell → Prop
  | _, [], [] => True
  | i, col :: cols, cell :: cells =>
    cell.Fits codecs caps col (marked i) ∧ CellsFit codecs caps marked (i + 1) cols cells
  | _, _, _ => False

/-- The row that the cells from position `i` on stand for, given the previous row. -/
def decodeCells (prev : Option Row) : ℕ → List Cell → Option Row
  | _, [] => some []
  | i, cell :: cells => do
    let v ← cell.value prev i
    let vs ← decodeCells prev (i + 1) cells
    return v :: vs

/-- A message of a stream of rows. -/
inductive RowMessage where
  | header (h : RowHeader)
  | bitVector (numColumnsSent : Ub 2) (bits : Bytes)
  | rowData (cells : List Cell)

namespace RowMessage

/-- The bytes on the wire. -/
def encode : RowMessage → Bytes
  | header h => MessageType.rowHeader.code :: h.encode
  | bitVector n bits => MessageType.bitVector.code :: (n.encode ++ bits)
  | rowData cells => MessageType.rowData.code :: cells.flatMap Cell.encode

lemma encode_ne_nil (m : RowMessage) : m.encode ≠ [] := by
  cases m <;> exact List.cons_ne_nil _ _

end RowMessage

/-- The bit vector in force after a BitVector message: without columns it has no bytes, and the
message changes nothing. -/
def putBits (columns : List ColumnInfo) (bits : Bytes) (bv : Option Bytes) : Option Bytes :=
  if (columns.length + 7) / 8 > 0 then some bits else bv

/-- The messages are written as the bit vectors say: `bv` is the vector in force, which a row
uses up. -/
def Sent (codecs : Codecs) (caps : Capabilities) (columns : List ColumnInfo) :
    Option Bytes → List RowMessage → Prop
  | _, [] => True
  | bv, .header h :: ms => Sent codecs caps columns (h.embedded <|> bv) ms
  | bv, .bitVector _ bits :: ms =>
    bits.length = (columns.length + 7) / 8 ∧ Sent codecs caps columns (putBits columns bits bv) ms
  | bv, .rowData cells :: ms =>
    CellsFit codecs caps (isDuplicate bv) 0 columns cells ∧ Sent codecs caps columns none ms

/-- The rows that a stream stands for, given the row before it; `none` if a value cannot be
decoded. -/
def decodeRows (prev : Option Row) : List RowMessage → Option (List Row)
  | [] => some []
  | .rowData cells :: ms => do
    let row ← decodeCells prev 0 cells
    let rows ← decodeRows (some row) ms
    return row :: rows
  | _ :: ms => decodeRows prev ms

/-- A reader of bit vectors sees the same duplicates as the server: `policy` says what the reader
makes of a row header, `bv` is the vector that the reader takes to be in force and `sv` the
server's. -/
def Follows (columns : List ColumnInfo) (policy : RowHeader → Option Bytes → Option Bytes) :
    Option Bytes → Option Bytes → List RowMessage → Prop
  | _, _, [] => True
  | bv, sv, .header h :: ms => Follows columns policy (policy h bv) (h.embedded <|> sv) ms
  | bv, sv, .bitVector _ bits :: ms =>
    Follows columns policy (putBits columns bits bv) (putBits columns bits sv) ms
  | bv, sv, .rowData _ :: ms =>
    (∀ i < columns.length, isDuplicate bv i = isDuplicate sv i) ∧ Follows columns policy none none ms

/-- The fetch path takes the bit vector of a row header, if there is one. -/
def fetchPolicy (h : RowHeader) (bv : Option Bytes) : Option Bytes := h.embedded <|> bv

/-- The execute path does not look at the bit vector of a row header. -/
def queryPolicy (_ : RowHeader) (bv : Option Bytes) : Option Bytes := bv

/-- The fetch path sees what the server means. -/
lemma follows_fetchPolicy (bv : Option Bytes) (ms : List RowMessage) :
    Follows columns fetchPolicy bv bv ms := by
  induction ms generalizing bv with
  | nil => trivial
  | cons m ms ih =>
    cases m with
    | header h => exact ih _
    | bitVector n bits => exact ih _
    | rowData cells => exact ⟨fun _ _ => rfl, ih none⟩

/-! ## Cells and rows -/

/-- Cells that can all be decoded make a row. -/
lemma exists_decodeCells (prev : Option Row) (i : ℕ) {cells : List Cell}
    (h : ∀ b, Cell.sent b none ∉ cells) : ∃ row, decodeCells prev i cells = some row := by
  induction cells generalizing i with
  | nil => exact ⟨[], rfl⟩
  | cons cell cells ih =>
    obtain ⟨vs, hvs⟩ := ih (i + 1) fun b hb => h b (List.mem_cons_of_mem _ hb)
    match cell, h with
    | .duplicate, _ => exact ⟨duplicateValue prev i :: vs, by simp [decodeCells, Cell.value, hvs]⟩
    | .sent b (some v), _ => exact ⟨v :: vs, by simp [decodeCells, Cell.value, hvs]⟩
    | .sent b none, h => exact absurd List.mem_cons_self (h b)

/-- A row of cells that can be decoded is read exactly, one with a cell that cannot be decoded
is not read at all.

**Proof sketch.** Induction on the columns, one cell at a time. -/
lemma reads_cells {marked : ℕ → Bool} (prev : Option Row) (i : ℕ) (cols : List ColumnInfo)
    (cells : List Cell) (h : CellsFit codecs caps marked i cols cells) :
    match decodeCells prev i cells with
    | some row =>
      Reads (each (readCell codecs caps marked prev) (cols.zipIdx i)) (cells.flatMap Cell.encode) row
    | none =>
      FailsOn (each (readCell codecs caps marked prev) (cols.zipIdx i))
        (cells.flatMap Cell.encode) := by
  induction cols generalizing i cells with
  | nil =>
    cases cells with
    | nil => exact Reads.pure []
    | cons cell cells => exact h.elim
  | cons col cols ih =>
    cases cells with
    | nil => exact h.elim
    | cons cell cells =>
      obtain ⟨hcell, hcells⟩ := h
      have htail := ih (i + 1) cells hcells
      rw [List.zipIdx_cons, List.flatMap_cons, each]
      -- a cell that is read: the rest decides
      have hread : ∀ v, cell.value prev i = some v →
          Reads (readCell codecs caps marked prev (col, i)) cell.encode v →
          match decodeCells prev i (cell :: cells) with
          | some row => Reads (do
              let a ← readCell codecs caps marked prev (col, i)
              let as ← each (readCell codecs caps marked prev) (cols.zipIdx (i + 1))
              return a :: as) (cell.encode ++ cells.flatMap Cell.encode) row
          | none => FailsOn (do
              let a ← readCell codecs caps marked prev (col, i)
              let as ← each (readCell codecs caps marked prev) (cols.zipIdx (i + 1))
              return a :: as) (cell.encode ++ cells.flatMap Cell.encode) := by
        intro v hv hr
        cases hd : decodeCells prev (i + 1) cells with
        | some vs =>
          rw [hd] at htail
          have hrow : decodeCells prev i (cell :: cells) = some (v :: vs) := by
            simp [decodeCells, hv, hd]
          rw [hrow]
          exact hr.bind (htail.bind_nil (Reads.pure _))
        | none =>
          rw [hd] at htail
          have hrow : decodeCells prev i (cell :: cells) = none := by
            simp [decodeCells, hv, hd]
          rw [hrow]
          exact hr.bind_failsOn htail.bind
      cases cell with
      | duplicate =>
        have hmarked : marked i = true := hcell
        refine hread (duplicateValue prev i) rfl ?_
        rw [readCell, if_pos hmarked]
        exact Reads.pure _
      | sent bytes value =>
        cases value with
        | some v =>
          obtain ⟨hmarked, hv⟩ := hcell
          refine hread v rfl ?_
          rw [readCell, if_neg (by simp [hmarked])]
          exact hv
        | none =>
          obtain ⟨hmarked, hv⟩ := hcell
          have hrow : decodeCells prev i (Cell.sent bytes none :: cells) = none := rfl
          have hfail : FailsOn (readCell codecs caps marked prev (col, i)) bytes := by
            rw [readCell, if_neg (by simp [hmarked])]
            exact hv
          rw [hrow]
          intro c r hr
          exact hfail.bind c (cells.flatMap Cell.encode ++ r) (by simpa [Cell.encode] using hr)

/-- A row, or its failure, from any bit vector that marks the same duplicates as the server's. -/
lemma reads_parseRowData {bv sv : Option Bytes} (prev : Option Row) {cells : List Cell}
    (hcells : CellsFit codecs caps (isDuplicate sv) 0 columns cells)
    (hbv : ∀ i < columns.length, isDuplicate bv i = isDuplicate sv i) :
    match decodeCells prev 0 cells with
    | some row =>
      Reads (parseRowDataWithBitvector codecs caps columns bv prev) (cells.flatMap Cell.encode) row
    | none =>
      FailsOn (parseRowDataWithBitvector codecs caps columns bv prev)
        (cells.flatMap Cell.encode) := by
  rw [parseRowData_congr prev hbv]
  exact reads_cells prev 0 columns cells hcells

/-! ## Running the row messages -/

/-- A message loop that handles the messages of a stream of rows: `wrap` says where the row state
is among the loop variables, `policy` what is made of the bit vector of a row header. -/
structure HandlesRows {σ α : Type} (codecs : Codecs) (caps : Capabilities)
    (columns : List ColumnInfo) (turn : σ → ReadM (σ ⊕ α)) (wrap : RowState → σ)
    (policy : RowHeader → Option Bytes → Option Bytes) : Prop where
  header : ∀ (s : RowState) (h : RowHeader), Reads (turn (wrap s)) (RowMessage.header h).encode
    (.inl (wrap { s with bitVector := policy h s.bitVector }))
  bitVector : ∀ (s : RowState) (n : Ub 2) (bits : Bytes),
    bits.length = (columns.length + 7) / 8 →
    Reads (turn (wrap s)) (RowMessage.bitVector n bits).encode
      (.inl (wrap { s with bitVector := putBits columns bits s.bitVector }))
  rowData : ∀ (s : RowState) (b : Bytes) (row : Row),
    Reads (parseRowDataWithBitvector codecs caps columns s.bitVector s.previousRowValues) b row →
    Reads (turn (wrap s)) (MessageType.rowData.code :: b) (.inl (wrap (s.push row)))
  rowFails : ∀ (s : RowState) (b : Bytes),
    FailsOn (parseRowDataWithBitvector codecs caps columns s.bitVector s.previousRowValues) b →
    FailsOn (turn (wrap s)) (MessageType.rowData.code :: b)

/-- The row that the next one is compared with, after some rows. -/
def lastRow (prev : Option Row) : List Row → Option Row
  | [] => prev
  | row :: rows => lastRow (some row) rows

/-- A loop that handles row messages and sees the same duplicates as the server reads the rows
of a stream, or fails if one of them cannot be decoded.

**Proof sketch.** Induction on the messages; the two bit vectors, the reader's and the server's,
go along. -/
lemma HandlesRows.run {σ α : Type} {turn : σ → ReadM (σ ⊕ α)} {wrap : RowState → σ}
    {policy : RowHeader → Option Bytes → Option Bytes}
    (H : HandlesRows codecs caps columns turn wrap policy) (ms : List RowMessage)
    (s : RowState) (sv : Option Bytes) (hsent : Sent codecs caps columns sv ms)
    (hfollows : Follows columns policy s.bitVector sv ms) :
    match decodeRows s.previousRowValues ms with
    | some rows => ∃ bv, Turns .stuck turn (wrap s) (ms.flatMap RowMessage.encode)
        (wrap ⟨s.rows ++ rows, bv, lastRow s.previousRowValues rows⟩)
    | none => LoopFails .stuck turn (wrap s) (ms.flatMap RowMessage.encode) := by
  induction ms generalizing s sv with
  | nil => exact ⟨s.bitVector, by simpa [lastRow] using Turns.refl (wrap s)⟩
  | cons m ms ih =>
    rw [List.flatMap_cons]
    -- a message that leads from `s` to a state with the same rows
    have hgo : ∀ bv' sv', Reads (turn (wrap s)) m.encode (.inl (wrap { s with bitVector := bv' })) →
        Sent codecs caps columns sv' ms → Follows columns policy bv' sv' ms →
        match decodeRows s.previousRowValues ms with
        | some rows => ∃ bv, Turns .stuck turn (wrap s) (m.encode ++ ms.flatMap RowMessage.encode)
            (wrap ⟨s.rows ++ rows, bv, lastRow s.previousRowValues rows⟩)
        | none => LoopFails .stuck turn (wrap s) (m.encode ++ ms.flatMap RowMessage.encode) := by
      intro bv' sv' hread hs hf
      have htail := ih { s with bitVector := bv' } sv' hs hf
      dsimp only at htail
      cases hd : decodeRows s.previousRowValues ms with
      | some rows =>
        rw [hd] at htail
        obtain ⟨bv, hturns⟩ := htail
        exact ⟨bv, Turns.more hread m.encode_ne_nil hturns⟩
      | none =>
        rw [hd] at htail
        exact (Turns.one hread m.encode_ne_nil).fails htail
    cases m with
    | header h => exact hgo _ _ (H.header s h) hsent hfollows
    | bitVector n bits => exact hgo _ _ (H.bitVector s n bits hsent.1) hsent.2 hfollows
    | rowData cells =>
      obtain ⟨hcells, hsent⟩ := hsent
      obtain ⟨hbv, hfollows⟩ := hfollows
      have hrow := reads_parseRowData s.previousRowValues hcells hbv
      cases hd : decodeCells s.previousRowValues 0 cells with
      | none =>
        rw [hd] at hrow
        have hrows : decodeRows s.previousRowValues (.rowData cells :: ms) = none := by
          simp [decodeRows, hd]
        rw [hrows]
        exact LoopFails.now (H.rowFails s _ hrow)
      | some row =>
        rw [hd] at hrow
        have htail := ih (s.push row) none hsent hfollows
        have hread := H.rowData s _ row hrow
        have hprev : (s.push row).previousRowValues = some row := rfl
        rw [hprev] at htail
        cases hrest : decodeRows (some row) ms with
        | some rows =>
          rw [hrest] at htail
          obtain ⟨bv, hturns⟩ := htail
          have hrows : decodeRows s.previousRowValues (.rowData cells :: ms) =
              some (row :: rows) := by simp [decodeRows, hd, hrest]
          rw [hrows]
          refine ⟨bv, ?_⟩
          have hall := Turns.more hread (List.cons_ne_nil _ _) hturns
          simpa [RowState.push, lastRow, RowMessage.encode] using hall
        | none =>
          rw [hrest] at htail
          have hrows : decodeRows s.previousRowValues (.rowData cells :: ms) = none := by
            simp [decodeRows, hd, hrest]
          rw [hrows]
          exact (Turns.one hread (List.cons_ne_nil _ _)).fails htail

/-! ## The two parsers handle row messages -/

lemma reads_readRowData {s : RowState} {b : Bytes} {row : Row}
    (h : Reads (parseRowDataWithBitvector codecs caps columns s.bitVector s.previousRowValues)
      b row) : Reads (readRowData codecs caps columns s) b (s.push row) :=
  h.bind_nil (Reads.pure _)

lemma reads_readBitVector (s : RowState) (n : Ub 2) {bits : Bytes}
    (h : bits.length = (columns.length + 7) / 8) :
    Reads (readBitVector columns s) (n.encode ++ bits)
      { s with bitVector := putBits columns bits s.bitVector } := by
  refine n.reads_readUb2.bind ?_
  dsimp only
  rw [← h, putBits]
  by_cases hpos : bits.length > 0
  · rw [if_pos hpos, ← h, if_pos hpos]
    exact (reads_readBytesVec bits).bind_nil (Reads.pure _)
  · have hnil : bits = [] := by simpa using hpos
    rw [if_neg hpos, ← h, if_neg hpos, hnil]
    exact Reads.pure _

/-- The fetch path takes the bit vector of a row header. -/
lemma reads_fetchRowHeader (s : FetchState) (h : RowHeader) :
    Reads (fetchRowHeader s) h.encode
      { s with rowState := { s.rowState with bitVector := fetchPolicy h s.rowState.bitVector } } := by
  refine h.reads_readRowHeader.bind_nil ?_
  rw [fetchPolicy]
  cases h.embedded with
  | some bv => exact Reads.pure _
  | none => exact Reads.pure _

/-- The loop variables of the query parser with the given row state. -/
def QueryState.withRows (columns : List ColumnInfo) (s : RowState) : QueryState :=
  { QueryState.start columns with rowState := s }

/-- The loop variables of the fetch parser with the given row state. -/
def FetchState.withRows (cursorId : UInt16) (s : RowState) : FetchState :=
  { FetchState.start cursorId with rowState := s }

/-- The query parser handles row messages, without the bit vectors of row headers. -/
lemma handlesRows_query : HandlesRows codecs caps columns (queryTurn codecs caps)
    (QueryState.withRows columns) queryPolicy where
  header _ h := reads_messageTurn rfl
    (h.reads_parseRowHeader.bind_nil (Reads.pure _))
  bitVector s n _ hbits := reads_messageTurn rfl
    ((reads_readBitVector s n hbits).bind_nil (Reads.pure _))
  rowData _ _ _ h := reads_messageTurn rfl ((reads_readRowData h).bind_nil (Reads.pure _))
  rowFails _ _ h := failsOn_messageTurn rfl (FailsOn.bind (FailsOn.bind h))

/-- The fetch parser handles row messages with the bit vectors of row headers. -/
lemma handlesRows_fetch (cursorId : UInt16) :
    HandlesRows codecs caps columns (fetchTurn codecs caps columns)
      (FetchState.withRows cursorId) fetchPolicy where
  header s h := reads_messageTurn rfl
    ((reads_fetchRowHeader (FetchState.withRows cursorId s) h).bind_nil (Reads.pure _))
  bitVector s n _ hbits := reads_messageTurn rfl
    ((reads_readBitVector s n hbits).bind_nil (Reads.pure _))
  rowData _ _ _ h := reads_messageTurn rfl ((reads_readRowData h).bind_nil (Reads.pure _))
  rowFails _ _ h := failsOn_messageTurn rfl (FailsOn.bind (FailsOn.bind h))

/-! ## Closing messages -/

/-- The number that the query parser takes a closing message to have, in a given packet. -/
def ErrorMessage.takenAs (m : ErrorMessage) (packet : Bytes) : UInt32 :=
  (overrideErrorText packet m.code m.message).1

/-- What the query parser returns after some rows and a closing message. -/
def queryOutcome (packet : Bytes) (columns : List ColumnInfo) (rows : List Row)
    (m : ErrorMessage) : Except Error QueryResult :=
  if IsFailure (m.takenAs packet) then
    .error (.oracleError (m.takenAs packet)
      ((overrideErrorText packet m.code m.message).2.getD ""))
  else
    .ok ⟨columns, rows, UInt64.ofNat m.rowCount.value,
      m.cursor ≠ 0 && m.takenAs packet ≠ 1403, m.cursor⟩

/-- What the fetch parser returns after some rows and a closing message. -/
def fetchOutcome (columns : List ColumnInfo) (rows : List Row) (m : ErrorMessage) :
    Except Error QueryResult :=
  if IsFailure m.code then
    .error (.oracleError m.code (m.text?.getD ""))
  else
    .ok ⟨columns, rows, 0, m.code ≠ 1403, m.cursor⟩

/-- The Error arm of the query parser. -/
lemma queryError_eq (s : QueryState) (m : ErrorMessage) (hv : caps.ttcFieldVersion ≥ fieldVersion21_1)
    {c : ReadBuffer} {r : Bytes} (hc : c.rest = m.encode caps.ttcFieldVersion ++ r) :
    queryError s c =
      if IsFailure (m.takenAs c.data) then
        .error (.oracleError (m.takenAs c.data)
          ((overrideErrorText c.data m.code m.message).2.getD ""))
          (c.advance (m.encode caps.ttcFieldVersion).length)
      else
        .ok { s with
          cursorId := m.cursor
          rowCount := UInt64.ofNat m.rowCount.value
          hasMoreRows := m.cursor ≠ 0 && m.takenAs c.data ≠ 1403
          endOfResponse := true } (c.advance (m.encode caps.ttcFieldVersion).length) := by
  rw [queryError, bind_ok (m.parseErrorInfoWithRowcount_eq hv c r hc)]
  exact ite_throw_pure _ _ _

/-- The query parser ends with a closing message. -/
lemma ends_query_error {s : QueryState} (hs : s.endOfResponse = false) (m : ErrorMessage)
    (hv : caps.ttcFieldVersion ≥ fieldVersion21_1) {c : ReadBuffer} {r : Bytes}
    (hc : c.rest = MessageType.error.code :: (m.encode caps.ttcFieldVersion ++ r)) :
    ∃ c', Ends .stuck (queryTurn codecs caps) s c
      (resultAt c' (queryOutcome c.data s.columns s.rowState.rows m)) :=
  ends_closing hs hc rfl (queryError_eq s m hv) (.inl rfl) rfl

/-- The Error arm of the fetch parser. -/
lemma fetchError_eq (s : FetchState) (m : ErrorMessage) (h : m.NoBatch) (c : ReadBuffer)
    (r : Bytes) (hc : c.rest = m.encode caps.ttcFieldVersion ++ r) :
    fetchError caps.ttcFieldVersion s c =
      if IsFailure m.code then
        .error (.oracleError m.code (m.text?.getD ""))
          (c.advance (m.encode caps.ttcFieldVersion).length)
      else
        .ok { s with responseCursorId := m.cursor, hasMoreRows := m.code ≠ 1403 }
          (c.advance (m.encode caps.ttcFieldVersion).length) := by
  rw [fetchError, bind_ok (m.reads_parseErrorMessageInfo caps.ttcFieldVersion h c r hc)]
  exact ite_throw_pure _ _ _

/-- The fetch parser ends with a closing message without batch errors. -/
lemma ends_fetch_error (s : FetchState) (m : ErrorMessage) (h : m.NoBatch) {c : ReadBuffer}
    {r : Bytes} (hc : c.rest = MessageType.error.code :: (m.encode caps.ttcFieldVersion ++ r)) :
    ∃ c', Ends .stuck (fetchTurn codecs caps columns) s c
      (resultAt c' (fetchOutcome columns s.rowState.rows m)) := by
  have hrest : (c.advance 1).rest = m.encode caps.ttcFieldVersion ++ r := by simp [hc]
  have hturn : fetchTurn codecs caps columns s c =
      fetchMessage codecs caps columns s (some .error) (c.advance 1) := messageTurn_eq rfl hc
  have herror := fetchError_eq s m h _ _ hrest
  rw [fetchOutcome]
  split at herror
  · rw [if_pos ‹_›]
    exact ⟨_, Ends.fail (hturn.trans (bind_error herror))⟩
  · rw [if_neg ‹_›]
    exact ⟨_, Ends.done (hturn.trans (bind_ok herror))⟩

/-! ## Responses with rows -/

/-- A response with rows: the data flags, the row messages and the closing Error message. -/
structure Batch where
  /-- the two bytes of the data flags -/
  flag : UInt8
  flag' : UInt8
  /-- the row messages -/
  messages : List RowMessage
  /-- the closing message -/
  closing : ErrorMessage

namespace Batch

/-- The messages of the response. -/
def body (ttcFieldVersion : UInt8) (b : Batch) : Bytes :=
  b.messages.flatMap RowMessage.encode ++
    MessageType.error.code :: b.closing.encode ttcFieldVersion

/-- The payload of the response. -/
def payload (ttcFieldVersion : UInt8) (b : Batch) : Bytes :=
  b.flag :: b.flag' :: b.body ttcFieldVersion

lemma body_ne_nil (b : Batch) (version : UInt8) : b.body version ≠ [] := by
  simp [body]

/-- What a parser makes of a response with rows that it comes to behind other messages, if it reads the rows and
ends with the closing message. -/
lemma parseRows_eq {σ α : Type} {turn : σ → ReadM (σ ⊕ α)} {wrap : RowState → σ}
    {policy : RowHeader → Option Bytes → Option Bytes} (H : HandlesRows codecs caps columns turn wrap policy)
    (b : Batch) (tooShort : String) (outcome : Bytes → List Row → Except Error α) {s : σ} {lead : Bytes}
    (hlead : Turns .stuck turn s lead (wrap .start)) (hsent : Sent codecs caps columns none b.messages)
    (hfollows : Follows columns policy none none b.messages)
    (hclose : ∀ (state : RowState) (c : ReadBuffer),
      c.rest = MessageType.error.code :: (b.closing.encode caps.ttcFieldVersion ++ []) →
        ∃ c', Ends .stuck turn (wrap state) c (resultAt c' (outcome c.data state.rows))) :
    (∀ rows, decodeRows none b.messages = some rows →
      parseMessages tooShort turn s (b.flag :: b.flag' :: (lead ++ b.body caps.ttcFieldVersion)) =
        outcome (b.flag :: b.flag' :: (lead ++ b.body caps.ttcFieldVersion)) rows) ∧
    (decodeRows none b.messages = none → ∃ e,
      parseMessages tooShort turn s (b.flag :: b.flag' :: (lead ++ b.body caps.ttcFieldVersion)) = .error e) := by
  have hrun := H.run b.messages .start none hsent hfollows
  have hrest : (⟨b.flag :: b.flag' :: (lead ++ b.body caps.ttcFieldVersion), 2⟩ : ReadBuffer).rest =
      lead ++ b.messages.flatMap RowMessage.encode ++
        MessageType.error.code :: b.closing.encode caps.ttcFieldVersion := by
    rw [List.append_assoc]
    rfl
  have hne : lead ++ b.body caps.ttcFieldVersion ≠ [] :=
    List.append_ne_nil_of_right_ne_nil _ (b.body_ne_nil _)
  change match decodeRows none b.messages with | some rows => _ | none => _ at hrun
  constructor
  · intro rows hd
    rw [hd] at hrun
    obtain ⟨bv, hturns⟩ := hrun
    have hc := rest_advance_of_append hrest
    obtain ⟨c', hend⟩ := hclose ⟨RowState.start.rows ++ rows, bv, _⟩ _ (by rw [hc, List.append_nil])
    exact parseMessages_eq hne (hlead.trans hturns _ _ hrest _ hend)
  · intro hd
    rw [hd] at hrun
    obtain ⟨e, c', hend⟩ := hlead.fails hrun _ _ hrest
    exact ⟨e, @parseMessages_eq _ _ _ _ _ _ _ _ hne (.error e) c' hend⟩

/-- What the fetch parser makes of a response with rows. -/
theorem parseFetchResponse_eq (b : Batch) (cursorId : UInt16) (hnb : b.closing.NoBatch)
    (hsent : Sent codecs caps columns none b.messages) :
    match decodeRows none b.messages with
    | some rows => parseFetchResponse codecs caps (b.payload caps.ttcFieldVersion) cursorId columns =
        fetchOutcome columns rows b.closing
    | none => ∃ e, parseFetchResponse codecs caps (b.payload caps.ttcFieldVersion) cursorId columns =
        .error e := by
  have h := b.parseRows_eq (handlesRows_fetch cursorId) "Fetch response too short"
    (fun _ rows => fetchOutcome columns rows b.closing) (Turns.refl _) hsent (follows_fetchPolicy none _)
    fun state _ hc => ends_fetch_error (FetchState.withRows cursorId state) b.closing hnb hc
  cases hd : decodeRows none b.messages with
  | none => exact h.2 hd
  | some rows => exact h.1 rows hd

end Batch

/-- An execute response with rows: describe information may stand in front of the rows. -/
structure FirstBatch extends Batch where
  /-- the describe information behind the bytes that the parser skips -/
  describe : Option (ByteString × DescribeInfo)

namespace FirstBatch

/-- The bytes in front of the row messages. -/
def lead (ttcFieldVersion : UInt8) (b : FirstBatch) : Bytes :=
  match b.describe with
  | some (skipped, d) =>
    MessageType.describeInfo.code :: (skipped.encode ++ d.encode ttcFieldVersion)
  | none => []

/-- The payload of the response. -/
def payload (ttcFieldVersion : UInt8) (b : FirstBatch) : Bytes :=
  b.flag :: b.flag' :: (b.lead ttcFieldVersion ++ b.body ttcFieldVersion)

/-- The rows are those of the given columns: the response describes them, or the parser knows
them already. -/
def Describes (columns known : List ColumnInfo) (b : FirstBatch) : Prop :=
  match b.describe with
  | some (_, d) => d.infos = columns
  | none => known = columns

/-- The query parser comes to the row messages with the columns described. -/
lemma turns_lead (b : FirstBatch) {known : List ColumnInfo} (h : b.Describes columns known) :
    Turns .stuck (queryTurn codecs caps) (QueryState.start known) (b.lead caps.ttcFieldVersion)
      (QueryState.withRows columns .start) := by
  unfold Describes at h
  unfold lead
  cases hd : b.describe with
  | none =>
    rw [hd] at h
    subst h
    exact Turns.refl _
  | some p =>
    obtain ⟨skipped, d⟩ := p
    rw [hd] at h
    subst h
    refine Turns.one (reads_messageTurn rfl ?_) (List.cons_ne_nil _ _)
    refine skipped.reads_skipRawBytesChunked.bind ?_
    exact (d.reads_parseDescribeInfo caps.ttcFieldVersion).bind_nil (Reads.pure _)

/-- What the query parser makes of a response with rows. -/
theorem parseQueryResponse_eq (b : FirstBatch) {known : List ColumnInfo}
    (hv : caps.ttcFieldVersion ≥ fieldVersion21_1) (hdescribe : b.Describes columns known)
    (hsent : Sent codecs caps columns none b.messages)
    (hfollows : Follows columns queryPolicy none none b.messages) :
    match decodeRows none b.messages with
    | some rows =>
      parseQueryResponseWithColumns codecs caps (b.payload caps.ttcFieldVersion) known =
        queryOutcome (b.payload caps.ttcFieldVersion) columns rows b.closing
    | none => ∃ e,
      parseQueryResponseWithColumns codecs caps (b.payload caps.ttcFieldVersion) known =
        .error e := by
  have h := b.toBatch.parseRows_eq handlesRows_query "Query response too short"
    (fun packet rows => queryOutcome packet columns rows b.closing) (b.turns_lead hdescribe) hsent hfollows
    fun state _ hc => @ends_query_error codecs caps (QueryState.withRows columns state) rfl b.closing hv _ _ hc
  cases hd : decodeRows none b.messages with
  | none => exact h.2 hd
  | some rows => exact h.1 rows hd

end FirstBatch

/-! ## A column and a closing message to try things with -/

/-- A column of texts. -/
def textColumn : ColumnInfo := ColumnInfo.new "C" .varchar

/-- The description of the column. -/
def describeText : DescribeInfo :=
  .single (.plain (.present (Ub.byte 1) Nat.one_ne_zero (.short "C" (by decide))) 1)

lemma infos_describeText : describeText.infos = [textColumn] := by decide +kernel

/-- The text `A` in a column. -/
def cellA : Cell := .sent [1, 65] (some (.string "A"))

lemma fits_cellA : cellA.Fits codecs caps textColumn false := by
  refine ⟨rfl, ?_⟩
  have hA : fromUtf8Lossy [65] = "A" := by
    have := fromUtf8Lossy_asBytes "A"
    rwa [show asBytes "A" = [65] by decide] at this
  refine reads_parseColumnValue rfl (some (.short [65] (by decide))) ?_
  rw [← hA]
  rfl

/-- A closing message with a cursor id that reports success. -/
def successMessage : ErrorMessage := .plain (Ub.byte 1) Ub.zero none

end OracleRs
