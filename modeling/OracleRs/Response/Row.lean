import OracleRs.Response.Describe

set_option relaxedAutoImplicit false
set_option autoImplicit false

/-!
# Row data

The readers of column values and rows (`connection.rs`): scalar values behind their length, LOBs,
REF CURSORs and objects, rows with a bit vector that marks duplicates of the previous row, and
rows of OUT parameters.

## Main definitions

* `OracleRs.decodeColumnValue` — a scalar value from its bytes.
* `OracleRs.parseColumnValue` — a column value of any type.
* `OracleRs.isDuplicate` — does a bit vector mark a column as a duplicate?
* `OracleRs.parseRowDataWithBitvector`, `OracleRs.parseOutBindRowData` — rows.

## Main results

* `OracleRs.reads_parseColumnValue` — a scalar value in any form of its length prefix is read
  exactly.
* `OracleRs.parseRowData_congr` — a row depends on a bit vector through the duplicates it marks.
-/

namespace OracleRs

open Cursor

/-! ## Column values -/

/-- The decoding of a value that is not NULL by its column's type, in `parse_column_value`. -/
def decodeColumnValue (oracleType : OracleType) (bytes : Bytes) : Except Error Value :=
  match oracleType with
  | .number | .binaryInteger => numberValue <$> decodeOracleNumber bytes
  | .binaryFloat => .ok (.float (widen (decodeBinaryFloat bytes)))
  | .binaryDouble => .ok (.float (decodeBinaryDouble bytes))
  | .varchar | .char | .long => .ok (.string (fromUtf8Lossy bytes))
  | .raw | .longRaw => .ok (.bytes bytes)
  | .date => .date <$> decodeOracleDate bytes
  | .timestamp => .timestamp <$> decodeOracleTimestamp bytes
  | .timestampTz | .timestampLtz => .timestamp <$> decodeOracleTimestampUtc bytes
  | .intervalYm => .intervalYM <$> decodeOracleIntervalYm bytes
  | .intervalDs => .intervalDS <$> decodeOracleIntervalDs bytes
  | _ => .ok (.string (fromUtf8Lossy bytes))

/-- A scalar value: NULL, or what its bytes decode to. -/
def scalarValue (oracleType : OracleType) : Option Bytes → Except Error Value
  | none => .ok .null
  | some [] => .ok .null
  | some bytes => decodeColumnValue oracleType bytes

/-- `parse_lob_value`. -/
def parseLobValue (codecs : Codecs) (col : ColumnInfo) : ReadM Value := do
  let isJson := col.oracleType = .json ∨ col.isJson
  let numBytes ← readUb4
  if numBytes = 0 then
    if isJson then
      return .json .null
    if col.oracleType = .vector then
      return .null
    return .lob .null
  -- a BFILE has no size and chunk size
  let (size, chunkSize) ← (if col.oracleType = .bfile then pure (0, 0) else do
    let size ← readUb8
    let chunkSize ← readUb4
    return (size, chunkSize))
  let dataBytes ← readBytesWithLength
  let data := dataBytes.getD []
  if isJson then
    let _locator ← readBytesWithLength
    if data = [] then
      return .json .null
    match codecs.decodeOson data with
    | .ok json => return .json json
    | .error _ => return .json .null
  if col.oracleType = .vector then
    let _locator ← readBytesWithLength
    if data = [] then
      return .null
    match codecs.decodeVector data with
    | .ok vector => return .vector vector
    | .error _ => return .null
  if data = [] then
    return .lob .empty
  return .lob (.locator ⟨data, size, chunkSize, col.oracleType, col.csfrm⟩)

/-- `parse_cursor_value`. -/
def parseCursorValue (ttcFieldVersion : UInt8) : ReadM Value := do
  let _length ← readU8
  let cursorColumns ← parseDescribeInfo ttcFieldVersion
  let cursorId ← readUb2
  return .cursor { cursorId := cursorId, columns := cursorColumns }

/-- The value of an object column from its packed data, at the end of `parse_object_value`. -/
def objectValue (codecs : Codecs) (col : ColumnInfo) (data : Bytes) : Value :=
  let typeName := col.typeName.getD "UNKNOWN"
  -- the flags in the first byte say whether this is a collection
  if data.headD 0 &&& 0x08 ≠ 0 then
    let objType : DbObjectType :=
      ⟨col.typeSchema.getD "", typeName, col.collectionType.getD .varray,
        col.elementType.getD .varchar⟩
    match codecs.decodeCollection objType data with
    | .ok collection => .collection collection
    | .error _ => .bytes data
  else
    .collection ((DbObject.new typeName).set "_raw_data" (.bytes data))

/-- `parse_object_value`. -/
def parseObjectValue (codecs : Codecs) (col : ColumnInfo) : ReadM Value := do
  let toidLen ← readUb4
  let _toid ← readBytesVec toidLen.toNat
  let oidLen ← readUb4
  let _oid ← readBytesVec oidLen.toNat
  let _snapshot ← indicated4 skipRawBytesChunked
  let _version ← readUb2
  let dataLen ← readUb4
  let _flags ← readUb2
  if dataLen = 0 then
    return .null
  let packedData ← readBytesWithLength
  let data := packedData.getD []
  return if data = [] then .null else objectValue codecs col data

/-- `parse_column_value`. -/
def parseColumnValue (codecs : Codecs) (caps : Capabilities) (col : ColumnInfo) : ReadM Value :=
  if col.isLob then
    parseLobValue codecs col
  else if col.oracleType = .cursor then
    parseCursorValue caps.ttcFieldVersion
  else if col.oracleType = .object then
    parseObjectValue codecs col
  else
    readBytesWithLength >>= fun data => liftExcept (scalarValue col.oracleType data)

/-! ## Rows -/

/-- Does a bit vector mark column `colIdx` as a duplicate of the previous row? A cleared bit does;
columns behind its end are not marked. -/
def isDuplicate (bitVector : Option Bytes) (colIdx : ℕ) : Bool :=
  match bitVector with
  | some bv => colIdx / 8 < bv.length &&
      bv.getD (colIdx / 8) 0 &&& (1 <<< UInt8.ofNat (colIdx % 8)) = 0
  | none => false

/-- The value of a duplicate: that of the previous row, or NULL if there is none. -/
def duplicateValue (previousValues : Option Row) (colIdx : ℕ) : Value :=
  match previousValues with
  | some prev => prev.getD colIdx .null
  | none => .null

/-- One column in the loop of `parse_row_data_with_bitvector`. -/
def readCell (codecs : Codecs) (caps : Capabilities) (duplicate : ℕ → Bool)
    (previousValues : Option Row) (col : ColumnInfo × ℕ) : ReadM Value :=
  if duplicate col.2 then pure (duplicateValue previousValues col.2)
  else parseColumnValue codecs caps col.1

/-- `parse_row_data_with_bitvector`. -/
def parseRowDataWithBitvector (codecs : Codecs) (caps : Capabilities) (columns : List ColumnInfo)
    (bitVector : Option Bytes) (previousValues : Option Row) : ReadM Row :=
  each (readCell codecs caps (isDuplicate bitVector) previousValues) columns.zipIdx

/-- One column in the loop of `parse_out_bind_row_data`. -/
def readOutBind (codecs : Codecs) (caps : Capabilities) (col : ColumnInfo) : ReadM Value := do
  let value ← parseColumnValue codecs caps col
  skipUb4 -- the actual number of bytes
  return value

/-- `parse_out_bind_row_data`. -/
def parseOutBindRowData (codecs : Codecs) (caps : Capabilities) (columns : List ColumnInfo) :
    ReadM Row :=
  each (readOutBind codecs caps) columns

/-! ## What is read -/

/-- A column whose values are bytes with a length. -/
def ColumnInfo.isScalar (col : ColumnInfo) : Bool :=
  !col.isLob && col.oracleType ≠ .cursor && col.oracleType ≠ .object

lemma parseColumnValue_of_scalar {codecs : Codecs} {caps : Capabilities} {col : ColumnInfo}
    (h : col.isScalar) : parseColumnValue codecs caps col =
      readBytesWithLength >>= fun data => liftExcept (scalarValue col.oracleType data) := by
  simp only [ColumnInfo.isScalar, Bool.and_eq_true, Bool.not_eq_true', decide_eq_true_eq] at h
  obtain ⟨⟨hlob, hcursor⟩, hobject⟩ := h
  rw [parseColumnValue, if_neg (by simp [hlob]), if_neg hcursor, if_neg hobject]

/-- A scalar value that decodes is read exactly. -/
lemma reads_parseColumnValue {codecs : Codecs} {caps : Capabilities} {col : ColumnInfo} {v : Value}
    (h : col.isScalar) (s : Option ByteString)
    (hv : scalarValue col.oracleType (s.map ByteString.content) = .ok v) :
    Reads (parseColumnValue codecs caps col) (encodeNullable s) v := by
  rw [parseColumnValue_of_scalar h]
  refine (reads_readBytesWithLength s).bind_nil ?_
  rw [hv]
  exact Reads.pure v

/-- A row depends on a bit vector through the duplicates that it marks among the columns. -/
lemma parseRowData_congr {codecs : Codecs} {caps : Capabilities} {columns : List ColumnInfo}
    {bv bv' : Option Bytes} (prev : Option Row)
    (h : ∀ i < columns.length, isDuplicate bv i = isDuplicate bv' i) :
    parseRowDataWithBitvector codecs caps columns bv prev =
      parseRowDataWithBitvector codecs caps columns bv' prev := by
  unfold parseRowDataWithBitvector
  have hcells : ∀ (cols : List (ColumnInfo × ℕ)), (∀ c ∈ cols, c.2 < columns.length) →
      each (readCell codecs caps (isDuplicate bv) prev) cols =
        each (readCell codecs caps (isDuplicate bv') prev) cols := by
    intro cols hcols
    induction cols with
    | nil => rfl
    | cons c cols ih =>
      have hc : readCell codecs caps (isDuplicate bv) prev c =
          readCell codecs caps (isDuplicate bv') prev c := by
        simp only [readCell, h c.2 (hcols c List.mem_cons_self)]
      rw [each, each, hc, ih fun x hx => hcols x (List.mem_cons_of_mem _ hx)]
  refine hcells _ fun c hc => ?_
  have := List.snd_lt_of_mem_zipIdx hc
  simpa using this

end OracleRs
