import OracleRs.Lib.Agreement
import OracleRs.Response.Row
import OracleRs.Utf16

set_option relaxedAutoImplicit false
set_option autoImplicit false

/-!
# The row decoder of the library

`RowDataDecoder` (`row.rs`), which the library exports beside the decoder that the connection uses
(`parse_row_data_with_bitvector`). The two go their own ways where a column has no buffer, where there
is nothing left to read, behind the escape character, and for some types of columns.

## Main definitions

* `OracleRs.RowDataDecoder`, `OracleRs.RowDataDecoder.decodeRow` — the decoder.
* `OracleRs.RowDataDecoder.CellAlike` — a value that both decoders read in the same way.
* `OracleRs.RowDataDecoder.charsetBytes` — a text in the character set of its form.

## Main results

* `OracleRs.RowDataDecoder.agree_cell_iff` — when the two agree on a value.
* `OracleRs.RowDataDecoder.rowsAgree_iff` — when they agree on rows.
* `OracleRs.RowDataDecoder.decodedInForm_iff` — when both return the text that the server has sent.
-/

namespace OracleRs

open Cursor

/-! ## ROWIDs -/

/-- `decode_rowid`. -/
def decodeRowidBytes (data : Bytes) : Except Error RowId :=
  let field (p n : ℕ) := BigEndian.eval ((data.drop p).take n)
  if data = [] then .ok ⟨0, 0, 0, 0⟩
  else if data.headD 0 = 1 ∧ data.length ≥ 13 then
    .ok ⟨UInt32.ofNat (field 1 4), UInt16.ofNat (field 5 2), UInt32.ofNat (field 7 4), UInt16.ofNat (field 11 2)⟩
  else if data.length ≥ 10 then
    .ok ⟨UInt32.ofNat (field 0 4), UInt16.ofNat (field 4 2), UInt32.ofNat (field 6 4),
      if data.length ≥ 12 then UInt16.ofNat (field 10 2) else 0⟩
  else .error (.dataConversionError ("Invalid ROWID data length: " ++ toString data.length))

/-! ## The decoder -/

/-- A row decoder (`RowDataDecoder`). -/
structure RowDataDecoder where
  /-- the columns -/
  columns : List ColumnInfo
  /-- the bit vector that marks duplicates -/
  bitVector : Option Bytes := none

namespace RowDataDecoder

/-- `read_chunked_data`. -/
def readChunkedData : ReadM (Option Bytes) := do
  let result ← readChunks
  return if result = [] then none else some result

/-- `read_oracle_slice`. -/
def readOracleSlice : ReadM (Option Bytes) := do
  let buf ← get
  if buf.remaining = 0 then return none
  else
    let length ← readU8
    if length = 0 ∨ length = nullIndicator then return none
    else if length = longIndicator then readChunkedData
    else return some (← readBytesVec length.toNat)

/-- The common body of the decoders of values that are bytes with a length: NULL, or what the bytes
are decoded to. -/
def decodeSlice (decode : Bytes → Except Error Value) : ReadM Value := do
  match ← readOracleSlice with
  | none => return .null
  | some data => liftExcept (decode data)

/-- The text of `decode_string`. -/
def stringOf (data : Bytes) : Except Error Value :=
  match fromUtf8 data with
  | some s => .ok (.string s)
  | none => .error (.dataConversionError "Invalid UTF-8 in string")

/-- The value of `decode_urowid`: a physical ROWID, or the text behind the type indicator. -/
def urowidOf (data : Bytes) : Except Error Value :=
  if data = [] then .ok .null
  else if data.headD 0 = 1 ∧ data.length ≥ 13 then .rowId <$> decodeRowidBytes data
  else .ok (.string (fromUtf8Lossy data.tail))

/-- The value of `decode_boolean`: the last byte. -/
def booleanOf (data : Bytes) : Except Error Value := .ok (.boolean (data.getLast?.getD 0 = 1))

/-- `decode_string`. -/
def decodeString : ReadM Value := decodeSlice stringOf

/-- `decode_number`. -/
def decodeNumber : ReadM Value := decodeSlice fun data => numberValue <$> decodeOracleNumber data

/-- `decode_date`. -/
def decodeDate : ReadM Value := decodeSlice fun data => .date <$> decodeOracleDate data

/-- `decode_timestamp`. -/
def decodeTimestamp (withTz : Bool) : ReadM Value := decodeSlice fun data =>
  .timestamp <$> if withTz then decodeOracleTimestampUtc data else decodeOracleTimestamp data

/-- `decode_raw`. -/
def decodeRaw : ReadM Value := decodeSlice fun data => .ok (.bytes data)

/-- `decode_binary_float`. -/
def decodeBinaryFloat : ReadM Value := decodeSlice fun data =>
  .ok (.float (widen (OracleRs.decodeBinaryFloat data)))

/-- `decode_binary_double`. -/
def decodeBinaryDouble : ReadM Value := decodeSlice fun data =>
  .ok (.float (OracleRs.decodeBinaryDouble data))

/-- `decode_interval_ym`. -/
def decodeIntervalYm : ReadM Value := decodeSlice fun data => .intervalYM <$> decodeOracleIntervalYm data

/-- `decode_interval_ds`. -/
def decodeIntervalDs : ReadM Value := decodeSlice fun data => .intervalDS <$> decodeOracleIntervalDs data

/-- The components of a ROWID behind its length. -/
def readRowidParts : ReadM RowId := do
  let rba ← readUb4
  let partitionId ← readUb2
  skip 1
  let blockNum ← readUb4
  let slotNum ← readUb2
  return ⟨rba, partitionId, blockNum, slotNum⟩

/-- `decode_rowid`. -/
def decodeRowid : ReadM Value := do
  let length ← readU8
  if length = 0 ∨ length = nullIndicator then return .null
  else return .rowId (← readRowidParts)

/-- `decode_urowid`. -/
def decodeUrowid : ReadM Value := decodeSlice urowidOf

/-- `decode_boolean`. -/
def decodeBoolean : ReadM Value := decodeSlice booleanOf

/-- Does a value of the type have a length of its own, so that it is read also where the column has no
buffer? -/
def hasOwnLength : OracleType → Bool
  | .long | .longRaw | .urowid => true
  | _ => false

/-- The decoder of a value by its column's type, in `decode_column_value`. -/
def decodeTyped : OracleType → ReadM Value
  | .varchar | .char | .long => decodeString
  | .number | .binaryInteger => decodeNumber
  | .date => decodeDate
  | .timestamp => decodeTimestamp false
  | .timestampTz | .timestampLtz => decodeTimestamp true
  | .raw | .longRaw => decodeRaw
  | .binaryFloat => decodeBinaryFloat
  | .binaryDouble => decodeBinaryDouble
  | .intervalYm => decodeIntervalYm
  | .intervalDs => decodeIntervalDs
  | .rowid => decodeRowid
  | .urowid => decodeUrowid
  | .boolean => decodeBoolean
  | _ => decodeRaw

/-- `decode_column_value`. -/
def decodeColumnValue (column : ColumnInfo) : ReadM Value :=
  if column.bufferSize = 0 ∧ hasOwnLength column.oracleType = false then return .null
  else decodeTyped column.oracleType

variable (decoder : RowDataDecoder)

/-- `is_duplicate`. -/
def isDuplicate (columnIndex : ℕ) : Bool :=
  match decoder.bitVector with
  | some bv => columnIndex / 8 < bv.length &&
      bv.getD (columnIndex / 8) 0 &&& (1 <<< UInt8.ofNat (columnIndex % 8)) = 0
  | none => false

/-- One column in the loop of `decode_row`. -/
def decodeCell (previousRow : Option Row) (column : ColumnInfo × ℕ) : ReadM Value :=
  if decoder.isDuplicate column.2 then
    return (previousRow.bind fun row => row[column.2]?).getD .null
  else decodeColumnValue column.1

/-- `decode_row`. -/
def decodeRow (previousRow : Option Row) : ReadM Row :=
  each (decoder.decodeCell previousRow) decoder.columns.zipIdx

/-! ## Scalar columns -/

/-- The types of scalar columns. -/
def IsRowScalar : OracleType → Bool
  | .cursor | .object | .clob | .blob | .bfile | .json | .vector => false
  | _ => true

/-- What bytes that are not NULL are decoded to, for every scalar type but ROWID. -/
def sliceOf (oracleType : OracleType) (data : Bytes) : Except Error Value :=
  match oracleType with
  | .varchar | .char | .long => stringOf data
  | .urowid => urowidOf data
  | .boolean => booleanOf data
  | oracleType => OracleRs.decodeColumnValue oracleType data

/-- Bytes that are not NULL are decoded to the same value: texts are valid, the text of a UROWID is the
same without its first byte, and the type is not BOOLEAN. -/
def DataAlike (oracleType : OracleType) (data : Bytes) : Prop :=
  match oracleType with
  | .varchar | .char | .long => (fromUtf8 data).isSome
  | .urowid => ¬ (data.headD 0 = 1 ∧ data.length ≥ 13) ∧
      fromUtf8Lossy data.tail = fromUtf8Lossy data
  | .boolean => False
  | _ => True

/-- The value behind the escape character if it is the length. -/
def valueBehindLength (oracleType : OracleType) (data : Bytes) : Option Value :=
  if data.length < escapeChar.toNat then none
  else (sliceOf oracleType (data.take escapeChar.toNat)).toOption

/-- The value behind the escape character if the length is the next byte. -/
def valueBehindEscape (oracleType : OracleType) (data : Bytes) : Option Value :=
  if data = [] ∨ data.tail.length < (data.headD 0).toNat then none
  else (scalarValue oracleType (some (data.tail.take (data.headD 0).toNat))).toOption

/-- What stands behind the escape character is read in the same way, although one decoder takes the
character for the length and the other one takes the next byte: both fail, or the next byte is such
that both stop at the same place, and both find the same value there. -/
def EscapeAlike (oracleType : OracleType) (data : Bytes) : Prop :=
  valueBehindLength oracleType data = valueBehindEscape oracleType data ∧
    (valueBehindLength oracleType data = none ∨ (data.headD 0).toNat + 1 = escapeChar.toNat)

/-- A value that is bytes with a length is read in the same way: there is a length, and the bytes are
decoded to the same value. -/
def SliceAlike (oracleType : OracleType) (c : ReadBuffer) : Prop :=
  c.rest ≠ [] ∧
    if c.rest.head? = some escapeChar then EscapeAlike oracleType c.rest.tail
    else ∀ data c', readBytesWithLength c = .ok (some data) c' → data ≠ [] → DataAlike oracleType data

/-- A ROWID is read in the same way: it is NULL, or both readers fail. -/
def RowidAlike (c : ReadBuffer) : Prop :=
  c.rest = [] ∨ c.rest.head? = some 0 ∨ c.rest.head? = some nullIndicator ∨
    (∃ e c', readRowidParts (c.advance 1) = .error e c') ∧ ∃ e c', readBytesWithLength c = .error e c'

/-- The value of a column is read in the same way: the column has a buffer or its values have a length
of their own, and the value is read in the way of its type. -/
def CellAlike (column : ColumnInfo) (c : ReadBuffer) : Prop :=
  (column.bufferSize ≠ 0 ∨ hasOwnLength column.oracleType = true) ∧
    if column.oracleType = .rowid then RowidAlike c else SliceAlike column.oracleType c

lemma decodeTyped_eq {oracleType : OracleType} (hscalar : IsRowScalar oracleType = true)
    (hrowid : oracleType ≠ .rowid) : decodeTyped oracleType = decodeSlice (sliceOf oracleType) := by
  cases oracleType with
  | rowid => exact absurd rfl hrowid
  | cursor | object | clob | blob | bfile | json | vector => cases hscalar
  | _ => rfl

lemma isScalar_of_isRowScalar {column : ColumnInfo} (h : IsRowScalar column.oracleType = true) :
    column.isScalar = true := by
  rw [ColumnInfo.isScalar, ColumnInfo.isLob]
  revert h
  cases column.oracleType <;> decide

/-! ## Values -/

/-- An empty value is NULL. -/
def normalize : Option Bytes → Option Bytes
  | some [] => none
  | data => data

lemma eq_some_of_normalize {data : Option Bytes} {bytes : Bytes} (h : normalize data = some bytes) :
    data = some bytes ∧ bytes ≠ [] := by
  cases data with
  | none => cases h
  | some data =>
    cases data with
    | nil => cases h
    | cons x data =>
      cases h
      exact ⟨rfl, List.cons_ne_nil x data⟩

/-- The value of bytes that may be NULL. -/
def valueOf (decode : Bytes → Except Error Value) : Option Bytes → Except Error Value
  | none => .ok .null
  | some data => decode data

section Cell

variable {c : ReadBuffer} {codecs : Codecs} {caps : Capabilities}

lemma scalarValue_eq (oracleType : OracleType) (data : Option Bytes) :
    scalarValue oracleType data =
      valueOf (OracleRs.decodeColumnValue oracleType) (normalize data) := by
  cases data with
  | none => rfl
  | some data => cases data <;> rfl

lemma decodeSlice_eq (decode : Bytes → Except Error Value) :
    decodeSlice decode = readOracleSlice >>= fun data => liftExcept (valueOf decode data) := by
  rw [decodeSlice]
  congr 1
  funext data
  cases data <;> rfl

lemma readBytesWithLength_of_nil (hc : c.rest = []) :
    readBytesWithLength c = .error (.bufferUnderflow 1 c.rest.length) c := by
  rw [readBytesWithLength, bind_error (readU8_of_nil hc)]

/-- Where there is a length that is not the escape character, both read the same bytes. -/
lemma readOracleSlice_eq {b : UInt8} {r : Bytes} (hc : c.rest = b :: r) (hb : b ≠ escapeChar) :
    readOracleSlice c = (normalize <$> readBytesWithLength) c := by
  have hread : readU8 c = .ok b (c.advance 1) := reads_readU8 b c r hc
  have hget : (get : ReadM ReadBuffer) c = .ok c c := rfl
  have hrem : ¬ c.remaining = 0 := by simp [remaining_eq, hc]
  rw [map_eq_pure_bind, readOracleSlice, readBytesWithLength, bind_ok hget, if_neg hrem, bind_ok hread,
    bind_assoc, bind_ok hread]
  by_cases hnull : b = nullIndicator
  · rw [if_pos (Or.inr hnull), if_pos hnull]
    rfl
  by_cases hlong : b = longIndicator
  · rw [if_neg (by subst hlong; decide), if_pos hlong, if_neg hnull, if_pos hlong, readChunkedData,
      bind_assoc]
    cases hchunks : readChunks (c.advance 1) with
    | error e c' => rw [bind_error hchunks, bind_error hchunks]
    | ok data c' =>
      rw [bind_ok hchunks, bind_ok hchunks]
      cases data <;> rfl
  by_cases hzero : b = 0
  · subst hzero
    rfl
  · have hlen : b.toNat ≠ 0 := fun h => hzero (UInt8.toNat_inj.mp h)
    rw [if_neg (by simp [hzero, hnull]), if_neg hlong, if_neg hnull, if_neg hlong, if_neg hb]
    simp only [pure_bind, if_neg hlen, bind_assoc]
    cases hdata : readBytesVec b.toNat (c.advance 1) with
    | error e c' => rw [bind_error hdata, bind_error hdata]
    | ok data c' =>
      rw [bind_ok hdata, bind_ok hdata]
      cases data with
      | nil => exact absurd (length_of_readBytesVec hdata).1.symm hlen
      | cons x data => rfl

/-- The bytes of a value are decoded to the same value. -/
lemma agree_decode_iff {oracleType : OracleType} (hscalar : IsRowScalar oracleType = true)
    (hrowid : oracleType ≠ .rowid) {data : Bytes} (hdata : data ≠ []) (c : ReadBuffer) :
    Agree (liftExcept (sliceOf oracleType data))
      (liftExcept (OracleRs.decodeColumnValue oracleType data)) c ↔ DataAlike oracleType data := by
  have htext : Agree (liftExcept (stringOf data)) (liftExcept (.ok (.string (fromUtf8Lossy data)))) c ↔
      (fromUtf8 data).isSome := by
    rw [stringOf, fromUtf8Lossy]
    cases fromUtf8 data with
    | none => exact iff_of_false (fun h => h) (by simp)
    | some s => exact iff_of_true ⟨rfl, rfl⟩ rfl
  cases oracleType with
  | rowid => exact absurd rfl hrowid
  | cursor | object | clob | blob | bfile | json | vector => cases hscalar
  | varchar => exact htext
  | char => exact htext
  | long => exact htext
  | boolean =>
    refine iff_of_false ?_ id
    rintro ⟨h, -⟩
    cases h
  | urowid =>
    show Agree (liftExcept (urowidOf data)) (liftExcept (.ok (.string (fromUtf8Lossy data)))) c ↔ _
    rw [urowidOf, if_neg hdata, DataAlike]
    split_ifs with hphysical
    · refine iff_of_false ?_ fun h => h.1 hphysical
      rw [decodeRowidBytes, if_neg hdata, if_pos hphysical]
      rintro ⟨h, -⟩
      cases h
    · constructor
      · rintro ⟨h, -⟩
        exact ⟨hphysical, Value.string.inj h⟩
      · rintro ⟨-, h⟩
        rw [h]
        exact Agree.of_eq rfl
  | _ => exact iff_of_true (Agree.of_eq rfl) trivial

lemma outcome_readBytesVec (n : ℕ) (c : ReadBuffer) : outcome (readBytesVec n c) =
    if c.rest.length < n then none else some (c.rest.take n, c.advance n) := by
  rw [readBytesVec_eq]
  split_ifs <;> rfl

lemma outcome_liftExcept (v : Except Error Value) (c : ReadBuffer) :
    outcome (liftExcept v c) = v.toOption.map fun v => (v, c) := by
  cases v <;> rfl

/-- What the decoder finds behind the escape character. -/
lemma outcome_decodeTyped_escape {oracleType : OracleType} (hscalar : IsRowScalar oracleType = true)
    (hrowid : oracleType ≠ .rowid) {r : Bytes} (hc : c.rest = escapeChar :: r) :
    outcome (decodeTyped oracleType c) =
      (valueBehindLength oracleType r).map fun v => (v, c.advance (1 + escapeChar.toNat)) := by
  have hread : readU8 c = .ok escapeChar (c.advance 1) := reads_readU8 escapeChar c r hc
  have hget : (get : ReadM ReadBuffer) c = .ok c c := rfl
  have hrem : ¬ c.remaining = 0 := by simp [remaining_eq, hc]
  have hrest : (c.advance 1).rest = r := by simp [hc]
  have hslice : readOracleSlice c = (readBytesVec escapeChar.toNat >>= fun data =>
      pure (some data)) (c.advance 1) := by
    rw [readOracleSlice, bind_ok hget, if_neg hrem, bind_ok hread, if_neg (by decide),
      if_neg (by decide)]
  rw [decodeTyped_eq hscalar hrowid, decodeSlice_eq, outcome_bind, hslice, outcome_bind,
    outcome_readBytesVec, hrest, valueBehindLength]
  split_ifs
  · rfl
  · rw [Option.bind_some, ← advance_advance]
    exact outcome_liftExcept _ _

/-- What the decoder of the connection finds behind the escape character. -/
lemma outcome_readBytesWithLength_escape (oracleType : OracleType) {r : Bytes}
    (hc : c.rest = escapeChar :: r) :
    outcome ((readBytesWithLength >>= fun data => liftExcept (scalarValue oracleType data)) c) =
      (valueBehindEscape oracleType r).map fun v => (v, c.advance (1 + (1 + (r.headD 0).toNat))) := by
  have hread : readU8 c = .ok escapeChar (c.advance 1) := reads_readU8 escapeChar c r hc
  have hrest : (c.advance 1).rest = r := by simp [hc]
  rw [outcome_bind, readBytesWithLength, bind_ok hread, if_neg (by decide), if_neg (by decide),
    if_pos rfl, valueBehindEscape]
  cases r with
  | nil =>
    rw [bind_error (readU8_of_nil hrest)]
    rfl
  | cons n r =>
    have hlen : readU8 (c.advance 1) = .ok n ((c.advance 1).advance 1) := reads_readU8 n _ r hrest
    have hrest' : ((c.advance 1).advance 1).rest = r := by rw [rest_advance, hrest]; rfl
    rw [bind_ok hlen, pure_bind]
    beta_reduce
    by_cases hzero : n.toNat = 0
    · rw [if_pos hzero, if_neg (by simp [hzero])]
      simp only [List.headD_cons, hzero, List.take_zero]
      rfl
    · rw [if_neg hzero, outcome_bind, outcome_readBytesVec, hrest']
      have hne : ¬ n :: r = [] := List.cons_ne_nil n r
      simp only [hne, false_or, List.tail_cons, List.headD_cons]
      split_ifs
      · rfl
      · rw [advance_advance, advance_advance, ← Nat.add_assoc]
        exact outcome_liftExcept _ _

lemma map_pair_eq_iff {α γ : Type} {o o' : Option α} {x y : γ} :
    o.map (fun v => (v, x)) = o'.map (fun v => (v, y)) ↔ o = o' ∧ (o = none ∨ x = y) := by
  cases o <;> cases o' <;> simp

/-- When the two agree on a value that is bytes with a length. -/
lemma agree_slice_iff {oracleType : OracleType} (hscalar : IsRowScalar oracleType = true)
    (hrowid : oracleType ≠ .rowid) :
    Agree (decodeTyped oracleType)
      (readBytesWithLength >>= fun data => liftExcept (scalarValue oracleType data)) c ↔
      SliceAlike oracleType c := by
  rw [SliceAlike]
  cases hc : c.rest with
  | nil =>
    -- one decoder finds NULL, the other one finds nothing
    refine iff_of_false ?_ fun h => h.1 rfl
    have hrem : c.remaining = 0 := by simp [remaining_eq, hc]
    have hget : (get : ReadM ReadBuffer) c = .ok c c := rfl
    have hslice : readOracleSlice c = .ok none c := by
      rw [readOracleSlice, bind_ok hget, if_pos hrem]
      rfl
    intro h
    rw [Agree, decodeTyped_eq hscalar hrowid, decodeSlice_eq, bind_ok hslice,
      bind_error (readBytesWithLength_of_nil hc)] at h
    exact h
  | cons b r =>
    rw [and_iff_right (List.cons_ne_nil b r)]
    by_cases hb : b = escapeChar
    · subst hb
      rw [if_pos List.head?_cons, List.tail_cons, agree_iff_outcome_eq, outcome_decodeTyped_escape hscalar hrowid hc,
        outcome_readBytesWithLength_escape oracleType hc, EscapeAlike, map_pair_eq_iff, advance_inj,
        Nat.add_left_cancel_iff, Nat.add_comm 1, eq_comm (a := escapeChar.toNat)]
    · have hslice := readOracleSlice_eq hc hb
      have hhead : ¬ (b :: r).head? = some escapeChar := fun h => hb (Option.some.inj h)
      rw [decodeTyped_eq hscalar hrowid, decodeSlice_eq, if_neg hhead]
      cases hread : readBytesWithLength c with
      | error e c' =>
        rw [map_eq_pure_bind, bind_error hread] at hslice
        rw [Agree, bind_error hslice, bind_error hread]
        refine iff_of_true trivial ?_
        rintro data c'' ⟨⟩
      | ok data c' =>
        rw [map_eq_pure_bind, bind_ok hread] at hslice
        rw [Agree, bind_ok hslice, bind_ok hread, scalarValue_eq]
        cases hdata : normalize data with
        | none =>
          refine iff_of_true ⟨rfl, rfl⟩ ?_
          rintro data' c'' ⟨⟩ hne
          cases data' with
          | nil => exact absurd rfl hne
          | cons x data' => cases hdata
        | some bytes =>
          obtain ⟨rfl, hne⟩ := eq_some_of_normalize hdata
          refine (agree_decode_iff hscalar hrowid hne c').trans ⟨fun h => ?_, fun h => h _ _ rfl hne⟩
          rintro data' c'' ⟨⟩ -
          exact h

/-- The decoder of the connection takes a ROWID for NULL or for a text. -/
lemma exists_scalarValue_rowid (data : Option Bytes) :
    ∃ v, scalarValue .rowid data = .ok v ∧ ∀ rowId, v ≠ .rowId rowId := by
  rw [scalarValue_eq]
  cases normalize data with
  | none => exact ⟨.null, rfl, fun rowId h => by cases h⟩
  | some bytes => exact ⟨.string (fromUtf8Lossy bytes), rfl, fun rowId h => by cases h⟩

/-- When the two agree on a ROWID: what one of them reads is never what the other one reads. -/
lemma agree_rowid_iff :
    Agree decodeRowid
      (readBytesWithLength >>= fun data => liftExcept (scalarValue .rowid data)) c ↔ RowidAlike c := by
  rw [RowidAlike]
  cases hc : c.rest with
  | nil =>
    refine iff_of_true ?_ (Or.inl rfl)
    rw [Agree, decodeRowid, bind_error (readU8_of_nil hc), bind_error (readBytesWithLength_of_nil hc)]
    trivial
  | cons b r =>
    have hread : readU8 c = .ok b (c.advance 1) := reads_readU8 b c r hc
    by_cases hnull : b = 0 ∨ b = nullIndicator
    · refine iff_of_true ?_ ?_
      · rw [Agree, decodeRowid, readBytesWithLength, bind_assoc, bind_ok hread, bind_ok hread,
          if_pos hnull]
        obtain rfl | rfl := hnull
        · exact ⟨rfl, rfl⟩
        · exact ⟨rfl, rfl⟩
      · obtain rfl | rfl := hnull
        · exact Or.inr (Or.inl rfl)
        · exact Or.inr (Or.inr (Or.inl rfl))
    · rw [Agree, decodeRowid, bind_ok hread, if_neg hnull]
      rw [not_or] at hnull
      simp only [List.head?_cons, Option.some.injEq, List.cons_ne_nil, hnull.1, hnull.2, false_or]
      cases hparts : readRowidParts (c.advance 1) with
      | error e c' =>
        rw [bind_error hparts]
        cases hbytes : readBytesWithLength c with
        | error e' c'' =>
          rw [bind_error hbytes]
          exact iff_of_true trivial ⟨⟨e, c', rfl⟩, e', c'', rfl⟩
        | ok data c'' =>
          rw [bind_ok hbytes]
          obtain ⟨v, hv, -⟩ := exists_scalarValue_rowid data
          rw [hv]
          refine iff_of_false id ?_
          rintro ⟨-, e', c₁, ⟨⟩⟩
      | ok rowId c' =>
        rw [bind_ok hparts]
        refine iff_of_false ?_ ?_
        · cases hbytes : readBytesWithLength c with
          | error e' c'' =>
            rw [bind_error hbytes]
            exact id
          | ok data c'' =>
            rw [bind_ok hbytes]
            obtain ⟨v, hv, hne⟩ := exists_scalarValue_rowid data
            rw [hv]
            rintro ⟨h, -⟩
            exact hne rowId h.symm
        · rintro ⟨⟨e', c₁, ⟨⟩⟩, -⟩

/-- A value that is read where there is a length moves the cursor. -/
lemma ne_of_readBytesWithLength {data : Option Bytes} {c' : ReadBuffer}
    (h : readBytesWithLength c = .ok data c') : c' ≠ c := by
  obtain ⟨b, r, hr, rfl, hread⟩ := exact_readBytesWithLength c c' data h
  intro hstays
  have hzero : b.length = 0 := advance_inj.mp (hstays.trans (advance_zero c).symm)
  rw [List.length_eq_zero_iff.mp hzero] at hread
  have hempty := hread ⟨[], 0⟩ [] rfl
  rw [readBytesWithLength_of_nil rfl] at hempty
  cases hempty

/-- Where one decoder finds NULL without a look at the data, the other one does not agree. -/
lemma not_agree_null (decode : Option Bytes → Except Error Value) :
    ¬ Agree (pure .null : ReadM Value)
      (readBytesWithLength >>= fun data => liftExcept (decode data)) c := by
  intro h
  have hok := h.eq_ok (show (pure .null : ReadM Value) c = .ok .null c from rfl)
  obtain ⟨data, c', hread, hdecode⟩ := exists_of_bind_ok hok
  have hstays : c' = c := by
    cases hv : decode data with
    | ok v =>
      rw [hv] at hdecode
      cases hdecode
      rfl
    | error e =>
      rw [hv] at hdecode
      cases hdecode
  exact ne_of_readBytesWithLength hread hstays

/-- When the two agree on the value of a column. -/
lemma agree_cell_iff {column : ColumnInfo} (hscalar : IsRowScalar column.oracleType = true) :
    Agree (decodeColumnValue column) (parseColumnValue codecs caps column) c ↔ CellAlike column c := by
  rw [parseColumnValue_of_scalar (isScalar_of_isRowScalar hscalar), decodeColumnValue, CellAlike]
  have hread : (column.bufferSize ≠ 0 ∨ hasOwnLength column.oracleType = true) ↔
      ¬ (column.bufferSize = 0 ∧ hasOwnLength column.oracleType = false) := by
    rw [not_and_or, Bool.not_eq_false]
  rw [hread]
  by_cases hnull : column.bufferSize = 0 ∧ hasOwnLength column.oracleType = false
  · rw [if_pos hnull]
    exact iff_of_false (not_agree_null _) fun h => h.1 hnull
  · rw [if_neg hnull, and_iff_right hnull]
    by_cases hrowid : column.oracleType = .rowid
    · rw [if_pos hrowid, hrowid]
      exact agree_rowid_iff
    · rw [if_neg hrowid]
      exact agree_slice_iff hscalar hrowid

end Cell

/-! ## Rows -/

section Rows

variable {codecs : Codecs} {caps : Capabilities} {columns : List ColumnInfo}
  {bitVector : Option Bytes} {previousRow : Option Row} {c : ReadBuffer}

/-- The two decoders agree on the columns and on every beginning of them. -/
def RowsAgree (codecs : Codecs) (caps : Capabilities) (columns : List ColumnInfo)
    (bitVector : Option Bytes) (previousRow : Option Row) (c : ReadBuffer) : Prop :=
  ∀ n, Agree (decodeRow ⟨columns.take n, bitVector⟩ previousRow)
    (parseRowDataWithBitvector codecs caps (columns.take n) bitVector previousRow) c

/-- Every value of the row is a duplicate, or it is read in the same way where the values before it
end. -/
def RowAlike (codecs : Codecs) (caps : Capabilities) (columns : List ColumnInfo)
    (bitVector : Option Bytes) (previousRow : Option Row) (c : ReadBuffer) : Prop :=
  ∀ i column, columns[i]? = some column → OracleRs.isDuplicate bitVector i = false →
    ∀ row c', parseRowDataWithBitvector codecs caps (columns.take i) bitVector previousRow c =
      .ok row c' → CellAlike column c'

/-- When the two agree on a column of a row. -/
lemma agree_readCell_iff {column : ColumnInfo} (hscalar : IsRowScalar column.oracleType = true)
    (i : ℕ) :
    Agree (decodeCell ⟨columns, bitVector⟩ previousRow (column, i))
      (readCell codecs caps (OracleRs.isDuplicate bitVector) previousRow (column, i)) c ↔
      (OracleRs.isDuplicate bitVector i = false → CellAlike column c) := by
  have hsame : isDuplicate ⟨columns, bitVector⟩ i = OracleRs.isDuplicate bitVector i := rfl
  rw [decodeCell, readCell]
  show Agree (if isDuplicate ⟨columns, bitVector⟩ i = true then _ else _) _ c ↔ _
  rw [hsame]
  cases OracleRs.isDuplicate bitVector i with
  | true =>
    refine iff_of_true (Agree.of_eq ?_) fun h => by cases h
    rw [if_pos rfl, if_pos rfl]
    cases previousRow with
    | none => rfl
    | some row => exact congrArg (EStateM.Result.ok · c) (List.getD_eq_getElem?_getD ..).symm
  | false =>
    rw [if_neg Bool.false_ne_true, if_neg Bool.false_ne_true]
    exact (agree_cell_iff hscalar).trans ⟨fun h _ => h, fun h => h rfl⟩

/-- The two decoders agree on the columns and on every beginning of them if and only if every value is
a duplicate, or is read in the same way.

**Proof sketch.** The decoders read one value for every column, so they agree where the readers of the
values agree wherever they are reached. -/
theorem rowsAgree_iff (hscalar : ∀ column ∈ columns, IsRowScalar column.oracleType = true) :
    RowsAgree codecs caps columns bitVector previousRow c ↔
      RowAlike codecs caps columns bitVector previousRow c := by
  have htake : ∀ n, (columns.take n).zipIdx = columns.zipIdx.take n := by
    intro n
    apply List.ext_getElem?
    intro i
    rw [List.getElem?_zipIdx, List.getElem?_take, List.getElem?_take, List.getElem?_zipIdx]
    split_ifs <;> rfl
  have hitem : ∀ i (cell : ColumnInfo × ℕ), columns.zipIdx[i]? = some cell ↔
      columns[i]? = some cell.1 ∧ cell.2 = i := by
    intro i cell
    rw [List.getElem?_zipIdx, Option.map_eq_some_iff]
    constructor
    · rintro ⟨column, hcolumn, rfl⟩
      exact ⟨hcolumn, Nat.zero_add i⟩
    · rintro ⟨hcolumn, rfl⟩
      exact ⟨cell.1, hcolumn, Prod.ext rfl (Nat.zero_add _)⟩
  have hrows : RowsAgree codecs caps columns bitVector previousRow c ↔
      ∀ n, Agree
        (each (readCell codecs caps (OracleRs.isDuplicate bitVector) previousRow)
          (columns.zipIdx.take n))
        (each (decodeCell ⟨columns, bitVector⟩ previousRow) (columns.zipIdx.take n)) c := by
    refine forall_congr' fun n => ?_
    rw [agree_comm, parseRowDataWithBitvector, decodeRow, htake]
    rfl
  rw [hrows, forall_agree_each_iff]
  constructor
  · intro hall i column hcolumn hdup row c' hparse
    rw [parseRowDataWithBitvector, htake] at hparse
    have hagree := hall i (column, i) ((hitem i _).mpr ⟨hcolumn, rfl⟩) row c' hparse
    have hmem := List.mem_of_getElem? hcolumn
    exact (agree_readCell_iff (hscalar column hmem) i).mp (agree_comm.mp hagree) hdup
  · rintro halike i ⟨column, j⟩ hcell row c' hparse
    obtain ⟨hcolumn, rfl⟩ := (hitem i _).mp hcell
    rw [← htake] at hparse
    have hmem := List.mem_of_getElem? hcolumn
    refine agree_comm.mp ((agree_readCell_iff (hscalar column hmem) j).mpr fun hdup => ?_)
    exact halike j column hcolumn hdup row c' hparse

/-- The text `A` in a column with a buffer. -/
theorem rowsAgree_letter :
    RowsAgree .rejecting {} [{ name := "T", oracleType := .varchar, bufferSize := 10 }] none none
      ⟨[1, 65], 0⟩ := by
  refine (rowsAgree_iff (by simp [IsRowScalar])).mpr ?_
  rintro (_ | i) column hcolumn - row c' hparse
  · cases hcolumn
    cases hparse
    refine ⟨Or.inl (by decide), ?_⟩
    rw [if_neg (by decide)]
    refine ⟨by decide, ?_⟩
    rw [if_neg (by decide)]
    intro data c' hread _
    have hletter : readBytesWithLength ⟨[1, 65], 0⟩ = .ok (some [65]) ⟨[1, 65], 2⟩ := rfl
    cases hletter.symm.trans hread
    rfl
  · cases hcolumn

/-- A BOOLEAN is a text for one decoder. -/
theorem not_rowsAgree_boolean :
    ¬ ∀ (codecs : Codecs) (caps : Capabilities) (columns : List ColumnInfo) (bitVector : Option Bytes)
      (previousRow : Option Row) (c : ReadBuffer),
      (∀ column ∈ columns, IsRowScalar column.oracleType = true) →
        Agree (decodeRow ⟨columns, bitVector⟩ previousRow)
          (parseRowDataWithBitvector codecs caps columns bitVector previousRow) c := by
  intro h
  have hagree := h .rejecting {} [{ name := "B", oracleType := .boolean, bufferSize := 1 }] none none
    ⟨[1, 1], 0⟩ (by simp [IsRowScalar])
  have hdecode : decodeRow ⟨[{ name := "B", oracleType := .boolean, bufferSize := 1 }], none⟩ none
      ⟨[1, 1], 0⟩ = .ok [.boolean true] ⟨[1, 1], 2⟩ := rfl
  have hparse : parseRowDataWithBitvector .rejecting {}
      [{ name := "B", oracleType := .boolean, bufferSize := 1 }] none none ⟨[1, 1], 0⟩ =
        .ok [.string (fromUtf8Lossy [1])] ⟨[1, 1], 2⟩ := rfl
  have heq := hparse.symm.trans (hagree.eq_ok hdecode)
  cases heq

end Rows

/-! ## Character sets -/

/-- A text in the character set of the form: UTF-16 for the national character set, else UTF-8. -/
def charsetBytes (csfrm : UInt8) (s : String) : Bytes := if csfrm = 2 then encodeUtf16Be s else asBytes s

section Charset

variable {codecs : Codecs} {caps : Capabilities} {column : ColumnInfo} {s : String} {sent : ByteString}

/-- A type whose values are texts. -/
def IsCharacter (oracleType : OracleType) : Prop :=
  oracleType = .varchar ∨ oracleType = .char ∨ oracleType = .long

/-- Both decoders return the text that has been sent. -/
def DecodedInForm (codecs : Codecs) (caps : Capabilities) (column : ColumnInfo) (sent : ByteString)
    (s : String) : Prop :=
  Reads (parseColumnValue codecs caps column) sent.encode (.string s) ∧
    Reads (decodeColumnValue column) sent.encode (.string s)

lemma charsetBytes_empty (csfrm : UInt8) : charsetBytes csfrm "" = [] := by
  rw [charsetBytes]
  split_ifs <;> rfl

/-- The length of a byte string is not the escape character. -/
lemma exists_encode_eq_cons (sent : ByteString) :
    ∃ b rest, sent.encode = b :: rest ∧ b ≠ escapeChar := by
  cases sent with
  | short data h =>
    refine ⟨UInt8.ofNat data.length, data, rfl, fun heq => ?_⟩
    have hlen := congrArg UInt8.toNat heq
    rw [UInt8.toNat_ofNat', Nat.mod_eq_of_lt (by omega)] at hlen
    have hescape : escapeChar.toNat = 253 := rfl
    omega
  | long chunks last h => exact ⟨longIndicator, _, rfl, by decide⟩

/-- A byte string that is not empty is read exactly. -/
lemma reads_readOracleSlice (hne : sent.content ≠ []) :
    Reads readOracleSlice sent.encode (some sent.content) := by
  intro c r hc
  obtain ⟨b, rest, hb, hescape⟩ := exists_encode_eq_cons sent
  have hread := reads_readBytesWithLength (some sent) c r hc
  rw [hb, List.cons_append] at hc
  rw [readOracleSlice_eq hc hescape, map_eq_pure_bind, bind_ok hread]
  show EStateM.Result.ok (normalize (some sent.content)) _ = _
  cases hdata : sent.content with
  | nil => exact absurd hdata hne
  | cons x data => rfl

/-- The two decoders return a text in a column with a buffer, or of type LONG, if it is sent in the
first form and not empty. They return no other one: no text is the same in UTF-16 and in UTF-8. -/
theorem decodedInForm_iff (htype : IsCharacter column.oracleType)
    (hform : column.csfrm = 1 ∨ column.csfrm = 2)
    (hsent : sent.content = charsetBytes column.csfrm s) :
    DecodedInForm codecs caps column sent s ↔
      column.csfrm = 1 ∧ s ≠ "" ∧ (column.bufferSize ≠ 0 ∨ column.oracleType = .long) := by
  have hscalar : IsRowScalar column.oracleType = true := by
    rcases htype with h | h | h <;> rw [h] <;> rfl
  have hdecoder : decodeTyped column.oracleType = decodeSlice stringOf := by
    rcases htype with h | h | h <;> rw [h] <;> rfl
  have hvalue : ∀ data, data ≠ [] → scalarValue column.oracleType (some data) =
      .ok (.string (fromUtf8Lossy data)) := by
    intro data hne
    rw [scalarValue_eq]
    cases data with
    | nil => exact absurd rfl hne
    | cons x data => rcases htype with h | h | h <;> rw [h] <;> rfl
  have hlength : hasOwnLength column.oracleType = false ↔ column.oracleType ≠ .long := by
    rcases htype with h | h | h <;> rw [h] <;> decide
  have hbuffer : (column.bufferSize ≠ 0 ∨ column.oracleType = .long) ↔
      ¬ (column.bufferSize = 0 ∧ hasOwnLength column.oracleType = false) := by
    rw [hlength, not_and_or, not_not]
  rw [hbuffer]
  constructor
  · rintro ⟨hparse, hdecode⟩
    rw [decodeColumnValue] at hdecode
    split_ifs at hdecode with hnull
    · have hpure : Reads (pure .null : ReadM Value) [] .null := Reads.pure _
      have heq := (hpure.unique (r := sent.encode) hdecode (List.append_nil _).symm).1
      cases heq
    · have hne : sent.content ≠ [] := by
        intro hempty
        have hreads : Reads (parseColumnValue codecs caps column) _ .null :=
          reads_parseColumnValue (isScalar_of_isRowScalar hscalar) (some sent) (by
            rw [Option.map_some, hempty]
            rfl)
        cases hreads.right_unique hparse
      have hrun := hdecode ⟨sent.encode, 0⟩ [] (by simp)
      rw [hdecoder, decodeSlice_eq, bind_ok (reads_readOracleSlice hne _ [] (by simp))] at hrun
      have hutf8 : fromUtf8 sent.content = some s := by
        rw [valueOf, stringOf] at hrun
        cases htext : fromUtf8 sent.content with
        | none =>
          rw [htext] at hrun
          cases hrun
        | some t =>
          rw [htext] at hrun
          cases hrun
          rfl
      have hbytes := asBytes_of_fromUtf8 hutf8
      rw [hsent] at hbytes
      have hs : s ≠ "" := by
        rintro rfl
        exact hne (hsent.trans (charsetBytes_empty _))
      refine ⟨hform.resolve_right fun h => ?_, hs, hnull⟩
      rw [charsetBytes, if_pos h] at hbytes
      exact encodeUtf16Be_ne_asBytes hs hbytes.symm
  · rintro ⟨hone, hs, hnull⟩
    have hbytes : sent.content = asBytes s := by
      rw [hsent, charsetBytes, hone]
      rfl
    have hne : sent.content ≠ [] := by
      rw [hbytes]
      intro hempty
      have hnil : fromUtf8 [] = some "" := fromUtf8_asBytes ""
      have hback := fromUtf8_asBytes s
      rw [hempty, hnil] at hback
      exact hs (Option.some.inj hback).symm
    constructor
    · refine reads_parseColumnValue (isScalar_of_isRowScalar hscalar) (some sent) ?_
      rw [Option.map_some, hvalue _ hne, hbytes, fromUtf8Lossy_asBytes]
    · rw [decodeColumnValue, if_neg hnull, hdecoder, decodeSlice_eq]
      refine (reads_readOracleSlice hne).bind_nil ?_
      rw [valueOf, stringOf, hbytes, fromUtf8_asBytes]
      exact Reads.pure _

/-- The text `a` in the first form. -/
theorem decodedInForm_letter :
    DecodedInForm .rejecting {} { name := "T", oracleType := .varchar, bufferSize := 10, csfrm := 1 }
      (.short [97] (by decide)) "a" :=
  (decodedInForm_iff (Or.inl rfl) (Or.inl rfl) rfl).mpr ⟨rfl, by decide, Or.inl (by decide)⟩

/-- The text `a` in the second form is taken for two characters. -/
theorem not_decodedInForm_national :
    ¬ ∀ (codecs : Codecs) (caps : Capabilities) (column : ColumnInfo) (sent : ByteString) (s : String),
      IsCharacter column.oracleType → (column.csfrm = 1 ∨ column.csfrm = 2) →
        sent.content = charsetBytes column.csfrm s → DecodedInForm codecs caps column sent s := by
  intro h
  have hdecoded := h .rejecting {}
    { name := "N", oracleType := .varchar, bufferSize := 10, csfrm := 2 } (.short [0, 97] (by decide))
    "a" (Or.inl rfl) (Or.inr rfl) (by decide)
  have hrun := hdecoded.2 ⟨[2, 0, 97], 0⟩ [] rfl
  have hdecode : decodeColumnValue { name := "N", oracleType := .varchar, bufferSize := 10, csfrm := 2 }
      ⟨[2, 0, 97], 0⟩ = liftExcept (stringOf [0, 97]) ⟨[2, 0, 97], 3⟩ := rfl
  have htext : fromUtf8 [0, 97] = some "\x00a" := fromUtf8_asBytes "\x00a"
  rw [hdecode, stringOf, htext] at hrun
  have heq : "\x00a" = "a" := Value.string.inj (EStateM.Result.ok.inj hrun).1
  exact absurd heq (by decide)

end Charset

end RowDataDecoder

end OracleRs
