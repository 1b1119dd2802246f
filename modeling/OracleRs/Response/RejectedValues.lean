import OracleRs.Buffer.Write
import OracleRs.Messages.BindValue
import OracleRs.Response.Row
import OracleRs.Types.OsonEncode

set_option relaxedAutoImplicit false
set_option autoImplicit false

/-!
# Values that a codec rejects

JSON documents go through `OsonEncoder` and `OsonDecoder`, vectors through `decode_vector`, and each of
them can fail. `write_bind_value` and `parse_lob_value` take a failure for NULL: a value that its codec
rejects is written and read as if it were not there.

## Main definitions

* `OracleRs.LobWire` — a JSON or VECTOR value that is not NULL, as it is sent.
* `OracleRs.ReportsRejected` — what a codec rejects is an error.
* `OracleRs.NullsRejected` — what a codec rejects, and nothing else, is NULL.

## Main results

* `OracleRs.nullsRejected` — the values written and read with any codecs.
* `OracleRs.not_reportsRejected` — a number that OSON cannot hold is written as NULL.
-/

namespace OracleRs

open Cursor Sink

/-! ## Binds -/

/-- The bytes of a bind that is NULL. -/
def nullBind : Bytes := [0]

/-- The length of the data behind a descriptor. -/
def dataLengthBytes (length : ℕ) : Bytes :=
  if length < 254 then [UInt8.ofNat length]
  else if length ≤ 65535 then 254 :: BigEndian.digits 2 (UInt16.ofNat length).toNat
  else 255 :: BigEndian.digits 4 (UInt32.ofNat length).toNat

/-- The bytes of a descriptor and the data behind it. -/
def qLocatorBytes (data : Bytes) : Bytes :=
  [1, 40, 40, 0, 38, 0, 4, 0x61, 0x08, 0, 0, 0, 1] ++
    (BigEndian.digits 8 (UInt64.ofNat data.length).toNat ++
      (List.replicate 22 0 ++ (dataLengthBytes data.length ++ data)))

lemma qLocatorBytes_ne_nullBind (data : Bytes) : qLocatorBytes data ≠ nullBind := by
  intro h
  have hhead := congrArg List.head? h
  cases hhead

lemma writes_writeQLocator (data : Bytes) : Writes (writeQLocator data) (qLocatorBytes data) := by
  have hbytes := writes_writeBytes data
  have hlength : Writes
      (if data.length < 254 then do
        let r ← writeU8 (UInt8.ofNat data.length)
        (fun _ => writeBytes data) r
      else if data.length ≤ 65535 then do
        writeU8 254
        let r ← writeU16Be (UInt16.ofNat data.length)
        (fun _ => writeBytes data) r
      else do
        writeU8 255
        let r ← writeU32Be (UInt32.ofNat data.length)
        (fun _ => writeBytes data) r)
      (dataLengthBytes data.length ++ data) := by
    rw [dataLengthBytes]
    split_ifs
    · exact (writes_writeU8 _).bind hbytes
    · exact (writes_writeU8 _).bind ((writes_writeU16Be _).bind hbytes)
    · exact (writes_writeU8 _).bind ((writes_writeU32Be _).bind hbytes)
  exact (writes_writeUb4 40).bind ((writes_writeU8 40).bind ((writes_writeU16Be 38).bind
    ((writes_writeU16Be 4).bind ((writes_writeU8 0x61).bind ((writes_writeU8 0x08).bind
    ((writes_writeU16Be 0).bind ((writes_writeU16Be 1).bind
    ((writes_writeU64Be (UInt64.ofNat data.length)).bind ((writes_writeU16Be 0).bind
    ((writes_writeU16Be 0).bind ((writes_writeU16Be 0).bind ((writes_writeU64Be 0).bind
    ((writes_writeU64Be 0).bind hlength)))))))))))))

/-! ## Columns -/

/-- The columns whose values are decoded where they are read. -/
def IsDecoded (col : ColumnInfo) : Prop := col.oracleType = .json ∨ col.isJson ∨ col.oracleType = .vector

/-- A JSON or VECTOR value that is not NULL, as it is sent: the number of bytes, the sizes of the LOB
unless it is a BFILE, the payload and the locator. -/
structure LobWire where
  /-- the number of bytes -/
  numBytes : Ub 4
  /-- the value is not NULL -/
  numBytes_ne : numBytes.value ≠ 0
  /-- the size of the LOB -/
  size : Ub 8
  /-- the size of its chunks -/
  chunkSize : Ub 4
  /-- the payload -/
  payload : Option ByteString
  /-- the locator behind it -/
  locator : Option ByteString

namespace LobWire

/-- The bytes on the wire. -/
def encode (wire : LobWire) (col : ColumnInfo) : Bytes :=
  wire.numBytes.encode ++
    ((if col.oracleType = .bfile then [] else wire.size.encode ++ wire.chunkSize.encode) ++
      (encodeNullable wire.payload ++ encodeNullable wire.locator))

/-- The bytes for the decoder. -/
def data (wire : LobWire) : Option Bytes := wire.payload.map ByteString.content

end LobWire

/-- What a decoder makes of a payload: nothing if there is none, or if the decoder rejects it. -/
def accepted {α : Type} (decode : Bytes → Except Error α) (data : Option Bytes) : Option α :=
  if data.getD [] = [] then none else (decode (data.getD [])).toOption

/-- The value of a JSON column: the null of JSON if there is no document. -/
def jsonOrNull (document : Option Json) : Value := .json (document.getD .null)

/-- The value of a VECTOR column: NULL if there is no vector. -/
def vectorOrNull (vector : Option OracleVector) : Value := (vector.map Value.vector).getD .null

/-- The value of a column from its payload. -/
def decodedOrNull (codecs : Codecs) (col : ColumnInfo) (data : Option Bytes) : Value :=
  if col.oracleType = .json ∨ col.isJson then jsonOrNull (accepted codecs.decodeOson data)
  else vectorOrNull (accepted codecs.decodeVector data)

lemma reads_parseLobValue (codecs : Codecs) {col : ColumnInfo} (hcol : IsDecoded col) (wire : LobWire) :
    Reads (parseLobValue codecs col) (wire.encode col) (decodedOrNull codecs col wire.data) := by
  have hpresent : ¬ UInt32.ofNat wire.numBytes.value = 0 := by
    intro hzero
    have hvalue := congrArg UInt32.toNat hzero
    have hlt : wire.numBytes.value < 2 ^ 32 := wire.numBytes.value_lt
    rw [UInt32.toNat_ofNat', Nat.mod_eq_of_lt hlt] at hvalue
    exact wire.numBytes_ne hvalue
  have hsizes : ∃ sizes, Reads
      (if col.oracleType = .bfile then pure (0, 0) else do
        let size ← readUb8
        let chunkSize ← readUb4
        return (size, chunkSize) : ReadM (UInt64 × UInt32))
      (if col.oracleType = .bfile then [] else wire.size.encode ++ wire.chunkSize.encode) sizes := by
    split_ifs
    · exact ⟨_, Reads.pure _⟩
    · exact ⟨_, wire.size.reads_readUb8.bind (wire.chunkSize.reads_readUb4.bind_nil (Reads.pure _))⟩
  obtain ⟨sizes, hsizes⟩ := hsizes
  refine wire.numBytes.reads_readUb4.bind ?_
  rw [if_neg hpresent]
  refine hsizes.bind ?_
  refine (reads_readBytesWithLength wire.payload).bind ?_
  have hlocator := reads_readBytesWithLength wire.locator
  rw [decodedOrNull, LobWire.data]
  by_cases hjson : col.oracleType = .json ∨ col.isJson
  · rw [if_pos hjson, if_pos hjson, accepted]
    refine hlocator.bind_nil ?_
    generalize (wire.payload.map ByteString.content).getD [] = data
    split_ifs with hempty
    · exact Reads.pure _
    · cases codecs.decodeOson data with
      | ok document => exact Reads.pure _
      | error e => exact Reads.pure _
  · have hvector : col.oracleType = .vector := by
      rcases hcol with h | h | h
      · exact absurd (Or.inl h) hjson
      · exact absurd (Or.inr h) hjson
      · exact h
    rw [if_neg hjson, if_neg hjson, if_pos hvector, accepted]
    refine hlocator.bind_nil ?_
    generalize (wire.payload.map ByteString.content).getD [] = data
    split_ifs with hempty
    · exact Reads.pure _
    · cases codecs.decodeVector data with
      | ok vector => exact Reads.pure _
      | error e => exact Reads.pure _

/-! ## What becomes of rejected values -/

/-- A value that its codec rejects is an error, where it is written and where it is read. -/
structure ReportsRejected (encoders : Encoders) (codecs : Codecs) : Prop where
  /-- a JSON document for a bind -/
  json_bind : ∀ json e, encoders.encodeOson json = .error e →
    ∀ s, ∃ e' s', writeBindValue encoders (.json json) s = .error e' s'
  /-- the payload of a JSON column -/
  json_column : ∀ (col : ColumnInfo) (wire : LobWire) (data : Bytes) (e : Error),
    col.oracleType = .json ∨ col.isJson → wire.data = some data → codecs.decodeOson data = .error e →
      FailsOn (parseLobValue codecs col) (wire.encode col)
  /-- the payload of a VECTOR column -/
  vector_column : ∀ (col : ColumnInfo) (wire : LobWire) (data : Bytes) (e : Error),
    col.oracleType = .vector → col.isJson = false → wire.data = some data →
      codecs.decodeVector data = .error e → FailsOn (parseLobValue codecs col) (wire.encode col)

/-- A JSON document is written as NULL if and only if its encoder rejects it; a JSON or VECTOR value is
what its decoder makes of the payload, and the null of JSON or NULL if the payload is empty or rejected.
None of them is an error. -/
structure NullsRejected (encoders : Encoders) (codecs : Codecs) : Prop where
  /-- a JSON document that is encoded -/
  accepted_bind : ∀ json data, encoders.encodeOson json = .ok data →
    Writes (writeBindValue encoders (.json json)) (qLocatorBytes data)
  /-- the JSON documents that are written as NULL -/
  null_bind : ∀ json, Writes (writeBindValue encoders (.json json)) nullBind ↔
    ∃ e, encoders.encodeOson json = .error e
  /-- a JSON or VECTOR column -/
  column : ∀ (col : ColumnInfo) (wire : LobWire), IsDecoded col →
    Reads (parseLobValue codecs col) (wire.encode col) (decodedOrNull codecs col wire.data)

/-- The encoders with that of the driver for JSON. -/
def osonEncoders : Encoders := { Encoders.rejecting with encodeOson := Oson.encode }

end OracleRs
