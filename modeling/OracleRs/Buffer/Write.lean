import OracleRs.Buffer.Wire
import OracleRs.Lib.Sink

set_option relaxedAutoImplicit false
set_option autoImplicit false

/-!
# The write buffer

The `WriteBuffer` of `buffer/write.rs`: raw bytes, big-endian integers, variable-length integers
and byte strings with a length prefix. A buffer may have a maximum capacity; an operation that
does not fit fails with what it has written before.

## Main definitions

* `OracleRs.WriteBuffer`, `OracleRs.WriteM` — the buffer and its operations.
* `OracleRs.writeUb2`, `OracleRs.writeUb4`, `OracleRs.writeUb8`, `OracleRs.writeOracleUint`,
  `OracleRs.writeBytesWithLength` — the operations with a length of their own.
* `OracleRs.MadeOf` — the raw writes that an operation is made of.
* `OracleRs.ubBytes`, `OracleRs.ByteString.ofBytes` — what they write.

## Main results

* `OracleRs.writes_writeUb2`, `OracleRs.writes_writeUb4`, `OracleRs.writes_writeUb8`,
  `OracleRs.writes_writeBytesWithLength` — every operation writes what a reader takes as the value.
-/

namespace OracleRs

open Cursor
open Sink (Writes Appends)

/-- A write buffer (`WriteBuffer`): the bytes and the maximum capacity. -/
abbrev WriteBuffer := Sink UInt8

/-- An operation on a write buffer. -/
abbrev WriteM := EStateM Error WriteBuffer

/-! ## Raw writes -/

/-- `ensure_capacity`. -/
def ensureCapacity (n : ℕ) : WriteM Unit := fun buf =>
  match buf.limit with
  | some max =>
    if buf.data.length + n > max then .error (.bufferOverflow n (max - buf.data.length)) buf
    else .ok () buf
  | none => .ok () buf

/-- `write_u8`: write a single byte. -/
def writeU8 (value : UInt8) : WriteM Unit := do
  ensureCapacity 1
  modify (·.push [value])

/-- `write_bytes`: write raw bytes. -/
def writeBytes (bytes : Bytes) : WriteM Unit := do
  ensureCapacity bytes.length
  modify (·.push bytes)

/-- `write_zeros`: write some zero bytes. -/
def writeZeros (n : ℕ) : WriteM Unit := do
  ensureCapacity n
  modify (·.push (List.replicate n 0))

/-- `write_u16_be`. -/
def writeU16Be (value : UInt16) : WriteM Unit := do
  ensureCapacity 2
  modify (·.push (BigEndian.digits 2 value.toNat))

/-- `write_u32_be`. -/
def writeU32Be (value : UInt32) : WriteM Unit := do
  ensureCapacity 4
  modify (·.push (BigEndian.digits 4 value.toNat))

/-- `write_u64_be`. -/
def writeU64Be (value : UInt64) : WriteM Unit := do
  ensureCapacity 8
  modify (·.push (BigEndian.digits 8 value.toNat))

/-! ## Variable-length integers -/

/-- `write_ub2`. -/
def writeUb2 (value : UInt16) : WriteM Unit :=
  if value = 0 then writeU8 0
  else if value ≤ 255 then do
    writeU8 1
    writeU8 value.toUInt8
  else do
    writeU8 2
    writeU16Be value

/-- `write_ub4`. -/
def writeUb4 (value : UInt32) : WriteM Unit :=
  if value = 0 then writeU8 0
  else if value ≤ 255 then do
    writeU8 1
    writeU8 value.toUInt8
  else if value ≤ 65535 then do
    writeU8 2
    writeU16Be value.toUInt16
  else do
    writeU8 4
    writeU32Be value

/-- `write_ub8`. -/
def writeUb8 (value : UInt64) : WriteM Unit :=
  if value = 0 then writeU8 0
  else if value ≤ 255 then do
    writeU8 1
    writeU8 value.toUInt8
  else if value ≤ 65535 then do
    writeU8 2
    writeU16Be value.toUInt16
  else if value ≤ 4294967295 then do
    writeU8 4
    writeU32Be value.toUInt32
  else do
    writeU8 8
    writeU64Be value

/-- The number of bytes that `write_oracle_uint` writes a number in:
`(64 - value.leading_zeros() + 7) / 8`. -/
def byteLength (value : UInt64) : ℕ := (value.toNat.log2 + 1 + 7) / 8

/-- `write_oracle_uint`. -/
def writeOracleUint (value : UInt64) : WriteM Unit :=
  if value = 0 then writeU8 0
  else do
    writeU8 (UInt8.ofNat (byteLength value))
    (BigEndian.digits (byteLength value) value.toNat).forM writeU8

/-! ## Byte strings with a length prefix -/

/-- `CHUNK_SIZE`: the most bytes in a chunk. -/
def chunkSize : ℕ := 32767

/-- The chunk loop of `write_bytes_with_length`. The first argument bounds the number of chunks. -/
def writeChunks : ℕ → Bytes → WriteM Unit
  | 0, _ => pure ()
  | n + 1, data =>
    if data = [] then pure ()
    else do
      let chunk := data.take chunkSize
      writeUb4 (UInt32.ofNat chunk.length)
      writeBytes chunk
      writeChunks n (data.drop chunkSize)

/-- `write_bytes_with_length`: the NULL indicator, a length byte with the bytes, or the long
indicator with chunks up to a chunk length of zero. -/
def writeBytesWithLength : Option Bytes → WriteM Unit
  | none => writeU8 nullIndicator
  | some data =>
    if data.length = 0 then writeU8 0
    else if data.length ≤ maxShort.toNat then do
      writeU8 (UInt8.ofNat data.length)
      writeBytes data
    else do
      writeU8 longIndicator
      writeChunks data.length data
      writeUb4 0

/-! ## What the raw writes write -/

/-- A writer that makes the raw writes, one after the other. -/
def MadeOf (m : WriteM Unit) (pieces : List Bytes) : Prop := m = pieces.forM writeBytes

namespace MadeOf

lemma bind {m m' : WriteM Unit} {ps qs : List Bytes} (h : MadeOf m ps) (h' : MadeOf m' qs) :
    MadeOf (do m; m') (ps ++ qs) := by
  rw [MadeOf, h, h']
  exact List.forM_append.symm

lemma single (b : Bytes) : MadeOf (writeBytes b) [b] := (bind_pure (writeBytes b)).symm

lemma cons {m m' : WriteM Unit} {b : Bytes} {ps : List Bytes} (h : MadeOf m [b]) (h' : MadeOf m' ps) :
    MadeOf (do m; m') (b :: ps) := h.bind h'

/-- A write that asks for as much room as it takes. -/
lemma put {n : ℕ} {b : Bytes} (h : b.length = n) : MadeOf (do ensureCapacity n; modify (·.push b)) [b] := by
  subst h
  exact single b

/-- One raw write for each byte. -/
lemma each (b : Bytes) : MadeOf (b.forM writeU8) (b.map ([·])) := by
  induction b with
  | nil => rfl
  | cons x b ih => exact (single [x]).cons ih

end MadeOf

lemma madeOf_writeU8 (value : UInt8) : MadeOf (writeU8 value) [[value]] := .single [value]

lemma madeOf_writeU16Be (value : UInt16) : MadeOf (writeU16Be value) [BigEndian.digits 2 value.toNat] :=
  .put (BigEndian.length_digits 2 _)

lemma madeOf_writeU32Be (value : UInt32) : MadeOf (writeU32Be value) [BigEndian.digits 4 value.toNat] :=
  .put (BigEndian.length_digits 4 _)

lemma madeOf_writeU64Be (value : UInt64) : MadeOf (writeU64Be value) [BigEndian.digits 8 value.toNat] :=
  .put (BigEndian.length_digits 8 _)

/-- A raw write for which there is room. -/
lemma writes_writeBytes (bytes : Bytes) : Writes (writeBytes bytes) bytes := by
  intro buf hroom
  have hensure : ensureCapacity bytes.length buf = .ok () buf := by
    unfold ensureCapacity
    cases hlimit : buf.limit with
    | none => rfl
    | some max =>
      have := hroom max hlimit
      exact if_neg (by omega)
  simp only [writeBytes, bind, EStateM.bind, hensure]
  rfl

/-- Raw writes for all of which there is room. -/
lemma MadeOf.writes {m : WriteM Unit} {ps : List Bytes} (h : MadeOf m ps) : Writes m ps.flatten := by
  rw [h, ← List.flatMap_id]
  exact Writes.forM fun b _ => writes_writeBytes b

lemma writes_writeU8 (value : UInt8) : Writes (writeU8 value) [value] := (madeOf_writeU8 value).writes

lemma writes_writeZeros (n : ℕ) : Writes (writeZeros n) (List.replicate n 0) := by
  have h := (MadeOf.put (List.length_replicate (n := n) (a := (0 : UInt8)))).writes
  rwa [List.flatten_singleton] at h

lemma writes_writeU16Be (value : UInt16) :
    Writes (writeU16Be value) (BigEndian.digits 2 value.toNat) := (madeOf_writeU16Be value).writes

lemma writes_writeU32Be (value : UInt32) :
    Writes (writeU32Be value) (BigEndian.digits 4 value.toNat) := (madeOf_writeU32Be value).writes

lemma writes_writeU64Be (value : UInt64) :
    Writes (writeU64Be value) (BigEndian.digits 8 value.toNat) := (madeOf_writeU64Be value).writes

/-- A write that asks for room and appends. -/
private lemma appends_put (n : ℕ) (b : Bytes) :
    Appends (do ensureCapacity n; modify (·.push b) : WriteM Unit) := by
  have hensure : Appends (ensureCapacity n) := by
    intro s a s' h
    unfold ensureCapacity at h
    split at h
    · split at h
      · cases h
      · cases h
        exact ⟨[], (Sink.push_nil s).symm⟩
    · cases h
      exact ⟨[], (Sink.push_nil s).symm⟩
  refine hensure.bind fun _ => ?_
  intro s _ s' h
  cases h
  exact ⟨b, rfl⟩

lemma appends_writeU8 (value : UInt8) : Appends (writeU8 value) := appends_put _ _

lemma appends_writeBytes (bytes : Bytes) : Appends (writeBytes bytes) := appends_put _ _

lemma appends_writeU32Be (value : UInt32) : Appends (writeU32Be value) := appends_put _ _

/-! ## What the variable-length writes write -/

/-- The number of digit bytes with which a number is written. -/
def ubWidth (n : ℕ) : ℕ :=
  if n = 0 then 0 else if n ≤ 255 then 1 else if n ≤ 65535 then 2 else if n ≤ 4294967295 then 4
  else 8

/-- A number as it is written: the number of its digit bytes and the digit bytes. -/
def ubBytes (n : ℕ) : Bytes := UInt8.ofNat (ubWidth n) :: BigEndian.digits (ubWidth n) n

lemma lt_pow_ubWidth {n : ℕ} (h : n < 2 ^ 64) : n < 256 ^ ubWidth n := by
  unfold ubWidth
  split_ifs <;> omega

/-- A number as it is written, as a variable-length integer. -/
def Ub.shortest {k : ℕ} (n : ℕ) (h : ubWidth n ≤ k) : Ub k :=
  ⟨BigEndian.digits (ubWidth n) n, (BigEndian.length_digits _ _).trans_le h⟩

namespace Ub

variable {k n : ℕ}

lemma encode_shortest (h : ubWidth n ≤ k) : (shortest n h).encode = ubBytes n := by
  simp [encode, shortest, ubBytes]

lemma value_shortest (h : ubWidth n ≤ k) (hn : n < 2 ^ 64) : (shortest n h).value = n :=
  BigEndian.eval_digits _ _ (lt_pow_ubWidth hn)

end Ub

lemma ubWidth_le_two {n : ℕ} (h : n < 2 ^ 16) : ubWidth n ≤ 2 := by
  unfold ubWidth
  split_ifs <;> omega

lemma ubWidth_le_four {n : ℕ} (h : n < 2 ^ 32) : ubWidth n ≤ 4 := by
  unfold ubWidth
  split_ifs <;> omega

lemma ubWidth_le_eight (n : ℕ) : ubWidth n ≤ 8 := by
  unfold ubWidth
  split_ifs <;> omega

/-- The raw writes of a variable-length integer. -/
def ubPieces (n : ℕ) : List Bytes :=
  if n = 0 then [[0]] else [[UInt8.ofNat (ubWidth n)], BigEndian.digits (ubWidth n) n]

lemma flatten_ubPieces (n : ℕ) : (ubPieces n).flatten = ubBytes n := by
  unfold ubPieces ubBytes
  split_ifs with h
  · rw [h]
    rfl
  · simp

lemma madeOf_writeUb2 (value : UInt16) : MadeOf (writeUb2 value) (ubPieces value.toNat) := by
  have hlt := value.toNat_lt
  unfold writeUb2 ubPieces ubWidth
  simp only [← UInt16.toNat_inj, UInt16.le_iff_toNat_le, UInt16.toNat_ofNat]
  norm_num only
  split_ifs
  · exact madeOf_writeU8 0
  · exact (madeOf_writeU8 1).cons (madeOf_writeU8 value.toUInt8)
  · exact (madeOf_writeU8 2).cons (madeOf_writeU16Be value)
  · omega
  · omega

lemma madeOf_writeUb4 (value : UInt32) : MadeOf (writeUb4 value) (ubPieces value.toNat) := by
  have hlt := value.toNat_lt
  have hlow : 65535 < value.toNat ∨ value.toUInt16.toNat = value.toNat := by
    rw [UInt32.toNat_toUInt16]
    omega
  unfold writeUb4 ubPieces ubWidth
  simp only [← UInt32.toNat_inj, UInt32.le_iff_toNat_le, UInt32.toNat_ofNat]
  norm_num only
  split_ifs
  · exact madeOf_writeU8 0
  · exact (madeOf_writeU8 1).cons (madeOf_writeU8 value.toUInt8)
  · have h : value.toUInt16.toNat = value.toNat := by omega
    rw [← h]
    exact (madeOf_writeU8 2).cons (madeOf_writeU16Be value.toUInt16)
  · exact (madeOf_writeU8 4).cons (madeOf_writeU32Be value)
  · omega

lemma madeOf_writeUb8 (value : UInt64) : MadeOf (writeUb8 value) (ubPieces value.toNat) := by
  have hlt := value.toNat_lt
  have hlow : 65535 < value.toNat ∨ value.toUInt16.toNat = value.toNat := by
    rw [UInt64.toNat_toUInt16]
    omega
  have hmid : 4294967295 < value.toNat ∨ value.toUInt32.toNat = value.toNat := by
    rw [UInt64.toNat_toUInt32]
    omega
  unfold writeUb8 ubPieces ubWidth
  simp only [← UInt64.toNat_inj, UInt64.le_iff_toNat_le, UInt64.toNat_ofNat]
  norm_num only
  split_ifs
  · exact madeOf_writeU8 0
  · exact (madeOf_writeU8 1).cons (madeOf_writeU8 value.toUInt8)
  · have h : value.toUInt16.toNat = value.toNat := by omega
    rw [← h]
    exact (madeOf_writeU8 2).cons (madeOf_writeU16Be value.toUInt16)
  · have h : value.toUInt32.toNat = value.toNat := by omega
    rw [← h]
    exact (madeOf_writeU8 4).cons (madeOf_writeU32Be value.toUInt32)
  · exact (madeOf_writeU8 8).cons (madeOf_writeU64Be value)

lemma writes_writeUb2 (value : UInt16) : Writes (writeUb2 value) (ubBytes value.toNat) := by
  rw [← flatten_ubPieces]
  exact (madeOf_writeUb2 value).writes

lemma writes_writeUb4 (value : UInt32) : Writes (writeUb4 value) (ubBytes value.toNat) := by
  rw [← flatten_ubPieces]
  exact (madeOf_writeUb4 value).writes

lemma writes_writeUb8 (value : UInt64) : Writes (writeUb8 value) (ubBytes value.toNat) := by
  rw [← flatten_ubPieces]
  exact (madeOf_writeUb8 value).writes

/-! ## Reading what is written -/

lemma reads_ubBytes2 (value : UInt16) : Reads readUb2 (ubBytes value.toNat) value := by
  have hlt := value.toNat_lt
  have h := (Ub.shortest value.toNat (ubWidth_le_two hlt)).reads_readUb2
  rwa [Ub.encode_shortest, Ub.value_shortest _ (by omega), UInt16.ofNat_toNat] at h

lemma reads_ubBytes4 (value : UInt32) : Reads readUb4 (ubBytes value.toNat) value := by
  have hlt := value.toNat_lt
  have h := (Ub.shortest value.toNat (ubWidth_le_four hlt)).reads_readUb4
  rwa [Ub.encode_shortest, Ub.value_shortest _ (by omega), UInt32.ofNat_toNat] at h

lemma reads_ubBytes8 (value : UInt64) : Reads readUb8 (ubBytes value.toNat) value := by
  have h := (Ub.shortest value.toNat (ubWidth_le_eight _)).reads_readUb8
  rwa [Ub.encode_shortest, Ub.value_shortest _ value.toNat_lt, UInt64.ofNat_toNat] at h

/-! ## What the length-prefixed writes write -/

/-- The length of a chunk fits the bytes that are written for it. -/
lemma length_take_chunkSize_lt (data : Bytes) : (data.take chunkSize).length < 2 ^ 32 :=
  (List.length_take_le _ _).trans_lt (by decide)

/-- The chunks that a byte string is cut into. The first argument bounds their number. -/
def chunksOf : ℕ → Bytes → List Chunk
  | 0, _ => []
  | n + 1, data =>
    if h : data = [] then []
    else
      ⟨Ub.shortest (data.take chunkSize).length (ubWidth_le_four (length_take_chunkSize_lt data)),
        data.take chunkSize,
        Ub.value_shortest _ ((length_take_chunkSize_lt data).trans (Nat.pow_lt_pow_right
          Nat.one_lt_two (Nat.lt_of_sub_pos (Nat.succ_pos 31)))),
        fun e => (List.take_eq_nil_iff.mp e).elim nofun h⟩ :: chunksOf n (data.drop chunkSize)

/-- The chunks hold the bytes. -/
lemma flatMap_chunksOf (n : ℕ) (data : Bytes) (h : data.length ≤ n) :
    (chunksOf n data).flatMap (·.data) = data := by
  induction n generalizing data with
  | zero => rw [List.eq_nil_of_length_eq_zero (Nat.le_zero.mp h)]; rfl
  | succ n ih =>
    by_cases hnil : data = []
    · simp [chunksOf, hnil]
    · have hpos := List.length_pos_iff.mpr hnil
      have hdrop : (data.drop chunkSize).length ≤ n := by
        simp only [List.length_drop, chunkSize]
        omega
      rw [chunksOf, dif_neg hnil, List.flatMap_cons, ih _ hdrop]
      exact List.take_append_drop chunkSize data

lemma writes_writeChunks (n : ℕ) (data : Bytes) :
    Writes (writeChunks n data) (ByteString.encodeChunks (chunksOf n data)) := by
  induction n generalizing data with
  | zero => exact Writes.pure
  | succ n ih =>
    by_cases hnil : data = []
    · rw [writeChunks, if_pos hnil, chunksOf, dif_pos hnil]
      exact Writes.pure
    · have hsize := writes_writeUb4 (UInt32.ofNat (data.take chunkSize).length)
      rw [UInt32.toNat_ofNat', Nat.mod_eq_of_lt (length_take_chunkSize_lt data)] at hsize
      rw [writeChunks, if_neg hnil, chunksOf, dif_neg hnil, ByteString.encodeChunks,
        List.flatMap_cons, Ub.encode_shortest, List.append_assoc]
      exact hsize.bind ((writes_writeBytes _).bind (ih _))

/-- A byte string as the driver writes it. -/
def ByteString.ofBytes (data : Bytes) : ByteString :=
  if h : data.length ≤ 252 then .short data h else .long (chunksOf data.length data) Ub.zero Ub.value_zero

@[simp] lemma ByteString.content_ofBytes (data : Bytes) : (ofBytes data).content = data := by
  unfold ofBytes
  split
  · rfl
  · exact flatMap_chunksOf _ data le_rfl

lemma writes_writeBytesWithLength (data : Option Bytes) :
    Writes (writeBytesWithLength data) (encodeNullable (data.map ByteString.ofBytes)) := by
  cases data with
  | none => exact writes_writeU8 nullIndicator
  | some data =>
    change Writes _ (ByteString.ofBytes data).encode
    simp only [writeBytesWithLength, ByteString.ofBytes]
    by_cases hzero : data.length = 0
    · rw [if_pos hzero, List.eq_nil_of_length_eq_zero hzero]
      exact writes_writeU8 0
    · rw [if_neg hzero]
      by_cases hshort : data.length ≤ 252
      · rw [if_pos (by exact hshort), dif_pos hshort]
        exact (writes_writeU8 _).bind (writes_writeBytes data)
      · rw [if_neg (by exact hshort), dif_neg hshort]
        exact (writes_writeU8 _).bind ((writes_writeChunks _ data).bind (writes_writeUb4 0))

end OracleRs
