import OracleRs.Lib.Cursor
import OracleRs.Lib.BigEndian
import OracleRs.Text

set_option relaxedAutoImplicit false
set_option autoImplicit false

/-!
# The read buffer

The operations of `ReadBuffer` (`buffer/read.rs`) on a cursor over a byte string, and what each
of them reads: raw bytes, big-endian integers, the variable-length integers UB2, UB4 and UB8 of
the TNS encoding, and byte strings with a length prefix, short or chunked.

## Main definitions

* `OracleRs.ReadM` — readers that fail with an error of the driver.
* `OracleRs.Ub` — a variable-length integer as a sender may write it.
* `OracleRs.ByteString` — a byte string with a length prefix as a sender may write it.

## Main results

* `OracleRs.Ub.reads_readUb4` and its siblings, `OracleRs.Ub.reads_skipUb` — every form of a
  variable-length integer is read, and skipped, exactly.
* `OracleRs.ByteString.reads_readRawBytesChunked`, `OracleRs.ByteString.reads_skipRawBytesChunked`,
  `OracleRs.ByteString.reads_readBytesWithLength` — the same for byte strings with a length prefix.
* `OracleRs.exact_readRawBytesChunked`, `OracleRs.exact_readBytesWithLength` — what these reads
  return depends on nothing but the bytes they consume.
-/

namespace OracleRs

open Cursor

/-- A buffer for reading TNS protocol data: the data and the read position. -/
abbrev ReadBuffer := Cursor UInt8

/-- A reading operation. An operation that fails leaves the buffer where it failed. -/
abbrev ReadM := EStateM Error ReadBuffer

/-- Run an operation on a fresh buffer over `data` (`ReadBuffer::from_slice`). -/
def ReadM.runOn {α : Type} (m : ReadM α) (data : Bytes) : Except Error α :=
  match m ⟨data, 0⟩ with
  | .ok a _ => .ok a
  | .error e _ => .error e

/-- A computation that may fail, as a reader that consumes nothing. -/
def liftExcept {α : Type} : Except Error α → ReadM α
  | .ok a => pure a
  | .error e => throw e

/-! ## Raw reads -/

/-- `ensure_remaining`. -/
def ensureRemaining (n : ℕ) : ReadM Unit := fun buf =>
  if buf.remaining < n then .error (.bufferUnderflow n buf.remaining) buf else .ok () buf

/-- `skip`: skip `n` bytes. -/
def skip (n : ℕ) : ReadM Unit := do
  ensureRemaining n
  modify (·.advance n)

/-- `read_u8`: read a single byte. -/
def readU8 : ReadM UInt8 := do
  ensureRemaining 1
  let buf ← get
  set (buf.advance 1)
  return buf.data.getD buf.pos 0

/-- `read_bytes_vec`: read `n` raw bytes. -/
def readBytesVec (n : ℕ) : ReadM Bytes := do
  ensureRemaining n
  let buf ← get
  set (buf.advance n)
  return buf.rest.take n

/-- `read_u16_be`. -/
def readU16Be : ReadM UInt16 := do
  return UInt16.ofNat (BigEndian.eval (← readBytesVec 2))

/-- `read_u16_le`. -/
def readU16Le : ReadM UInt16 := do
  return UInt16.ofNat (BigEndian.eval (← readBytesVec 2).reverse)

/-- `read_i16_be`. -/
def readI16Be : ReadM Int16 := do
  return (← readU16Be).toInt16

/-- `read_u32_be`. -/
def readU32Be : ReadM UInt32 := do
  return UInt32.ofNat (BigEndian.eval (← readBytesVec 4))

/-- `read_u64_be`. -/
def readU64Be : ReadM UInt64 := do
  return UInt64.ofNat (BigEndian.eval (← readBytesVec 8))

/-! ## Variable-length integers -/

/-- `read_ub_length`: the length byte with its high bit (the sign) masked off. -/
def readUbLength : ReadM UInt8 := do
  return (← readU8) &&& 0x7F

/-- `read_ub2`. -/
def readUb2 : ReadM UInt16 := do
  let len ← readUbLength
  match len with
  | 0 => return 0
  | 1 => return (← readU8).toUInt16
  | 2 => readU16Be
  | _ => throw (.invalidLengthIndicator len)

/-- `read_sb2`. -/
def readSb2 : ReadM Int16 := do
  let len ← readUbLength
  match len with
  | 0 => return 0
  | 1 => return (← readU8).toInt8.toInt16
  | 2 => readI16Be
  | _ => throw (.invalidLengthIndicator len)

/-- `read_ub4`. -/
def readUb4 : ReadM UInt32 := do
  let len ← readUbLength
  match len with
  | 0 => return 0
  | 1 => return (← readU8).toUInt32
  | 2 => return (← readU16Be).toUInt32
  | 3 =>
    let bytes ← readBytesVec 3
    return (bytes.foldl BigEndian.shiftIn 0).toUInt32
  | 4 => readU32Be
  | _ => throw (.invalidLengthIndicator len)

/-- `read_ub8`. -/
def readUb8 : ReadM UInt64 := do
  let len ← readUbLength
  match len with
  | 0 => return 0
  | 1 => return (← readU8).toUInt64
  | 2 => return (← readU16Be).toUInt64
  | 4 => return (← readU32Be).toUInt64
  | 8 => readU64Be
  | 3 | 5 | 6 | 7 =>
    let bytes ← readBytesVec len.toNat
    return bytes.foldl BigEndian.shiftIn 0
  | _ => throw (.invalidLengthIndicator len)

/-- `skip_ub1`. -/
def skipUb1 : ReadM Unit := skip 1

/-- The common body of `skip_ub2`, `skip_ub4` and `skip_ub8`: the length byte and as many bytes
as it says. -/
def skipUb : ReadM Unit := do
  let len ← readUbLength
  if len > 0 then
    skip len.toNat

/-- `skip_ub2`. -/
def skipUb2 : ReadM Unit := skipUb

/-- `skip_ub4`. -/
def skipUb4 : ReadM Unit := skipUb

/-- `skip_ub8`. -/
def skipUb8 : ReadM Unit := skipUb

/-! ## Byte strings with a length prefix -/

/-- One turn of the chunk loop that `read_raw_bytes_chunked` and `read_bytes_with_length`
share: read a chunk length, and a chunk unless the length is zero. -/
def readChunk (result : Bytes) : ReadM (Bytes ⊕ Bytes) := do
  let chunkSize := (← readUb4).toNat
  if chunkSize = 0 then
    return .inr result
  let chunk ← readBytesVec chunkSize
  return .inl (result ++ chunk)

/-- The chunk loop: chunks until a chunk of length zero. -/
def readChunks : ReadM Bytes := iterate .stuck readChunk []

/-- One turn of the chunk loop of `skip_raw_bytes_chunked`. -/
def skipChunk (_ : Unit) : ReadM (Unit ⊕ Unit) := do
  let chunkSize := (← readUb4).toNat
  if chunkSize = 0 then
    return .inr ()
  skip chunkSize
  return .inl ()

/-- `skip_raw_bytes_chunked`. -/
def skipRawBytesChunked : ReadM Unit := do
  let length ← readU8
  if length ≠ longIndicator then
    skip length.toNat
  else
    iterate .stuck skipChunk ()

/-- `read_raw_bytes_chunked`. -/
def readRawBytesChunked : ReadM Bytes := do
  let length ← readU8
  if length ≠ longIndicator then
    readBytesVec length.toNat
  else
    readChunks

/-- `read_bytes_with_length`: `none` for the NULL indicator, chunks after the long indicator,
a second length byte after the escape character, and otherwise as many bytes as the first byte
says. -/
def readBytesWithLength : ReadM (Option Bytes) := do
  let len ← readU8
  if len = nullIndicator then
    return none
  if len = longIndicator then
    return some (← readChunks)
  let actualLen ← if len = escapeChar then do pure (← readU8).toNat else pure len.toNat
  if actualLen = 0 then
    return some []
  return some (← readBytesVec actualLen)

/-- `read_string_with_length`. -/
def readStringWithLength : ReadM (Option String) := do
  match ← readBytesWithLength with
  | none => return none
  | some bytes =>
    match fromUtf8 bytes with
    | some s => return some s
    | none => throw (.dataConversionError "invalid utf-8 sequence")

/-- `read_string_with_ub4_length`. -/
def readStringWithUb4Length : ReadM (Option String) := do
  let outerLen ← readUb4
  if outerLen = 0 then
    return none
  readStringWithLength

/-- `set_position`. -/
def setPosition (pos : ℕ) : ReadM Unit := fun buf =>
  if pos > buf.data.length then .error (.bufferUnderflow pos buf.data.length) buf
  else .ok () { buf with pos := pos }

/-! ## What the raw reads read -/

/-- Enough data is left when the rest begins with `n` known bytes. -/
lemma ensureRemaining_of_rest {buf : ReadBuffer} {b r : Bytes} (h : buf.rest = b ++ r) {n : ℕ}
    (hn : n ≤ b.length) : ensureRemaining n buf = .ok () buf := by
  have : ¬ buf.remaining < n := by
    rw [remaining_eq, h, List.length_append]
    omega
  simp [ensureRemaining, this]

/-- Too little data is left when the rest is shorter than what is asked for. -/
lemma ensureRemaining_of_lt {buf : ReadBuffer} {n : ℕ} (h : buf.rest.length < n) :
    ensureRemaining n buf = .error (.bufferUnderflow n buf.rest.length) buf := by
  simp [ensureRemaining, remaining_eq, h]

lemma reads_skip (b : Bytes) : Reads (skip b.length) b () := by
  intro buf r hr
  rw [skip, bind_ok (ensureRemaining_of_rest hr le_rfl)]
  rfl

lemma reads_readBytesVec (b : Bytes) : Reads (readBytesVec b.length) b b := by
  intro buf r hr
  rw [readBytesVec, bind_ok (ensureRemaining_of_rest hr le_rfl)]
  have htake : buf.rest.take b.length = b := by rw [hr, List.take_left]
  change EStateM.Result.ok (buf.rest.take b.length) (buf.advance b.length) = _
  rw [htake]

/-- Reading bytes fails if there are too few, and takes them otherwise. -/
lemma readBytesVec_eq (n : ℕ) (buf : ReadBuffer) : readBytesVec n buf =
    if buf.rest.length < n then .error (.bufferUnderflow n buf.rest.length) buf
    else .ok (buf.rest.take n) (buf.advance n) := by
  split_ifs with hlt
  · rw [readBytesVec, bind_error (ensureRemaining_of_lt hlt)]
  · have hlen : (buf.rest.take n).length = n := by
      rw [List.length_take]
      omega
    have hread := reads_readBytesVec (buf.rest.take n) buf _ (List.take_append_drop n buf.rest).symm
    rwa [hlen] at hread

lemma reads_readU8 (x : UInt8) : Reads readU8 [x] x := by
  intro buf r hr
  rw [readU8, bind_ok (ensureRemaining_of_rest hr (by simp))]
  have hget : buf.data.getD buf.pos 0 = x := by
    have h := congrArg (·[0]?) hr
    simp only [rest, List.getElem?_drop, Nat.add_zero, List.singleton_append,
      List.getElem?_cons_zero] at h
    simp [List.getD_eq_getElem?_getD, h]
  change EStateM.Result.ok (buf.data.getD buf.pos 0) (buf.advance 1) = _
  rw [hget]
  rfl

lemma readU8_of_nil {buf : ReadBuffer} (h : buf.rest = []) :
    readU8 buf = .error (.bufferUnderflow 1 buf.rest.length) buf := by
  have hlt : buf.rest.length < 1 := by simp [h]
  rw [readU8, bind_error (ensureRemaining_of_lt hlt)]

lemma reads_skip_one (x : UInt8) : Reads (skip 1) [x] () := reads_skip [x]

lemma reads_skipUb1 (x : UInt8) : Reads skipUb1 [x] () := reads_skip [x]

lemma reads_readU16Be (b : Bytes) (h : b.length = 2) :
    Reads readU16Be b (UInt16.ofNat (BigEndian.eval b)) := by
  have := (reads_readBytesVec b).map fun bytes => UInt16.ofNat (BigEndian.eval bytes)
  simpa [readU16Be, h, Functor.map] using this

lemma reads_readU16Le (b : Bytes) (h : b.length = 2) :
    Reads readU16Le b (UInt16.ofNat (BigEndian.eval b.reverse)) := by
  have := (reads_readBytesVec b).map fun bytes => UInt16.ofNat (BigEndian.eval bytes.reverse)
  simpa [readU16Le, h, Functor.map] using this

lemma reads_readU32Be (b : Bytes) (h : b.length = 4) :
    Reads readU32Be b (UInt32.ofNat (BigEndian.eval b)) := by
  have := (reads_readBytesVec b).map fun bytes => UInt32.ofNat (BigEndian.eval bytes)
  simpa [readU32Be, h, Functor.map] using this

lemma reads_readU64Be (b : Bytes) (h : b.length = 8) :
    Reads readU64Be b (UInt64.ofNat (BigEndian.eval b)) := by
  have := (reads_readBytesVec b).map fun bytes => UInt64.ofNat (BigEndian.eval bytes)
  simpa [readU64Be, h, Functor.map] using this

/-! ## Variable-length integers as a sender writes them -/

/-- A variable-length integer of at most `k` bytes as a sender may write it: any number of
digit bytes up to `k`, leading zeros included. -/
structure Ub (k : ℕ) where
  /-- the digit bytes, most significant first -/
  digits : Bytes
  /-- there are at most `k` of them -/
  le : digits.length ≤ k

namespace Ub

variable {k : ℕ}

/-- The bytes on the wire: the number of digit bytes and the digit bytes. -/
def encode (u : Ub k) : Bytes := UInt8.ofNat u.digits.length :: u.digits

/-- The value denoted. -/
def value (u : Ub k) : ℕ := BigEndian.eval u.digits

/-- The integer with no digit bytes. -/
def zero : Ub k := ⟨[], by simp⟩

@[simp] lemma value_zero : (zero : Ub k).value = 0 := rfl

@[simp] lemma encode_zero : (zero : Ub k).encode = [0] := rfl

/-- A single digit byte. -/
def byte (b : UInt8) : Ub (k + 1) := ⟨[b], Nat.succ_le_succ (Nat.zero_le k)⟩

@[simp] lemma value_byte (b : UInt8) : (byte b : Ub (k + 1)).value = b.toNat := by
  simp [byte, value, BigEndian.eval]

lemma encode_ne_nil (u : Ub k) : u.encode ≠ [] := List.cons_ne_nil _ _

lemma value_lt (u : Ub k) : u.value < 256 ^ k :=
  (BigEndian.eval_lt u.digits).trans_le (Nat.pow_le_pow_right (by omega) u.le)

end Ub

/-- The masked length byte of a variable-length integer is the number of its digit bytes. -/
lemma reads_readUbLength {n : ℕ} (h : n < 128) :
    Reads readUbLength [UInt8.ofNat n] (UInt8.ofNat n) := by
  have hmask : UInt8.ofNat n &&& 0x7F = UInt8.ofNat n := by
    apply UInt8.toNat_inj.mp
    simp only [UInt8.toNat_and, UInt8.toNat_ofNat', UInt8.reduceToNat]
    rw [Nat.mod_eq_of_lt (by omega), show 127 = 2 ^ 7 - 1 from rfl, Nat.and_two_pow_sub_one_eq_mod]
    exact Nat.mod_eq_of_lt (by omega)
  have := (reads_readU8 (UInt8.ofNat n)).map (· &&& (0x7F : UInt8))
  rwa [hmask] at this

namespace Ub

variable {k : ℕ}

/-- Skipping consumes exactly the bytes of the integer. -/
lemma reads_skipUb (u : Ub k) (hk : k < 128) : Reads skipUb u.encode () := by
  have hlen : u.digits.length < 128 := u.le.trans_lt hk
  refine (reads_readUbLength hlen).cons ?_
  by_cases h : u.digits = []
  · simpa [h] using Reads.pure ()
  · have hpos : UInt8.ofNat u.digits.length > 0 := by
      have := List.length_pos_iff.mpr h
      rw [gt_iff_lt, UInt8.lt_iff_toNat_lt, UInt8.toNat_ofNat', Nat.mod_eq_of_lt (by omega)]
      simpa using this
    have hnat : (UInt8.ofNat u.digits.length).toNat = u.digits.length := by
      rw [UInt8.toNat_ofNat', Nat.mod_eq_of_lt (by omega)]
    simpa only [hpos, if_true, hnat] using reads_skip u.digits

/-- The first turn of every integer read: the length byte is the number of digit bytes. -/
private lemma readUbLength_digits (u : Ub k) (hk : k < 128) :
    Reads readUbLength [UInt8.ofNat u.digits.length] (UInt8.ofNat u.digits.length) :=
  reads_readUbLength (u.le.trans_lt hk)

/-- A single digit byte is its own value. -/
private lemma ofNat_value_single (a : UInt8) : BigEndian.eval [a] = a.toNat := by
  simp [BigEndian.eval]

lemma reads_readUb2 (u : Ub 2) : Reads readUb2 u.encode (UInt16.ofNat u.value) := by
  refine (readUbLength_digits u (by omega)).cons ?_
  obtain ⟨ds, h⟩ := u
  match ds, h with
  | [], _ => exact Reads.pure 0
  | [a], _ =>
    have hv : a.toUInt16 = UInt16.ofNat (BigEndian.eval [a]) := by simp [ofNat_value_single]
    have hr := (reads_readU8 a).map UInt8.toUInt16
    rw [hv] at hr
    exact hr
  | [a, b], _ => exact reads_readU16Be [a, b] rfl

/-- A signed integer is read exactly; its value is only read where the driver discards it. -/
lemma reads_readSb2 (u : Ub 2) : ∃ v, Reads readSb2 u.encode v := by
  have hlen := readUbLength_digits u (by omega)
  obtain ⟨ds, h⟩ := u
  match ds, h, hlen with
  | [], _, hlen => exact ⟨0, hlen.cons (Reads.pure 0)⟩
  | [a], _, hlen =>
    have hr := (reads_readU8 a).map fun x => x.toInt8.toInt16
    exact ⟨a.toInt8.toInt16, hlen.cons hr⟩
  | [a, b], _, hlen =>
    have hr := (reads_readU16Be [a, b] rfl).map UInt16.toInt16
    exact ⟨_, hlen.cons hr⟩

lemma reads_readUb4 (u : Ub 4) : Reads readUb4 u.encode (UInt32.ofNat u.value) := by
  refine (readUbLength_digits u (by omega)).cons ?_
  obtain ⟨ds, h⟩ := u
  match ds, h with
  | [], _ => exact Reads.pure 0
  | [a], _ =>
    have hv : a.toUInt32 = UInt32.ofNat (BigEndian.eval [a]) := by simp [ofNat_value_single]
    have hr := (reads_readU8 a).map UInt8.toUInt32
    rw [hv] at hr
    exact hr
  | [a, b], _ =>
    have hv : (UInt16.ofNat (BigEndian.eval [a, b])).toUInt32 =
        UInt32.ofNat (BigEndian.eval [a, b]) := by
      have hlt := BigEndian.eval_lt [a, b]
      simp only [List.length_cons, List.length_nil] at hlt
      apply UInt32.toNat_inj.mp
      simp only [UInt16.toNat_toUInt32, UInt16.toNat_ofNat', UInt32.toNat_ofNat']
      omega
    have hr := (reads_readU16Be [a, b] rfl).map UInt16.toUInt32
    rw [hv] at hr
    exact hr
  | [a, b, c], _ =>
    have hv : ([a, b, c].foldl BigEndian.shiftIn 0).toUInt32 =
        UInt32.ofNat (BigEndian.eval [a, b, c]) := by
      apply UInt32.toNat_inj.mp
      rw [UInt64.toNat_toUInt32, BigEndian.toNat_foldl_shiftIn _ (by simp), UInt32.toNat_ofNat']
    have hr := (reads_readBytesVec [a, b, c]).map fun bytes =>
      (bytes.foldl BigEndian.shiftIn 0).toUInt32
    rw [hv] at hr
    exact hr
  | [a, b, c, d], _ => exact reads_readU32Be [a, b, c, d] rfl

/-- The byte loop of the long forms computes the value. -/
private lemma foldl_shiftIn_eq (ds : Bytes) (h : ds.length ≤ 8) :
    ds.foldl BigEndian.shiftIn 0 = UInt64.ofNat (BigEndian.eval ds) := by
  have hlt : BigEndian.eval ds < 2 ^ 64 :=
    (BigEndian.eval_lt ds).trans_le (Nat.pow_le_pow_right (show 0 < 256 by omega) h)
  apply UInt64.toNat_inj.mp
  rw [BigEndian.toNat_foldl_shiftIn _ h, UInt64.toNat_ofNat', Nat.mod_eq_of_lt hlt]

lemma reads_readUb8 (u : Ub 8) : Reads readUb8 u.encode (UInt64.ofNat u.value) := by
  refine (readUbLength_digits u (by omega)).cons ?_
  have hloop : ∀ ds : Bytes, ds.length ≤ 8 → Reads
      (do let bytes ← readBytesVec ds.length; return bytes.foldl BigEndian.shiftIn 0) ds
      (UInt64.ofNat (BigEndian.eval ds)) := by
    intro ds hds
    rw [← foldl_shiftIn_eq ds hds]
    exact (reads_readBytesVec ds).map fun bytes => bytes.foldl BigEndian.shiftIn 0
  obtain ⟨ds, h⟩ := u
  match ds, h with
  | [], _ => exact Reads.pure 0
  | [a], _ =>
    have hv : a.toUInt64 = UInt64.ofNat (BigEndian.eval [a]) := by simp [ofNat_value_single]
    have hr := (reads_readU8 a).map UInt8.toUInt64
    rw [hv] at hr
    exact hr
  | [a, b], _ =>
    have hv : (UInt16.ofNat (BigEndian.eval [a, b])).toUInt64 =
        UInt64.ofNat (BigEndian.eval [a, b]) := by
      have hlt := BigEndian.eval_lt [a, b]
      simp only [List.length_cons, List.length_nil] at hlt
      apply UInt64.toNat_inj.mp
      simp only [UInt16.toNat_toUInt64, UInt16.toNat_ofNat', UInt64.toNat_ofNat']
      omega
    have hr := (reads_readU16Be [a, b] rfl).map UInt16.toUInt64
    rw [hv] at hr
    exact hr
  | [a, b, c], _ => exact hloop [a, b, c] (by simp)
  | [a, b, c, d], _ =>
    have hv : (UInt32.ofNat (BigEndian.eval [a, b, c, d])).toUInt64 =
        UInt64.ofNat (BigEndian.eval [a, b, c, d]) := by
      have hlt := BigEndian.eval_lt [a, b, c, d]
      simp only [List.length_cons, List.length_nil] at hlt
      apply UInt64.toNat_inj.mp
      simp only [UInt32.toNat_toUInt64, UInt32.toNat_ofNat', UInt64.toNat_ofNat']
      omega
    have hr := (reads_readU32Be [a, b, c, d] rfl).map UInt32.toUInt64
    rw [hv] at hr
    exact hr
  | [a, b, c, d, e], _ => exact hloop [a, b, c, d, e] (by simp)
  | [a, b, c, d, e, f], _ => exact hloop [a, b, c, d, e, f] (by simp)
  | [a, b, c, d, e, f, g], _ => exact hloop [a, b, c, d, e, f, g] (by simp)
  | [a, b, c, d, e, f, g, i], _ => exact reads_readU64Be [a, b, c, d, e, f, g, i] rfl

end Ub

/-! ## Byte strings as a sender writes them -/

/-- A nonempty chunk of a chunked byte string with its length. -/
structure Chunk where
  /-- the length as it is written -/
  size : Ub 4
  /-- the bytes -/
  data : Bytes
  /-- the written length is the number of bytes -/
  size_eq : size.value = data.length
  /-- there is at least one byte -/
  ne_nil : data ≠ []

/-- A byte string with a length prefix as a sender may write it. -/
inductive ByteString where
  /-- one length byte and the bytes -/
  | short (data : Bytes) (h : data.length ≤ 252)
  /-- the long indicator, chunks, and a chunk length of zero -/
  | long (chunks : List Chunk) (last : Ub 4) (h : last.value = 0)

namespace ByteString

/-- The bytes of the chunks with their lengths. -/
def encodeChunks (chunks : List Chunk) : Bytes :=
  chunks.flatMap fun ch => ch.size.encode ++ ch.data

/-- The bytes on the wire. -/
def encode : ByteString → Bytes
  | short data _ => UInt8.ofNat data.length :: data
  | long chunks last _ => longIndicator :: (encodeChunks chunks ++ last.encode)

/-- The bytes denoted. -/
def content : ByteString → Bytes
  | short data _ => data
  | long chunks _ _ => chunks.flatMap (·.data)

lemma encode_ne_nil (s : ByteString) : s.encode ≠ [] := by
  cases s <;> exact List.cons_ne_nil _ _

end ByteString

/-- A turn of a chunk loop that finds the end. -/
lemma reads_readChunk_last (acc : Bytes) (u : Ub 4) (h : u.value = 0) :
    Reads (readChunk acc) u.encode (.inr acc) := by
  refine u.reads_readUb4.bind_nil ?_
  rw [h]
  exact Reads.pure _

lemma reads_skipChunk_last (u : Ub 4) (h : u.value = 0) :
    Reads (skipChunk ()) u.encode (.inr ()) := by
  refine u.reads_readUb4.bind_nil ?_
  rw [h]
  exact Reads.pure _

namespace Chunk

/-- The length of a chunk as the driver reads it. -/
lemma toNat_size (ch : Chunk) : (UInt32.ofNat ch.size.value).toNat = ch.data.length := by
  have hlt := ch.size.value_lt
  rw [UInt32.toNat_ofNat', Nat.mod_eq_of_lt (by omega), ch.size_eq]

lemma length_ne_zero (ch : Chunk) : ch.data.length ≠ 0 := by
  simpa using ch.ne_nil

/-- A turn of the chunk loop that reads a chunk. -/
lemma reads_readChunk (ch : Chunk) (acc : Bytes) :
    Reads (readChunk acc) (ch.size.encode ++ ch.data) (.inl (acc ++ ch.data)) := by
  refine ch.size.reads_readUb4.bind ?_
  simp only [ch.toNat_size, ch.length_ne_zero, if_false]
  exact (reads_readBytesVec ch.data).bind_nil (Reads.pure _)

lemma reads_skipChunk (ch : Chunk) :
    Reads (skipChunk ()) (ch.size.encode ++ ch.data) (.inl ()) := by
  refine ch.size.reads_readUb4.bind ?_
  simp only [ch.toNat_size, ch.length_ne_zero, if_false]
  exact (reads_skip ch.data).bind_nil (Reads.pure _)

lemma encode_ne_nil (ch : Chunk) : ch.size.encode ++ ch.data ≠ [] := by
  simp [ch.ne_nil]

end Chunk

namespace ByteString

/-- The chunk loop reads the chunks of a long byte string. -/
lemma readsLoop_readChunk (chunks : List Chunk) (last : Ub 4) (h : last.value = 0) (acc : Bytes) :
    ReadsLoop .stuck readChunk acc (encodeChunks chunks ++ last.encode)
      (acc ++ chunks.flatMap (·.data)) := by
  induction chunks generalizing acc with
  | nil => simpa [encodeChunks] using ReadsLoop.done (reads_readChunk_last acc last h)
  | cons ch chunks ih =>
    have hmore := ReadsLoop.more (ch.reads_readChunk acc) ch.encode_ne_nil (ih (acc ++ ch.data))
    simpa [encodeChunks] using hmore

lemma readsLoop_skipChunk (chunks : List Chunk) (last : Ub 4) (h : last.value = 0) :
    ReadsLoop .stuck skipChunk () (encodeChunks chunks ++ last.encode) () := by
  induction chunks with
  | nil => simpa [encodeChunks] using ReadsLoop.done (reads_skipChunk_last last h)
  | cons ch chunks ih =>
    have hmore := ReadsLoop.more ch.reads_skipChunk ch.encode_ne_nil ih
    simpa [encodeChunks] using hmore

/-- A length byte that is no long indicator. -/
private lemma ofNat_length_ne {data : Bytes} (h : data.length ≤ 252) {m : UInt8}
    (hm : 252 < m.toNat) : UInt8.ofNat data.length ≠ m := by
  intro e
  have := congrArg UInt8.toNat e
  rw [UInt8.toNat_ofNat', Nat.mod_eq_of_lt (by omega)] at this
  omega

private lemma toNat_ofNat_length {data : Bytes} (h : data.length ≤ 252) :
    (UInt8.ofNat data.length).toNat = data.length := by
  rw [UInt8.toNat_ofNat', Nat.mod_eq_of_lt (by omega)]

lemma reads_readRawBytesChunked (s : ByteString) :
    Reads readRawBytesChunked s.encode s.content := by
  cases s with
  | short data h =>
    refine (reads_readU8 _).cons ?_
    rw [if_pos (ofNat_length_ne h (by decide)), toNat_ofNat_length h]
    exact reads_readBytesVec data
  | long chunks last h =>
    refine (reads_readU8 _).cons ?_
    rw [if_neg (by simp)]
    exact (readsLoop_readChunk chunks last h []).reads

lemma reads_skipRawBytesChunked (s : ByteString) : Reads skipRawBytesChunked s.encode () := by
  cases s with
  | short data h =>
    refine (reads_readU8 _).cons ?_
    rw [if_pos (ofNat_length_ne h (by decide)), toNat_ofNat_length h]
    exact reads_skip data
  | long chunks last h =>
    refine (reads_readU8 _).cons ?_
    rw [if_neg (by simp)]
    exact (readsLoop_skipChunk chunks last h).reads

lemma reads_readBytesWithLength (s : ByteString) :
    Reads readBytesWithLength s.encode (some s.content) := by
  cases s with
  | short data h =>
    refine (reads_readU8 _).cons ?_
    simp only [ofNat_length_ne h (show 252 < nullIndicator.toNat by decide),
      ofNat_length_ne h (show 252 < longIndicator.toNat by decide),
      ofNat_length_ne h (show 252 < escapeChar.toNat by decide), if_false, pure_bind,
      toNat_ofNat_length h]
    by_cases hd : data = []
    · simpa [hd, content] using Reads.pure _
    · rw [if_neg (by simpa using hd)]
      exact (reads_readBytesVec data).map some
  | long chunks last h =>
    refine (reads_readU8 _).cons ?_
    simp only [show longIndicator ≠ nullIndicator by decide, if_false, if_true]
    exact (readsLoop_readChunk chunks last h []).reads.map some

end ByteString

/-! ## The reads are exact -/

/-- A request for `n` bytes that is granted finds them in the rest. -/
private lemma take_append_drop_of_ensure {n : ℕ} {buf buf' : ReadBuffer}
    (h : ensureRemaining n buf = .ok () buf') :
    buf' = buf ∧ (buf.rest.take n).length = n ∧
      buf.rest = buf.rest.take n ++ buf.rest.drop n := by
  unfold ensureRemaining at h
  split at h
  · cases h
  · next hn =>
    cases h
    rw [remaining_eq] at hn
    exact ⟨rfl, by simp; omega, (List.take_append_drop n _).symm⟩

lemma exact_skip (n : ℕ) : Exact (skip n) := by
  intro c c' a h
  obtain ⟨_, c₁, he, hk⟩ := exists_of_bind_ok h
  obtain ⟨rfl, hlen, hr⟩ := take_append_drop_of_ensure he
  cases hk
  refine ⟨_, _, hr, by rw [hlen], ?_⟩
  have := reads_skip (c₁.rest.take n)
  rwa [hlen] at this

lemma exact_readBytesVec (n : ℕ) : Exact (readBytesVec n) := by
  intro c c' a h
  obtain ⟨_, c₁, he, hk⟩ := exists_of_bind_ok h
  obtain ⟨rfl, hlen, hr⟩ := take_append_drop_of_ensure he
  cases hk
  refine ⟨_, _, hr, by rw [hlen], ?_⟩
  have := reads_readBytesVec (c₁.rest.take n)
  rwa [hlen] at this

lemma exact_readU8 : Exact readU8 := by
  intro c c' a h
  obtain ⟨_, c₁, he, hk⟩ := exists_of_bind_ok h
  obtain ⟨rfl, hlen, hr⟩ := take_append_drop_of_ensure he
  obtain ⟨x, hx⟩ := List.length_eq_one_iff.mp hlen
  have hread := reads_readU8 x c₁ _ (by rw [← hx]; exact hr)
  rw [hread] at h
  cases h
  exact ⟨[a], _, by rw [← hx]; exact hr, rfl, reads_readU8 a⟩

lemma exact_readUbLength : Exact readUbLength :=
  exact_readU8.bind fun _ => Exact.pure _

lemma exact_readU16Be : Exact readU16Be := (exact_readBytesVec 2).bind fun _ => Exact.pure _

lemma exact_readU32Be : Exact readU32Be := (exact_readBytesVec 4).bind fun _ => Exact.pure _

lemma exact_readUb4 : Exact readUb4 := by
  refine exact_readUbLength.bind fun len => ?_
  split
  · exact Exact.pure _
  · exact exact_readU8.bind fun _ => Exact.pure _
  · exact exact_readU16Be.bind fun _ => Exact.pure _
  · exact (exact_readBytesVec 3).bind fun _ => Exact.pure _
  · exact exact_readU32Be
  · exact Exact.throw _

/-- A variable-length integer has at least its length byte. -/
lemma ne_nil_of_reads_readUb4 {b : Bytes} {v : UInt32} (h : Reads readUb4 b v) : b ≠ [] := by
  rintro rfl
  have := h ⟨[], 0⟩ [] rfl
  cases this

lemma exact_readChunk (acc : Bytes) : Exact (readChunk acc) := by
  refine exact_readUb4.bind fun v => ?_
  dsimp only
  split
  · exact Exact.pure _
  · exact (exact_readBytesVec _).bind fun _ => Exact.pure _

/-- A turn of the chunk loop consumes something. -/
lemma readChunk_ne_nil {acc acc' b : Bytes} (h : Reads (readChunk acc) b (.inl acc')) :
    b ≠ [] := by
  rintro rfl
  have := h ⟨[], 0⟩ [] rfl
  cases this

lemma exact_readChunks : Exact readChunks :=
  Exact.iterate exact_readChunk (fun _ _ _ h => readChunk_ne_nil h) []

lemma exact_readRawBytesChunked : Exact readRawBytesChunked := by
  refine exact_readU8.bind fun len => ?_
  split
  · exact exact_readBytesVec _
  · exact exact_readChunks

lemma exact_readBytesWithLength : Exact readBytesWithLength := by
  refine exact_readU8.bind fun len => ?_
  dsimp only
  split
  · exact Exact.pure _
  split
  · exact exact_readChunks.bind fun _ => Exact.pure _
  have hbody : ∀ n, Exact (if n = 0 then pure (some []) else do
      return some (← readBytesVec n) : ReadM (Option Bytes)) := by
    intro n
    split
    · exact Exact.pure _
    · exact (exact_readBytesVec n).bind fun _ => Exact.pure _
  split
  · simp only [pure_bind]
    exact exact_readU8.bind fun n => hbody n.toNat
  · simpa using hbody len.toNat

lemma exact_readStringWithLength : Exact readStringWithLength := by
  refine exact_readBytesWithLength.bind fun data => ?_
  split
  · exact Exact.pure _
  · split
    · exact Exact.pure _
    · exact Exact.throw _

lemma exact_skipUb : Exact skipUb := by
  refine exact_readUbLength.bind fun len => ?_
  split
  · exact exact_skip _
  · exact Exact.pure _

lemma exact_readUb2 : Exact readUb2 := by
  refine exact_readUbLength.bind fun len => ?_
  split
  · exact Exact.pure _
  · exact exact_readU8.bind fun _ => Exact.pure _
  · exact exact_readU16Be
  · exact Exact.throw _

lemma exact_readUb8 : Exact readUb8 := by
  have hraw (n : ℕ) : Exact (do
      let bytes ← readBytesVec n
      return bytes.foldl BigEndian.shiftIn 0 : ReadM UInt64) :=
    (exact_readBytesVec n).bind fun _ => Exact.pure _
  refine exact_readUbLength.bind fun len => ?_
  split
  · exact Exact.pure _
  · exact exact_readU8.bind fun _ => Exact.pure _
  · exact exact_readU16Be.bind fun _ => Exact.pure _
  · exact exact_readU32Be.bind fun _ => Exact.pure _
  · exact (exact_readBytesVec 8).bind fun _ => Exact.pure _
  · exact hraw _
  · exact hraw _
  · exact hraw _
  · exact hraw _
  · exact Exact.throw _

lemma exact_skipRawBytesChunked : Exact skipRawBytesChunked := by
  refine exact_readU8.bind fun len => ?_
  split
  · exact exact_skip _
  · refine Exact.iterate (fun _ => ?_) (fun _ _ b h => ?_) ()
    · refine exact_readUb4.bind fun v => ?_
      dsimp only
      split
      · exact Exact.pure _
      · exact (exact_skip _).bind fun _ => Exact.pure _
    · rintro rfl
      have := h ⟨[], 0⟩ [] rfl
      cases this

/-! ## How far the chunk loop goes -/

/-- Raw bytes are as many as have been asked for, and as have been consumed. -/
lemma length_of_readBytesVec {n : ℕ} {c c' : ReadBuffer} {bytes : Bytes}
    (h : readBytesVec n c = .ok bytes c') :
    bytes.length = n ∧ c.rest.length = n + c'.rest.length := by
  obtain ⟨_, c₁, he, hk⟩ := exists_of_bind_ok h
  obtain ⟨rfl, hlen, hr⟩ := take_append_drop_of_ensure he
  cases hk
  have hsum := congrArg List.length hr
  rw [List.length_append, hlen] at hsum
  exact ⟨hlen, by simpa using hsum⟩

/-- A chunk length takes at least one byte. -/
lemma length_lt_of_readUb4 {c c' : ReadBuffer} {v : UInt32} (h : readUb4 c = .ok v c') :
    c'.rest.length < c.rest.length := by
  obtain ⟨b, r, hr, rfl, hb⟩ := exact_readUb4 c c' v h
  have hpos := List.length_pos_iff.mpr (ne_nil_of_reads_readUb4 hb)
  rw [rest_advance_of_append hr, hr, List.length_append]
  omega

/-- The chunk loop keeps what it has read before, and takes more bytes than it adds to it: at
least the chunk length that ends it.

**Proof sketch.** Induction on the bound. The last turn takes a chunk length; every other one adds
a chunk and takes a chunk length besides. -/
lemma length_of_loop_readChunk (n : ℕ) {acc bytes : Bytes} {c c' : ReadBuffer}
    (h : loop .stuck readChunk n acc c = .ok bytes c') :
    acc.length ≤ bytes.length ∧
      bytes.length + c'.rest.length < acc.length + c.rest.length := by
  induction n generalizing acc c with
  | zero => cases h
  | succ n ih =>
    obtain ⟨x, c₁, hx, hrun⟩ := exists_of_bind_ok h
    obtain ⟨v, c₂, hsize, hbody⟩ := exists_of_bind_ok hx
    have hlt := length_lt_of_readUb4 hsize
    by_cases hzero : v.toNat = 0
    · simp only [hzero, if_true] at hbody
      cases hbody
      cases hrun
      exact ⟨le_rfl, by omega⟩
    · simp only [hzero, if_false] at hbody
      obtain ⟨chunk, c₃, hchunk, hret⟩ := exists_of_bind_ok hbody
      cases hret
      obtain ⟨hlen, hrest⟩ := length_of_readBytesVec hchunk
      have hgo := ih hrun
      rw [List.length_append] at hgo
      omega

end OracleRs
