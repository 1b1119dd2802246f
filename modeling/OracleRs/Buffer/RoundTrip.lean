import OracleRs.Buffer.Write

set_option relaxedAutoImplicit false
set_option autoImplicit false

/-!
# What is written is read back

The fields that can be written to a `WriteBuffer` and read from a `ReadBuffer`, each with the
operation that writes it and the operation that reads it. A sequence of fields of any types is
read back from what has been written for it, whatever bytes stand behind it.

## Main definitions

* `OracleRs.FieldType` — the types of fields, with `FieldType.write` and `FieldType.read`.
* `OracleRs.writeFields`, `OracleRs.readFields` — the operations on a sequence of fields.

## Main results

* `OracleRs.readFields_writeFields` — sequences of fields are read back.
-/

namespace OracleRs

open Cursor
open Sink (Writes)

/-! ## Reading Oracle integers -/

/-- `read_oracle_uint`. -/
def readOracleUint : ReadM UInt64 := do
  let len := (← readU8).toNat
  if len = 0 then
    return 0
  if len > 8 then
    throw (.dataConversionError ("integer too large: " ++ toString len ++ " bytes"))
  -- one byte after the other
  return (← times readU8 len).foldl BigEndian.shiftIn 0

/-- The number of bytes of a number is enough for it. -/
lemma byteLength_spec {value : UInt64} (h : value ≠ 0) :
    0 < byteLength value ∧ byteLength value ≤ 8 ∧ value.toNat < 256 ^ byteLength value := by
  have hne : value.toNat ≠ 0 := fun e => h (UInt64.toNat_inj.mp e)
  have hlog : value.toNat.log2 < 64 := (Nat.log2_lt hne).mpr value.toNat_lt
  have hbits : value.toNat < 2 ^ (value.toNat.log2 + 1) := Nat.lt_log2_self
  have hle : value.toNat.log2 + 1 ≤ 8 * byteLength value := by
    unfold byteLength
    omega
  refine ⟨by unfold byteLength; omega, by unfold byteLength; omega, ?_⟩
  calc value.toNat < 2 ^ (value.toNat.log2 + 1) := hbits
    _ ≤ 2 ^ (8 * byteLength value) := Nat.pow_le_pow_right (by omega) hle
    _ = 256 ^ byteLength value := by rw [pow_mul]; norm_num

/-- The bytes of a number are accumulated to it. -/
lemma foldl_shiftIn_digits {value : UInt64} (h : value ≠ 0) :
    (BigEndian.digits (byteLength value) value.toNat).foldl BigEndian.shiftIn 0 = value := by
  obtain ⟨-, hle, hlt⟩ := byteLength_spec h
  rw [← UInt64.toNat_inj, BigEndian.toNat_foldl_shiftIn _ (by simpa using hle), BigEndian.eval_digits _ _ hlt]

/-- Single bytes one after the other. -/
lemma reads_times_readU8 (b : Bytes) : Reads (times readU8 b.length) b b := by
  have h : Reads (times readU8 b.length) (b.flatMap fun x => [x]) (b.map id) :=
    Reads.times fun x _ => reads_readU8 x
  simpa using h

lemma writes_forM_writeU8 (b : Bytes) : Writes (b.forM writeU8) b := by
  have h : Writes (b.forM writeU8) (b.flatMap fun x => [x]) :=
    Writes.forM fun x _ => writes_writeU8 x
  simpa using h

/-- An unsigned Oracle integer is read back. -/
lemma exists_oracleUint (value : UInt64) :
    ∃ b, Writes (writeOracleUint value) b ∧ Reads readOracleUint b value := by
  by_cases hzero : value = 0
  · refine ⟨[0], ?_, ?_⟩
    · rw [writeOracleUint, if_pos hzero]
      exact writes_writeU8 0
    · rw [hzero]
      exact (reads_readU8 0).bind_nil (Reads.pure _)
  · obtain ⟨hpos, hle, -⟩ := byteLength_spec hzero
    refine ⟨UInt8.ofNat (byteLength value) :: BigEndian.digits (byteLength value) value.toNat,
      ?_, ?_⟩
    · rw [writeOracleUint, if_neg hzero]
      exact (writes_writeU8 _).bind (writes_forM_writeU8 _)
    · have hlen : (UInt8.ofNat (byteLength value)).toNat = byteLength value := by
        rw [UInt8.toNat_ofNat', Nat.mod_eq_of_lt (by omega)]
      have hdigits := reads_times_readU8 (BigEndian.digits (byteLength value) value.toNat)
      rw [BigEndian.length_digits] at hdigits
      refine (reads_readU8 _).cons ?_
      rw [hlen, if_neg (by omega), if_neg (by omega)]
      refine hdigits.bind_nil ?_
      rw [foldl_shiftIn_digits hzero]
      exact Reads.pure _

/-! ## Fields -/

/-- The types of fields. -/
inductive FieldType where
  | u8
  | u16Be
  | u32Be
  | u64Be
  | ub2
  | ub4
  | ub8
  | oracleUint
  | bytesWithLength
deriving DecidableEq, Repr

namespace FieldType

/-- The values of a field. -/
abbrev Value : FieldType → Type
  | u8 => UInt8
  | u16Be => UInt16
  | u32Be => UInt32
  | u64Be => UInt64
  | ub2 => UInt16
  | ub4 => UInt32
  | ub8 => UInt64
  | oracleUint => UInt64
  | bytesWithLength => Option Bytes

/-- The operation that writes a field. -/
def write : (t : FieldType) → t.Value → WriteM Unit
  | u8 => writeU8
  | u16Be => writeU16Be
  | u32Be => writeU32Be
  | u64Be => writeU64Be
  | ub2 => writeUb2
  | ub4 => writeUb4
  | ub8 => writeUb8
  | oracleUint => writeOracleUint
  | bytesWithLength => writeBytesWithLength

/-- The operation that reads a field. -/
def read : (t : FieldType) → ReadM t.Value
  | u8 => readU8
  | u16Be => readU16Be
  | u32Be => readU32Be
  | u64Be => readU64Be
  | ub2 => readUb2
  | ub4 => readUb4
  | ub8 => readUb8
  | oracleUint => readOracleUint
  | bytesWithLength => readBytesWithLength

end FieldType

/-- A field with its value. -/
abbrev Field := (t : FieldType) × t.Value

/-- Write the fields one after the other. -/
def writeFields (fields : List Field) : WriteM Unit := fields.forM fun f => f.1.write f.2

/-- Read fields of the given types one after the other. -/
def readFields (types : List FieldType) : ReadM (List Field) :=
  each (fun t => Sigma.mk t <$> t.read) types

/-! ## The round trip -/

/-- A field is read back from what is written for it. -/
lemma exists_field (t : FieldType) (value : t.Value) :
    ∃ b, Writes (t.write value) b ∧ Reads t.read b value := by
  have hpow : (2 : ℕ) ^ 64 = 256 ^ 8 := by norm_num
  cases t with
  | u8 => exact ⟨_, writes_writeU8 value, reads_readU8 value⟩
  | u16Be =>
    have hlt : value.toNat < 256 ^ 2 := value.toNat_lt
    have hread := reads_readU16Be (BigEndian.digits 2 value.toNat) (by simp)
    rw [BigEndian.eval_digits _ _ hlt, UInt16.ofNat_toNat] at hread
    exact ⟨_, writes_writeU16Be value, hread⟩
  | u32Be =>
    have hlt : value.toNat < 256 ^ 4 := value.toNat_lt
    have hread := reads_readU32Be (BigEndian.digits 4 value.toNat) (by simp)
    rw [BigEndian.eval_digits _ _ hlt, UInt32.ofNat_toNat] at hread
    exact ⟨_, writes_writeU32Be value, hread⟩
  | u64Be =>
    have hlt : value.toNat < 256 ^ 8 := value.toNat_lt
    have hread := reads_readU64Be (BigEndian.digits 8 value.toNat) (by simp)
    rw [BigEndian.eval_digits _ _ hlt, UInt64.ofNat_toNat] at hread
    exact ⟨_, writes_writeU64Be value, hread⟩
  | ub2 => exact ⟨_, writes_writeUb2 value, reads_ubBytes2 value⟩
  | ub4 => exact ⟨_, writes_writeUb4 value, reads_ubBytes4 value⟩
  | ub8 => exact ⟨_, writes_writeUb8 value, reads_ubBytes8 value⟩
  | oracleUint => exact exists_oracleUint value
  | bytesWithLength =>
    refine ⟨_, writes_writeBytesWithLength value, ?_⟩
    have hread := reads_readBytesWithLength (value.map ByteString.ofBytes)
    rw [Option.map_map] at hread
    have hid : ByteString.content ∘ ByteString.ofBytes = id := by
      funext data
      exact ByteString.content_ofBytes data
    rwa [hid, Option.map_id] at hread

/-- Every sequence of fields is read back from what is written for it, whatever bytes stand
behind. -/
theorem readFields_writeFields (fields : List Field) :
    ∃ b, Writes (writeFields fields) b ∧ Reads (readFields (fields.map Sigma.fst)) b fields := by
  have hfield : ∀ f : Field, Writes (f.1.write f.2) (Sink.written (f.1.write f.2)) ∧
      Reads (Sigma.mk f.1 <$> f.1.read) (Sink.written (f.1.write f.2)) f := by
    intro f
    obtain ⟨b, hwrite, hread⟩ := exists_field f.1 f.2
    rw [hwrite.written_eq]
    exact ⟨hwrite, hread.map (Sigma.mk f.1)⟩
  have hreads : Reads (readFields (fields.map Sigma.fst))
      (fields.flatMap fun f => Sink.written (f.1.write f.2)) (fields.map id) :=
    Reads.each fun f _ => (hfield f).2
  rw [List.map_id] at hreads
  exact ⟨_, Writes.forM fun f _ => (hfield f).1, hreads⟩

end OracleRs
