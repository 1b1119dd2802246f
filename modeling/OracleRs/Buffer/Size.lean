import OracleRs.Buffer.Write

set_option relaxedAutoImplicit false
set_option autoImplicit false

/-!
# Sizes of what is written

The number of bytes that an operation on a write buffer appends, in terms of the value alone.

## Main definitions

* `OracleRs.ubSize`, `OracleRs.bytesWithLengthSize` — the sizes of a variable-length integer and of
  a byte string with a length prefix.

## Main results

* `OracleRs.grows_writeUb4`, `OracleRs.grows_writeBytesWithLength` — the operations append as many
  bytes.
-/

namespace OracleRs

open Sink (Writes Grows)

/-- The size of a number as a variable-length integer. -/
def ubSize (n : ℕ) : ℕ := 1 + ubWidth n

/-- The size of a byte string of length `n` in chunks, without the chunk of length zero at the
end. -/
def chunkedSize (n : ℕ) : ℕ :=
  n + n / chunkSize * 3 + if n % chunkSize = 0 then 0 else ubSize (n % chunkSize)

/-- The size of a byte string of length `n` with a length prefix. -/
def bytesWithLengthSize (n : ℕ) : ℕ :=
  if n = 0 then 1 else if n ≤ 252 then 1 + n else 2 + chunkedSize n

@[simp] lemma length_ubBytes (n : ℕ) : (ubBytes n).length = ubSize n := by
  simp [ubBytes, ubSize, Nat.add_comm]

/-! ## Single operations -/

lemma grows_writeU8 (value : UInt8) : Grows (writeU8 value) 1 := (writes_writeU8 value).grows

lemma grows_writeU16Be (value : UInt16) : Grows (writeU16Be value) 2 := by
  simpa using (writes_writeU16Be value).grows

lemma grows_writeU32Be (value : UInt32) : Grows (writeU32Be value) 4 := by
  simpa using (writes_writeU32Be value).grows

lemma grows_writeU64Be (value : UInt64) : Grows (writeU64Be value) 8 := by
  simpa using (writes_writeU64Be value).grows

lemma grows_writeBytes (bytes : Bytes) : Grows (writeBytes bytes) bytes.length :=
  (writes_writeBytes bytes).grows

lemma grows_writeUb2 (value : UInt16) : Grows (writeUb2 value) (ubSize value.toNat) := by
  simpa using (writes_writeUb2 value).grows

lemma grows_writeUb4 (value : UInt32) : Grows (writeUb4 value) (ubSize value.toNat) := by
  simpa using (writes_writeUb4 value).grows

lemma grows_writeUb8 (value : UInt64) : Grows (writeUb8 value) (ubSize value.toNat) := by
  simpa using (writes_writeUb8 value).grows

/-- A zero takes one byte. -/
lemma grows_writeUb4_zero : Grows (writeUb4 0) 1 := grows_writeUb4 0

/-! ## Byte strings with a length prefix -/

/-- The size in chunks, one chunk at a time. -/
lemma chunkedSize_eq {n : ℕ} (h : n ≠ 0) :
    chunkedSize n = ubSize (min chunkSize n) + (min chunkSize n + chunkedSize (n - chunkSize)) := by
  by_cases hn : n < chunkSize
  · have hzero : n - chunkSize = 0 := by omega
    rw [hzero, min_eq_right hn.le]
    simp only [chunkedSize, Nat.mod_eq_of_lt hn, Nat.div_eq_of_lt hn, if_neg h]
    simp only [Nat.zero_mod, Nat.zero_div, if_true]
    omega
  · have hfull : ubSize chunkSize = 3 := rfl
    have hpos : 0 < chunkSize := by decide
    have hdiv : n / chunkSize = (n - chunkSize) / chunkSize + 1 :=
      Nat.div_eq_sub_div hpos (by omega)
    have hmod : n % chunkSize = (n - chunkSize) % chunkSize := Nat.mod_eq_sub_mod (by omega)
    rw [min_eq_left (by omega), hfull]
    simp only [chunkedSize, hdiv, hmod]
    omega

lemma grows_writeChunks (k : ℕ) (data : Bytes) (h : data.length ≤ k) :
    Grows (writeChunks k data) (chunkedSize data.length) := by
  induction k generalizing data with
  | zero =>
    rw [List.eq_nil_of_length_eq_zero (Nat.le_zero.mp h)]
    exact Grows.pure ()
  | succ k ih =>
    by_cases hnil : data = []
    · rw [writeChunks, if_pos hnil, hnil]
      exact Grows.pure ()
    · have hlen : data.length ≠ 0 := fun h => hnil (List.eq_nil_of_length_eq_zero h)
      have hsize := grows_writeUb4 (UInt32.ofNat (data.take chunkSize).length)
      rw [UInt32.toNat_ofNat', Nat.mod_eq_of_lt (length_take_chunkSize_lt data)] at hsize
      have hrest := ih (data.drop chunkSize) (by simp only [List.length_drop, chunkSize]; omega)
      rw [chunkedSize_eq hlen, ← List.length_take, ← List.length_drop, writeChunks, if_neg hnil]
      exact hsize.bind fun _ => (grows_writeBytes _).bind fun _ => hrest

lemma grows_writeBytesWithLength (data : Bytes) :
    Grows (writeBytesWithLength (some data)) (bytesWithLengthSize data.length) := by
  simp only [writeBytesWithLength, bytesWithLengthSize]
  by_cases hzero : data.length = 0
  · rw [if_pos hzero, if_pos hzero]
    exact grows_writeU8 0
  · by_cases hshort : data.length ≤ 252
    · rw [if_neg hzero, if_neg hzero, if_pos (by exact hshort), if_pos hshort]
      exact (grows_writeU8 _).bind fun _ => grows_writeBytes data
    · rw [if_neg hzero, if_neg hzero, if_neg (by exact hshort), if_neg hshort]
      have hall := (grows_writeU8 longIndicator).bind fun _ =>
        (grows_writeChunks data.length data le_rfl).bind fun _ => grows_writeUb4_zero
      have hsum : 1 + (chunkedSize data.length + 1) = 2 + chunkedSize data.length := by omega
      rw [hsum] at hall
      exact hall

end OracleRs
