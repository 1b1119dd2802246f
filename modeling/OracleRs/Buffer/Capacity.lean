import OracleRs.Buffer.OracleInt

set_option relaxedAutoImplicit false
set_option autoImplicit false

/-!
# Write buffers with a maximum capacity

The write operations of `WriteBuffer` (`buffer/write.rs`) on a buffer with a maximum capacity. An operation is
a sequence of raw writes, each of which checks the room for itself alone: an operation that fails behind its
first raw write leaves what it has written so far. The sum in the check may overflow for `write_zeros`, the only
raw write whose length is not that of something in memory.

## Main definitions

* `OracleRs.WriteOp`, `OracleRs.WriteOp.call` — the write operations.
* `OracleRs.WriteOp.pieces` — the raw writes that an operation is made of.
* `OracleRs.WriteOp.FailsCleanly` — the length stays below the maximum, and an error leaves the contents.

## Main results

* `OracleRs.forM_writeBytes_ok`, `OracleRs.forM_writeBytes_error` — how a sequence of raw writes ends.
* `OracleRs.WriteOp.failsCleanly_iff` — when an operation fails cleanly.
-/

namespace OracleRs

open Overflow (Build)
open Sink (Writes)

/-! ## The operations -/

/-- `write_u16_le`. -/
def writeU16Le (value : UInt16) : WriteM Unit := do
  ensureCapacity 2
  modify (·.push (BigEndian.digits 2 value.toNat).reverse)

/-- The check of `ensure_capacity`, `self.data.len() + n > max`, for a length that is not one of something in
memory. -/
def exceedsCapacity (build : Build) (len n max : ℕ) : Except Error Bool :=
  build.result .arithmeticOverflow (len + n < 2 ^ 64) ((len + n) % 2 ^ 64 > max)

/-- `write_zeros`, for every number of zeros. -/
def writeZerosIn (build : Build) (n : UInt64) : WriteM Unit := fun buf =>
  match buf.limit with
  | none => .ok () (buf.push (List.replicate n.toNat 0))
  | some max =>
    match exceedsCapacity build buf.data.length n.toNat max with
    | .error e => .error e buf
    | .ok true => .error (.bufferOverflow n.toNat (max - buf.data.length)) buf
    | .ok false => .ok () (buf.push (List.replicate n.toNat 0))

/-- The write operations of the buffer with their arguments; `write_ub1` is `write_u8`. -/
inductive WriteOp where
  | u8 (value : UInt8)
  | bytes (bytes : Bytes)
  | zeros (n : UInt64)
  | u16Be (value : UInt16)
  | u16Le (value : UInt16)
  | u32Be (value : UInt32)
  | u64Be (value : UInt64)
  | ub2 (value : UInt16)
  | ub4 (value : UInt32)
  | ub8 (value : UInt64)
  | bytesWithLength (bytes : Option Bytes)
  | stringWithLength (s : Option String)
  | oracleInt (value : Int64)
  | oracleUint (value : UInt64)
deriving DecidableEq, Repr

namespace WriteOp

/-- One call. -/
def call (build : Build) : WriteOp → WriteM Unit
  | u8 value => writeU8 value
  | bytes b => writeBytes b
  | zeros n => writeZerosIn build n
  | u16Be value => writeU16Be value
  | u16Le value => writeU16Le value
  | u32Be value => writeU32Be value
  | u64Be value => writeU64Be value
  | ub2 value => writeUb2 value
  | ub4 value => writeUb4 value
  | ub8 value => writeUb8 value
  | bytesWithLength b => writeBytesWithLength b
  | stringWithLength s => writeBytesWithLength (s.map asBytes)
  | oracleInt value => writeOracleInt build value
  | oracleUint value => writeOracleUint value

end WriteOp

/-! ## The raw writes of an operation -/

/-- The raw writes of an Oracle integer that is not zero: the length byte, and one byte after the other. -/
def oraclePieces (negative : Bool) (absValue : UInt64) : List Bytes :=
  [oracleLengthByte negative (UInt8.ofNat (byteLength absValue))] ::
    (BigEndian.digits (byteLength absValue) absValue.toNat).map ([·])

/-- The raw writes of the chunk loop. The first argument bounds the number of chunks. -/
def chunkPieces : ℕ → Bytes → List Bytes
  | 0, _ => []
  | n + 1, data =>
    if data = [] then []
    else ubPieces (data.take chunkSize).length ++ data.take chunkSize :: chunkPieces n (data.drop chunkSize)

/-- The raw writes of a byte string with a length prefix. -/
def lengthPieces : Option Bytes → List Bytes
  | none => [[nullIndicator]]
  | some data =>
    if data.length = 0 then [[0]]
    else if data.length ≤ maxShort.toNat then [[UInt8.ofNat data.length], data]
    else [longIndicator] :: (chunkPieces data.length data ++ ubPieces 0)

/-- The raw writes of an operation. -/
def WriteOp.pieces : WriteOp → List Bytes
  | u8 value => [[value]]
  | bytes b => [b]
  | zeros n => [List.replicate n.toNat 0]
  | u16Be value => [BigEndian.digits 2 value.toNat]
  | u16Le value => [(BigEndian.digits 2 value.toNat).reverse]
  | u32Be value => [BigEndian.digits 4 value.toNat]
  | u64Be value => [BigEndian.digits 8 value.toNat]
  | ub2 value => ubPieces value.toNat
  | ub4 value => ubPieces value.toNat
  | ub8 value => ubPieces value.toNat
  | bytesWithLength b => lengthPieces b
  | stringWithLength s => lengthPieces (s.map asBytes)
  | oracleInt value =>
    if value = 0 then [[0]] else oraclePieces (value < 0) (if value < 0 then -value else value).toUInt64
  | oracleUint value => if value = 0 then [[0]] else oraclePieces false value

/-! ### What the operations are made of -/

lemma madeOf_writeU16Le (value : UInt16) :
    MadeOf (writeU16Le value) [(BigEndian.digits 2 value.toNat).reverse] :=
  .put (by rw [List.length_reverse, BigEndian.length_digits])

lemma madeOf_writeChunks (n : ℕ) (data : Bytes) : MadeOf (writeChunks n data) (chunkPieces n data) := by
  induction n generalizing data with
  | zero => rfl
  | succ n ih =>
    rw [writeChunks, chunkPieces]
    split_ifs
    · rfl
    · have hsize := madeOf_writeUb4 (UInt32.ofNat (data.take chunkSize).length)
      rw [UInt32.toNat_ofNat', Nat.mod_eq_of_lt (length_take_chunkSize_lt data)] at hsize
      exact hsize.bind ((MadeOf.single _).cons (ih _))

lemma madeOf_writeBytesWithLength (data : Option Bytes) :
    MadeOf (writeBytesWithLength data) (lengthPieces data) := by
  cases data with
  | none => exact madeOf_writeU8 nullIndicator
  | some data =>
    simp only [writeBytesWithLength, lengthPieces]
    split_ifs
    · exact madeOf_writeU8 0
    · exact (madeOf_writeU8 _).cons (MadeOf.single data)
    · exact (madeOf_writeU8 _).cons ((madeOf_writeChunks _ data).bind (madeOf_writeUb4 0))

lemma madeOf_oraclePieces (negative : Bool) (absValue : UInt64) :
    MadeOf (do
      writeU8 (oracleLengthByte negative (UInt8.ofNat (byteLength absValue)))
      (BigEndian.digits (byteLength absValue) absValue.toNat).forM writeU8) (oraclePieces negative absValue) :=
  (madeOf_writeU8 _).cons (.each _)

lemma madeOf_writeOracleUint (value : UInt64) :
    MadeOf (writeOracleUint value) (WriteOp.oracleUint value).pieces := by
  simp only [writeOracleUint, WriteOp.pieces]
  split_ifs
  · exact madeOf_writeU8 0
  · exact madeOf_oraclePieces false value

/-- Where the opposite does not overflow. -/
lemma madeOf_writeOracleInt {build : Build} {value : Int64}
    (h : build = .wrapping ∨ value ≠ Int64.minValue) :
    MadeOf (writeOracleInt build value) (WriteOp.oracleInt value).pieces := by
  simp only [writeOracleInt, WriteOp.pieces]
  by_cases hzero : value = 0
  · rw [if_pos hzero, if_pos hzero]
    exact madeOf_writeU8 0
  rw [if_neg hzero, if_neg hzero]
  have hmagnitude : oracleMagnitude build value = .ok (if value < 0 then -value else value).toUInt64 := by
    unfold oracleMagnitude
    split_ifs
    · rw [(negI64_neg h).1]
      rfl
    · rfl
  rw [hmagnitude]
  exact madeOf_oraclePieces _ _

/-! ## How raw writes end -/

section Limit

variable {data : Bytes} {max : ℕ}

/-- A raw write on a buffer with a maximum capacity. -/
lemma writeBytes_eq (data : Bytes) (max : ℕ) (b : Bytes) :
    writeBytes b ⟨data, some max⟩ =
      if data.length + b.length > max then
        .error (.bufferOverflow b.length (max - data.length)) ⟨data, some max⟩
      else .ok () ⟨data ++ b, some max⟩ := by
  change EStateM.bind (ensureCapacity b.length) _ _ = _
  simp only [EStateM.bind, ensureCapacity]
  split_ifs
  · rfl
  · rfl

/-- A raw write with room is followed by the others. -/
lemma forM_cons_of_room {p : Bytes} (h : data.length + p.length ≤ max) (ps : List Bytes) :
    (p :: ps).forM writeBytes ⟨data, some max⟩ = ps.forM writeBytes ⟨data ++ p, some max⟩ := by
  have hput : writeBytes p ⟨data, some max⟩ = .ok () ⟨data ++ p, some max⟩ := by
    rw [writeBytes_eq, if_neg (by omega)]
  change EStateM.bind (writeBytes p) (fun _ => ps.forM writeBytes) _ = _
  rw [EStateM.bind, hput]

/-- A raw write without room is the last. -/
lemma forM_cons_of_full {p : Bytes} (h : max < data.length + p.length) (ps : List Bytes) :
    (p :: ps).forM writeBytes ⟨data, some max⟩ =
      .error (.bufferOverflow p.length (max - data.length)) ⟨data, some max⟩ := by
  change EStateM.bind (writeBytes p) (fun _ => ps.forM writeBytes) _ = _
  rw [EStateM.bind, writeBytes_eq, if_pos h]

/-- Raw writes for which there is room. -/
lemma forM_writeBytes_ok (ps : List Bytes) (data : Bytes) (h : data.length + ps.flatten.length ≤ max) :
    ps.forM writeBytes ⟨data, some max⟩ = .ok () ⟨data ++ ps.flatten, some max⟩ := by
  induction ps generalizing data with
  | nil =>
    rw [List.flatten_nil, List.append_nil]
    rfl
  | cons p ps ih =>
    rw [List.flatten_cons, List.length_append] at h
    rw [forM_cons_of_room (by omega), ih _ (by rw [List.length_append]; omega), List.append_assoc, List.flatten_cons]

/-- Raw writes of which the first has room, but not all have: they fail behind the first.

**Proof sketch.** Induction on the raw writes behind the first. If the next one has no room, the writes fail
there, and otherwise the next one is the first of those that are left. -/
lemma forM_writeBytes_error (ps : List Bytes) (p data : Bytes) (hp : data.length + p.length ≤ max)
    (h : max < data.length + (p :: ps).flatten.length) :
    ∃ e more, (p :: ps).forM writeBytes ⟨data, some max⟩ = .error e ⟨data ++ (p ++ more), some max⟩ := by
  induction ps generalizing p data with
  | nil =>
    rw [List.flatten_singleton] at h
    omega
  | cons q ps ih =>
    rw [forM_cons_of_room hp]
    by_cases hq : (data ++ p).length + q.length ≤ max
    · have hrest : max < (data ++ p).length + (q :: ps).flatten.length := by
        rw [List.flatten_cons, List.length_append] at h
        rw [List.length_append]
        omega
      obtain ⟨e, more, herror⟩ := ih q (data ++ p) hq hrest
      exact ⟨e, q ++ more, by rw [herror, List.append_assoc]⟩
    · refine ⟨.bufferOverflow q.length (max - (data ++ p).length), [], ?_⟩
      rw [forM_cons_of_full (not_le.mp hq), List.append_nil]

end Limit

/-! ## Failing cleanly -/

/-- The length of the buffer is at most the maximum, and a failure leaves the contents. -/
def CleanOutcome (data : Bytes) (max : ℕ) : EStateM.Result Error WriteBuffer Unit → Prop
  | .ok _ buf => buf.data.length ≤ max
  | .error _ buf => buf.data.length ≤ max ∧ buf.data = data

/-- Raw writes of which only the first may have another length than one fail cleanly if there is only one, if there
is no room for the first, or if there is room for all.

**Proof sketch.** With room for the first and not for all, the first stays in the buffer. -/
lemma cleanOutcome_forM_iff {data : Bytes} {max : ℕ} (hdata : data.length ≤ max) {p : Bytes} {ps : List Bytes}
    (hp : ps = [] ∨ p.length = 1) :
    CleanOutcome data max ((p :: ps).forM writeBytes ⟨data, some max⟩) ↔
      ps = [] ∨ data.length = max ∨ data.length + (p :: ps).flatten.length ≤ max := by
  by_cases hall : data.length + (p :: ps).flatten.length ≤ max
  · rw [forM_writeBytes_ok _ _ hall]
    refine iff_of_true ?_ (.inr (.inr hall))
    rwa [CleanOutcome, List.length_append]
  by_cases hfirst : data.length + p.length ≤ max
  · obtain ⟨e, more, herror⟩ := forM_writeBytes_error ps p data hfirst (not_le.mp hall)
    have hps : ps ≠ [] := by
      rintro rfl
      rw [List.flatten_singleton] at hall
      exact hall hfirst
    have hone := hp.resolve_left hps
    rw [herror]
    refine iff_of_false ?_ ?_
    · rintro ⟨-, hsame⟩
      have hlen := congrArg List.length hsame
      rw [List.length_append, List.length_append] at hlen
      omega
    · rintro (h | h | h)
      · exact hps h
      · omega
      · exact hall h
  · rw [forM_cons_of_full (not_le.mp hfirst)]
    refine iff_of_true ⟨hdata, rfl⟩ (hp.imp_right fun hone => .inl ?_)
    omega

namespace WriteOp

/-- In every build the length stays below the maximum, and an error leaves the contents. -/
def FailsCleanly (op : WriteOp) (data : Bytes) (max : ℕ) : Prop :=
  ∀ build, CleanOutcome data max (op.call build ⟨data, some max⟩)

/-- The condition under which an operation fails cleanly. The sum of the length and a number of zeros may wrap
around to one that passes the check. Any other operation is one raw write, or finds no room at all or room for
all that it writes. -/
def AllOrNothing (op : WriteOp) (data : Bytes) (max : ℕ) : Prop :=
  match op with
  | zeros n => ¬ (2 ^ 64 ≤ data.length + n.toNat ∧ data.length + n.toNat - 2 ^ 64 ≤ max)
  | op => op.pieces.length = 1 ∨ data.length = max ∨ data.length + op.pieces.flatten.length ≤ max

/-- The first raw write of a variable-length integer is one byte. -/
lemma exists_ubPieces (n : ℕ) : ∃ p ps, ubPieces n = p :: ps ∧ (ps = [] ∨ p.length = 1) := by
  unfold ubPieces
  split_ifs
  · exact ⟨_, _, rfl, .inl rfl⟩
  · exact ⟨_, _, rfl, .inr rfl⟩

lemma exists_lengthPieces (data : Option Bytes) :
    ∃ p ps, lengthPieces data = p :: ps ∧ (ps = [] ∨ p.length = 1) := by
  cases data with
  | none => exact ⟨_, _, rfl, .inl rfl⟩
  | some data =>
    simp only [lengthPieces]
    split_ifs
    · exact ⟨_, _, rfl, .inl rfl⟩
    · exact ⟨_, _, rfl, .inr rfl⟩
    · exact ⟨_, _, rfl, .inr rfl⟩

/-- An operation with more than one raw write begins with a single byte. -/
lemma exists_pieces (op : WriteOp) : ∃ p ps, op.pieces = p :: ps ∧ (ps = [] ∨ p.length = 1) := by
  cases op with
  | u8 value => exact ⟨_, _, rfl, .inl rfl⟩
  | bytes b => exact ⟨_, _, rfl, .inl rfl⟩
  | zeros n => exact ⟨_, _, rfl, .inl rfl⟩
  | u16Be value => exact ⟨_, _, rfl, .inl rfl⟩
  | u16Le value => exact ⟨_, _, rfl, .inl rfl⟩
  | u32Be value => exact ⟨_, _, rfl, .inl rfl⟩
  | u64Be value => exact ⟨_, _, rfl, .inl rfl⟩
  | ub2 value => exact exists_ubPieces _
  | ub4 value => exact exists_ubPieces _
  | ub8 value => exact exists_ubPieces _
  | bytesWithLength b => exact exists_lengthPieces b
  | stringWithLength s => exact exists_lengthPieces _
  | oracleInt value =>
    simp only [pieces]
    split_ifs
    · exact ⟨_, _, rfl, .inl rfl⟩
    · exact ⟨_, _, rfl, .inr rfl⟩
    · exact ⟨_, _, rfl, .inr rfl⟩
  | oracleUint value =>
    simp only [pieces]
    split_ifs
    · exact ⟨_, _, rfl, .inl rfl⟩
    · exact ⟨_, _, rfl, .inr rfl⟩

/-- What is made of its raw writes fails cleanly under the condition on them. -/
lemma cleanOutcome_pieces_iff {data : Bytes} {max : ℕ} (hdata : data.length ≤ max) {op : WriteOp} {m : WriteM Unit}
    (h : MadeOf m op.pieces) : CleanOutcome data max (m ⟨data, some max⟩) ↔
      op.pieces.length = 1 ∨ data.length = max ∨ data.length + op.pieces.flatten.length ≤ max := by
  obtain ⟨p, ps, hpieces, hp⟩ := op.exists_pieces
  rw [h, hpieces, cleanOutcome_forM_iff hdata hp, List.length_cons, Nat.add_eq_right, List.length_eq_zero_iff]

section Zeros

variable {build : Build} {data : Bytes} {max : ℕ} {n : UInt64}

/-- A sum that does not pass the check leaves the contents. -/
lemma cleanOutcome_zeros_of_exceeds (hdata : data.length ≤ max)
    (h : exceedsCapacity build data.length n.toNat max = .ok true) :
    CleanOutcome data max (writeZerosIn build n ⟨data, some max⟩) := by
  simp only [writeZerosIn, h]
  exact ⟨hdata, rfl⟩

/-- So does one that overflows. -/
lemma cleanOutcome_zeros_of_overflow (hdata : data.length ≤ max) {e : Error}
    (h : exceedsCapacity build data.length n.toNat max = .error e) :
    CleanOutcome data max (writeZerosIn build n ⟨data, some max⟩) := by
  simp only [writeZerosIn, h]
  exact ⟨hdata, rfl⟩

/-- A sum that passes the check has to be below the maximum. -/
lemma cleanOutcome_zeros_iff_of_fits (h : exceedsCapacity build data.length n.toNat max = .ok false) :
    CleanOutcome data max (writeZerosIn build n ⟨data, some max⟩) ↔ data.length + n.toNat ≤ max := by
  simp only [writeZerosIn, h, CleanOutcome, Sink.data_push, List.length_append, List.length_replicate]

/-- A number of zeros fails cleanly unless its sum with the length wraps around to one that passes the check. -/
lemma cleanOutcome_zeros_iff (hdata : data.length ≤ max) (hmax : max < 2 ^ 64) :
    (∀ build, CleanOutcome data max (writeZerosIn build n ⟨data, some max⟩)) ↔
      ¬ (2 ^ 64 ≤ data.length + n.toNat ∧ data.length + n.toNat - 2 ^ 64 ≤ max) := by
  have hn := n.toNat_lt
  by_cases hfits : data.length + n.toNat < 2 ^ 64
  · refine iff_of_true (fun build => ?_) (by omega)
    have hcheck : exceedsCapacity build data.length n.toNat max = .ok (data.length + n.toNat > max : Bool) := by
      rw [exceedsCapacity, Build.result_of hfits, Nat.mod_eq_of_lt hfits]
    by_cases hgt : data.length + n.toNat > max
    · exact cleanOutcome_zeros_of_exceeds hdata (by rw [hcheck, decide_eq_true hgt])
    · exact (cleanOutcome_zeros_iff_of_fits (by rw [hcheck, decide_eq_false hgt])).mpr (not_lt.mp hgt)
  · have hmod : (data.length + n.toNat) % 2 ^ 64 = data.length + n.toNat - 2 ^ 64 := by omega
    have hchecked : exceedsCapacity .checked data.length n.toNat max = .error .arithmeticOverflow :=
      Build.result_of_not hfits
    have hwrapping : exceedsCapacity .wrapping data.length n.toNat max =
        .ok (data.length + n.toNat - 2 ^ 64 > max : Bool) := by
      rw [exceedsCapacity, Build.result_wrapping, hmod]
    by_cases hgt : data.length + n.toNat - 2 ^ 64 > max
    · refine iff_of_true (fun build => ?_) (by omega)
      cases build with
      | checked => exact cleanOutcome_zeros_of_overflow hdata hchecked
      | wrapping => exact cleanOutcome_zeros_of_exceeds hdata (by rw [hwrapping, decide_eq_true hgt])
    · refine iff_of_false (fun h => ?_) (by omega)
      have hle := (cleanOutcome_zeros_iff_of_fits (by rw [hwrapping, decide_eq_false hgt])).mp (h .wrapping)
      omega

end Zeros

/-- The raw writes of an operation that is not stopped by an overflow. -/
lemma madeOf_call {build : Build} {op : WriteOp} (hzeros : ∀ n, op ≠ zeros n)
    (hint : ∀ value, op = oracleInt value → build = .wrapping ∨ value ≠ Int64.minValue) :
    MadeOf (op.call build) op.pieces := by
  cases op with
  | u8 value => exact madeOf_writeU8 value
  | bytes b => exact .single b
  | zeros n => exact absurd rfl (hzeros n)
  | u16Be value => exact madeOf_writeU16Be value
  | u16Le value => exact madeOf_writeU16Le value
  | u32Be value => exact madeOf_writeU32Be value
  | u64Be value => exact madeOf_writeU64Be value
  | ub2 value => exact madeOf_writeUb2 value
  | ub4 value => exact madeOf_writeUb4 value
  | ub8 value => exact madeOf_writeUb8 value
  | bytesWithLength b => exact madeOf_writeBytesWithLength b
  | stringWithLength s => exact madeOf_writeBytesWithLength _
  | oracleInt value => exact madeOf_writeOracleInt (hint value rfl)
  | oracleUint value => exact madeOf_writeOracleUint value

/-- A number without an opposite is not written at all, with checks. -/
lemma cleanOutcome_minValue {data : Bytes} {max : ℕ} (hdata : data.length ≤ max) :
    CleanOutcome data max ((oracleInt Int64.minValue).call .checked ⟨data, some max⟩) := ⟨hdata, rfl⟩

/-- Without checks every operation but the zeros is made of its raw writes. -/
lemma madeOf_call_wrapping {op : WriteOp} (hzeros : ∀ n, op ≠ zeros n) :
    MadeOf (op.call .wrapping) op.pieces := madeOf_call hzeros fun _ _ => .inl rfl

/-- An operation fails cleanly if and only if it meets the condition, whatever the contents and the maximum. -/
theorem failsCleanly_iff (op : WriteOp) (data : Bytes) (max : UInt64) (hdata : data.length ≤ max.toNat) :
    op.FailsCleanly data max.toNat ↔ op.AllOrNothing data max.toNat := by
  by_cases hzeros : ∃ n, op = zeros n
  · obtain ⟨n, rfl⟩ := hzeros
    exact cleanOutcome_zeros_iff hdata max.toNat_lt
  · have hzeros : ∀ n, op ≠ zeros n := fun n h => hzeros ⟨n, h⟩
    have hcond : op.AllOrNothing data max.toNat ↔ op.pieces.length = 1 ∨ data.length = max.toNat ∨
        data.length + op.pieces.flatten.length ≤ max.toNat := by
      cases op with
      | zeros n => exact absurd rfl (hzeros n)
      | _ => rfl
    rw [hcond]
    constructor
    · intro h
      exact (cleanOutcome_pieces_iff hdata (madeOf_call_wrapping hzeros)).mp (h .wrapping)
    · intro h build
      by_cases hmin : op = oracleInt Int64.minValue ∧ build = .checked
      · obtain ⟨rfl, rfl⟩ := hmin
        exact cleanOutcome_minValue hdata
      · refine (cleanOutcome_pieces_iff hdata (madeOf_call hzeros fun value hop => ?_)).mpr h
        cases build with
        | wrapping => exact .inl rfl
        | checked => exact .inr fun hvalue => hmin ⟨by rw [hop, hvalue], rfl⟩

/-- A number of two bytes in a buffer with room for three. -/
theorem failsCleanly_iff_ub2 :
    (ub2 258).FailsCleanly [] 3 ↔ (ub2 258).AllOrNothing [] 3 :=
  failsCleanly_iff (ub2 258) [] 3 (by decide)

/-- With room for one byte only the length byte is written, and stays. -/
theorem not_failsCleanly_ub2 : ¬ (ub2 1).FailsCleanly [] 1 := by
  intro h
  have hsame := (h .checked).2
  cases hsame

end WriteOp

end OracleRs
