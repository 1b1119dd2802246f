import OracleRs.Buffer.OracleInt
import OracleRs.Lib.Built
import OracleRs.Lib.Checked
import OracleRs.Lib.Indexing

set_option relaxedAutoImplicit false
set_option autoImplicit false

/-!
# The bounds of the read buffer

The operations of `ReadBuffer` (`buffer/read.rs`) as the source computes them: with indices and slices of the
data, which have to be inside of it, and with lengths of 64 bits. They do what the readers of
`OracleRs.Buffer.Read` do, and leave the position inside of the data, from wherever the operations before them
have left it.

## Main definitions

* `OracleRs.Indexed.Fault` — the ways in which an operation does not return a value.
* `OracleRs.Indexed.Op`, `OracleRs.Indexed.Op.call` — the operations.
* `OracleRs.Indexed.afterCalls` — the buffer behind a sequence of operations, whether they succeed or fail.

## Main results

* `OracleRs.Indexed.does_readUb4`, `OracleRs.Indexed.does_readBytesWithLength` and others — an operation does
  what the reader does.
* `OracleRs.Indexed.staysWithin` — no operation of a sequence leaves the bounds.
-/

namespace OracleRs.Indexed

open Cursor
open Overflow (Build)
open Built (Keeps)
open Checked (Does)

/-- How an operation ends that does not return a value: with an error of the driver, or with a panic, at a
position outside of the data or at a length that does not fit. -/
inductive Fault where
  | failed (e : Error)
  | outOfBounds (index len : ℕ)
  | lengthOverflow
deriving DecidableEq, Repr

/-- An operation with its checks. -/
abbrev IndexedM := EStateM Fault ReadBuffer

/-- What may fail, as an operation. -/
def lift {α : Type} : Except Fault α → IndexedM α
  | .ok a => pure a
  | .error fault => throw fault

/-! ## Positions -/

/-- The sum of two lengths. -/
def addLength (a b : ℕ) : Except Fault ℕ := if a + b < 2 ^ 64 then .ok (a + b) else .error .lengthOverflow

/-- `self.pos + n`. -/
def posPlus (n : ℕ) : IndexedM ℕ := do
  let buf ← get
  lift (addLength buf.pos n)

/-- `self.pos += n`. -/
def advance (n : ℕ) : IndexedM Unit := do
  let pos ← posPlus n
  modify fun buf => ⟨buf.data, pos⟩

/-- `self.data[self.pos + n]`. -/
def byteAt (n : ℕ) : IndexedM UInt8 := do
  let index ← posPlus n
  let buf ← get
  lift (Indexing.item .outOfBounds buf.data index)

/-- The bytes at `n` positions, the first of which is `self.pos + start`. -/
def bytesAt (start : ℕ) : ℕ → IndexedM Bytes
  | 0 => pure []
  | n + 1 => do
    let byte ← byteAt start
    let bytes ← bytesAt (start + 1) n
    return byte :: bytes

/-- `&self.data[self.pos..self.pos + n]`. -/
def bytesAhead (n : ℕ) : IndexedM Bytes := do
  let stop ← posPlus n
  let buf ← get
  lift (Indexing.slice .outOfBounds buf.data buf.pos stop)

/-- `remaining_bytes` and `remaining_slice`: `&self.data[self.pos..]`. -/
def remainingBytes : IndexedM Bytes := do
  let buf ← get
  lift (Indexing.sliceFrom .outOfBounds buf.data buf.pos)

/-- `ensure_remaining`. -/
def ensureRemaining (n : ℕ) : IndexedM Unit := fun buf =>
  if buf.remaining < n then .error (.failed (.bufferUnderflow n buf.remaining)) buf else .ok () buf

/-- `set_position`. -/
def setPosition (pos : ℕ) : IndexedM Unit := fun buf =>
  if pos > buf.data.length then .error (.failed (.bufferUnderflow pos buf.data.length)) buf
  else .ok () { buf with pos := pos }

/-! ## Raw reads -/

/-- `skip`. -/
def skip (n : ℕ) : IndexedM Unit := do
  ensureRemaining n
  advance n

/-- `read_u8`. -/
def readU8 : IndexedM UInt8 := do
  ensureRemaining 1
  let value ← byteAt 0
  advance 1
  return value

/-- `read_bytes_vec`; `read_bytes` and `read_bytes_owned` copy and share the same slice. -/
def readBytesVec (n : ℕ) : IndexedM Bytes := do
  ensureRemaining n
  let bytes ← bytesAhead n
  advance n
  return bytes

/-- The common body of the reads of integers: each byte is indexed on its own. -/
def readFixed (n : ℕ) : IndexedM Bytes := do
  ensureRemaining n
  let bytes ← bytesAt 0 n
  advance n
  return bytes

/-- `read_u16_be`. -/
def readU16Be : IndexedM UInt16 := do
  return UInt16.ofNat (BigEndian.eval (← readFixed 2))

/-- `read_i16_be`. -/
def readI16Be : IndexedM Int16 := do
  return (← readU16Be).toInt16

/-- `read_u16_le`. -/
def readU16Le : IndexedM UInt16 := do
  return UInt16.ofNat (BigEndian.eval (← readFixed 2).reverse)

/-- `read_u32_be`. -/
def readU32Be : IndexedM UInt32 := do
  return UInt32.ofNat (BigEndian.eval (← readFixed 4))

/-- `read_u64_be`. -/
def readU64Be : IndexedM UInt64 := do
  return UInt64.ofNat (BigEndian.eval (← readFixed 8))

/-- `peek_u8`. -/
def peekU8 : IndexedM UInt8 := do
  ensureRemaining 1
  byteAt 0

/-- `peek_bytes`. -/
def peekBytes (n : ℕ) : IndexedM Bytes := do
  ensureRemaining n
  bytesAhead n

/-! ## Variable-length integers -/

/-- `read_ub_length`. -/
def readUbLength : IndexedM UInt8 := do
  return (← readU8) &&& 0x7F

/-- `read_ub2`. -/
def readUb2 : IndexedM UInt16 := do
  let len ← readUbLength
  match len with
  | 0 => return 0
  | 1 => return (← readU8).toUInt16
  | 2 => readU16Be
  | _ => throw (.failed (.invalidLengthIndicator len))

/-- `read_sb2`. -/
def readSb2 : IndexedM Int16 := do
  let len ← readUbLength
  match len with
  | 0 => return 0
  | 1 => return (← readU8).toInt8.toInt16
  | 2 => readI16Be
  | _ => throw (.failed (.invalidLengthIndicator len))

/-- `bytes[0]`, `bytes[1]` and `bytes[2]` of three bytes that have been read, accumulated. -/
def readThree : IndexedM UInt64 := do
  let bytes ← readBytesVec 3
  let items ← lift (Indexing.items .outOfBounds bytes 0 3)
  return items.foldl BigEndian.shiftIn 0

/-- `read_ub4`. -/
def readUb4 : IndexedM UInt32 := do
  let len ← readUbLength
  match len with
  | 0 => return 0
  | 1 => return (← readU8).toUInt32
  | 2 => return (← readU16Be).toUInt32
  | 3 => return (← readThree).toUInt32
  | 4 => readU32Be
  | _ => throw (.failed (.invalidLengthIndicator len))

/-- `read_ub8`. -/
def readUb8 : IndexedM UInt64 := do
  let len ← readUbLength
  match len with
  | 0 => return 0
  | 1 => return (← readU8).toUInt64
  | 2 => return (← readU16Be).toUInt64
  | 3 => return (← readThree)
  | 4 => return (← readU32Be).toUInt64
  | 5 | 6 | 7 =>
    let bytes ← readBytesVec len.toNat
    return bytes.foldl BigEndian.shiftIn 0
  | 8 => readU64Be
  | _ => throw (.failed (.invalidLengthIndicator len))

/-- The common body of `skip_ub2`, `skip_ub4` and `skip_ub8`. -/
def skipUb : IndexedM Unit := do
  let len ← readUbLength
  if len > 0 then
    skip len.toNat

/-! ## Byte strings with a length prefix -/

/-- `result.extend_from_slice(&chunk)`. -/
def extend (result chunk : Bytes) : IndexedM Bytes := do
  let _ ← lift (addLength result.length chunk.length)
  return result ++ chunk

/-- One turn of the chunk loop of `read_raw_bytes_chunked` and `read_bytes_with_length`. -/
def readChunk (result : Bytes) : IndexedM (Bytes ⊕ Bytes) := do
  let chunkSize := (← readUb4).toNat
  if chunkSize = 0 then
    return .inr result
  let chunk ← readBytesVec chunkSize
  return .inl (← extend result chunk)

/-- The chunk loop. -/
def readChunks : IndexedM Bytes := iterate (.failed .stuck) readChunk []

/-- One turn of the chunk loop of `skip_raw_bytes_chunked`. -/
def skipChunk (_ : Unit) : IndexedM (Unit ⊕ Unit) := do
  let chunkSize := (← readUb4).toNat
  if chunkSize = 0 then
    return .inr ()
  skip chunkSize
  return .inl ()

/-- `skip_raw_bytes_chunked`. -/
def skipRawBytesChunked : IndexedM Unit := do
  let length ← readU8
  if length ≠ longIndicator then
    skip length.toNat
  else
    iterate (.failed .stuck) skipChunk ()

/-- `read_raw_bytes_chunked`. -/
def readRawBytesChunked : IndexedM Bytes := do
  let length ← readU8
  if length ≠ longIndicator then
    readBytesVec length.toNat
  else
    readChunks

/-- `read_bytes_with_length`. -/
def readBytesWithLength : IndexedM (Option Bytes) := do
  let len ← readU8
  if len = nullIndicator then
    return none
  if len = longIndicator then
    return some (← readChunks)
  let actualLen ← if len = escapeChar then do pure (← readU8).toNat else pure len.toNat
  if actualLen = 0 then
    return some []
  return some (← readBytesVec actualLen)

/-- `read_string_with_length`. -/
def readStringWithLength : IndexedM (Option String) := do
  match ← readBytesWithLength with
  | none => return none
  | some bytes =>
    match fromUtf8 bytes with
    | some s => return some s
    | none => throw (.failed (.dataConversionError "invalid utf-8 sequence"))

/-- `read_string_with_ub4_length`. -/
def readStringWithUb4Length : IndexedM (Option String) := do
  let outerLen ← readUb4
  if outerLen = 0 then
    return none
  readStringWithLength

/-! ## Oracle integers -/

/-- `-(value as i64)`: the value may overflow, which is not a length. -/
def negate (build : Build) (value : UInt64) : IndexedM Int64 :=
  lift (build.negI64 (.failed .arithmeticOverflow) value.toInt64)

/-- `read_oracle_int`. -/
def readOracleInt (build : Build) : IndexedM Int64 := do
  let lenByte ← readU8
  let isNegative := lenByte &&& 0x80 ≠ 0
  let len := (lenByte &&& 0x7F).toNat
  if len = 0 then
    return 0
  if len > 8 then
    throw (.failed (.dataConversionError ("integer too large: " ++ toString len ++ " bytes")))
  let value := (← times readU8 len).foldl BigEndian.shiftIn 0
  if isNegative then negate build value else return value.toInt64

/-- `read_oracle_uint`. -/
def readOracleUint : IndexedM UInt64 := do
  let len := (← readU8).toNat
  if len = 0 then
    return 0
  if len > 8 then
    throw (.failed (.dataConversionError ("integer too large: " ++ toString len ++ " bytes")))
  return (← times readU8 len).foldl BigEndian.shiftIn 0

/-! ## What the operations do -/

/-- The buffer is one over `d`, and its position is inside of it, at `k` or behind. -/
def Within (d : Bytes) (k : ℕ) (buf : ReadBuffer) : Prop := buf.data = d ∧ k ≤ buf.pos ∧ buf.pos ≤ d.length

/-- There are `n` more bytes. -/
def Ahead (d : Bytes) (k n : ℕ) (buf : ReadBuffer) : Prop := Within d k buf ∧ buf.pos + n ≤ d.length

/-- What holds of a failure: the position stays inside of the data. -/
def FailsWithin (d : Bytes) (e : Error) (buf : ReadBuffer) : Prop := e ≠ .stuck ∧ Within d 0 buf

lemma Within.zero {d : Bytes} {k : ℕ} {buf : ReadBuffer} (h : Within d k buf) : Within d 0 buf :=
  ⟨h.1, Nat.zero_le _, h.2.2⟩

/-- From a position inside of `d` the operation does what the reader does. -/
abbrev DoesWithin {α : Type} (d : Bytes) (k : ℕ) (m : IndexedM α) (m' : ReadM α)
    (Q : α → ReadBuffer → Prop) : Prop := Does Fault.failed (FailsWithin d) (Within d k) m m' Q

section Does

variable {d : Bytes} {k n : ℕ} {buf : ReadBuffer}

lemma does_ensureRemaining (n : ℕ) :
    DoesWithin d k (ensureRemaining n) (OracleRs.ensureRemaining n) fun _ => Ahead d k n := by
  intro buf h
  unfold ensureRemaining OracleRs.ensureRemaining
  by_cases hlt : buf.remaining < n
  · rw [if_pos hlt, if_pos hlt]
    exact ⟨rfl, Error.noConfusion, h.zero⟩
  · rw [if_neg hlt, if_neg hlt]
    refine ⟨rfl, h, ?_⟩
    obtain ⟨hdata, -, hle⟩ := h
    rw [remaining, hdata] at hlt
    omega

lemma posPlus_eq (hd : d.length < 2 ^ 64) {i : ℕ} (hi : i ≤ n) (h : Ahead d k n buf) :
    posPlus i buf = .ok (buf.pos + i) buf := by
  have hadd : addLength buf.pos i = .ok (buf.pos + i) := if_pos (by have := h.2; omega)
  change lift (addLength buf.pos i) buf = _
  rw [hadd]
  rfl

/-- The position is moved over bytes that are there. -/
lemma advance_eq (hd : d.length < 2 ^ 64) (h : Ahead d k n buf) :
    advance n buf = .ok () (buf.advance n) := by
  rw [advance, bind_ok (posPlus_eq hd le_rfl h)]
  rfl

lemma within_advance (h : Ahead d k n buf) : Within d (k + n) (buf.advance n) :=
  ⟨h.1.1, Nat.add_le_add_right h.1.2.1 n, h.2⟩

lemma byteAt_eq (hd : d.length < 2 ^ 64) {i : ℕ} (hi : i < n) (h : Ahead d k n buf) :
    byteAt i buf = .ok (buf.data.getD (buf.pos + i) 0) buf := by
  have hlt : buf.pos + i < buf.data.length := by
    rw [h.1.1]
    have := h.2
    omega
  rw [byteAt, bind_ok (posPlus_eq hd hi.le h)]
  change lift (Indexing.item .outOfBounds buf.data (buf.pos + i)) buf = _
  rw [Indexing.item_eq_ok _ hlt 0]
  rfl

lemma bytesAt_eq (hd : d.length < 2 ^ 64) (h : Ahead d k n buf) {start count : ℕ} (hle : start + count ≤ n) :
    bytesAt start count buf = .ok ((buf.rest.drop start).take count) buf := by
  induction count generalizing start with
  | zero => rfl
  | succ count ih =>
    have hlt : start < buf.rest.length := by
      rw [rest, List.length_drop, h.1.1]
      have := h.2
      omega
    have hbyte : buf.data.getD (buf.pos + start) 0 = buf.rest[start] := by
      rw [List.getD_eq_getElem?_getD]
      simp only [rest, List.getElem_drop]
      rw [List.getElem?_eq_getElem, Option.getD_some]
    rw [bytesAt, bind_ok (byteAt_eq hd (by omega) h), bind_ok (ih (by omega)), hbyte, List.drop_eq_getElem_cons hlt]
    rfl

lemma bytesAhead_eq (hd : d.length < 2 ^ 64) (h : Ahead d k n buf) :
    bytesAhead n buf = .ok (buf.rest.take n) buf := by
  have hle : buf.pos + n ≤ buf.data.length := by
    rw [h.1.1]
    exact h.2
  rw [bytesAhead, bind_ok (posPlus_eq hd le_rfl h)]
  change lift (Indexing.slice .outOfBounds buf.data buf.pos (buf.pos + n)) buf = _
  rw [Indexing.slice_eq_ok _ hle]
  rfl

lemma does_skip (hd : d.length < 2 ^ 64) (n : ℕ) :
    DoesWithin d k (skip n) (OracleRs.skip n) fun _ => Within d (k + n) := by
  refine (does_ensureRemaining n).bind fun _ buf h => ?_
  rw [advance_eq hd h]
  exact ⟨rfl, within_advance h⟩

lemma does_readU8 (hd : d.length < 2 ^ 64) :
    DoesWithin d k readU8 OracleRs.readU8 fun _ => Within d (k + 1) := by
  refine (does_ensureRemaining 1).bind fun _ buf h => ?_
  rw [bind_ok (byteAt_eq hd Nat.zero_lt_one h), bind_ok (advance_eq hd h)]
  exact ⟨rfl, within_advance h⟩

/-- The bytes that are read are as many as are asked for. -/
lemma does_readBytesVec (hd : d.length < 2 ^ 64) (n : ℕ) :
    DoesWithin d k (readBytesVec n) (OracleRs.readBytesVec n) fun bytes buf =>
      bytes.length = n ∧ Within d (k + n) buf := by
  refine (does_ensureRemaining n).bind fun _ buf h => ?_
  rw [bind_ok (bytesAhead_eq hd h), bind_ok (advance_eq hd h)]
  refine ⟨rfl, ?_, within_advance h⟩
  rw [List.length_take, rest, List.length_drop, h.1.1]
  have := h.2
  omega

lemma does_readFixed (hd : d.length < 2 ^ 64) (n : ℕ) :
    DoesWithin d k (readFixed n) (OracleRs.readBytesVec n) fun _ => Within d (k + n) := by
  refine (does_ensureRemaining n).bind fun _ buf h => ?_
  rw [bind_ok (bytesAt_eq hd h (by omega)), bind_ok (advance_eq hd h)]
  exact ⟨rfl, within_advance h⟩

end Does

/-! ### Composed operations -/

/-- The operation does what the reader does, and does not move the position back. -/
def Matches {α : Type} (d : Bytes) (m : IndexedM α) (m' : ReadM α) : Prop :=
  ∀ k, DoesWithin d k m m' fun _ => Within d k

section Matches

variable {α β : Type} {d : Bytes} {m : IndexedM α} {m' : ReadM α} {f : α → IndexedM β} {f' : α → ReadM β}

lemma Within.mono {j k : ℕ} {buf : ReadBuffer} (h : Within d k buf) (hle : j ≤ k) : Within d j buf :=
  ⟨h.1, hle.trans h.2.1, h.2.2⟩

lemma Matches.pure (a : α) : Matches d (pure a) (pure a) := fun _ => .pure fun _ => id

lemma Matches.throw {e : Error} (he : e ≠ .stuck) :
    Matches d (throw (.failed e) : IndexedM α) (throw e) := fun _ => .throw fun _ h => ⟨he, h.zero⟩

lemma Matches.bind (hm : Matches d m m') (hf : ∀ a, Matches d (f a) (f' a)) :
    Matches d (m >>= f) (m' >>= f') := fun k => (hm k).bind fun a => hf a k

lemma Matches.ite {c : Prop} [Decidable c] {n : IndexedM α} {n' : ReadM α} (hm : c → Matches d m m')
    (hn : ¬ c → Matches d n n') : Matches d (if c then m else n) (if c then m' else n') :=
  fun k => .ite (fun h => hm h k) fun h => hn h k

lemma Matches.times (hm : Matches d m m') (n : ℕ) : Matches d (times m n) (times m' n) :=
  fun k => (hm k).times n

/-- An operation that moves the position forward. -/
lemma Matches.of_forward {n : ℕ} (h : ∀ k, DoesWithin d k m m' fun _ => Within d (k + n)) :
    Matches d m m' := fun k => (h k).mono (fun _ => id) fun _ _ hw => hw.mono (Nat.le_add_right k n)

end Matches

/-- A turn of a chunk loop that goes on has read a chunk length, and nothing is put back behind it. -/
lemma length_rest_of_chunkTurn {σ β : Type} {chunk : ℕ → ReadM β} {next : β → σ} {last s : σ} {c c' : ReadBuffer}
    (hchunk : ∀ n x c₁ c₂, chunk n c₁ = .ok x c₂ → c₂.rest.length ≤ c₁.rest.length)
    (h : (do
      let chunkSize := (← OracleRs.readUb4).toNat
      if chunkSize = 0 then
        return .inr last
      let x ← chunk chunkSize
      return .inl (next x) : ReadM (σ ⊕ σ)) c = .ok (.inl s) c') : c'.rest.length < c.rest.length := by
  obtain ⟨v, c₁, hsize, hbody⟩ := exists_of_bind_ok h
  have hlt := length_lt_of_readUb4 hsize
  by_cases hzero : v.toNat = 0
  · simp only [hzero, if_true] at hbody
    cases hbody
  · simp only [hzero, if_false] at hbody
    obtain ⟨x, c₂, hrun, hret⟩ := exists_of_bind_ok hbody
    cases hret
    exact (hchunk _ x c₁ _ hrun).trans_lt hlt

lemma length_rest_of_skip {n : ℕ} {c c' : ReadBuffer} (h : OracleRs.skip n c = .ok () c') :
    c'.rest.length ≤ c.rest.length := by
  obtain ⟨_, c₁, hensure, hmodify⟩ := exists_of_bind_ok h
  unfold OracleRs.ensureRemaining at hensure
  split_ifs at hensure
  cases hensure
  cases hmodify
  rw [rest_advance, List.length_drop]
  omega

lemma length_rest_of_readChunk {result result' : Bytes} {c c' : ReadBuffer}
    (h : OracleRs.readChunk result c = .ok (.inl result') c') : c'.rest.length < c.rest.length := by
  refine length_rest_of_chunkTurn (fun n bytes c₁ c₂ hrun => ?_) h
  have hrest := (length_of_readBytesVec hrun).2
  omega

lemma length_rest_of_skipChunk {c c' : ReadBuffer} (h : OracleRs.skipChunk () c = .ok (.inl ()) c') :
    c'.rest.length < c.rest.length :=
  @length_rest_of_chunkTurn Unit Unit OracleRs.skip id () () c c' (fun _ _ _ _ => length_rest_of_skip) h

section Operations

variable {d : Bytes} (hd : d.length < 2 ^ 64)

include hd

lemma matches_skip (n : ℕ) : Matches d (skip n) (OracleRs.skip n) := .of_forward fun _ => does_skip hd n

lemma matches_readU8 : Matches d readU8 OracleRs.readU8 := .of_forward fun _ => does_readU8 hd

lemma matches_readFixed (n : ℕ) : Matches d (readFixed n) (OracleRs.readBytesVec n) :=
  .of_forward fun _ => does_readFixed hd n

lemma matches_readBytesVec (n : ℕ) : Matches d (readBytesVec n) (OracleRs.readBytesVec n) :=
  .of_forward fun _ => (does_readBytesVec hd n).mono (fun _ => id) fun _ _ h => h.2

lemma matches_readU16Be : Matches d readU16Be OracleRs.readU16Be :=
  (matches_readFixed hd 2).bind fun _ => .pure _

lemma matches_readI16Be : Matches d readI16Be OracleRs.readI16Be := (matches_readU16Be hd).bind fun _ => .pure _

lemma matches_readU32Be : Matches d readU32Be OracleRs.readU32Be :=
  (matches_readFixed hd 4).bind fun _ => .pure _

lemma matches_readU64Be : Matches d readU64Be OracleRs.readU64Be :=
  (matches_readFixed hd 8).bind fun _ => .pure _

lemma matches_readUbLength : Matches d readUbLength OracleRs.readUbLength :=
  (matches_readU8 hd).bind fun _ => .pure _

/-- Three bytes that have been read are there to be indexed. -/
lemma matches_readThree : Matches d readThree (do
    let bytes ← OracleRs.readBytesVec 3
    return bytes.foldl BigEndian.shiftIn 0) := by
  intro k
  refine (does_readBytesVec hd 3).bind fun bytes buf h => ?_
  obtain ⟨hlen, hwithin⟩ := h
  have hitems : Indexing.items Fault.outOfBounds bytes 0 3 = .ok bytes := by
    rw [Indexing.items_eq_ok _ (by omega), List.drop_zero, List.take_of_length_le (by omega)]
  rw [hitems]
  exact ⟨rfl, hwithin.mono (Nat.le_add_right k 3)⟩

/-- A length byte that is not allowed is refused by both. -/
lemma matches_readUb2 : Matches d readUb2 OracleRs.readUb2 := by
  refine (matches_readUbLength hd).bind fun len => ?_
  split
  · exact .pure _
  · exact (matches_readU8 hd).bind fun _ => .pure _
  · exact matches_readU16Be hd
  · repeat' split
    all_goals first | contradiction | exact .throw Error.noConfusion

lemma matches_readSb2 : Matches d readSb2 OracleRs.readSb2 := by
  refine (matches_readUbLength hd).bind fun len => ?_
  split
  · exact .pure _
  · exact (matches_readU8 hd).bind fun _ => .pure _
  · exact matches_readI16Be hd
  · repeat' split
    all_goals first | contradiction | exact .throw Error.noConfusion

lemma matches_readUb4 : Matches d readUb4 OracleRs.readUb4 := by
  refine (matches_readUbLength hd).bind fun len => ?_
  split
  · exact .pure _
  · exact (matches_readU8 hd).bind fun _ => .pure _
  · exact (matches_readU16Be hd).bind fun _ => .pure _
  · have hthree := (matches_readThree hd).bind fun value => .pure value.toUInt32
    simp only [bind_assoc, pure_bind] at hthree
    exact hthree
  · exact matches_readU32Be hd
  · repeat' split
    all_goals first | contradiction | exact .throw Error.noConfusion

lemma matches_readUb8 : Matches d readUb8 OracleRs.readUb8 := by
  have hraw (n : ℕ) : Matches d (do
      let bytes ← readBytesVec n
      return bytes.foldl BigEndian.shiftIn 0 : IndexedM UInt64) (do
      let bytes ← OracleRs.readBytesVec n
      return bytes.foldl BigEndian.shiftIn 0) := (matches_readBytesVec hd n).bind fun _ => .pure _
  refine (matches_readUbLength hd).bind fun len => ?_
  split
  · exact .pure _
  · exact (matches_readU8 hd).bind fun _ => .pure _
  · exact (matches_readU16Be hd).bind fun _ => .pure _
  · exact matches_readThree hd
  · exact (matches_readU32Be hd).bind fun _ => .pure _
  · exact hraw 5
  · exact hraw 6
  · exact hraw 7
  · exact matches_readU64Be hd
  · repeat' split
    all_goals first | contradiction | exact .throw Error.noConfusion

lemma matches_skipUb : Matches d skipUb OracleRs.skipUb :=
  (matches_readUbLength hd).bind fun len => .ite (fun _ => matches_skip hd len.toNat) fun _ => .pure ()

/-! ### Loops -/

/-- What has been read of a long value is not longer than the data in front of the position. -/
lemma does_readChunk (k : ℕ) (result : Bytes) :
    DoesWithin d (max k result.length) (readChunk result) (OracleRs.readChunk result) fun x buf =>
      x.elim (fun result => Within d (max k result.length) buf) fun _ => Within d k buf := by
  refine (matches_readUb4 hd _).bind fun v => .ite (fun _ => .pure fun _ h => h.mono (le_max_left _ _)) fun _ => ?_
  refine (does_readBytesVec hd v.toNat).bind fun chunk buf h => ?_
  obtain ⟨hlen, hwithin⟩ := h
  have hadd : addLength result.length chunk.length = .ok (result.length + chunk.length) := by
    refine if_pos ?_
    obtain ⟨-, hle, hpos⟩ := hwithin
    omega
  rw [extend, hadd]
  refine ⟨rfl, hwithin.mono ?_⟩
  rw [List.length_append, hlen]
  omega

lemma matches_readChunks : Matches d readChunks OracleRs.readChunks := by
  intro k
  have hloop : Does Fault.failed (FailsWithin d) (Within d (max k 0)) readChunks OracleRs.readChunks
      fun _ => Within d k := .iterate (does_readChunk hd k) (fun _ _ _ _ => length_rest_of_readChunk) []
  exact hloop.mono (fun _ h => h.mono (by simp)) fun _ _ => id

lemma matches_skipChunks :
    Matches d (iterate (.failed .stuck) skipChunk ()) (iterate .stuck OracleRs.skipChunk ()) := by
  intro k
  have hturn (t : Unit) : DoesWithin d k (skipChunk t) (OracleRs.skipChunk t) fun x buf =>
      x.elim (fun _ => Within d k buf) fun _ => Within d k buf := by
    refine (matches_readUb4 hd k).bind fun v => .ite (fun _ => .pure fun _ => id) fun _ => ?_
    exact (matches_skip hd v.toNat k).bind fun _ => .pure fun _ => id
  exact Does.iterate hturn (fun _ _ _ _ => length_rest_of_skipChunk) ()

lemma matches_skipRawBytesChunked : Matches d skipRawBytesChunked OracleRs.skipRawBytesChunked :=
  (matches_readU8 hd).bind fun length => .ite (fun _ => matches_skip hd length.toNat) fun _ =>
    matches_skipChunks hd

lemma matches_readRawBytesChunked : Matches d readRawBytesChunked OracleRs.readRawBytesChunked :=
  (matches_readU8 hd).bind fun length => .ite (fun _ => matches_readBytesVec hd length.toNat) fun _ =>
    matches_readChunks hd

lemma matches_readBytesWithLength : Matches d readBytesWithLength OracleRs.readBytesWithLength := by
  refine (matches_readU8 hd).bind fun len => .ite (fun _ => .pure none) fun _ =>
    .ite (fun _ => (matches_readChunks hd).bind fun _ => .pure _) fun _ => ?_
  have hrest (n : ℕ) : Matches d (if n = 0 then pure (some []) else do return some (← readBytesVec n))
      (if n = 0 then pure (some []) else do return some (← OracleRs.readBytesVec n)) :=
    .ite (fun _ => .pure _) fun _ => (matches_readBytesVec hd n).bind fun _ => .pure _
  refine .ite (fun _ => ?_) fun _ => ?_
  · simp only [pure_bind]
    exact (matches_readU8 hd).bind fun n => hrest n.toNat
  · simpa only [pure_bind] using hrest len.toNat

lemma matches_readStringWithLength : Matches d readStringWithLength OracleRs.readStringWithLength := by
  refine (matches_readBytesWithLength hd).bind fun bytes => ?_
  cases bytes with
  | none => exact .pure none
  | some bytes =>
    dsimp only
    cases fromUtf8 bytes with
    | none => exact .throw Error.noConfusion
    | some s => exact .pure (some s)

lemma matches_readStringWithUb4Length : Matches d readStringWithUb4Length OracleRs.readStringWithUb4Length :=
  (matches_readUb4 hd).bind fun _ => .ite (fun _ => .pure none) fun _ => matches_readStringWithLength hd

omit hd in
/-- The opposite of a value overflows in both, or in neither. -/
lemma matches_negate (build : Build) (value : UInt64) :
    Matches d (negate build value) (liftExcept (build.negI64 .arithmeticOverflow value.toInt64)) := by
  unfold negate Build.negI64 Build.result
  split_ifs
  · exact .pure _
  · exact .throw Error.noConfusion

lemma matches_readOracleInt (build : Build) : Matches d (readOracleInt build) (OracleRs.readOracleInt build) := by
  refine (matches_readU8 hd).bind fun lenByte => .ite (fun _ => .pure 0) fun _ => .ite (fun _ => .throw Error.noConfusion)
    fun _ => ?_
  exact ((matches_readU8 hd).times _).bind fun bytes => .ite (fun _ => matches_negate build _) fun _ => .pure _

lemma matches_readOracleUint : Matches d readOracleUint OracleRs.readOracleUint :=
  (matches_readU8 hd).bind fun len => .ite (fun _ => .pure 0) fun _ => .ite (fun _ => .throw Error.noConfusion) fun _ =>
    ((matches_readU8 hd).times len.toNat).bind fun _ => .pure _

end Operations

/-! ## Sequences of operations -/

/-- The operations of the buffer with their arguments. -/
inductive Op where
  /-- `position`, `len`, `is_empty`, `remaining`, `has_remaining` and `as_bytes`, which index nothing -/
  | inspect
  /-- `remaining_bytes` and `remaining_slice` -/
  | remainingBytes
  | skip (n : ℕ)
  | skipRawBytesChunked
  | readRawBytesChunked
  | reset
  | setPosition (pos : ℕ)
  /-- `read_u8` and `read_ub1` -/
  | readU8
  /-- `read_bytes`, `read_bytes_owned` and `read_bytes_vec` -/
  | readBytes (n : ℕ)
  | readU16Be
  | readI16Be
  | readU16Le
  | readU32Be
  | readU64Be
  | readUb2
  | readSb2
  | readUb4
  | readUb8
  | readBytesWithLength
  | readStringWithLength
  | readStringWithUb4Length
  | readOracleInt
  | readOracleUint
  | skipUb1
  /-- `skip_ub2`, `skip_ub4` and `skip_ub8` -/
  | skipUb
  | peekU8
  | peekBytes (n : ℕ)
deriving DecidableEq, Repr

/-- An operation whose result is not looked at. -/
def forget {α : Type} (m : IndexedM α) : IndexedM Unit := do
  let _ ← m

/-- One call. -/
def Op.call (build : Build) : Op → IndexedM Unit
  | inspect => pure ()
  | remainingBytes => forget Indexed.remainingBytes
  | skip n => Indexed.skip n
  | skipRawBytesChunked => Indexed.skipRawBytesChunked
  | readRawBytesChunked => forget Indexed.readRawBytesChunked
  | reset => modify fun buf => ⟨buf.data, 0⟩
  | setPosition pos => Indexed.setPosition pos
  | readU8 => forget Indexed.readU8
  | readBytes n => forget (Indexed.readBytesVec n)
  | readU16Be => forget Indexed.readU16Be
  | readI16Be => forget Indexed.readI16Be
  | readU16Le => forget Indexed.readU16Le
  | readU32Be => forget Indexed.readU32Be
  | readU64Be => forget Indexed.readU64Be
  | readUb2 => forget Indexed.readUb2
  | readSb2 => forget Indexed.readSb2
  | readUb4 => forget Indexed.readUb4
  | readUb8 => forget Indexed.readUb8
  | readBytesWithLength => forget Indexed.readBytesWithLength
  | readStringWithLength => forget Indexed.readStringWithLength
  | readStringWithUb4Length => forget Indexed.readStringWithUb4Length
  | readOracleInt => forget (Indexed.readOracleInt build)
  | readOracleUint => forget Indexed.readOracleUint
  | skipUb1 => Indexed.skip 1
  | skipUb => Indexed.skipUb
  | peekU8 => forget Indexed.peekU8
  | peekBytes n => forget (Indexed.peekBytes n)

/-- The buffer that a call leaves, whether it succeeds or fails. -/
def Op.after (build : Build) (buf : ReadBuffer) (op : Op) : ReadBuffer :=
  match op.call build buf with
  | .ok _ buf' | .error _ buf' => buf'

/-- The buffer behind a sequence of calls, from a new buffer over the data. -/
def afterCalls (build : Build) (data : Bytes) (ops : List Op) : ReadBuffer :=
  ops.foldl (Op.after build) ⟨data, 0⟩

/-- The call ends with a value or an error of the driver: it is at no position outside of the data, and no
length overflows. -/
def Op.InBounds (build : Build) (buf : ReadBuffer) (op : Op) : Prop :=
  ∀ fault buf', op.call build buf = .error fault buf' → ∃ e, e ≠ Error.stuck ∧ fault = .failed e

section Run

variable {α : Type} {d : Bytes} (build : Build)

/-- The fault is an error of the driver. -/
def IsError (fault : Fault) : Prop := ∃ e, e ≠ Error.stuck ∧ fault = .failed e

/-- An operation that does what a reader does stays inside of the data. -/
lemma Matches.keeps {m : IndexedM α} {m' : ReadM α} (h : Matches d m m') : Keeps (Within d 0) IsError m := by
  intro buf hbuf
  rcases (h 0).outcome hbuf with ⟨a, buf', hrun, hwithin⟩ | ⟨e, buf', hrun, hne, hwithin⟩
  · rw [hrun]
    exact hwithin
  · rw [hrun]
    exact ⟨hwithin, e, hne, rfl⟩

lemma keeps_forget {m : IndexedM α} (h : Keeps (Within d 0) IsError m) :
    Keeps (Within d 0) IsError (forget m) := h.bind fun _ => .pure ()

/-- What is done at the position is there to be done when enough bytes are left. -/
lemma keeps_peek {n : ℕ} {m : IndexedM α} (h : ∀ buf, Ahead d 0 n buf → ∃ a, m buf = .ok a buf) :
    Keeps (Within d 0) IsError (do ensureRemaining n; m) := by
  intro buf hbuf
  rcases (does_ensureRemaining n).outcome hbuf with ⟨_, buf', hrun, hahead⟩ | ⟨e, buf', hrun, hne, hwithin⟩
  · obtain ⟨a, ha⟩ := h buf' hahead
    rw [bind_ok hrun, ha]
    exact hahead.1
  · rw [bind_error hrun]
    exact ⟨hwithin, e, hne, rfl⟩

/-- The rest of the data begins inside of it. -/
lemma keeps_remainingBytes : Keeps (Within d 0) IsError remainingBytes := by
  intro buf h
  obtain ⟨hdata, -, hle⟩ := h
  change Built.Kept _ _ (lift (Indexing.sliceFrom .outOfBounds buf.data buf.pos) buf)
  rw [Indexing.sliceFrom_eq_ok _ (by rwa [hdata])]
  exact ⟨hdata, Nat.zero_le _, hle⟩

lemma keeps_setPosition (pos : ℕ) : Keeps (Within d 0) IsError (setPosition pos) := by
  intro buf h
  unfold setPosition
  split_ifs with hlt
  · exact ⟨h, .bufferUnderflow pos buf.data.length, Error.noConfusion, rfl⟩
  · obtain ⟨hdata, -, -⟩ := h
    rw [hdata] at hlt
    exact ⟨hdata, Nat.zero_le _, not_lt.mp hlt⟩

/-- Every call stays inside of the data. -/
lemma keeps_call (hd : d.length < 2 ^ 64) (op : Op) : Keeps (Within d 0) IsError (op.call build) := by
  cases op with
  | inspect => exact .pure ()
  | remainingBytes => exact keeps_forget keeps_remainingBytes
  | skip n => exact (matches_skip hd n).keeps
  | skipRawBytesChunked => exact (matches_skipRawBytesChunked hd).keeps
  | readRawBytesChunked => exact keeps_forget (matches_readRawBytesChunked hd).keeps
  | reset => exact .modify fun buf h => ⟨h.1, Nat.zero_le _, Nat.zero_le _⟩
  | setPosition pos => exact keeps_setPosition pos
  | readU8 => exact keeps_forget (matches_readU8 hd).keeps
  | readBytes n => exact keeps_forget (matches_readBytesVec hd n).keeps
  | readU16Be => exact keeps_forget (matches_readU16Be hd).keeps
  | readI16Be => exact keeps_forget (matches_readI16Be hd).keeps
  | readU16Le => exact keeps_forget ((matches_readFixed hd 2).keeps.bind fun _ => .pure _)
  | readU32Be => exact keeps_forget (matches_readU32Be hd).keeps
  | readU64Be => exact keeps_forget (matches_readU64Be hd).keeps
  | readUb2 => exact keeps_forget (matches_readUb2 hd).keeps
  | readSb2 => exact keeps_forget (matches_readSb2 hd).keeps
  | readUb4 => exact keeps_forget (matches_readUb4 hd).keeps
  | readUb8 => exact keeps_forget (matches_readUb8 hd).keeps
  | readBytesWithLength => exact keeps_forget (matches_readBytesWithLength hd).keeps
  | readStringWithLength => exact keeps_forget (matches_readStringWithLength hd).keeps
  | readStringWithUb4Length => exact keeps_forget (matches_readStringWithUb4Length hd).keeps
  | readOracleInt => exact keeps_forget (matches_readOracleInt hd build).keeps
  | readOracleUint => exact keeps_forget (matches_readOracleUint hd).keeps
  | skipUb1 => exact (matches_skip hd 1).keeps
  | skipUb => exact (matches_skipUb hd).keeps
  | peekU8 => exact keeps_forget (keeps_peek fun _ h => ⟨_, byteAt_eq hd Nat.zero_lt_one h⟩)
  | peekBytes n => exact keeps_forget (keeps_peek fun _ h => ⟨_, bytesAhead_eq hd h⟩)

/-- A call, successful or not, leaves the position inside of the data. -/
lemma within_after (hd : d.length < 2 ^ 64) {buf : ReadBuffer} (h : Within d 0 buf) (op : Op) :
    Within d 0 (op.after build buf) := by
  have hkept : Built.Kept (Within d 0) IsError (op.call build buf) := keeps_call build hd op buf h
  unfold Op.after
  cases hrun : op.call build buf with
  | ok _ buf' =>
    rw [hrun] at hkept
    exact hkept
  | error fault buf' =>
    rw [hrun] at hkept
    exact hkept.1

/-- So does every sequence of calls. -/
lemma within_afterCalls (hd : d.length < 2 ^ 64) (ops : List Op) : Within d 0 (afterCalls build d ops) := by
  have hrun (ops : List Op) : ∀ buf, Within d 0 buf → Within d 0 (ops.foldl (Op.after build) buf) := by
    induction ops with
    | nil => exact fun _ => id
    | cons op ops ih => exact fun buf h => ih _ (within_after build hd h op)
  exact hrun ops _ ⟨rfl, Nat.zero_le _, Nat.zero_le _⟩

end Run

/-- Behind every sequence of calls, also of ones that fail, the position is inside of the data, and no further
call leaves the bounds. -/
theorem staysWithin (build : Build) (data : Bytes) (hdata : data.length < 2 ^ 64) (ops : List Op) :
    (afterCalls build data ops).data = data ∧ (afterCalls build data ops).pos ≤ data.length ∧
      ∀ op : Op, op.InBounds build (afterCalls build data ops) := by
  have hwithin := within_afterCalls build hdata ops
  refine ⟨hwithin.1, hwithin.2.2, fun op fault buf' hrun => ?_⟩
  have hkept := keeps_call build hdata op _ hwithin
  rw [hrun] at hkept
  exact hkept.2

/-- A chunk length that is larger than what is left, and what can be done behind it. -/
theorem staysWithin_longChunk :
    (afterCalls .checked [0xFE, 4, 0xFF, 0xFF, 0xFF, 0xFF, 1] [.readBytesWithLength, .peekU8]).pos ≤
      [0xFE, 4, 0xFF, 0xFF, 0xFF, 0xFF, (1 : UInt8)].length :=
  (staysWithin .checked [0xFE, 4, 0xFF, 0xFF, 0xFF, 0xFF, 1] (by decide) [.readBytesWithLength, .peekU8]).2.1

end OracleRs.Indexed
