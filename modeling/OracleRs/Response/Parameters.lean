import OracleRs.Response.ErrorInfo

set_option relaxedAutoImplicit false
set_option autoImplicit false

/-!
# Return parameters, piggybacks and row headers

The messages of a response that carry no values: return parameters (type 8), server-side
piggybacks (type 23) and row headers (type 6). What they say about the session is recorded by
the connection and left out here; the parsers only have to step over the messages.

## Main definitions

* `OracleRs.parseReturnParameters`, `OracleRs.parseServerSidePiggyback`,
  `OracleRs.parseRowHeader`, `OracleRs.readRowHeader` — the readers.
* `OracleRs.ReturnParameters`, `OracleRs.Piggyback`, `OracleRs.RowHeader` — the messages as a
  server may write them.

## Main results

* `OracleRs.ReturnParameters.reads_parseReturnParameters`,
  `OracleRs.Piggyback.reads_parseServerSidePiggyback`, `OracleRs.RowHeader.reads_parseRowHeader`,
  `OracleRs.RowHeader.reads_readRowHeader` — every message is stepped over exactly.
-/

namespace OracleRs

open Cursor

/-! ## Return parameters -/

/-- A key and a value of the return parameters. -/
def skipReturnPair : ReadM Unit := do
  let _key ← indicated2 readStringWithLength
  let _value ← indicated2 readRawBytesChunked
  skipUb2 -- keyword number

/-- The row counts at the end of the return parameters, if they are wanted and there. -/
def readRowCounts (wantRowCounts : Bool) : ReadM (Option (List UInt64)) := do
  let buf ← get
  if wantRowCounts ∧ buf.remaining ≥ 4 then
    let numRows ← readUb4
    return some (← times readUb8 numRows.toNat)
  else
    return none

/-- `parse_standard_return_parameters`. -/
def parseStandardReturnParameters (wantRowCounts : Bool) : ReadM (Option (List UInt64)) := do
  let _params ← counted2 skipUb4
  skipCounted2 -- al8txl
  let _pairs ← counted2 skipReturnPair
  skipCounted2 -- registration
  readRowCounts wantRowCounts

/-- The Error message at `offset` parses, and what follows it is nothing or the beginning of a
Status or EndOfResponse message. -/
def alignedToTerminal (remaining : Bytes) (offset : ℕ) : Bool :=
  remaining[offset]? = some MessageType.error.code &&
    match parseErrorInfoWithRowcount ⟨remaining.drop (offset + 1), 0⟩ with
    | .error _ _ => false
    | .ok _ probe =>
      let nextOffset := offset + 1 + probe.pos
      nextOffset = remaining.length ||
        remaining[nextOffset]? = some MessageType.status.code ||
        remaining[nextOffset]? = some MessageType.endOfResponse.code

/-- At `offset` there is the beginning of an Error message, with an EndOfResponse byte somewhere
behind it. -/
def looksLikeError (remaining : Bytes) (offset : ℕ) : Bool :=
  remaining[offset]? = some MessageType.error.code &&
    (remaining.drop (offset + 1)).contains MessageType.endOfResponse.code &&
    match (do let _ ← readUb4; let _ ← readUb2 : ReadM Unit)
        ⟨remaining.drop (offset + 1), 0⟩ with
    | .ok _ _ => true
    | .error _ _ => false

/-- `skip_session_state_return_parameter`: move to the Error message behind a return parameter
of another layout, if one is found. -/
def skipSessionStateReturnParameter : ReadM Bool := do
  let buf ← get
  let remaining := buf.rest
  let offsets := List.range' 1 (remaining.length - 1)
  match offsets.find? (alignedToTerminal remaining) with
  | some offset =>
    setPosition (buf.pos + offset)
    return true
  | none =>
    match offsets.reverse.find? (looksLikeError remaining) with
    | some offset =>
      setPosition (buf.pos + offset)
      return true
    | none => return false

/-- `parse_return_parameters_internal`: a failure of the standard layout is undone, and the
session state skipped instead. -/
def parseReturnParametersInternal (wantRowCounts : Bool) : ReadM (Option (List UInt64)) :=
  fun buf =>
    match parseStandardReturnParameters wantRowCounts buf with
    | .ok rowCounts buf' => .ok rowCounts buf'
    | .error err _ =>
      (do if ← skipSessionStateReturnParameter then return none else throw err :
        ReadM (Option (List UInt64))) buf

/-- `parse_return_parameters`. -/
def parseReturnParameters : ReadM Unit := do
  let _rowCounts ← parseReturnParametersInternal false

/-- A key and a value as a server writes them. -/
structure ReturnPair where
  /-- the key -/
  key : Indicated 2 TextBytes
  /-- the value -/
  value : Indicated 2 ByteString
  /-- the keyword number -/
  keyword : Ub 2

namespace ReturnPair

/-- The bytes on the wire. -/
def encode (p : ReturnPair) : Bytes :=
  p.key.encode (fun t => t.raw.encode) ++ (p.value.encode ByteString.encode ++ p.keyword.encode)

lemma reads_skipReturnPair (p : ReturnPair) : Reads skipReturnPair p.encode () := by
  refine (p.key.reads_indicated2 TextBytes.reads_readStringWithLength).bind ?_
  refine (p.value.reads_indicated2 ByteString.reads_readRawBytesChunked).bind ?_
  exact p.keyword.reads_skipUb (by omega)

end ReturnPair

/-- Return parameters in the standard layout. -/
structure ReturnParameters where
  /-- numbers -/
  params : Listed 2 (Ub 4)
  /-- raw bytes -/
  al8txl : Counted 2
  /-- keys and values -/
  pairs : Listed 2 ReturnPair
  /-- raw bytes -/
  registration : Counted 2

namespace ReturnParameters

/-- The bytes behind the message type. -/
def encode (p : ReturnParameters) : Bytes :=
  p.params.encode Ub.encode ++ (p.al8txl.encode ++
    (p.pairs.encode ReturnPair.encode ++ p.registration.encode))

/-- The return parameters with nothing in them. -/
def empty : ReturnParameters := ⟨Listed.nil, Counted.nil, Listed.nil, Counted.nil⟩

lemma reads_parseStandardReturnParameters (p : ReturnParameters) :
    Reads (parseStandardReturnParameters false) p.encode none := by
  refine (p.params.reads_counted2 fun u => u.reads_skipUb (by omega)).bind ?_
  refine p.al8txl.reads_skipCounted2.bind ?_
  refine (p.pairs.reads_counted2 ReturnPair.reads_skipReturnPair).bind ?_
  refine p.registration.reads_skipCounted2.bind_nil ?_
  exact fun _ _ _ => rfl

/-- Return parameters in the standard layout are stepped over exactly. -/
lemma reads_parseReturnParameters (p : ReturnParameters) :
    Reads parseReturnParameters p.encode () := by
  have h : Reads (parseReturnParametersInternal false) p.encode none := by
    intro c r hr
    rw [parseReturnParametersInternal, p.reads_parseStandardReturnParameters c r hr]
  exact h.bind_nil (Reads.pure ())

end ReturnParameters

/-! ## Server-side piggybacks -/

/-- A key and a value of a SYNC piggyback. -/
def skipSyncPair : ReadM Unit := do
  let _key ← indicated2 readStringWithLength
  let _value ← indicated2 readBytesWithLength
  skipUb2 -- keyword number

/-- A key and a value of a SESS_RET piggyback. -/
def skipSessionPair : ReadM Unit := do
  let _key ← indicated2 readRawBytesChunked
  let _value ← indicated2 readRawBytesChunked
  skipUb2 -- flags

/-- The keys and values of a SESS_RET piggyback. -/
def skipSessionPairs : ReadM Unit := do
  let numElements ← readUb2
  if numElements > 0 then do
    skipUb1
    let _pairs ← times skipSessionPair numElements.toNat
    return
  else
    return

/-- `parse_server_side_piggyback`. -/
def parseServerSidePiggyback : ReadM Unit := do
  let opcode ← readU8
  match opcode with
  | 7 => -- LTXID
    let _ltxid ← indicated4 readBytesWithLength
  | 1 | 3 => return -- QUERY_CACHE_INVALIDATION, TRACE_EVENT
  | 2 => -- OS_PID_MTS
    let numDtys ← readUb2
    skipUb1
    skip numDtys.toNat
  | 5 => -- SYNC
    skipUb2 -- number of DTYs
    skipUb1 -- length of DTYs
    let numElements ← readUb4
    skip 1 -- length marker
    let _pairs ← times skipSyncPair numElements.toNat
    skipUb4 -- overall flags
  | 9 => -- EXT_SYNC
    skipUb2
    skipUb1
  | 8 => -- AC_REPLAY_CONTEXT
    skipUb2 -- number of DTYs
    skipUb1 -- length of DTYs
    skipUb4 -- flags
    skipUb4 -- error code
    skipUb1 -- queue
    let _context ← indicated4 skipRawBytesChunked
  | 4 => -- SESS_RET
    skipUb2
    skipUb1
    skipSessionPairs
    let _sessionFlags ← readUb4
    let _sessionId ← readUb4
    let _serialNumber ← readUb2
  | 10 => -- SESS_SIGNATURE
    skipUb2 -- number of DTYs
    skipUb1 -- length of DTYs
    skipUb8 -- signature flags
    skipUb8 -- client signature
    skipUb8 -- server signature
  | _ => throw (.protocol ("Unknown server-side piggyback opcode: " ++ toString opcode.toNat))

/-- A key and a value of a SYNC piggyback as a server writes them. -/
structure SyncPair where
  /-- the key -/
  key : Indicated 2 TextBytes
  /-- the value -/
  value : Indicated 2 ByteString
  /-- the keyword number -/
  keyword : Ub 2

/-- A key and a value of a SESS_RET piggyback as a server writes them. -/
structure SessionPair where
  /-- the key -/
  key : Indicated 2 ByteString
  /-- the value -/
  value : Indicated 2 ByteString
  /-- flags -/
  flags : Ub 2

/-- The bytes on the wire. -/
def SyncPair.encode (p : SyncPair) : Bytes :=
  p.key.encode (fun t => t.raw.encode) ++ (p.value.encode ByteString.encode ++ p.keyword.encode)

lemma SyncPair.reads_skipSyncPair (p : SyncPair) : Reads skipSyncPair p.encode () := by
  refine (p.key.reads_indicated2 TextBytes.reads_readStringWithLength).bind ?_
  refine (p.value.reads_indicated2 ByteString.reads_readBytesWithLength).bind ?_
  exact p.keyword.reads_skipUb (by omega)

/-- The bytes on the wire. -/
def SessionPair.encode (p : SessionPair) : Bytes :=
  p.key.encode ByteString.encode ++ (p.value.encode ByteString.encode ++ p.flags.encode)

lemma SessionPair.reads_skipSessionPair (p : SessionPair) :
    Reads skipSessionPair p.encode () := by
  refine (p.key.reads_indicated2 ByteString.reads_readRawBytesChunked).bind ?_
  refine (p.value.reads_indicated2 ByteString.reads_readRawBytesChunked).bind ?_
  exact p.flags.reads_skipUb (by omega)

/-- The keys and values of a SESS_RET piggyback are stepped over exactly. -/
lemma reads_skipSessionPairs (l : MarkedList 2 SessionPair) :
    Reads skipSessionPairs (l.encode SessionPair.encode) () := by
  have hsize := l.list.size_eq
  refine l.list.size.reads_readUb2.bind ?_
  by_cases h : l.list.items = []
  · have hzero : l.list.size.value = 0 := by simp [hsize, h]
    rw [if_neg (by simp [hzero]), if_pos h]
    exact Reads.pure ()
  · have hne : l.list.size.value ≠ 0 := by simpa [hsize] using h
    rw [if_pos (l.list.size.value2_pos_iff.mpr hne), if_neg h, l.list.size.toNat_value2, hsize]
    refine (reads_skipUb1 l.marker).bind ?_
    exact (Reads.times fun p _ => SessionPair.reads_skipSessionPair p).bind_nil (Reads.pure ())

/-- A server-side piggyback as a server may write it. -/
inductive Piggyback where
  | ltxid (id : Indicated 4 ByteString)
  | queryCacheInvalidation
  | traceEvent
  | osPidMts (dtys : Counted 2) (marker : UInt8)
  | sync (numDtys : Ub 2) (lenDtys : UInt8) (pairs : Listed 4 SyncPair) (marker : UInt8)
    (flags : Ub 4)
  | extSync (numDtys : Ub 2) (lenDtys : UInt8)
  | acReplayContext (numDtys : Ub 2) (lenDtys : UInt8) (flags errorCode : Ub 4) (queue : UInt8)
    (context : Indicated 4 ByteString)
  | sessRet (numDtys : Ub 2) (lenDtys : UInt8) (pairs : MarkedList 2 SessionPair)
    (flags sessionId : Ub 4) (serial : Ub 2)
  | sessSignature (numDtys : Ub 2) (lenDtys : UInt8) (flags client server : Ub 8)

namespace Piggyback

/-- The bytes behind the message type. -/
def encode : Piggyback → Bytes
  | ltxid id => 7 :: id.encode ByteString.encode
  | queryCacheInvalidation => [1]
  | traceEvent => [3]
  | osPidMts dtys marker => 2 :: (dtys.size.encode ++ ([marker] ++ dtys.data))
  | sync numDtys lenDtys pairs marker flags =>
    5 :: (numDtys.encode ++ ([lenDtys] ++ (pairs.size.encode ++ ([marker] ++
      (pairs.items.flatMap SyncPair.encode ++ flags.encode)))))
  | extSync numDtys lenDtys => 9 :: (numDtys.encode ++ [lenDtys])
  | acReplayContext numDtys lenDtys flags errorCode queue context =>
    8 :: (numDtys.encode ++ ([lenDtys] ++ (flags.encode ++ (errorCode.encode ++ ([queue] ++
      context.encode ByteString.encode)))))
  | sessRet numDtys lenDtys pairs flags sessionId serial =>
    4 :: (numDtys.encode ++ ([lenDtys] ++ (pairs.encode SessionPair.encode ++ (flags.encode ++
      (sessionId.encode ++ serial.encode)))))
  | sessSignature numDtys lenDtys flags client server =>
    10 :: (numDtys.encode ++ ([lenDtys] ++ (flags.encode ++ (client.encode ++ server.encode))))

/-- A piggyback is stepped over exactly. -/
lemma reads_parseServerSidePiggyback (p : Piggyback) :
    Reads parseServerSidePiggyback p.encode () := by
  cases p with
  | ltxid id =>
    refine (reads_readU8 7).cons ?_
    exact (id.reads_indicated4 ByteString.reads_readBytesWithLength).bind_nil (Reads.pure _)
  | queryCacheInvalidation => exact (reads_readU8 1).cons (Reads.pure ())
  | traceEvent => exact (reads_readU8 3).cons (Reads.pure ())
  | osPidMts dtys marker =>
    refine (reads_readU8 2).cons ?_
    refine dtys.size.reads_readUb2.bind ?_
    refine (reads_skipUb1 marker).bind ?_
    rw [dtys.size.toNat_value2, dtys.size_eq]
    exact reads_skip dtys.data
  | sync numDtys lenDtys pairs marker flags =>
    refine (reads_readU8 5).cons ?_
    refine (numDtys.reads_skipUb (by omega)).bind ?_
    refine (reads_skipUb1 lenDtys).bind ?_
    refine pairs.size.reads_readUb4.bind ?_
    refine (reads_skip_one marker).bind ?_
    rw [pairs.size.toNat_value4, pairs.size_eq]
    refine (Reads.times fun p _ => SyncPair.reads_skipSyncPair p).bind ?_
    exact flags.reads_skipUb (by omega)
  | extSync numDtys lenDtys =>
    refine (reads_readU8 9).cons ?_
    exact (numDtys.reads_skipUb (by omega)).bind (reads_skipUb1 lenDtys)
  | acReplayContext numDtys lenDtys flags errorCode queue context =>
    refine (reads_readU8 8).cons ?_
    refine (numDtys.reads_skipUb (by omega)).bind ?_
    refine (reads_skipUb1 lenDtys).bind ?_
    refine (flags.reads_skipUb (by omega)).bind ?_
    refine (errorCode.reads_skipUb (by omega)).bind ?_
    refine (reads_skipUb1 queue).bind ?_
    exact (context.reads_indicated4 ByteString.reads_skipRawBytesChunked).bind_nil (Reads.pure _)
  | sessRet numDtys lenDtys pairs flags sessionId serial =>
    refine (reads_readU8 4).cons ?_
    refine (numDtys.reads_skipUb (by omega)).bind ?_
    refine (reads_skipUb1 lenDtys).bind ?_
    refine (reads_skipSessionPairs pairs).bind ?_
    refine flags.reads_readUb4.bind ?_
    refine sessionId.reads_readUb4.bind ?_
    exact serial.reads_readUb2.bind_nil (Reads.pure _)
  | sessSignature numDtys lenDtys flags client server =>
    refine (reads_readU8 10).cons ?_
    refine (numDtys.reads_skipUb (by omega)).bind ?_
    refine (reads_skipUb1 lenDtys).bind ?_
    refine (flags.reads_skipUb (by omega)).bind ?_
    refine (client.reads_skipUb (by omega)).bind ?_
    exact server.reads_skipUb (by omega)

end Piggyback

/-! ## Row headers -/

/-- The fields at the front of a row header. -/
def skipRowHeaderFront : ReadM Unit := do
  skipUb1 -- flags
  skipUb2 -- number of requests
  skipUb4 -- iteration number
  skipUb4 -- number of iterations
  skipUb2 -- buffer length

/-- `parse_row_header`, the row header of the execute path: the bit vector is skipped. -/
def parseRowHeader : ReadM Unit := do
  skipRowHeaderFront
  let numBytes ← readUb4
  if numBytes > 0 then
    skipUb1 -- repeated length
    skip numBytes.toNat
  let _rxhrid ← indicated4 skipRawBytesChunked

/-- The row header of `parse_fetch_response`: the bit vector, if there is one, is returned. -/
def readRowHeader : ReadM (Option Bytes) := do
  skipRowHeaderFront
  let numBytes ← readUb4
  let bitVector ← (if numBytes > 0 then do
      skip 1 -- repeated length
      some <$> readBytesVec numBytes.toNat
    else pure none)
  let _rxhrid ← indicated4 skipRawBytesChunked
  return bitVector

/-- A row header as a server may write it. -/
structure RowHeader where
  /-- flags -/
  flags : UInt8
  /-- number of requests -/
  numRequests : Ub 2
  /-- iteration number -/
  iteration : Ub 4
  /-- number of iterations -/
  numIters : Ub 4
  /-- buffer length -/
  bufferLength : Ub 2
  /-- the bit vector embedded in the header, empty if there is none -/
  bits : Counted 4
  /-- the repeated length in front of the bit vector -/
  repeated : UInt8
  /-- a row id -/
  rxhrid : Indicated 4 ByteString

namespace RowHeader

/-- The bytes of the embedded bit vector. -/
def encodeBits (h : RowHeader) : Bytes :=
  if h.bits.data = [] then h.bits.size.encode
  else h.bits.size.encode ++ ([h.repeated] ++ h.bits.data)

/-- The bytes behind the message type. -/
def encode (h : RowHeader) : Bytes :=
  ([h.flags] ++ (h.numRequests.encode ++ (h.iteration.encode ++ (h.numIters.encode ++
    h.bufferLength.encode)))) ++ (h.encodeBits ++ h.rxhrid.encode ByteString.encode)

/-- The embedded bit vector, if there is one. -/
def embedded (h : RowHeader) : Option Bytes := if h.bits.data = [] then none else some h.bits.data

/-- A row header with nothing to say. -/
def empty : RowHeader := ⟨0, Ub.zero, Ub.zero, Ub.zero, Ub.zero, ⟨Ub.zero, [], rfl⟩, 0,
  Indicated.none⟩

/-- A row header with an embedded bit vector and nothing else. -/
def embedding (bits : Bytes) (h : bits.length < 256) : RowHeader :=
  { empty with bits := ⟨Ub.byte (UInt8.ofNat bits.length), bits, by
      rw [Ub.value_byte, UInt8.toNat_ofNat', Nat.mod_eq_of_lt h]⟩ }

lemma reads_skipRowHeaderFront (h : RowHeader) :
    Reads skipRowHeaderFront ([h.flags] ++ (h.numRequests.encode ++ (h.iteration.encode ++
      (h.numIters.encode ++ h.bufferLength.encode)))) () := by
  refine (reads_skipUb1 h.flags).bind ?_
  refine (h.numRequests.reads_skipUb (by omega)).bind ?_
  refine (h.iteration.reads_skipUb (by omega)).bind ?_
  refine (h.numIters.reads_skipUb (by omega)).bind ?_
  exact h.bufferLength.reads_skipUb (by omega)

/-- The execute path steps over a row header exactly. -/
lemma reads_parseRowHeader (h : RowHeader) : Reads parseRowHeader h.encode () := by
  have hrxhrid : Reads (do let _rxhrid ← indicated4 skipRawBytesChunked : ReadM Unit)
      (h.rxhrid.encode ByteString.encode) () :=
    (h.rxhrid.reads_indicated4 ByteString.reads_skipRawBytesChunked).bind_nil (Reads.pure _)
  refine h.reads_skipRowHeaderFront.bind ?_
  rw [encodeBits]
  by_cases hbits : h.bits.data = []
  · have hzero : h.bits.size.value = 0 := by simp [h.bits.size_eq, hbits]
    rw [if_pos hbits]
    refine h.bits.size.reads_readUb4.bind ?_
    rw [if_neg (by simp [hzero])]
    exact hrxhrid
  · have hne : h.bits.size.value ≠ 0 := by simpa [h.bits.size_eq] using hbits
    rw [if_neg hbits, List.append_assoc, List.append_assoc]
    refine h.bits.size.reads_readUb4.bind ?_
    rw [if_pos (h.bits.size.value4_pos_iff.mpr hne), h.bits.size.toNat_value4, h.bits.size_eq]
    refine (reads_skipUb1 h.repeated).bind ?_
    exact (reads_skip h.bits.data).bind hrxhrid

/-- The fetch path reads a row header exactly, with its bit vector. -/
lemma reads_readRowHeader (h : RowHeader) : Reads readRowHeader h.encode h.embedded := by
  refine h.reads_skipRowHeaderFront.bind ?_
  rw [encodeBits, embedded]
  by_cases hbits : h.bits.data = []
  · have hzero : h.bits.size.value = 0 := by simp [h.bits.size_eq, hbits]
    rw [if_pos hbits, if_pos hbits]
    refine h.bits.size.reads_readUb4.bind ?_
    rw [if_neg (by simp [hzero])]
    exact (h.rxhrid.reads_indicated4 ByteString.reads_skipRawBytesChunked).bind_nil (Reads.pure _)
  · have hne : h.bits.size.value ≠ 0 := by simpa [h.bits.size_eq] using hbits
    rw [if_neg hbits, if_neg hbits, List.append_assoc]
    refine h.bits.size.reads_readUb4.bind ?_
    rw [if_pos (h.bits.size.value4_pos_iff.mpr hne), h.bits.size.toNat_value4, h.bits.size_eq]
    refine ((reads_skip_one h.repeated).bind ((reads_readBytesVec h.bits.data).map some)).bind ?_
    exact (h.rxhrid.reads_indicated4 ByteString.reads_skipRawBytesChunked).bind_nil (Reads.pure _)

end RowHeader

end OracleRs
