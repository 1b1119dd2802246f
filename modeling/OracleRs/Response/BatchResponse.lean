import OracleRs.Response.ServerErrors

set_option relaxedAutoImplicit false
set_option autoImplicit false

/-!
# Batch responses

The parser of the response to a batch, `parse_batch_response`. The Error message lists the rows that failed in
three lists: their error numbers, their offsets and their texts. With batch errors enabled these become the
errors of the result, and the number of the message itself counts only if there are none.

Return parameters end with the row counts if those were asked for; the parser reads them if at least four bytes
are left. If fewer are left, the row counts are read as messages of unknown types and stepped over.

## Main definitions

* `OracleRs.BatchResult`, `OracleRs.parseBatchResponse` — the parser and its result.
* `OracleRs.BatchMessage`, `OracleRs.BatchResponse` — the responses.
* `OracleRs.ErrorMessage.Lists` — the Error message lists failed rows.
* `OracleRs.AccountsFor` — a result has the failed rows as its errors, and counts all rows.

## Main results

* `OracleRs.zipBatchErrors_eq` — lists of one length are put together item by item.
* `OracleRs.BatchResponse.parseBatchResponse_eq` — what the parser makes of a response.
* `OracleRs.BatchResponse.accountsFor_iff` — when the result accounts for the failed rows.
-/

namespace OracleRs

open Cursor

/-! ## The parser -/

/-- The result of a batch (`BatchResult`). -/
structure BatchResult where
  /-- the number of rows affected in all -/
  totalRowsAffected : UInt64
  /-- the number of rows affected by each execution -/
  rowCounts : Option (List UInt64)
  /-- the number of rows without an error -/
  successCount : ℕ
  /-- the number of errors -/
  failureCount : ℕ
  /-- the errors -/
  errors : List BatchError
deriving DecidableEq, Repr

/-- The loop variables of `parse_batch_response`. -/
structure BatchState where
  /-- the number of rows affected -/
  rowsAffected : UInt64
  /-- the row counts -/
  rowCounts : Option (List UInt64)
  /-- the batch errors -/
  batchErrors : List BatchError
  /-- has the end marker been read? -/
  endOfResponse : Bool

namespace BatchState

/-- The loop variables before the first message. -/
def start : BatchState := ⟨0, none, [], false⟩

/-- The result of the parser for a batch with the given number of rows. -/
def result (batchSize : ℕ) (s : BatchState) : BatchResult where
  totalRowsAffected := s.rowsAffected
  rowCounts := s.rowCounts
  successCount := batchSize - s.batchErrors.length
  failureCount := s.batchErrors.length
  errors := s.batchErrors

end BatchState

/-- The Error arm of `parse_batch_response`. -/
def batchError (batchErrorsEnabled : Bool) (s : BatchState) : ReadM BatchState := do
  let info ← parseErrorInfoDetailed true true
  let batchErrors := s.batchErrors ++ info.batchErrors
  if IsFailure info.code ∧ ¬ (batchErrorsEnabled ∧ batchErrors ≠ []) then
    throw (.oracleError info.code (info.message.getD ""))
  else
    return { s with rowsAffected := info.rowCount, batchErrors := batchErrors }

/-- What `parse_batch_response` does with a message. -/
def batchMessage (wantRowCounts batchErrorsEnabled : Bool) (s : BatchState) :
    Option MessageType → ReadM (BatchState ⊕ BatchResult)
  | some .error => do
    return .inl (← batchError batchErrorsEnabled s)
  | some .parameter => do
    match ← parseReturnParametersInternal wantRowCounts with
    | some counts => return .inl { s with rowCounts := some counts }
    | none => return .inl s
  | some .serverSidePiggyback => do
    parseServerSidePiggyback
    return .inl s
  | some .status => do
    skipStatus
    return .inl s
  | some .bitVector => do
    dmlBitVector
    return .inl s
  | some .endOfResponse => return .inl { s with endOfResponse := true }
  -- the type of an unknown message is skipped, its body is not
  | _ => return .inl s

/-- One turn of the loop of `parse_batch_response`. -/
def batchTurn (batchSize : ℕ) (wantRowCounts batchErrorsEnabled : Bool) :
    BatchState → ReadM (BatchState ⊕ BatchResult) :=
  messageTurn BatchState.endOfResponse (BatchState.result batchSize)
    (batchMessage wantRowCounts batchErrorsEnabled)

/-- `parse_batch_response`. -/
def parseBatchResponse (payload : Bytes) (batchSize : ℕ) (wantRowCounts batchErrorsEnabled : Bool) :
    Except Error BatchResult :=
  parseMessages "Batch response too short" (batchTurn batchSize wantRowCounts batchErrorsEnabled)
    .start payload

/-! ## Responses -/

/-- A message of a batch response besides the Error message. -/
inductive BatchMessage where
  /-- a message as other responses have it -/
  | plain (m : Message [])
  /-- return parameters with row counts -/
  | rowCounts (p : ReturnParameters) (counts : Listed 4 (Ub 8))

namespace BatchMessage

/-- The bytes on the wire. -/
def encode (ttcFieldVersion : UInt8) : BatchMessage → Bytes
  | plain m => m.encode ttcFieldVersion
  | rowCounts p counts => MessageType.parameter.code :: (p.encode ++ counts.encode Ub.encode)

/-- `parse_batch_response` handles a message: return parameters have row counts exactly if these were asked
for. -/
def Handled (ttcFieldVersion : UInt8) (wantRowCounts : Bool) : BatchMessage → Prop
  | plain m => HandledByDml ttcFieldVersion m ∧ (m.type = .parameter → wantRowCounts = false)
  | rowCounts _ _ => wantRowCounts = true

end BatchMessage

/-- A response to a batch. -/
structure BatchResponse where
  /-- the two bytes of the data flags -/
  flag : UInt8
  flag' : UInt8
  /-- the messages in front of the Error message -/
  before : List BatchMessage
  /-- the Error message -/
  error : ErrorMessage
  /-- the messages behind it -/
  after : List BatchMessage
  /-- what stands behind the end marker, if there is one -/
  behindEnd : Option Bytes

/-- The payload of the response. -/
def BatchResponse.payload (ttcFieldVersion : UInt8) (r : BatchResponse) : Bytes :=
  r.flag :: r.flag' :: (r.before.flatMap (BatchMessage.encode ttcFieldVersion) ++
    (MessageType.error.code :: r.error.encode ttcFieldVersion ++
      (r.after.flatMap (BatchMessage.encode ttcFieldVersion) ++
        r.behindEnd.elim [] fun rest => MessageType.endOfResponse.code :: rest)))

/-- The Error message lists the given failures of rows of a batch with `n` rows. -/
structure ErrorMessage.Lists (m : ErrorMessage) (n : ℕ) (failures : List BatchError) : Prop where
  /-- their error numbers -/
  numbers : m.batchCodes.numbers = failures.map BatchError.code
  /-- their offsets -/
  offsets : m.batchOffsets.offsets = failures.map BatchError.rowIndex
  /-- their texts, without white space around them -/
  texts : m.batchMessages.texts = failures.map BatchError.message
  /-- each row fails once -/
  nodup : (failures.map BatchError.rowIndex).Nodup
  /-- the rows are rows of the batch -/
  lt : ∀ f ∈ failures, f.rowIndex < n
  /-- there is a text -/
  ne_empty : ∀ f ∈ failures, f.message ≠ ""

/-- The result has the failures as its errors, in their order, and accounts for all rows. -/
def AccountsFor (x : Except Error BatchResult) (n : ℕ) (failures : List BatchError) : Prop :=
  ∃ result, x = .ok result ∧ result.errors = failures ∧ result.failureCount = failures.length ∧
    result.successCount + result.failureCount = n

/-! ## Failed rows -/

/-- **Lists of one length are put together item by item**, without the number and the text of the message. -/
lemma zipBatchErrors_eq (code : UInt32) (message : Option String) {failures : List BatchError}
    (h : ∀ f ∈ failures, f.message ≠ "") :
    zipBatchErrors code message (failures.map BatchError.code) (failures.map BatchError.rowIndex)
      (failures.map BatchError.message) = failures := by
  refine List.ext_getElem (by simp [zipBatchErrors]) fun idx hidx hlt => ?_
  have hne : failures[idx].message ≠ "" := h _ (List.getElem_mem hlt)
  simp only [zipBatchErrors, List.getElem_map, List.getElem_range, List.getD_eq_getElem?_getD,
    List.getElem?_map, List.getElem?_eq_getElem hlt, Option.map_some, Option.getD_some, Option.filter_some]
  rw [if_pos (by simpa using hne)]
  rfl

namespace ErrorMessage.Lists

variable {m : ErrorMessage} {n : ℕ} {failures : List BatchError}

lemma batchErrors_eq (h : m.Lists n failures) (packet : Bytes) : m.batchErrors packet = failures := by
  rw [ErrorMessage.batchErrors, h.numbers, h.offsets, h.texts, zipBatchErrors_eq _ _ h.ne_empty]

/-- No more rows fail than there are. -/
lemma length_le (h : m.Lists n failures) : failures.length ≤ n := by
  have hsubset : failures.map BatchError.rowIndex ⊆ List.range n := by
    intro idx hidx
    obtain ⟨f, hf, rfl⟩ := List.mem_map.mp hidx
    exact List.mem_range.mpr (h.lt f hf)
  have hle := (List.subperm_of_subset h.nodup hsubset).length_le
  rwa [List.length_map, List.length_range] at hle

end ErrorMessage.Lists

/-! ## Row counts -/

/-- The return parameters in front of the row counts. -/
lemma parseStandardReturnParameters_eq (p : ReturnParameters) (wantRowCounts : Bool) {c : ReadBuffer} {r : Bytes}
    (hc : c.rest = p.encode ++ r) :
    parseStandardReturnParameters wantRowCounts c = readRowCounts wantRowCounts (c.advance p.encode.length) := by
  have hfront : Reads (do
      let _params ← counted2 skipUb4
      skipCounted2
      let _pairs ← counted2 skipReturnPair
      skipCounted2 : ReadM Unit) p.encode () := by
    refine (p.params.reads_counted2 fun u => u.reads_skipUb (by omega)).bind ?_
    refine p.al8txl.reads_skipCounted2.bind ?_
    exact (p.pairs.reads_counted2 ReturnPair.reads_skipReturnPair).bind p.registration.reads_skipCounted2
  have hsplit : parseStandardReturnParameters wantRowCounts = (do
      let _params ← counted2 skipUb4
      skipCounted2
      let _pairs ← counted2 skipReturnPair
      skipCounted2 : ReadM Unit) >>= fun _ => readRowCounts wantRowCounts := by
    simp only [parseStandardReturnParameters, bind_assoc]
  rw [hsplit, bind_ok (hfront c r hc)]

/-- Row counts that are wanted are read if four bytes are left. -/
lemma readRowCounts_eq (counts : Listed 4 (Ub 8)) {c : ReadBuffer} {r : Bytes}
    (hc : c.rest = counts.encode Ub.encode ++ r) :
    readRowCounts true c =
      if 4 ≤ (counts.encode Ub.encode ++ r).length then
        .ok (some (counts.items.map fun u => UInt64.ofNat u.value)) (c.advance (counts.encode Ub.encode).length)
      else .ok none c := by
  have hget : (get : ReadM ReadBuffer) c = .ok c c := rfl
  have hrem : c.remaining = (counts.encode Ub.encode ++ r).length := by rw [remaining_eq, hc]
  have hread : Reads (do return some (← times readUb8 (← readUb4).toNat) : ReadM (Option (List UInt64)))
      (counts.encode Ub.encode) (some (counts.items.map fun u => UInt64.ofNat u.value)) := by
    refine counts.size.reads_readUb4.bind ?_
    rw [counts.size.toNat_value4, counts.size_eq]
    exact (Reads.times fun u _ => u.reads_readUb8).bind_nil (Reads.pure _)
  rw [readRowCounts, bind_ok hget, hrem]
  by_cases hlen : 4 ≤ (counts.encode Ub.encode ++ r).length
  · rw [if_pos hlen, if_pos ⟨rfl, hlen⟩]
    exact hread c r hc
  · rw [if_neg hlen, if_neg fun h => hlen h.2]
    rfl

/-- A digit byte is at most the value. -/
lemma toNat_le_value {k : ℕ} (u : Ub k) : ∀ b ∈ u.digits, b.toNat ≤ u.value := by
  have heval : ∀ bs : Bytes, ∀ b ∈ bs, b.toNat ≤ BigEndian.eval bs := by
    intro bs
    induction bs with
    | nil => intro b hb; cases hb
    | cons d bs ih =>
      intro b hb
      have hpow : 0 < 256 ^ bs.length := by positivity
      have hd : d.toNat ≤ d.toNat * 256 ^ bs.length := Nat.le_mul_of_pos_right _ hpow
      rw [BigEndian.eval_cons]
      rcases List.mem_cons.mp hb with rfl | hb
      · omega
      · exact (ih b hb).trans (Nat.le_add_left _ _)
  exact heval u.digits

lemma length_le_flatMap_encode {k : ℕ} (items : List (Ub k)) :
    items.length ≤ (items.flatMap Ub.encode).length := by
  induction items with
  | nil => simp
  | cons u items ih =>
    rw [List.flatMap_cons, List.length_append, List.length_cons, Ub.encode, List.length_cons]
    omega

/-- Row counts of fewer than four bytes are made of the bytes 0, 1 and 2.

**Proof sketch.** Their number is at most two, so that its length byte and its digits are. If it is not zero
it has a digit byte, and only one byte is left for the row counts: the length byte of a zero. -/
lemma toNat_le_two_of_short (counts : Listed 4 (Ub 8)) (h : (counts.encode Ub.encode).length < 4) :
    ∀ b ∈ counts.encode Ub.encode, b.toNat ≤ 2 := by
  have hitems := length_le_flatMap_encode counts.items
  have hsize := counts.size_eq
  rw [Listed.encode, Ub.encode, List.cons_append, List.length_cons, List.length_append] at h
  have hlen : (UInt8.ofNat counts.size.digits.length).toNat = counts.size.digits.length := by
    rw [UInt8.toNat_ofNat', Nat.mod_eq_of_lt (by omega)]
  intro b hb
  rw [Listed.encode, Ub.encode, List.cons_append, List.mem_cons, List.mem_append] at hb
  rcases hb with rfl | hb | hb
  · omega
  · have := toNat_le_value counts.size b hb
    omega
  · cases hcounts : counts.items with
    | nil =>
      rw [hcounts] at hb
      cases hb
    | cons u rest =>
      have hdigits : counts.size.digits ≠ [] := by
        intro hnil
        rw [Ub.value, hnil, BigEndian.eval_nil, hcounts, List.length_cons] at hsize
        omega
      have hpos := List.length_pos_iff.mpr hdigits
      rw [hcounts, List.flatMap_cons, Ub.encode, List.cons_append, List.length_cons, List.length_append] at h
      have hu : u.digits.length = 0 := by omega
      have hrest : rest.flatMap Ub.encode = [] := List.length_eq_zero_iff.mp (by omega)
      rw [hcounts, List.flatMap_cons, hrest, Ub.encode, List.length_eq_zero_iff.mp hu, List.append_nil,
        List.mem_singleton] at hb
      rw [hb]
      decide

/-! ## Turns of the loop -/

section Loop

variable {batchSize : ℕ} {wantRowCounts : Bool} {version : UInt8} {s : BatchState}

/-- The state is the same but for the row counts, and the loop goes on. -/
structure SameOutcome (s s' : BatchState) : Prop where
  rowsAffected : s'.rowsAffected = s.rowsAffected
  batchErrors : s'.batchErrors = s.batchErrors
  endOfResponse : s'.endOfResponse = false

/-- A message as other responses have it is stepped over. -/
lemma reads_batchTurn_plain (hs : s.endOfResponse = false) {m : Message []}
    (hhandled : HandledByDml version m) (hcounts : m.type = .parameter → wantRowCounts = false) :
    Reads (batchTurn batchSize wantRowCounts true s) (m.encode version) (.inl s) := by
  have hskip : m.body version = [] → batchMessage wantRowCounts true s (some m.type) = pure (.inl s) →
      Reads (batchTurn batchSize wantRowCounts true s) (m.encode version) (.inl s) := by
    intro hbody harm
    rw [Message.encode, hbody]
    exact reads_messageTurn hs (harm ▸ Reads.pure _)
  cases m with
  | parameter p =>
    have hparameter : Reads (parseReturnParametersInternal wantRowCounts) p.encode none := by
      rw [hcounts rfl]
      intro c r hr
      rw [parseReturnParametersInternal, p.reads_parseStandardReturnParameters c r hr]
    exact reads_messageTurn hs (hparameter.bind_nil (Reads.pure _))
  | serverSidePiggyback p =>
    exact reads_messageTurn hs (p.reads_parseServerSidePiggyback.bind_nil (Reads.pure _))
  | status callStatus endToEndSeq =>
    exact reads_messageTurn hs ((reads_skipStatus _ _).bind_nil (Reads.pure _))
  | bitVector n bits =>
    obtain ⟨b, rfl⟩ := List.length_eq_one_iff.mp (show bits.length = 1 from hhandled)
    exact reads_messageTurn hs ((reads_dmlBitVector n b).bind_nil (Reads.pure _))
  | _ => exact hskip hhandled rfl

/-- The bytes 0, 1 and 2 are no messages that the parser knows. -/
lemma turns_small (hs : s.endOfResponse = false) {bs : Bytes} (hbs : ∀ b ∈ bs, b.toNat ≤ 2) :
    Turns .stuck (batchTurn batchSize wantRowCounts true) s bs s := by
  induction bs with
  | nil => exact Turns.refl s
  | cons b bs ih =>
    have hone : Reads (batchTurn batchSize wantRowCounts true s) [b] (.inl s) := by
      intro c r hr
      have hsmall := hbs b List.mem_cons_self
      have harm : batchMessage wantRowCounts true s (MessageType.tryFrom b) = pure (.inl s) := by
        obtain rfl | rfl | rfl : b = 0 ∨ b = 1 ∨ b = 2 := by
          simp only [← UInt8.toNat_inj]
          have h₀ : (0 : UInt8).toNat = 0 := rfl
          have h₁ : (1 : UInt8).toNat = 1 := rfl
          have h₂ : (2 : UInt8).toNat = 2 := rfl
          omega
        all_goals rfl
      rw [batchTurn, messageTurn_cons hs hr, harm]
      rfl
    exact Turns.more hone (List.cons_ne_nil b []) (ih fun b hb => hbs b (List.mem_cons_of_mem _ hb))

/-- The loop steps over return parameters with row counts, whether or not it reads the counts. -/
lemma exists_ends_batchRowCounts (hs : s.endOfResponse = false) (p : ReturnParameters) (counts : Listed 4 (Ub 8))
    {c : ReadBuffer} {r : Bytes} (hc : c.rest = (BatchMessage.rowCounts p counts).encode version ++ r) :
    ∃ s', SameOutcome s s' ∧ ∀ R, Ends .stuck (batchTurn batchSize true true) s'
        (c.advance ((BatchMessage.rowCounts p counts).encode version).length) R →
      Ends .stuck (batchTurn batchSize true true) s c R := by
  have hcons : c.rest = MessageType.parameter.code :: (p.encode ++ (counts.encode Ub.encode ++ r)) := by
    rw [hc, BatchMessage.encode, List.cons_append, List.append_assoc]
  have hfront : (c.advance 1).rest = p.encode ++ (counts.encode Ub.encode ++ r) := by
    rw [rest_advance, hcons]
    rfl
  have hbehind : ((c.advance 1).advance p.encode.length).rest = counts.encode Ub.encode ++ r :=
    rest_advance_of_append hfront
  have hturn : batchTurn batchSize true true s c =
      batchMessage true true s (some .parameter) (c.advance 1) := messageTurn_eq hs hcons
  have hlen : ((BatchMessage.rowCounts p counts).encode version).length =
      1 + p.encode.length + (counts.encode Ub.encode).length := by
    rw [BatchMessage.encode, List.length_cons, List.length_append]
    omega
  have hparse := parseStandardReturnParameters_eq p true hfront
  rw [readRowCounts_eq counts hbehind] at hparse
  have hinternal : ∀ x c', parseStandardReturnParameters true (c.advance 1) = .ok x c' →
      parseReturnParametersInternal true (c.advance 1) = .ok x c' := by
    intro x c' hx
    rw [parseReturnParametersInternal, hx]
  by_cases hfour : 4 ≤ (counts.encode Ub.encode ++ r).length
  · rw [if_pos hfour] at hparse
    refine ⟨{ s with rowCounts := some (counts.items.map fun u => UInt64.ofNat u.value) }, ⟨rfl, rfl, hs⟩,
      fun R hend => Ends.more (hturn.trans (bind_ok (hinternal _ _ hparse))) ?_ ?_⟩
    · simp only [rest_advance, List.length_drop, List.drop_drop, hcons, List.length_cons]
      omega
    · rw [hlen] at hend
      simpa only [advance_advance] using hend
  · rw [if_neg hfour] at hparse
    have hshort : (counts.encode Ub.encode).length < 4 := by
      rw [List.length_append] at hfour
      omega
    refine ⟨s, ⟨rfl, rfl, hs⟩, fun R hend => Ends.more (hturn.trans (bind_ok (hinternal _ _ hparse))) ?_ ?_⟩
    · simp only [rest_advance, List.length_drop, List.drop_drop, hcons, List.length_cons]
      omega
    · refine turns_small hs (toNat_le_two_of_short counts hshort) _ r hbehind R ?_
      rw [hlen] at hend
      simpa only [advance_advance] using hend

/-- The loop steps over the messages that it handles.

**Proof sketch.** Induction on the messages. The state behind the first one is that of `SameOutcome`, and the rest of
the buffer begins with the others. -/
lemma exists_ends_batchMessages (batchSize : ℕ) {ms : List BatchMessage} (hms : ∀ m ∈ ms, m.Handled version wantRowCounts)
    (hs : s.endOfResponse = false) {c : ReadBuffer} {r : Bytes}
    (hc : c.rest = ms.flatMap (BatchMessage.encode version) ++ r) :
    ∃ s', SameOutcome s s' ∧ ∀ R, Ends .stuck (batchTurn batchSize wantRowCounts true) s'
        (c.advance (ms.flatMap (BatchMessage.encode version)).length) R →
      Ends .stuck (batchTurn batchSize wantRowCounts true) s c R := by
  induction ms generalizing s c with
  | nil => exact ⟨s, ⟨rfl, rfl, hs⟩, fun R hend => hend⟩
  | cons m ms ih =>
    rw [List.flatMap_cons, List.append_assoc] at hc
    have hone : ∃ s₁, SameOutcome s s₁ ∧ ∀ R, Ends .stuck (batchTurn batchSize wantRowCounts true) s₁
        (c.advance (m.encode version).length) R →
          Ends .stuck (batchTurn batchSize wantRowCounts true) s c R := by
      have hm := hms m List.mem_cons_self
      cases m with
      | plain m =>
        exact ⟨s, ⟨rfl, rfl, hs⟩, Turns.one (reads_batchTurn_plain hs hm.1 hm.2)
          (Message.encode_ne_nil version m) c _ hc⟩
      | rowCounts p counts =>
        rw [show wantRowCounts = true from hm]
        exact exists_ends_batchRowCounts hs p counts hc
    obtain ⟨s₁, hquiet₁, hends₁⟩ := hone
    obtain ⟨s', hquiet, hends⟩ := ih (fun m hm => hms m (List.mem_cons_of_mem _ hm)) hquiet₁.endOfResponse
      (rest_advance_of_append hc)
    refine ⟨s', ⟨hquiet.rowsAffected.trans hquiet₁.rowsAffected, hquiet.batchErrors.trans hquiet₁.batchErrors,
      hquiet.endOfResponse⟩, fun R hend => hends₁ R (hends R ?_)⟩
    rwa [advance_advance, ← List.length_append, ← List.flatMap_cons]

/-- The Error arm: the listed failures are errors of the batch, and the number of the message counts only if
there are none. -/
lemma batchError_eq {m : ErrorMessage} {n : ℕ} {failures : List BatchError}
    (hv : version ≥ fieldVersion21_1) (hlists : m.Lists n failures) (hs : s.batchErrors = []) {c : ReadBuffer}
    {r : Bytes} (hc : c.rest = m.encode version ++ r) :
    batchError true s c =
      if IsFailure (m.takenAs c.data) ∧ failures = [] then
        .error (.oracleError (m.takenAs c.data) ((overrideErrorText c.data m.code m.message).2.getD ""))
          (c.advance (m.encode version).length)
      else
        .ok { s with rowsAffected := UInt64.ofNat m.rowCount.value, batchErrors := failures }
          (c.advance (m.encode version).length) := by
  obtain ⟨info, hread, htext, -, hcount, herrors⟩ := m.reads_readErrorInfo c.data hv
  have hinfo : parseErrorInfoDetailed true true c = .ok info (c.advance (m.encode version).length) :=
    hread c r hc
  have hcode : info.code = m.takenAs c.data := congrArg Prod.fst htext
  have hmessage : info.message = (overrideErrorText c.data m.code m.message).2 := congrArg Prod.snd htext
  have hfailures : s.batchErrors ++ info.batchErrors = failures := by
    rw [hs, herrors, hlists.batchErrors_eq, List.nil_append]
  rw [batchError, bind_ok hinfo]
  simp only [hfailures, hcode, hmessage, hcount]
  by_cases hfail : IsFailure (m.takenAs c.data) ∧ failures = []
  · rw [if_pos hfail, if_pos ⟨hfail.1, by simp [hfail.2]⟩]
    rfl
  · rw [if_neg hfail, if_neg fun h => hfail ⟨h.1, by simpa using h.2⟩]
    rfl

/-- The loop ends at the end of the response. -/
lemma exists_ends_batchEnd (batchSize : ℕ) (wantRowCounts : Bool) (hs : s.endOfResponse = false) (behindEnd : Option Bytes) {c : ReadBuffer}
    (hc : c.rest = behindEnd.elim [] fun rest => MessageType.endOfResponse.code :: rest) :
    ∃ c', Ends .stuck (batchTurn batchSize wantRowCounts true) s c (.ok (s.result batchSize) c') := by
  cases behindEnd with
  | none => exact ⟨c, Ends.done (messageTurn_end (.inr hc))⟩
  | some rest =>
    have hcons : c.rest = MessageType.endOfResponse.code :: rest := hc
    have hturn : batchTurn batchSize wantRowCounts true s c =
        batchMessage wantRowCounts true s (some .endOfResponse) (c.advance 1) := messageTurn_eq hs hcons
    refine ⟨_, Ends.more hturn ?_ (Ends.done (messageTurn_end (.inl rfl)))⟩
    rw [rest_advance, hcons]
    exact Nat.lt_succ_self _

end Loop

/-! ## The result -/

namespace BatchResponse

variable {version : UInt8} {wantRowCounts : Bool} {n : ℕ} {failures : List BatchError}

/-- **What the parser makes of a response** whose messages it handles: the failures, or the failure of the
message itself if there are none. -/
lemma parseBatchResponse_eq (r : BatchResponse) (hv : version ≥ fieldVersion21_1)
    (hbefore : ∀ m ∈ r.before, m.Handled version wantRowCounts)
    (hafter : ∀ m ∈ r.after, m.Handled version wantRowCounts) (hlists : r.error.Lists n failures) :
    ∃ rowCounts, parseBatchResponse (r.payload version) n wantRowCounts true =
      if IsFailure (r.error.takenAs (r.payload version)) ∧ failures = [] then
        .error (.oracleError (r.error.takenAs (r.payload version))
          ((overrideErrorText (r.payload version) r.error.code r.error.message).2.getD ""))
      else
        .ok ⟨UInt64.ofNat r.error.rowCount.value, rowCounts, n - failures.length, failures.length, failures⟩ := by
  have hrest : (⟨r.payload version, 2⟩ : ReadBuffer).rest =
      r.before.flatMap (BatchMessage.encode version) ++
        (MessageType.error.code :: r.error.encode version ++
          (r.after.flatMap (BatchMessage.encode version) ++
            r.behindEnd.elim [] fun rest => MessageType.endOfResponse.code :: rest)) := rfl
  have hstart : BatchState.start.endOfResponse = false := rfl
  obtain ⟨s₁, hquiet₁, hends₁⟩ := exists_ends_batchMessages n hbefore hstart hrest
  have hc₁ := rest_advance_of_append hrest
  obtain ⟨c₁, hadvance₁⟩ : ∃ c₁, (⟨r.payload version, 2⟩ : ReadBuffer).advance
      (r.before.flatMap (BatchMessage.encode version)).length = c₁ := ⟨_, rfl⟩
  have hdata : c₁.data = r.payload version := by rw [← hadvance₁]; rfl
  rw [hadvance₁] at hends₁ hc₁
  rw [List.cons_append] at hc₁
  have hmessage : (c₁.advance 1).rest = r.error.encode version ++
      (r.after.flatMap (BatchMessage.encode version) ++
        r.behindEnd.elim [] fun rest => MessageType.endOfResponse.code :: rest) := by
    rw [rest_advance, hc₁]
    rfl
  have hturn : batchTurn n wantRowCounts true s₁ c₁ =
      batchMessage wantRowCounts true s₁ (some .error) (c₁.advance 1) :=
    messageTurn_eq hquiet₁.endOfResponse hc₁
  have herror := batchError_eq hv hlists hquiet₁.batchErrors hmessage
  rw [data_advance, hdata] at herror
  have hb : r.before.flatMap (BatchMessage.encode version) ++
      (MessageType.error.code :: r.error.encode version ++
        (r.after.flatMap (BatchMessage.encode version) ++
          r.behindEnd.elim [] fun rest => MessageType.endOfResponse.code :: rest)) ≠ [] := by simp
  by_cases hfail : IsFailure (r.error.takenAs (r.payload version)) ∧ failures = []
  · rw [if_pos hfail] at herror
    refine ⟨none, ?_⟩
    rw [if_pos hfail]
    exact parseMessages_eq hb (hends₁ _ (Ends.fail (hturn.trans (bind_error herror))))
  · rw [if_neg hfail] at herror
    have hc₂ := rest_advance_of_append hmessage
    obtain ⟨s₂, hquiet₂, hends₂⟩ := exists_ends_batchMessages n hafter
      (show BatchState.endOfResponse ⟨UInt64.ofNat r.error.rowCount.value, s₁.rowCounts, failures,
        s₁.endOfResponse⟩ = false from hquiet₁.endOfResponse) hc₂
    obtain ⟨c', hend⟩ := exists_ends_batchEnd n wantRowCounts hquiet₂.endOfResponse r.behindEnd
      (rest_advance_of_append hc₂)
    refine ⟨s₂.rowCounts, ?_⟩
    rw [if_neg hfail]
    have hresult : s₂.result n = ⟨UInt64.ofNat r.error.rowCount.value, s₂.rowCounts, n - failures.length,
        failures.length, failures⟩ := by
      rw [BatchState.result, hquiet₂.batchErrors, hquiet₂.rowsAffected]
    rw [hresult] at hend
    refine parseMessages_eq hb (hends₁ _ (Ends.more (hturn.trans (bind_ok herror)) ?_ (hends₂ _ hend)))
    simp only [rest_advance, hc₁, List.drop_succ_cons, List.drop_zero, List.length_cons, List.length_drop]
    omega

/-- **The result accounts for the failed rows** of a response whose messages the parser handles, unless there
are none and the Error message itself reports a failure. -/
theorem accountsFor_iff (r : BatchResponse) (hv : version ≥ fieldVersion21_1)
    (hhandled : ∀ m ∈ r.before ++ r.after, m.Handled version wantRowCounts) (hlists : r.error.Lists n failures) :
    AccountsFor (parseBatchResponse (r.payload version) n wantRowCounts true) n failures ↔
      failures ≠ [] ∨ ¬ IsFailure (r.error.takenAs (r.payload version)) := by
  obtain ⟨rowCounts, hparse⟩ := r.parseBatchResponse_eq hv
    (fun m hm => hhandled m (List.mem_append_left _ hm)) (fun m hm => hhandled m (List.mem_append_right _ hm))
    hlists
  have hle := hlists.length_le
  rw [hparse]
  by_cases hfail : IsFailure (r.error.takenAs (r.payload version)) ∧ failures = []
  · rw [if_pos hfail]
    refine iff_of_false ?_ ?_
    · rintro ⟨result, hresult, -⟩
      cases hresult
    · rintro (hne | hok)
      · exact hne hfail.2
      · exact hok hfail.1
  · rw [if_neg hfail]
    refine iff_of_true ⟨_, rfl, rfl, rfl, Nat.sub_add_cancel hle⟩ ?_
    by_cases hnil : failures = []
    · exact .inr fun h => hfail ⟨h, hnil⟩
    · exact .inl hnil

end BatchResponse

lemma length_batchNumber_le : ([0x5F, 0x3D] : Bytes).length ≤ 4 := by decide

lemma value_byte_one {k : ℕ} : (Ub.byte 1 : Ub (k + 1)).value = 1 := rfl

/-- An Error message with error number 24381 that lists one failure: row 2, with error number 1. -/
def oneFailure : ErrorMessage :=
  { ErrorMessage.plain Ub.zero ⟨[0x5F, 0x3D], length_batchNumber_le⟩ none with
    batchCodes := ⟨⟨Ub.byte 1, [Ub.byte 1], value_byte_one⟩, 0⟩
    batchOffsets := ⟨⟨Ub.byte 1, [Ub.byte 2], value_byte_one⟩, 0⟩
    batchMessages := ⟨⟨Ub.byte 1, [⟨Ub.zero, .short "ORA-00942" length_failureText_le, 0, 0⟩], value_byte_one⟩, 0⟩ }

lemma lists_oneFailure : oneFailure.Lists 3 [⟨2, 1, "ORA-00942"⟩] := by
  refine ⟨by decide +kernel, by decide +kernel, by decide +kernel, by simp, by simp, by simp⟩

/-- The only failure of three rows, with row counts in front and an end marker behind. -/
theorem BatchResponse.accountsFor_iff_one :
    AccountsFor (parseBatchResponse (BatchResponse.payload 24 ⟨0, 0, [.rowCounts .empty Listed.nil], oneFailure,
      [.plain (.status Ub.zero Ub.zero)], some []⟩) 3 true true) 3 [⟨2, 1, "ORA-00942"⟩] := by
  refine (BatchResponse.accountsFor_iff _ (by decide) ?_ lists_oneFailure).mpr (.inl (by simp))
  intro m hm
  simp only [List.cons_append, List.nil_append, List.mem_cons, List.not_mem_nil, or_false] at hm
  rcases hm with rfl | rfl
  · rfl
  · exact ⟨trivial, fun h => by cases h⟩

/-- A statement that fails as a whole, without a failed row, is an error; and behind a row header, whose flags
are taken for the end marker, a failed row is not found. -/
theorem BatchResponse.not_accountsFor :
    (failureMessage.Lists 3 [] ∧
      ¬AccountsFor (parseBatchResponse (BatchResponse.payload 24 ⟨0, 0, [], failureMessage, [], none⟩) 3 false true)
        3 []) ∧
    (oneFailure.Lists 3 [⟨2, 1, "ORA-00942"⟩] ∧
      ¬AccountsFor (parseBatchResponse (BatchResponse.payload 24 ⟨0, 0, [.plain (.rowHeader markerHeader)],
        oneFailure, [], none⟩) 3 false true) 3 [⟨2, 1, "ORA-00942"⟩]) := by
  refine ⟨⟨⟨rfl, rfl, rfl, by simp, by simp, by simp⟩, ?_⟩, lists_oneFailure, ?_⟩
  · rintro ⟨result, hresult, -⟩
    have hfails : (parseBatchResponse (BatchResponse.payload 24 ⟨0, 0, [], failureMessage, [], none⟩) 3 false
        true).isOk = false := by decide +kernel
    rw [hresult] at hfails
    cases hfails
  · rintro ⟨result, hresult, herrors, -⟩
    have hmissed : (parseBatchResponse (BatchResponse.payload 24 ⟨0, 0, [.plain (.rowHeader markerHeader)],
        oneFailure, [], none⟩) 3 false true).toOption.map BatchResult.errors = some [] := by decide +kernel
    rw [hresult] at hmissed
    have hnone : result.errors = [] := Option.some.inj hmissed
    rw [hnone] at herrors
    cases herrors

end OracleRs
