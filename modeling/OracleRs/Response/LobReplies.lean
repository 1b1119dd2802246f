import OracleRs.Response.LobResponse

set_option relaxedAutoImplicit false
set_option autoImplicit false

/-!
# Replies to LOB operations

What the parsers of the responses to LOB operations return. A parser goes through the messages of a reply and
keeps what the last one of its kind has said; it does so if it does not take for a message what it leaves unread
of one. The response to `CREATE_TEMP` has a parser of its own, in which the Parameter message is another one.

## Main definitions

* `OracleRs.lobMessageWith` — the arms, with the text for an error that has none.
* `OracleRs.parseCreateTempResponse`, `OracleRs.parseLobError` — two more parsers.
* `OracleRs.LobMessage.Clean` — a message of which nothing is taken for another one.
* `OracleRs.LobMessage.TakenBy` — what a parser makes of a message.

## Main results

* `OracleRs.parseLobWith_of_clean` — what a parser returns for clean messages.
* `OracleRs.exists_parseLobWith_error` — it fails at an error behind clean messages.
-/

namespace OracleRs

open Cursor

/-! ## Parsers -/

section Parsers

variable {σ α : Type}

/-- The Error arm, with the text for an error that has none. -/
def lobErrorWith (text : String) (s : σ) : ReadM (σ ⊕ α) := do
  match ← attempt parseErrorInfo with
  | some (code, msg, _) =>
    if code ≠ 0 then
      throw (.oracleError code (msg.getD text))
    else
      return .inl s
  | none => return .inl s

/-- The arms of the parsers, with this text. -/
def lobMessageWith (text : String) (lobData parameter : σ → ReadM σ) (result : σ → α) (s : σ) :
    Option MessageType → ReadM (σ ⊕ α)
  | some .error => lobErrorWith text s
  | t => lobMessage lobData parameter result s t

/-- One turn of their loops. -/
def lobTurnWith (text : String) (lobData parameter : σ → ReadM σ) (result : σ → α) : σ → ReadM (σ ⊕ α) :=
  messageTurn (fun _ => false) result (lobMessageWith text lobData parameter result)

/-- The loops, behind the data flags. -/
def parseLobWith (text : String) (lobData parameter : σ → ReadM σ) (result : σ → α) (start : σ)
    (payload : Bytes) : Except Error α :=
  ReadM.runOn (do skip 2; iterate .stuck (lobTurnWith text lobData parameter result) start) payload

/-- The parsers of the other operations have the same text. -/
lemma parseLobWith_lobError (lobData parameter : σ → ReadM σ) (result : σ → α) (start : σ) (payload : Bytes) :
    parseLobWith "LOB error" lobData parameter result start payload =
      parseLob lobData parameter result start payload := by
  have harms : lobMessageWith "LOB error" lobData parameter result = lobMessage lobData parameter result := by
    funext s t
    cases t with
    | none => rfl
    | some t => cases t <;> rfl
  rw [parseLobWith, lobTurnWith, harms]
  rfl

end Parsers

/-- The Parameter arm of `create_temp_lob`: the locator, the character set and a flag. -/
def createTempParameter (_ : Option Bytes) : ReadM (Option Bytes) := do
  let locator ← readBytesVec 40
  skipUb2
  skip 1
  return some locator

/-- What `create_temp_lob` makes of the payload of a response. -/
def parseCreateTempResponse (oracleType : OracleType) (payload : Bytes) : Except Error LobLocator := do
  match ← parseLobWith "CREATE_TEMP LOB error" pure createTempParameter id none payload with
  | some locator => return { locator := locator, size := 0, chunkSize := 0, oracleType := oracleType, csfrm := 1 }
  | none => throw (.protocol "CREATE_TEMP LOB response did not contain locator")

/-- `parse_lob_error`, behind the data flags: the parser of the payload behind a reset. -/
def parseLobError {α : Type} (payload : Bytes) : Except Error α :=
  ReadM.runOn (do
    skip 2
    match ← attempt parseErrorInfo with
    | some (code, msg, _) => throw (.oracleError code (msg.getD "Unknown LOB error"))
    | none => throw (.protocol "LOB operation failed")) payload

/-- It always fails. -/
lemma exists_parseLobError_error (α : Type) (payload : Bytes) :
    ∃ e, (parseLobError payload : Except Error α) = .error e := by
  rw [parseLobError, ReadM.runOn]
  cases hskip : skip 2 ⟨payload, 0⟩ with
  | error e c =>
    rw [bind_error hskip]
    exact ⟨e, rfl⟩
  | ok u c =>
    rw [bind_ok hskip]
    cases hinfo : attempt parseErrorInfo c with
    | error e c' =>
      rw [bind_error hinfo]
      exact ⟨e, rfl⟩
    | ok info c' =>
      rw [bind_ok hinfo]
      cases info with
      | none => exact ⟨_, rfl⟩
      | some info => exact ⟨_, rfl⟩

/-! ## Messages -/

/-- A message that is no error, and of which nothing is left that the parser would take for a message. -/
structure LobMessage.Clean (kind : LobKind) (version : UInt8) (m : LobMessage) : Prop where
  /-- it is no error -/
  noError : ¬ m.IsError
  /-- nothing is left for the parser -/
  unread : ∀ b ∈ m.unread kind version, kind.handles b = false

/-- The arms of a parser take the message, which leads from one state to another. -/
def LobMessage.TakenBy {σ : Type} (kind : LobKind) (readData readParameter : σ → ReadM σ) (s s' : σ) :
    LobMessage → Prop
  | lobData data => Reads (readData s) (if kind = .read then data.encode else []) s'
  | parameter locator returned =>
    Reads (readParameter s) (locator ++ if kind = .simple then [] else returned.encode) s'
  | error _ => s' = s

section Loops

variable {σ α : Type} {kind : LobKind} {text : String} {lobData parameter : σ → ReadM σ}
  {result : σ → α} {version : UInt8} {s s' : σ}

/-- A turn reads a message type and its message. -/
lemma reads_lobTurnWith {t : MessageType} {b : Bytes} {r : σ ⊕ α}
    (h : Reads (lobMessageWith text lobData parameter result s (some t)) b r) :
    Reads (lobTurnWith text lobData parameter result s) (t.code :: b) r := by
  intro c rest hc
  have hrem : ¬ (false = true ∨ c.remaining = 0) := by simp [remaining_eq, hc]
  have hread : readU8 c = .ok t.code (c.advance 1) := reads_readU8 t.code c _ hc
  have hget : (get : ReadM ReadBuffer) c = .ok c c := rfl
  rw [lobTurnWith, messageTurn, bind_ok hget, if_neg hrem, bind_ok hread, MessageType.tryFrom_code,
    h (c.advance 1) rest (by simp [hc])]
  simp [Nat.add_comm]

/-- A success is read up to what is left unread of it. -/
lemma reads_lobErrorWith {m : ErrorMessage} (hm : m.number.value = 0) (version : UInt8) :
    Reads (lobErrorWith text s : ReadM (σ ⊕ α)) (m.encodeRead version) (.inl s) := by
  intro c r hc
  have htext : m.textRead? version = some none := if_pos hm
  have hzero : m.code = 0 := by rw [ErrorMessage.code, hm]; rfl
  obtain ⟨info, hread, hover⟩ := ErrorMessage.reads_readErrorInfo_of_textRead htext c.data
  rw [hzero] at hover
  have hcode : info.code = 0 := congrArg Prod.fst hover
  have hattempt : attempt parseErrorInfo c =
      .ok (some (info.code, info.message, info.cursorId)) (c.advance (m.encodeRead version).length) := by
    rw [attempt, parseErrorInfo_eq, bind_ok (hread c r hc)]
    rfl
  rw [lobErrorWith, bind_ok hattempt, hcode]
  rfl

/-- A byte that is no message type for the parser is skipped. -/
lemma reads_lobTurnWith_skipped (hquiet : kind ≠ .read → Reads (lobData s) [] s) {b : UInt8}
    (hb : kind.handles b = false) : Reads (lobTurnWith text lobData parameter result s) [b] (.inl s) := by
  simp only [LobKind.handles, Bool.or_eq_false_iff, Bool.and_eq_false_iff, decide_eq_false_iff_not] at hb
  obtain ⟨⟨⟨herror, hparameter⟩, hend⟩, hdata⟩ := hb
  have hskip : lobMessageWith text lobData parameter result s (MessageType.tryFrom b) = pure (.inl s) →
      Reads (lobTurnWith text lobData parameter result s) [b] (.inl s) := by
    intro hmessage c rest hc
    have hrem : ¬ (false = true ∨ c.remaining = 0) := by simp [remaining_eq, hc]
    have hget : (get : ReadM ReadBuffer) c = .ok c c := rfl
    rw [lobTurnWith, messageTurn, bind_ok hget, if_neg hrem, bind_ok (reads_readU8 b c rest hc), hmessage]
    rfl
  cases htype : MessageType.tryFrom b with
  | none => exact hskip (by rw [htype]; rfl)
  | some t =>
    have hcode := MessageType.code_of_tryFrom htype
    cases t with
    | error => exact absurd hcode herror
    | parameter => exact absurd hcode hparameter
    | endOfResponse => exact absurd hcode hend
    | lobData =>
      have hkind : kind ≠ .read := hdata.resolve_right fun h => h hcode
      rw [hcode]
      exact reads_lobTurnWith ((hquiet hkind).bind (Reads.pure (Sum.inl s : σ ⊕ α)))
    | _ => exact hskip (by rw [htype]; rfl)

/-- Such bytes are skipped. -/
lemma turns_skipped (hquiet : kind ≠ .read → Reads (lobData s) [] s) {gap : Bytes}
    (hgap : ∀ b ∈ gap, kind.handles b = false) :
    Turns .stuck (lobTurnWith text lobData parameter result) s gap s := by
  induction gap with
  | nil => exact Turns.refl s
  | cons b gap ih =>
    rw [List.forall_mem_cons] at hgap
    exact Turns.more (reads_lobTurnWith_skipped hquiet hgap.1) (List.cons_ne_nil b []) (ih hgap.2)

/-- A clean message is taken, and what is left unread of it is skipped. -/
lemma turns_of_clean {m : LobMessage} (hclean : m.Clean kind version)
    (htaken : m.TakenBy kind lobData parameter s s') (hquiet : kind ≠ .read → Reads (lobData s') [] s') :
    Turns .stuck (lobTurnWith text lobData parameter result) s (m.encode version) s' := by
  -- the arm of the message type reads `b`, and the rest is left unread
  have hturns : ∀ (b : Bytes) (t : MessageType), m.encode version = t.code :: (b ++ m.unread kind version) →
      Reads (lobMessageWith text lobData parameter result s (some t)) b (.inl s') →
      Turns .stuck (lobTurnWith text lobData parameter result) s (m.encode version) s' := by
    intro b t hencode hread
    rw [hencode, ← List.cons_append]
    exact Turns.more (reads_lobTurnWith hread) (List.cons_ne_nil _ _) (turns_skipped hquiet hclean.unread)
  cases m with
  | lobData data =>
    refine hturns (if kind = .read then data.encode else []) .lobData ?_ ?_
    · rw [LobMessage.encode, LobMessage.unread]
      split_ifs <;> simp
    · exact Reads.bind_nil htaken (Reads.pure (Sum.inl s' : σ ⊕ α))
  | parameter locator returned =>
    refine hturns (locator ++ if kind = .simple then [] else returned.encode) .parameter ?_ ?_
    · rw [LobMessage.encode, LobMessage.unread]
      split_ifs <;> simp
    · exact Reads.bind_nil htaken (Reads.pure (Sum.inl s' : σ ⊕ α))
  | error m =>
    obtain rfl : s' = s := htaken
    refine hturns (m.encodeRead version) .error (congrArg _ (m.encode_eq_append version)) ?_
    exact reads_lobErrorWith (not_not.mp hclean.noError) version

/-- What is behind the last message ends the loop. -/
lemma exists_ends_tailWith (s : σ) {marked : Bool} {c : ReadBuffer}
    (hc : c.rest = if marked then [MessageType.endOfResponse.code] else []) :
    ∃ c', Ends .stuck (lobTurnWith text lobData parameter result) s c (.ok (result s) c') := by
  cases marked with
  | true =>
    have hturn : Reads (lobTurnWith text lobData parameter result s) [MessageType.endOfResponse.code]
        (.inr (result s)) := reads_lobTurnWith (Reads.pure (Sum.inr (result s) : σ ⊕ α))
    exact ⟨_, Ends.done (hturn c [] (by rw [hc, if_pos rfl, List.append_nil]))⟩
  | false => exact ⟨c, Ends.done (messageTurn_end (.inr hc))⟩

/-- An error that is reported ends the loop. -/
lemma exists_ends_error (s : σ) {m : ErrorMessage} {c : ReadBuffer} {b : Bytes}
    (hc : c.rest = MessageType.error.code :: (m.encode version ++ b))
    (hm : m.reportedNumber c.data version ≠ 0) :
    ∃ e c', Ends .stuck (lobTurnWith text lobData parameter result) s c (.error e c') := by
  have hrest : (c.advance 1).rest = m.encode version ++ b := rest_advance_of_append (b := [_]) hc
  have hrem : ¬ (false = true ∨ c.remaining = 0) := by simp [remaining_eq, hc]
  have hget : (get : ReadM ReadBuffer) c = .ok c c := rfl
  cases htext : m.textRead? version with
  | none =>
    rw [ErrorMessage.reportedNumber, htext] at hm
    exact absurd rfl hm
  | some found =>
    obtain ⟨message, cursorId, hattempt⟩ := attempt_of_reads hrest htext
    refine ⟨.oracleError (m.reportedNumber c.data version) (message.getD text),
      (c.advance 1).advance (m.encodeRead version).length, Ends.fail ?_⟩
    rw [lobTurnWith, messageTurn, bind_ok hget, if_neg hrem, bind_ok (reads_readU8 _ c _ hc),
      MessageType.tryFrom_code]
    show (attempt parseErrorInfo >>= _) (c.advance 1) = _
    rw [bind_ok hattempt]
    exact congrFun (if_pos hm) _

/-- Clean messages are taken one behind the other. -/
lemma turns_of_forall_clean {step : σ → LobMessage → σ} {ms : List LobMessage}
    (hclean : ∀ m ∈ ms, m.Clean kind version)
    (htaken : ∀ s, ∀ m ∈ ms, m.TakenBy kind lobData parameter s (step s m))
    (hquiet : ∀ s, kind ≠ .read → Reads (lobData s) [] s) (s : σ) :
    Turns .stuck (lobTurnWith text lobData parameter result) s (ms.flatMap (LobMessage.encode version))
      (ms.foldl step s) := by
  induction ms generalizing s with
  | nil => exact Turns.refl s
  | cons m ms ih =>
    rw [List.forall_mem_cons] at hclean
    refine (turns_of_clean hclean.1 (htaken s m List.mem_cons_self) (hquiet _)).trans ?_
    exact (ih hclean.2 (fun s' m' hm' => htaken s' m' (List.mem_cons_of_mem m hm')) (step s m))

end Loops

/-! ## Replies -/

/-- A reply to a LOB operation. -/
structure LobReply where
  /-- the two bytes of the data flags -/
  flag : UInt8
  flag' : UInt8
  /-- the messages -/
  messages : List LobMessage
  /-- is the end of the response marked? -/
  endMarked : Bool

/-- The payload. -/
def LobReply.payload (version : UInt8) (r : LobReply) : Bytes :=
  [r.flag, r.flag'] ++ (r.messages.flatMap (LobMessage.encode version) ++
    if r.endMarked then [MessageType.endOfResponse.code] else [])

section Results

variable {σ α : Type} {kind : LobKind} {text : String} {lobData parameter : σ → ReadM σ}
  {result : σ → α} {version : UInt8} {step : σ → LobMessage → σ} {r : LobReply}

/-- The loop runs behind the data flags. -/
lemma parseLobWith_eq (start : σ) (r : LobReply) :
    parseLobWith text lobData parameter result start (r.payload version) =
      match iterate .stuck (lobTurnWith text lobData parameter result) start ⟨r.payload version, 2⟩ with
      | .ok a _ => .ok a
      | .error e _ => .error e := by
  have hskip : skip 2 ⟨r.payload version, 0⟩ = .ok () ⟨r.payload version, 2⟩ :=
    reads_skip [r.flag, r.flag'] _ _ (rest_mk_zero _)
  rw [parseLobWith, ReadM.runOn, bind_ok hskip]
  rfl

/-- **The result of clean messages.** -/
theorem parseLobWith_of_clean (hclean : ∀ m ∈ r.messages, m.Clean kind version)
    (htaken : ∀ s, ∀ m ∈ r.messages, m.TakenBy kind lobData parameter s (step s m))
    (hquiet : ∀ s, kind ≠ .read → Reads (lobData s) [] s) (start : σ) :
    parseLobWith text lobData parameter result start (r.payload version) =
      .ok (result (r.messages.foldl step start)) := by
  have hturns : Turns .stuck (lobTurnWith text lobData parameter result) start
      (r.messages.flatMap (LobMessage.encode version)) (r.messages.foldl step start) :=
    turns_of_forall_clean hclean htaken hquiet start
  have hrest : (Cursor.mk (r.payload version) 2).rest = r.messages.flatMap (LobMessage.encode version) ++
      if r.endMarked then [MessageType.endOfResponse.code] else [] := rfl
  obtain ⟨c, hend⟩ : ∃ c, Ends .stuck (lobTurnWith text lobData parameter result) (r.messages.foldl step start) _
      (.ok (result (r.messages.foldl step start)) c) :=
    exists_ends_tailWith _ (rest_advance_of_append hrest)
  rw [parseLobWith_eq, iterate_of_ends (hturns _ _ hrest _ hend)]

variable (text result) in
/-- **An error behind clean messages is reported.** -/
theorem exists_parseLobWith_error {front rest : List LobMessage} {m : ErrorMessage}
    (hr : r.messages = front ++ .error m :: rest) (hclean : ∀ m ∈ front, m.Clean kind version)
    (htaken : ∀ s, ∀ m ∈ front, m.TakenBy kind lobData parameter s (step s m))
    (hquiet : ∀ s, kind ≠ .read → Reads (lobData s) [] s)
    (hm : m.reportedNumber (r.payload version) version ≠ 0) (start : σ) :
    ∃ e, parseLobWith text lobData parameter result start (r.payload version) = .error e := by
  have hturns : Turns .stuck (lobTurnWith text lobData parameter result) start
      (front.flatMap (LobMessage.encode version)) (front.foldl step start) :=
    turns_of_forall_clean hclean htaken hquiet start
  obtain ⟨b, hrest⟩ : ∃ b, (Cursor.mk (r.payload version) 2).rest =
      front.flatMap (LobMessage.encode version) ++ (MessageType.error.code :: (m.encode version ++ b)) := by
    refine ⟨rest.flatMap (LobMessage.encode version) ++
      (if r.endMarked then [MessageType.endOfResponse.code] else []), ?_⟩
    show r.messages.flatMap (LobMessage.encode version) ++ _ = _
    rw [hr]
    simp [LobMessage.encode]
  obtain ⟨e, c, hend⟩ : ∃ e c, Ends .stuck (lobTurnWith text lobData parameter result) (front.foldl step start) _
      (.error e c) := exists_ends_error _ (rest_advance_of_append hrest) hm
  exact ⟨e, by rw [parseLobWith_eq, iterate_of_ends (hturns _ _ hrest _ hend)]⟩

end Results

/-! ## The parsers of the operations -/

/-- What an operation returns. -/
inductive LobResult where
  /-- content -/
  | content (data : LobData)
  /-- nothing -/
  | done
  /-- an amount -/
  | amount (n : UInt64)
  /-- a flag -/
  | flag (b : Bool)
  /-- a locator -/
  | locator (locator : LobLocator)
deriving DecidableEq, Repr

/-- The parsers of the operations. -/
inductive LobParser where
  | read
  | simple
  | amount
  | bool
  | createTemp (oracleType : OracleType)
deriving DecidableEq, Repr

namespace LobMessage

/-- The data that have been read last. -/
def keepData (s : Option Bytes) : LobMessage → Option Bytes
  | lobData data => some data.content
  | _ => s

/-- The amount that has been returned last. -/
def keepAmount (s : UInt64) : LobMessage → UInt64
  | parameter _ (.amount n) => UInt64.ofNat n.value
  | _ => s

/-- The flag that has been returned last. -/
def keepFlag (s : Bool) : LobMessage → Bool
  | parameter _ (.flag b) => decide (b > 0)
  | _ => s

/-- The locator that has been returned last. -/
def keepLocator (s : Option Bytes) : LobMessage → Option Bytes
  | parameter bytes _ => some (bytes.take 40)
  | _ => s

/-- The Parameter message of `CREATE_TEMP` has a locator of 40 bytes, a character set and a flag. -/
def FitsCreateTemp : LobMessage → Prop
  | parameter bytes returned => returned = .nothing ∧ ∃ (locator : Bytes) (charset : Ub 2) (flag : UInt8),
      locator.length = 40 ∧ bytes = locator ++ (charset.encode ++ [flag])
  | _ => True

end LobMessage

namespace LobParser

variable (locator : LobLocator)

/-- What the parser handles. -/
def kind : LobParser → LobKind
  | read => .read
  | simple => .simple
  | amount => .amount
  | bool => .bool
  | createTemp _ => .simple

/-- The messages of the operation. -/
def Fits (locatorLen : ℕ) (m : LobMessage) : LobParser → Prop
  | read => m.Fits .read locatorLen
  | simple => m.Fits .simple locatorLen
  | amount => m.Fits .amount locatorLen
  | bool => m.Fits .bool locatorLen
  | createTemp _ => m.FitsCreateTemp

/-- What the parser makes of the payload of a response. -/
def parse (payload : Bytes) : LobParser → Except Error LobResult
  | read => .content <$> parseLobReadResponse locator payload
  | simple => (fun _ => .done) <$> parseLobSimpleResponse locator payload
  | amount => .amount <$> parseLobAmountResponse locator payload
  | bool => .flag <$> parseLobBoolResponse locator payload
  | createTemp oracleType => .locator <$> parseCreateTempResponse oracleType payload

/-- The locator of a new temporary LOB. -/
def newLocator (oracleType : OracleType) (locator : Bytes) : LobLocator :=
  { locator := locator, size := 0, chunkSize := 0, oracleType := oracleType, csfrm := 1 }

/-- What the messages of a reply say. -/
def result (messages : List LobMessage) : LobParser → Except Error LobResult
  | read => .ok (.content (locator.content (messages.foldl LobMessage.keepData none)))
  | simple => .ok .done
  | amount => .ok (.amount (messages.foldl LobMessage.keepAmount 0))
  | bool => .ok (.flag (messages.foldl LobMessage.keepFlag false))
  | createTemp oracleType => match messages.foldl LobMessage.keepLocator none with
    | some bytes => .ok (.locator (newLocator oracleType bytes))
    | none => .error (.protocol "CREATE_TEMP LOB response did not contain locator")

section Taken

variable {m : LobMessage} {locator : LobLocator}

lemma takenBy_read (h : m.Fits .read locator.locator.length) (s : Option Bytes) :
    m.TakenBy .read (fun _ => some <$> readRawBytesChunked)
      (fun lobData => do
        skip locator.locator.length
        let _returnedAmount ← readUb8
        return lobData) s (LobMessage.keepData s m) := by
  cases m with
  | lobData data => exact data.reads_readRawBytesChunked.map some
  | error m => exact rfl
  | parameter bytes returned =>
    obtain ⟨hlen, hreturns⟩ := h
    cases returned with
    | amount n =>
      rw [← hlen]
      exact (reads_skip bytes).bind (n.reads_readUb8.bind_nil (Reads.pure s))
    | nothing => exact hreturns.elim
    | flag b => exact hreturns.elim

lemma takenBy_simple (h : m.Fits .simple locator.locator.length) (s : Unit) :
    m.TakenBy .simple pure (fun _ => skip locator.locator.length) s () := by
  cases m with
  | lobData data => exact Reads.pure ()
  | error m => exact rfl
  | parameter bytes returned =>
    show Reads (skip locator.locator.length) (bytes ++ []) ()
    rw [List.append_nil, ← h.1]
    exact reads_skip bytes

lemma takenBy_amount (h : m.Fits .amount locator.locator.length) (s : UInt64) :
    m.TakenBy .amount pure
      (fun _ => do
        skip locator.locator.length
        readUb8) s (LobMessage.keepAmount s m) := by
  cases m with
  | lobData data => exact Reads.pure s
  | error m => exact rfl
  | parameter bytes returned =>
    obtain ⟨hlen, hreturns⟩ := h
    cases returned with
    | amount n =>
      rw [← hlen]
      exact (reads_skip bytes).bind n.reads_readUb8
    | nothing => exact hreturns.elim
    | flag b => exact hreturns.elim

lemma takenBy_bool (h : m.Fits .bool locator.locator.length) (s : Bool) :
    m.TakenBy .bool pure
      (fun _ => do
        skip locator.locator.length
        let flag ← readU8
        return decide (flag > 0)) s (LobMessage.keepFlag s m) := by
  cases m with
  | lobData data => exact Reads.pure s
  | error m => exact rfl
  | parameter bytes returned =>
    obtain ⟨hlen, hreturns⟩ := h
    cases returned with
    | flag b =>
      rw [← hlen]
      exact (reads_skip bytes).bind ((reads_readU8 b).bind_nil (Reads.pure _))
    | nothing => exact hreturns.elim
    | amount n => exact hreturns.elim

lemma takenBy_createTemp (h : m.FitsCreateTemp) (s : Option Bytes) :
    m.TakenBy .simple pure createTempParameter s (LobMessage.keepLocator s m) := by
  cases m with
  | lobData data => exact Reads.pure s
  | error m => exact rfl
  | parameter bytes returned =>
    obtain ⟨-, bytes, charset, flag, hlen, rfl⟩ := h
    show Reads (createTempParameter s) (bytes ++ (charset.encode ++ [flag]) ++ [])
      (some ((bytes ++ (charset.encode ++ [flag])).take 40))
    rw [List.take_left' hlen, List.append_nil, createTempParameter, ← hlen]
    exact (reads_readBytesVec bytes).bind ((charset.reads_skipUb (by decide)).bind
      ((reads_skip [flag]).bind_nil (Reads.pure _)))

end Taken

/-- A parser as a loop over the messages of a reply. -/
structure Loop (locator : LobLocator) (parser : LobParser) where
  /-- its states -/
  State : Type
  /-- its outcomes -/
  Out : Type
  /-- the text for an error that has none -/
  text : String
  /-- the arm of LOB data -/
  lobData : State → ReadM State
  /-- the arm of a Parameter message -/
  parameter : State → ReadM State
  /-- the outcome -/
  out : State → Out
  /-- the first state -/
  start : State
  /-- what a message does -/
  step : State → LobMessage → State
  /-- what becomes of the outcome -/
  finish : Out → Except Error LobResult
  /-- it is the parser -/
  parse_eq : ∀ payload, parser.parse locator payload =
    parseLobWith text lobData parameter out start payload >>= finish
  /-- its result -/
  result_eq : ∀ messages, parser.result locator messages = finish (out (messages.foldl step start))
  /-- the messages are taken -/
  taken : ∀ s m, parser.Fits locator.locator.length m → m.TakenBy parser.kind lobData parameter s (step s m)
  /-- LOB data where none are expected are skipped -/
  quiet : ∀ s, parser.kind ≠ .read → Reads (lobData s) [] s

/-- A parser with the text that most have, whose outcome is a result. -/
def loopOf {parser : LobParser} {σ α : Type} {lobData parameter : σ → ReadM σ} {out : σ → α} (start : σ)
    (step : σ → LobMessage → σ) (made : α → LobResult)
    (taken : ∀ s m, parser.Fits locator.locator.length m →
      m.TakenBy parser.kind lobData parameter s (step s m))
    (quiet : ∀ s, parser.kind ≠ .read → Reads (lobData s) [] s)
    (hparse : ∀ payload, parser.parse locator payload = made <$> parseLob lobData parameter out start payload)
    (hresult : ∀ messages, parser.result locator messages = .ok (made (out (messages.foldl step start)))) :
    Loop locator parser where
  State := σ
  Out := α
  text := "LOB error"
  lobData := lobData
  parameter := parameter
  out := out
  start := start
  step := step
  finish := fun a => .ok (made a)
  parse_eq payload := by
    rw [hparse, parseLobWith_lobError]
    cases parseLob lobData parameter out start payload <;> rfl
  result_eq := hresult
  taken := taken
  quiet := quiet

/-- The loop of a parser. -/
def loop (locator : LobLocator) : (parser : LobParser) → Loop locator parser
  | read => loopOf locator none LobMessage.keepData .content (fun s _ h => takenBy_read h s)
    (fun _ h => absurd rfl h) (fun _ => rfl) fun _ => rfl
  | simple => loopOf locator () (fun _ _ => ()) (fun _ => .done) (fun s _ h => takenBy_simple h s)
    (fun s _ => Reads.pure s) (fun _ => rfl) fun _ => rfl
  | amount => loopOf locator 0 LobMessage.keepAmount .amount (fun s _ h => takenBy_amount h s)
    (fun s _ => Reads.pure s) (fun _ => rfl) fun _ => rfl
  | bool => loopOf locator false LobMessage.keepFlag .flag (fun s _ h => takenBy_bool h s)
    (fun s _ => Reads.pure s) (fun _ => rfl) fun _ => rfl
  | createTemp oracleType => {
    State := Option Bytes
    Out := Option Bytes
    start := none
    step := LobMessage.keepLocator
    finish := fun found => match found with
      | some bytes => .ok (.locator (newLocator oracleType bytes))
      | none => .error (.protocol "CREATE_TEMP LOB response did not contain locator")
    text := "CREATE_TEMP LOB error"
    lobData := pure
    parameter := createTempParameter
    out := id
    parse_eq := fun payload => by
      show LobResult.locator <$> parseCreateTempResponse oracleType payload = _
      rw [parseCreateTempResponse]
      cases parseLobWith "CREATE_TEMP LOB error" pure createTempParameter id none payload with
      | error e => rfl
      | ok found => cases found <;> rfl
    result_eq := fun _ => rfl
    taken := fun s _ h => takenBy_createTemp h s
    quiet := fun s _ => Reads.pure s }

variable {locator : LobLocator} {version : UInt8} {r : LobReply} (parser : LobParser)

/-- **What a parser returns for clean messages.** -/
theorem parse_of_clean (hfits : ∀ m ∈ r.messages, parser.Fits locator.locator.length m)
    (hclean : ∀ m ∈ r.messages, m.Clean parser.kind version) :
    parser.parse locator (r.payload version) = parser.result locator r.messages := by
  have hloop := parser.loop locator
  rw [hloop.parse_eq, hloop.result_eq,
    parseLobWith_of_clean hclean (fun s m hm => hloop.taken s m (hfits m hm)) hloop.quiet]
  rfl

/-- **A parser fails at an error behind clean messages.** -/
theorem exists_parse_error {front rest : List LobMessage} {m : ErrorMessage}
    (hr : r.messages = front ++ .error m :: rest)
    (hfits : ∀ m ∈ front, parser.Fits locator.locator.length m)
    (hclean : ∀ m ∈ front, m.Clean parser.kind version)
    (hm : m.reportedNumber (r.payload version) version ≠ 0) :
    ∃ e, parser.parse locator (r.payload version) = .error e := by
  have hloop := parser.loop locator
  obtain ⟨e, he⟩ := exists_parseLobWith_error hloop.text hloop.out hr hclean
    (fun s m hm => hloop.taken s m (hfits m hm)) hloop.quiet hm hloop.start
  exact ⟨e, by rw [hloop.parse_eq, he]; rfl⟩

end LobParser

end OracleRs
