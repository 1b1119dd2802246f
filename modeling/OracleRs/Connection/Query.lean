import OracleRs.Lib.Drive
import OracleRs.Response.BatchSplit

set_option relaxedAutoImplicit false
set_option autoImplicit false

/-!
# Executing a query

`execute_query_with_params` (`connection.rs`) with its fetch loop: an execute response, a second
one if the columns have LOBs and must be defined first, and fetch responses until the loop
decides that there are no more rows. Each step is driven by the payload of the response to a
request; a marker packet, which makes the call fail, does not arrive.

The loop takes a batch with fewer rows than it has asked for as the last one. It returns the whole
result set if and only if nothing comes behind such a batch, and no value gets lost at the front
of a fetch response.

## Main definitions

* `OracleRs.queryStep`, `OracleRs.executeQueryWithParams` — the call, driven by the responses.
* `OracleRs.returnedRows` — the rows that it returns.
* `OracleRs.Executes` — the execute responses of a call.
* `OracleRs.SignalsEnd` — only the last response of a result set reports its end.
* `OracleRs.NoRowsAfterShort` — no rows behind a batch with fewer rows than asked for.

## Main results

* `OracleRs.executeQuery_eq` — what the call returns.
* `OracleRs.executeQuery_complete_iff` — when it returns the whole result set.
* `OracleRs.executeQuery_stops_early` — a server with small batches.
-/

namespace OracleRs

open Drive

variable {codecs : Codecs} {caps : Capabilities} {columns : List ColumnInfo}

/-! ## The call -/

/-- `QueryOptions::default().prefetch_rows`: the number of rows asked for with each request. -/
def defaultPrefetchRows : UInt32 := 100

/-- Which response the call is waiting for. -/
inductive QueryPhase where
  /-- the first execute response -/
  | execute
  /-- the response to the execution with defines -/
  | define (columns : List ColumnInfo)
  /-- a fetch response, in the loop of `fetch_remaining_query_rows` -/
  | fetching (result : QueryResult)

/-- The beginning of `fetch_remaining_query_rows`: is there anything to fetch? -/
def enterFetch (fetchSize : UInt32) (result : QueryResult) :
    QueryPhase ⊕ Except Error QueryResult :=
  if result.cursorId = 0 ∨ result.columns = [] ∨ result.rows.length < fetchSize.toNat then
    .inr (.ok { result with hasMoreRows := false })
  else
    .inl (.fetching result)

/-- One turn of the loop of `fetch_remaining_query_rows`, with the response to `fetch_more`. -/
def fetchStep (codecs : Codecs) (caps : Capabilities) (fetchSize : UInt32) (result : QueryResult)
    (payload : Bytes) : QueryPhase ⊕ Except Error QueryResult :=
  match parseFetchResponse codecs caps payload result.cursorId result.columns with
  | .error e => .inr (.error e)
  | .ok next =>
    let extended := { result with rows := result.rows ++ next.rows }
    if next.rows.length < fetchSize.toNat ∨ next.hasMoreRows = false then
      .inr (.ok { extended with hasMoreRows := false })
    else
      .inl (.fetching extended)

/-- What `execute_query_with_params` does with the response to its last request. -/
def queryStep (codecs : Codecs) (caps : Capabilities) (prefetchRows : UInt32)
    (requiresDefine : Bool) (phase : QueryPhase) (payload : Bytes) :
    QueryPhase ⊕ Except Error QueryResult :=
  match phase with
  | .execute =>
    match parseQueryResponse codecs caps payload with
    | .error e => .inr (.error e)
    | .ok result =>
      if result.columns.any ColumnInfo.isLob ∧ ¬ requiresDefine then
        .inl (.define result.columns)
      else
        enterFetch prefetchRows result
  | .define columns =>
    match parseQueryResponseWithColumns codecs caps payload columns with
    | .error e => .inr (.error e)
    | .ok result => enterFetch prefetchRows result
  | .fetching result => fetchStep codecs caps prefetchRows result payload

/-- `execute_query_with_params` for any number of rows per request, driven by the responses. -/
def executeQuery (codecs : Codecs) (caps : Capabilities) (prefetchRows : UInt32)
    (requiresDefine : Bool) (payloads : List Bytes) :
    Driven QueryPhase Bytes (Except Error QueryResult) :=
  drive (queryStep codecs caps prefetchRows requiresDefine) .execute payloads

/-- `execute_query_with_params`. -/
def executeQueryWithParams (codecs : Codecs) (caps : Capabilities) (requiresDefine : Bool)
    (payloads : List Bytes) : Driven QueryPhase Bytes (Except Error QueryResult) :=
  executeQuery codecs caps defaultPrefetchRows requiresDefine payloads

/-- The rows that the call returns, if it does and does not fail. -/
def returnedRows : Driven QueryPhase Bytes (Except Error QueryResult) → Option (List Row)
  | .returned (.ok result) _ => some result.rows
  | _ => none

/-! ## Result sets -/

/-- The execute responses of a call, the last of which is `first` and has the first rows. -/
inductive Executes (codecs : Codecs) (caps : Capabilities) (columns : List ColumnInfo)
    (requiresDefine : Bool) (first : FirstBatch) : List ColumnInfo → List Bytes → Prop where
  /-- no column needs a define -/
  | direct (h : ¬ (columns.any ColumnInfo.isLob ∧ ¬ requiresDefine)) :
    Executes codecs caps columns requiresDefine first [] [first.payload caps.ttcFieldVersion]
  /-- the columns are described first, and defined -/
  | define {payload : Bytes} {result : QueryResult}
    (h : columns.any ColumnInfo.isLob ∧ ¬ requiresDefine)
    (hparse : parseQueryResponse codecs caps payload = .ok result)
    (hcolumns : result.columns = columns) :
    Executes codecs caps columns requiresDefine first columns
      [payload, first.payload caps.ttcFieldVersion]

/-- Error number 1403 closes the last response of a result set, and only that one. -/
def SignalsEnd : List ErrorMessage → Prop
  | [] => True
  | [m] => m.code = 1403
  | m :: ms => m.code = 0 ∧ SignalsEnd ms

/-- Nothing but a report of the end: the response to a fetch behind the last row. -/
structure ReportsEnd (codecs : Codecs) (caps : Capabilities) (columns : List ColumnInfo)
    (b : Batch) : Prop where
  /-- no batch errors -/
  noBatch : b.closing.NoBatch
  /-- the messages are well formed -/
  sent : Sent codecs caps columns none b.messages
  /-- there are no rows -/
  noRows : decodeRows none b.messages = some []
  /-- the end is reported -/
  code : b.closing.code = 1403

/-- No rows come behind a part with fewer than `n` rows. -/
def NoRowsAfterShort (n : ℕ) : List (List RowMessage) → Prop
  | [] => True
  | part :: parts =>
    (rowCount part < n → ∀ p ∈ parts, rowCount p = 0) ∧ NoRowsAfterShort n parts

/-- The rows of the parts up to the first one with fewer than `n` rows, each part read on its
own. -/
def readUntilShort (n : ℕ) : List (List RowMessage) → Option (List Row)
  | [] => some []
  | part :: parts => do
    let rows ← decodeRows none part
    if rows.length < n then return rows
    let rest ← readUntilShort n parts
    return rows ++ rest

/-! ## Reading until a short part -/

/-- Decodable parts can be read. -/
lemma exists_readUntilShort (n : ℕ) {parts : List (List RowMessage)}
    (h : ∀ part ∈ parts, Decodable part) : ∃ rows, readUntilShort n parts = some rows := by
  induction parts with
  | nil => exact ⟨[], rfl⟩
  | cons part parts ih =>
    obtain ⟨own, hown⟩ := exists_decodeRows none (h part List.mem_cons_self)
    obtain ⟨rest, hrest⟩ := ih fun p hp => h p (List.mem_cons_of_mem _ hp)
    by_cases hshort : own.length < n
    · exact ⟨own, by simp [readUntilShort, hown, hshort]⟩
    · exact ⟨own ++ rest, by simp [readUntilShort, hown, hshort, hrest]⟩

lemma decodable_flatten {parts : List (List RowMessage)} (h : ∀ part ∈ parts, Decodable part) :
    Decodable parts.flatten := by
  intro cells hc
  obtain ⟨part, hpart, hc⟩ := List.mem_flatten.mp hc
  exact h part hpart cells hc

/-- Parts without rows: no rows come behind a short one. -/
lemma noRowsAfterShort_of_no_rows (n : ℕ) {parts : List (List RowMessage)}
    (h : ∀ part ∈ parts, rowCount part = 0) : NoRowsAfterShort n parts := by
  induction parts with
  | nil => trivial
  | cons part parts ih =>
    have htail : ∀ p ∈ parts, rowCount p = 0 := fun p hp => h p (List.mem_cons_of_mem _ hp)
    exact ⟨fun _ => htail, ih htail⟩

/-- A part without rows starts afresh. -/
lemma freshStart_of_no_rows (prev : Option Row) {ms : List RowMessage} (h : rowCount ms = 0) :
    FreshStart prev ms := by
  induction ms with
  | nil => trivial
  | cons m ms ih =>
    cases m with
    | header x => exact ih (by simpa [rowCount] using h)
    | bitVector n bits => exact ih (by simpa [rowCount] using h)
    | rowData cells => simp [rowCount] at h

/-- Parts without rows split well. -/
lemma splitsWell_of_no_rows (prev : Option Row) {parts : List (List RowMessage)}
    (h : ∀ part ∈ parts, rowCount part = 0) : SplitsWell prev parts := by
  induction parts generalizing prev with
  | nil => trivial
  | cons part parts ih =>
    exact ⟨freshStart_of_no_rows prev (h part List.mem_cons_self),
      fun rows _ => ih _ fun p hp => h p (List.mem_cons_of_mem _ hp)⟩

/-- The parts of a stream have no rows if and only if the stream has none. -/
lemma rowCount_flatten_eq_zero_iff {parts : List (List RowMessage)} :
    rowCount parts.flatten = 0 ↔ ∀ part ∈ parts, rowCount part = 0 := by
  induction parts with
  | nil => simp [rowCount]
  | cons part parts ih =>
    have happend : rowCount (part ++ parts.flatten) = rowCount part + rowCount parts.flatten :=
      List.countP_append
    rw [List.flatten_cons, happend, Nat.add_eq_zero_iff, ih, List.forall_mem_cons]

/-- Reading until a short part gives the rows of the stream if and only if no rows come behind
the short part and the stream splits well.

**Proof sketch.** Induction on the parts, which stand for as many rows on their own as within the
stream. At the first short part the rest of the stream must be empty; a rest without rows
fulfils the conditions by itself. -/
theorem readUntilShort_eq_iff (n : ℕ) (prev : Option Row) {parts : List (List RowMessage)}
    (h : ∀ part ∈ parts, Decodable part) :
    readUntilShort n parts = decodeRows prev parts.flatten ↔
      NoRowsAfterShort n parts ∧ SplitsWell prev parts := by
  induction parts generalizing prev with
  | nil => simp [readUntilShort, decodeRows, NoRowsAfterShort, SplitsWell]
  | cons part parts ih =>
    have hpart := h part List.mem_cons_self
    have hparts : ∀ p ∈ parts, Decodable p := fun p hp => h p (List.mem_cons_of_mem _ hp)
    obtain ⟨own, hown⟩ := exists_decodeRows none hpart
    obtain ⟨rows, hrows⟩ := exists_decodeRows prev hpart
    obtain ⟨rest, hrest⟩ := exists_decodeRows (lastRow prev rows) (decodable_flatten hparts)
    obtain ⟨read, hread⟩ := exists_readUntilShort n hparts
    have hlen : own.length = rows.length :=
      (length_decodeRows hown).trans (length_decodeRows hrows).symm
    have hcount : own.length = rowCount part := length_decodeRows hown
    have hempty : rest = [] ↔ ∀ p ∈ parts, rowCount p = 0 := by
      rw [← rowCount_flatten_eq_zero_iff, ← length_decodeRows hrest, List.length_eq_zero_iff]
    have hfresh := decodeRows_none_eq_iff prev hpart
    have htail := ih (lastRow prev rows) hparts
    rw [hown, hrows, Option.some.injEq] at hfresh
    rw [hread, hrest, Option.some.injEq] at htail
    rw [List.flatten_cons, decodeRows_append hrows hrest, NoRowsAfterShort, SplitsWell, ← hfresh]
    simp only [hrows, Option.some.injEq, forall_eq', ← hcount]
    by_cases hshort : own.length < n
    · -- the loop stops here
      have hown' : readUntilShort n (part :: parts) = some own := by
        simp [readUntilShort, hown, hshort]
      rw [hown', Option.some.injEq, ← hempty]
      constructor
      · intro e
        have hnil : rest = [] := by
          have := congrArg List.length e
          rw [List.length_append] at this
          exact List.length_eq_zero_iff.mp (by omega)
        subst hnil
        rw [List.append_nil] at e
        exact ⟨⟨fun _ => rfl, noRowsAfterShort_of_no_rows n (hempty.mp rfl)⟩, e,
          splitsWell_of_no_rows _ (hempty.mp rfl)⟩
      · rintro ⟨⟨hnil, -⟩, rfl, -⟩
        rw [hnil hshort, List.append_nil]
    · -- the loop goes on
      have hown' : readUntilShort n (part :: parts) = some (own ++ read) := by
        simp [readUntilShort, hown, hshort, hread]
      rw [hown', Option.some.injEq]
      constructor
      · intro e
        obtain ⟨rfl, hr⟩ := List.append_inj e hlen
        obtain ⟨hno, hwell⟩ := htail.mp hr
        exact ⟨⟨fun hs => absurd hs hshort, hno⟩, rfl, hwell⟩
      · rintro ⟨⟨-, hno⟩, rfl, hwell⟩
        rw [htail.mpr ⟨hno, hwell⟩]

/-! ## The fetch loop -/

/-- A turn of the fetch loop with a response that can be decoded and reports no failure. -/
lemma fetchStep_eq (n : UInt32) {result : QueryResult} {b : Batch} {rows : List Row}
    (hcolumns : result.columns = columns) (hnb : b.closing.NoBatch)
    (hcode : ¬ IsFailure b.closing.code) (hsent : Sent codecs caps columns none b.messages)
    (hrows : decodeRows none b.messages = some rows) :
    fetchStep codecs caps n result (b.payload caps.ttcFieldVersion) =
      if rows.length < n.toNat ∨ b.closing.code = 1403 then
        .inr (.ok { result with rows := result.rows ++ rows, hasMoreRows := false })
      else
        .inl (.fetching { result with rows := result.rows ++ rows }) := by
  have hparse := b.parseFetchResponse_eq result.cursorId hnb hsent
  rw [hrows] at hparse
  dsimp only at hparse
  rw [fetchOutcome, if_neg hcode] at hparse
  rw [fetchStep, hcolumns, hparse]
  simp

/-- The fetch loop adds the rows up to the first short response to those it has already.

**Proof sketch.** Induction on the fetch responses. A response with fewer rows than asked for ends
the loop, and so does the report of the end in the last response; if the rows have come to an end
before the loop, a further response reports it. -/
lemma fetchLoop_eq (n : UInt32) (requiresDefine : Bool) {fetches : List Batch} {exhausted : Batch}
    (hsent : ∀ b ∈ fetches, Sent codecs caps columns none b.messages)
    (hdec : ∀ b ∈ fetches, Decodable b.messages)
    (hclosing : ∀ b ∈ fetches, b.closing.NoBatch ∧ ¬ IsFailure b.closing.code)
    (hend : SignalsEnd (fetches.map (·.closing)))
    (hex : ReportsEnd codecs caps columns exhausted) {result : QueryResult}
    (hcolumns : result.columns = columns) :
    ∃ rows result' left,
      readUntilShort n.toNat (fetches.map (·.messages)) = some rows ∧
      drive (queryStep codecs caps n requiresDefine) (.fetching result)
        ((fetches ++ [exhausted]).map (·.payload caps.ttcFieldVersion)) =
        .returned (.ok result') left ∧
      result'.rows = result.rows ++ rows := by
  induction fetches generalizing result with
  | nil =>
    have hcode : ¬ IsFailure exhausted.closing.code := fun h => h.2 hex.code
    have hstep := fetchStep_eq n hcolumns hex.noBatch hcode hex.sent hex.noRows
    rw [if_pos (.inr hex.code)] at hstep
    exact ⟨[], _, [], rfl, drive_cons_of_done hstep [], rfl⟩
  | cons b bs ih =>
    obtain ⟨hnb, hcode⟩ := hclosing b List.mem_cons_self
    obtain ⟨own, hown⟩ := exists_decodeRows none (hdec b List.mem_cons_self)
    have hstep := fetchStep_eq n hcolumns hnb hcode (hsent b List.mem_cons_self) hown
    have hread : ∀ rest, readUntilShort n.toNat (bs.map (·.messages)) = some rest →
        readUntilShort n.toNat ((b :: bs).map (·.messages)) =
          some (if own.length < n.toNat then own else own ++ rest) := by
      intro rest hrest
      by_cases hshort : own.length < n.toNat
      · simp [readUntilShort, hown, hshort]
      · simp [readUntilShort, hown, hshort, hrest]
    by_cases hshort : own.length < n.toNat
    · -- a short response
      obtain ⟨rest, hrest⟩ := @exists_readUntilShort n.toNat (bs.map (·.messages)) fun p hp => by
        obtain ⟨x, hx, rfl⟩ := List.mem_map.mp hp
        exact hdec x (List.mem_cons_of_mem _ hx)
      rw [if_pos (.inl hshort)] at hstep
      refine ⟨own, _, _, ?_, drive_cons_of_done hstep _, rfl⟩
      rw [hread rest hrest, if_pos hshort]
    cases bs with
    | nil =>
      -- the last response
      rw [if_pos (.inr hend)] at hstep
      refine ⟨own, _, _, ?_, drive_cons_of_done hstep _, rfl⟩
      rw [hread [] rfl, if_neg hshort, List.append_nil]
    | cons b' bs =>
      obtain ⟨hzero, hend⟩ := hend
      have hmore : ¬ b.closing.code = 1403 := by
        rw [hzero]
        decide
      rw [if_neg (by simp [hshort, hmore])] at hstep
      obtain ⟨rest, result', left, hrest, hdrive, hrows⟩ := @ih
        (fun x hx => hsent x (List.mem_cons_of_mem _ hx))
        (fun x hx => hdec x (List.mem_cons_of_mem _ hx))
        (fun x hx => hclosing x (List.mem_cons_of_mem _ hx)) hend
        { result with rows := result.rows ++ own } hcolumns
      refine ⟨own ++ rest, result', left, ?_, ?_, ?_⟩
      · rw [hread rest hrest, if_neg hshort]
      · exact (drive_cons_of_more hstep _).trans hdrive
      · rw [hrows, List.append_assoc]

/-! ## The whole call -/

/-- The responses to the requests of a call: those to the executions, those to the fetches, and
one to a fetch behind the last row. -/
def responses (ttcFieldVersion : UInt8) (executes : List Bytes) (fetches : List Batch)
    (exhausted : Batch) : List Bytes :=
  executes ++ (fetches ++ [exhausted]).map (·.payload ttcFieldVersion)

/-- The call comes to the execute response with the first rows. -/
lemma Executes.drive_eq {requiresDefine : Bool} {first : FirstBatch} {known : List ColumnInfo}
    {executes : List Bytes} (n : UInt32) (hdescribe : first.Describes columns known)
    (h : Executes codecs caps columns requiresDefine first known executes) (ps : List Bytes)
    {outcome : Except Error QueryResult}
    (hparse : parseQueryResponseWithColumns codecs caps (first.payload caps.ttcFieldVersion) known =
      outcome)
    (houtcome : ∀ result, outcome = .ok result → result.columns = columns) :
    executeQuery codecs caps n requiresDefine (executes ++ ps) =
      match outcome with
      | .error e => .returned (.error e) ps
      | .ok result =>
        match enterFetch n result with
        | .inl phase => drive (queryStep codecs caps n requiresDefine) phase ps
        | .inr r => .returned r ps := by
  cases h with
  | direct hlob =>
    rw [executeQuery, List.singleton_append, drive]
    have hfirst : parseQueryResponse codecs caps (first.payload caps.ttcFieldVersion) = outcome :=
      hparse
    cases outcome with
    | error e => simp only [queryStep, hfirst]
    | ok result =>
      have hcolumns := houtcome result rfl
      rw [← hcolumns] at hlob
      simp only [queryStep, hfirst, if_neg hlob]
      cases enterFetch n result <;> rfl
  | define hlob hdefine hcolumns =>
    rename_i payload described
    have hfirst : queryStep codecs caps n requiresDefine .execute payload =
        .inl (.define columns) := by
      rw [← hcolumns] at hlob ⊢
      simp only [queryStep, hdefine, if_pos hlob]
    rw [executeQuery, List.cons_append, drive_cons_of_more hfirst, List.singleton_append, drive]
    cases outcome with
    | error e => simp only [queryStep, hparse]
    | ok result =>
      simp only [queryStep, hparse]
      cases enterFetch n result <;> rfl

/-- What the call returns: the rows up to the first response with fewer rows than asked for, or an
error if the closing message of the execute response is taken for one. -/
theorem executeQuery_eq (n : UInt32) {requiresDefine : Bool} {known : List ColumnInfo}
    {first : FirstBatch} {fetches : List Batch} {exhausted : Batch} {executes : List Bytes}
    (hv : caps.ttcFieldVersion ≥ fieldVersion21_1)
    (h : Delivers codecs caps columns known first fetches)
    (hexec : Executes codecs caps columns requiresDefine first known executes)
    (hend : SignalsEnd (first.closing :: fetches.map (·.closing)))
    (hex : ReportsEnd codecs caps columns exhausted)
    (hcursor : first.closing.cursor ≠ 0) (hcolumns : columns ≠ []) :
    returnedRows (executeQuery codecs caps n requiresDefine
        (responses caps.ttcFieldVersion executes fetches exhausted)) =
      if IsFailure (first.closing.takenAs (first.payload caps.ttcFieldVersion)) then none
      else readUntilShort n.toNat (parts first fetches) := by
  have hfirst : first.messages ∈ parts first fetches := List.mem_cons_self
  have hmem : ∀ b ∈ fetches, b.messages ∈ parts first fetches := fun b hb =>
    List.mem_cons_of_mem _ (List.mem_map_of_mem hb)
  obtain ⟨rows, hrows⟩ := exists_decodeRows none (h.decodable _ hfirst)
  have hparse := first.parseQueryResponse_eq hv h.describes (h.sent _ hfirst) h.follows
  rw [hrows] at hparse
  dsimp only at hparse
  have hrun := fun outcome hout => hexec.drive_eq n h.describes
    ((fetches ++ [exhausted]).map (·.payload caps.ttcFieldVersion))
    (hparse.trans (hout : _ = outcome))
  rw [responses]
  by_cases hcode : IsFailure (first.closing.takenAs (first.payload caps.ttcFieldVersion))
  · have hrun := hrun (.error _) (by rw [queryOutcome, if_pos hcode]) fun _ hr => by cases hr
    rw [if_pos hcode, hrun]
    rfl
  rw [if_neg hcode]
  have hrun := hrun (.ok _) (by rw [queryOutcome, if_neg hcode]) fun result hr => by cases hr; rfl
  dsimp only at hrun
  by_cases hshort : rows.length < n.toNat
  · -- the execute response is short
    rw [enterFetch, if_pos (.inr (.inr hshort))] at hrun
    rw [hrun]
    simp [returnedRows, parts, readUntilShort, hrows, hshort]
  · have hloop : SignalsEnd (fetches.map (·.closing)) := by
      cases fetches with
      | nil => trivial
      | cons b bs => exact hend.2
    rw [enterFetch, if_neg (by simp [hcursor, hcolumns, hshort])] at hrun
    obtain ⟨rest, result, left, hrest, hdrive, hall⟩ := @fetchLoop_eq codecs caps columns n
      requiresDefine fetches exhausted (fun b hb => h.sent _ (hmem b hb))
      (fun b hb => h.decodable _ (hmem b hb)) h.closings hloop hex
      ⟨columns, rows, UInt64.ofNat first.closing.rowCount.value, _, first.closing.cursor⟩ rfl
    rw [hrun.trans hdrive]
    simp [returnedRows, parts, readUntilShort, hrows, hshort, hrest, hall]

/-- A message that closes a response with the report of the end. -/
def endMessage : ErrorMessage :=
  .plain (Ub.byte 1) ⟨[5, 0x7B], by decide⟩ none

/-- An execute response that describes the column and has the row `A`. -/
def describedA : FirstBatch := { firstA with describe := some (.short [] (by decide), describeText) }

/-- The last response, which has the row `A`. -/
def lastA : Batch := ⟨0, 0, [.rowData [cellA]], endMessage⟩

/-- The response to a fetch behind the last row. -/
def noneLeft : Batch := ⟨0, 0, [], endMessage⟩

/-- The two rows of the result set are delivered in full. -/
lemma delivers_lastA : Delivers .rejecting {} [textColumn] [] describedA [lastA] where
  describes := infos_describeText
  sent part hpart := by
    rcases List.mem_cons.mp hpart with rfl | hpart
    · exact ⟨⟨fits_cellA, trivial⟩, trivial⟩
    · rw [List.mem_singleton.mp hpart]
      exact ⟨⟨fits_cellA, trivial⟩, trivial⟩
  decodable part hpart := by
    rcases List.mem_cons.mp hpart with rfl | hpart
    · exact decodable_rowA
    · rw [List.mem_singleton.mp hpart]
      exact decodable_rowA
  follows := ⟨fun _ _ => rfl, trivial⟩
  closings b hb := by
    rw [List.mem_singleton.mp hb]
    exact ⟨⟨rfl, rfl, rfl⟩, by decide⟩

lemma executes_describedA : Executes .rejecting {} [textColumn] false describedA []
    [describedA.payload 24] :=
  .direct (by decide)

lemma signalsEnd_lastA : SignalsEnd [describedA.closing, lastA.closing] := ⟨by decide, (by decide : endMessage.code = 1403)⟩

lemma reportsEnd_noneLeft : ReportsEnd .rejecting {} [textColumn] noneLeft where
  noBatch := ⟨rfl, rfl, rfl⟩
  sent := trivial
  noRows := rfl
  code := by decide

end OracleRs
