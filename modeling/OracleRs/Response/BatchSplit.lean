import OracleRs.Response.RowStream

set_option relaxedAutoImplicit false
set_option autoImplicit false

/-!
# Rows delivered in batches

A stream of rows that is cut into one execute response and any number of fetch responses. Every
parser begins without a previous row, so that a duplicate in the first row of a fetch response
becomes NULL. The rows come out as if they had been delivered in one response if and only if
the values that get lost in this way are NULL.

## Main definitions

* `OracleRs.Decodable` — every value of a stream can be decoded.
* `OracleRs.FreshStart` — the duplicates of the first row are NULL in the row before it.
* `OracleRs.SplitsWell` — every part of a stream starts afresh.
* `OracleRs.deliverInBatches` — the rows that the parsers read from the responses.
* `OracleRs.wholeBatch` — the response that delivers the whole stream.

## Main results

* `OracleRs.decodeRows_none_eq_iff`, `OracleRs.decodeParts_eq_iff` — reading parts of a stream on
  their own.
* `OracleRs.deliverInBatches_eq_iff` — the rows of the batches are those of the whole stream if
  and only if it splits well.
* `OracleRs.deliverInBatches_loses_duplicate` — a duplicate at the front of a fetch response.
-/

namespace OracleRs

open Cursor

variable {codecs : Codecs} {caps : Capabilities} {columns : List ColumnInfo}

/-! ## Decodable streams -/

/-- Every value of the stream can be decoded. -/
def Decodable (ms : List RowMessage) : Prop :=
  ∀ cells, RowMessage.rowData cells ∈ ms → ∀ b, Cell.sent b none ∉ cells

lemma Decodable.tail {m : RowMessage} {ms : List RowMessage} (h : Decodable (m :: ms)) :
    Decodable ms :=
  fun cells hc => h cells (List.mem_cons_of_mem _ hc)

/-- A decodable stream stands for rows. -/
lemma exists_decodeRows (prev : Option Row) {ms : List RowMessage} (h : Decodable ms) :
    ∃ rows, decodeRows prev ms = some rows := by
  induction ms generalizing prev with
  | nil => exact ⟨[], rfl⟩
  | cons m ms ih =>
    cases m with
    | header x => exact ih prev h.tail
    | bitVector n bits => exact ih prev h.tail
    | rowData cells =>
      obtain ⟨row, hrow⟩ := exists_decodeCells prev 0 (h cells List.mem_cons_self)
      obtain ⟨rows, hrows⟩ := ih (some row) h.tail
      exact ⟨row :: rows, by simp [decodeRows, hrow, hrows]⟩

/-- The number of rows of a stream. -/
def rowCount (ms : List RowMessage) : ℕ :=
  ms.countP fun m => match m with
    | .rowData _ => true
    | _ => false

/-- A stream stands for as many rows as it has row messages. -/
lemma length_decodeRows {prev : Option Row} {ms : List RowMessage} {rows : List Row}
    (h : decodeRows prev ms = some rows) : rows.length = rowCount ms := by
  induction ms generalizing prev rows with
  | nil => cases h; rfl
  | cons m ms ih =>
    cases m with
    | header x => simpa [rowCount] using ih h
    | bitVector n bits => simpa [rowCount] using ih h
    | rowData cells =>
      simp only [decodeRows, Option.bind_eq_bind, Option.bind_eq_some_iff, Option.pure_def,
        Option.some.injEq] at h
      obtain ⟨row, -, rows', hrows, rfl⟩ := h
      have := ih hrows
      simp only [rowCount, List.countP_cons, List.length_cons, if_true] at this ⊢
      omega

/-- The rows of a stream are those of its beginning and, given the last of them, those of the
rest. -/
lemma decodeRows_append {prev : Option Row} {ms ms' : List RowMessage} {rows rows' : List Row}
    (h : decodeRows prev ms = some rows) (h' : decodeRows (lastRow prev rows) ms' = some rows') :
    decodeRows prev (ms ++ ms') = some (rows ++ rows') := by
  induction ms generalizing prev rows with
  | nil => cases h; exact h'
  | cons m ms ih =>
    cases m with
    | header x => exact ih h h'
    | bitVector n bits => exact ih h h'
    | rowData cells =>
      simp only [decodeRows, Option.bind_eq_bind, Option.bind_eq_some_iff, Option.pure_def,
        Option.some.injEq] at h
      obtain ⟨row, hrow, rest, hrest, rfl⟩ := h
      simp [decodeRows, hrow, ih hrest h']

/-! ## Parts of a stream -/

/-- The duplicates of the first row are NULL in the row before it. -/
def FreshStart (prev : Option Row) : List RowMessage → Prop
  | [] => True
  | .rowData cells :: _ => ∀ i, cells[i]? = some .duplicate → duplicateValue prev i = .null
  | _ :: ms => FreshStart prev ms

/-- The cells of a row stand for the same values without a previous row if and only if the
duplicates are NULL. -/
lemma decodeCells_none_eq_iff (prev : Option Row) (i : ℕ) {cells : List Cell}
    (h : ∀ b, Cell.sent b none ∉ cells) :
    decodeCells none i cells = decodeCells prev i cells ↔
      ∀ k, cells[k]? = some .duplicate → duplicateValue prev (i + k) = .null := by
  induction cells generalizing i with
  | nil => simp [decodeCells]
  | cons cell cells ih =>
    have hcells : ∀ b, Cell.sent b none ∉ cells := fun b hb => h b (List.mem_cons_of_mem _ hb)
    obtain ⟨vs, hvs⟩ := exists_decodeCells none (i + 1) hcells
    obtain ⟨ws, hws⟩ := exists_decodeCells prev (i + 1) hcells
    have htail := ih (i + 1) hcells
    rw [hvs, hws, Option.some.injEq] at htail
    have hsplit : (∀ k, (cell :: cells)[k]? = some .duplicate →
        duplicateValue prev (i + k) = .null) ↔
        (cell = .duplicate → duplicateValue prev i = .null) ∧
          ∀ k, cells[k]? = some .duplicate → duplicateValue prev (i + 1 + k) = .null := by
      constructor
      · intro hall
        refine ⟨fun hc => hall 0 (by simp [hc]), fun k hk => ?_⟩
        have := hall (k + 1) (by simpa using hk)
        rwa [show i + 1 + k = i + (k + 1) by omega]
      · rintro ⟨h0, hall⟩ k hk
        cases k with
        | zero => exact h0 (by simpa using hk)
        | succ k =>
          have := hall k (by simpa using hk)
          rwa [show i + (k + 1) = i + 1 + k by omega]
    rw [hsplit, ← htail]
    cases cell with
    | duplicate =>
      have hnone : duplicateValue none i = .null := rfl
      simp only [decodeCells, Cell.value, hvs, hws, hnone, Option.bind_eq_bind, Option.bind_some,
        Option.pure_def, Option.some.injEq, List.cons.injEq, true_implies]
      rw [eq_comm (a := Value.null)]
    | sent b v =>
      cases v with
      | none => exact absurd List.mem_cons_self (h b)
      | some v =>
        simp [decodeCells, Cell.value, hvs, hws]

/-- A stream stands for the same rows without a previous row if and only if it starts afresh:
from the second row on the rows depend on the first one only. -/
lemma decodeRows_none_eq_iff (prev : Option Row) {ms : List RowMessage} (h : Decodable ms) :
    decodeRows none ms = decodeRows prev ms ↔ FreshStart prev ms := by
  induction ms with
  | nil => simp [decodeRows, FreshStart]
  | cons m ms ih =>
    cases m with
    | header x => exact ih h.tail
    | bitVector n bits => exact ih h.tail
    | rowData cells =>
      have hcells := h cells List.mem_cons_self
      obtain ⟨row, hrow⟩ := exists_decodeCells none 0 hcells
      obtain ⟨row', hrow'⟩ := exists_decodeCells prev 0 hcells
      obtain ⟨rows, hrows⟩ := exists_decodeRows (some row) h.tail
      obtain ⟨rows', hrows'⟩ := exists_decodeRows (some row') h.tail
      have hiff := decodeCells_none_eq_iff prev 0 hcells
      rw [hrow, hrow', Option.some.injEq] at hiff
      simp only [Nat.zero_add] at hiff
      simp only [decodeRows, hrow, hrow', hrows, hrows', Option.bind_eq_bind, Option.bind_some,
        Option.pure_def, Option.some.injEq, List.cons.injEq, FreshStart, ← hiff]
      constructor
      · exact fun e => e.1
      · rintro rfl
        rw [hrows] at hrows'
        exact ⟨rfl, Option.some.inj hrows'⟩

/-- Every part of a stream starts afresh. -/
def SplitsWell (prev : Option Row) : List (List RowMessage) → Prop
  | [] => True
  | part :: parts =>
    FreshStart prev part ∧
      ∀ rows, decodeRows prev part = some rows → SplitsWell (lastRow prev rows) parts

/-- The rows of the parts of a stream, each read on its own. -/
def decodeParts : List (List RowMessage) → Option (List Row)
  | [] => some []
  | part :: parts => do
    let rows ← decodeRows none part
    let rest ← decodeParts parts
    return rows ++ rest

/-- The parts of a stream, each read on its own, stand for the rows of the stream if and only if
it splits well.

**Proof sketch.** Induction on the parts. A part stands for as many rows on its own as within the
stream, so that the rows agree part by part. -/
theorem decodeParts_eq_iff (prev : Option Row) {parts : List (List RowMessage)}
    (h : ∀ part ∈ parts, Decodable part) :
    decodeParts parts = decodeRows prev parts.flatten ↔ SplitsWell prev parts := by
  induction parts generalizing prev with
  | nil => simp [decodeParts, decodeRows, SplitsWell]
  | cons part parts ih =>
    have hpart := h part List.mem_cons_self
    have hparts : ∀ p ∈ parts, Decodable p := fun p hp => h p (List.mem_cons_of_mem _ hp)
    obtain ⟨own, hown⟩ := exists_decodeRows none hpart
    obtain ⟨rows, hrows⟩ := exists_decodeRows prev hpart
    have hrest : Decodable parts.flatten := by
      intro cells hc
      obtain ⟨p, hp, hc⟩ := List.mem_flatten.mp hc
      exact hparts p hp cells hc
    obtain ⟨rest, hrest⟩ := exists_decodeRows (lastRow prev rows) hrest
    have hfresh := decodeRows_none_eq_iff prev hpart
    have htail := ih (lastRow prev rows) hparts
    have hlen : own.length = rows.length :=
      (length_decodeRows hown).trans (length_decodeRows hrows).symm
    rw [List.flatten_cons, decodeRows_append hrows hrest, SplitsWell, ← hfresh, hown, hrows]
    rw [hrest] at htail
    simp only [Option.some.injEq, forall_eq', ← htail]
    simp only [decodeParts, hown, Option.bind_eq_bind, Option.bind_some]
    cases hd : decodeParts parts with
    | none => simp
    | some parts' =>
      simp only [Option.bind_some, Option.pure_def, Option.some.injEq]
      constructor
      · intro e
        exact List.append_inj e hlen
      · rintro ⟨rfl, rfl⟩
        rfl

/-! ## Responses -/

/-- The rows that the fetch parser reads from some responses. -/
def fetchBatches (codecs : Codecs) (caps : Capabilities) (columns : List ColumnInfo)
    (cursorId : UInt16) : List Batch → Except Error (List Row)
  | [] => .ok []
  | b :: bs => do
    let result ← parseFetchResponse codecs caps (b.payload caps.ttcFieldVersion) cursorId columns
    let rest ← fetchBatches codecs caps columns cursorId bs
    return result.rows ++ rest

/-- The rows that the parsers read from an execute response and the fetch responses behind it. -/
def deliverInBatches (codecs : Codecs) (caps : Capabilities) (known : List ColumnInfo)
    (first : FirstBatch) (fetches : List Batch) : Except Error (List Row) := do
  let result ←
    parseQueryResponseWithColumns codecs caps (first.payload caps.ttcFieldVersion) known
  let rest ← fetchBatches codecs caps result.columns result.cursorId fetches
  return result.rows ++ rest

/-- The row messages of the responses. -/
def parts (first : FirstBatch) (fetches : List Batch) : List (List RowMessage) :=
  first.messages :: fetches.map (·.messages)

/-- The response that delivers the whole stream. -/
def wholeBatch (first : FirstBatch) (fetches : List Batch) (closing : ErrorMessage) :
    FirstBatch :=
  { first with
    messages := (parts first fetches).flatten
    closing := closing }

/-- The responses deliver the rows of a stream. -/
structure Delivers (codecs : Codecs) (caps : Capabilities) (columns known : List ColumnInfo)
    (first : FirstBatch) (fetches : List Batch) : Prop where
  /-- the columns are described or known -/
  describes : first.Describes columns known
  /-- each part is written as the bit vectors in it say -/
  sent : ∀ part ∈ parts first fetches, Sent codecs caps columns none part
  /-- every value can be decoded -/
  decodable : ∀ part ∈ parts first fetches, Decodable part
  /-- the duplicates of the first part are marked by bit vectors in messages of their own -/
  follows : Follows columns queryPolicy none none first.messages
  /-- no fetch response reports a failure or batch errors -/
  closings : ∀ b ∈ fetches, b.closing.NoBatch ∧ ¬ IsFailure b.closing.code

/-- The responses deliver a stream that has been cut between two rows, and could have been
delivered in one response. -/
structure DeliversWhole (codecs : Codecs) (caps : Capabilities) (columns known : List ColumnInfo)
    (first : FirstBatch) (fetches : List Batch) : Prop extends
    Delivers codecs caps columns known first fetches where
  /-- the whole stream is written as the bit vectors in it say: none is left over at a cut -/
  sentWhole : Sent codecs caps columns none (parts first fetches).flatten
  /-- the duplicates are marked by bit vectors in messages of their own -/
  followsWhole : Follows columns queryPolicy none none (parts first fetches).flatten

/-- The fetch parser reads each part on its own. -/
lemma fetchBatches_eq (cursorId : UInt16) {fetches : List Batch}
    (hsent : ∀ b ∈ fetches, Sent codecs caps columns none b.messages)
    (hdec : ∀ b ∈ fetches, Decodable b.messages)
    (hclosing : ∀ b ∈ fetches, b.closing.NoBatch ∧ ¬ IsFailure b.closing.code) :
    ∃ rows, decodeParts (fetches.map (·.messages)) = some rows ∧
      fetchBatches codecs caps columns cursorId fetches = .ok rows := by
  induction fetches with
  | nil => exact ⟨[], rfl, rfl⟩
  | cons b bs ih =>
    obtain ⟨hnb, hcode⟩ := hclosing b List.mem_cons_self
    obtain ⟨rest, hrest, hbs⟩ := ih (fun x hx => hsent x (List.mem_cons_of_mem _ hx))
      (fun x hx => hdec x (List.mem_cons_of_mem _ hx))
      fun x hx => hclosing x (List.mem_cons_of_mem _ hx)
    obtain ⟨rows, hrows⟩ := exists_decodeRows none (hdec b List.mem_cons_self)
    have hparse := b.parseFetchResponse_eq cursorId hnb (hsent b List.mem_cons_self)
    rw [hrows] at hparse
    dsimp only at hparse
    rw [fetchOutcome, if_neg hcode] at hparse
    refine ⟨rows ++ rest, by simp [decodeParts, hrows, hrest], ?_⟩
    rw [fetchBatches, hparse, hbs]
    rfl

/-- The parsers read a stream from batches as from one response if and only if the closing
messages of the two execute responses are not taken for failures and the stream splits well: in
every fetch response, the duplicates of the first row are NULL in the row before it. -/
theorem deliverInBatches_eq_iff {known : List ColumnInfo} {first : FirstBatch}
    {fetches : List Batch} (closing : ErrorMessage)
    (hv : caps.ttcFieldVersion ≥ fieldVersion21_1)
    (h : DeliversWhole codecs caps columns known first fetches) :
    (∃ rows, deliverInBatches codecs caps known first fetches = .ok rows ∧
      (parseQueryResponseWithColumns codecs caps
        ((wholeBatch first fetches closing).payload caps.ttcFieldVersion) known).map (·.rows) =
        .ok rows) ↔
      ¬ IsFailure (first.closing.takenAs (first.payload caps.ttcFieldVersion)) ∧
      ¬ IsFailure (closing.takenAs
        ((wholeBatch first fetches closing).payload caps.ttcFieldVersion)) ∧
      SplitsWell none (parts first fetches) := by
  have hfirst : first.messages ∈ parts first fetches := List.mem_cons_self
  have hmem : ∀ b ∈ fetches, b.messages ∈ parts first fetches := fun b hb =>
    List.mem_cons_of_mem _ (List.mem_map_of_mem hb)
  -- what the parts and the whole stream stand for
  obtain ⟨rows, hrows⟩ := exists_decodeRows none (h.decodable _ hfirst)
  obtain ⟨all, hall⟩ : ∃ all, decodeRows none (parts first fetches).flatten = some all := by
    refine exists_decodeRows none fun cells hc => ?_
    obtain ⟨part, hpart, hc⟩ := List.mem_flatten.mp hc
    exact h.decodable part hpart cells hc
  obtain ⟨rest, hrest, hfetch⟩ := fetchBatches_eq first.closing.cursor
    (fun b hb => h.sent _ (hmem b hb)) (fun b hb => h.decodable _ (hmem b hb)) h.closings
  have hparts : decodeParts (parts first fetches) = some (rows ++ rest) := by
    simp [parts, decodeParts, hrows, hrest]
  have hsplit := decodeParts_eq_iff none h.decodable
  rw [hparts, hall, Option.some.injEq] at hsplit
  -- what the query parser makes of the two execute responses
  have hquery := first.parseQueryResponse_eq hv h.describes (h.sent _ hfirst) h.follows
  rw [hrows] at hquery
  dsimp only at hquery
  have hwhole := (wholeBatch first fetches closing).parseQueryResponse_eq hv h.describes
    h.sentWhole h.followsWhole
  have hmessages : (wholeBatch first fetches closing).messages = (parts first fetches).flatten := rfl
  rw [hmessages, hall] at hwhole
  dsimp only at hwhole
  rw [deliverInBatches, hquery, hwhole, queryOutcome, queryOutcome, ← hsplit]
  by_cases hcode : IsFailure (first.closing.takenAs (first.payload caps.ttcFieldVersion))
  · simp [hcode, bind, Except.bind]
  by_cases hcode' : IsFailure (closing.takenAs
      ((wholeBatch first fetches closing).payload caps.ttcFieldVersion))
  · rw [if_pos (show IsFailure ((wholeBatch first fetches closing).closing.takenAs _) from hcode')]
    simp [hcode', Except.map]
  rw [if_neg hcode,
    if_neg (show ¬ IsFailure ((wholeBatch first fetches closing).closing.takenAs _) from hcode')]
  simp only [hcode, hcode', not_false_eq_true, true_and]
  simp [hfetch, Except.map, bind, Except.bind, pure, Except.pure, eq_comm]

/-! ## A duplicate at the front of a fetch response -/

/-- An execute response with the row `A`. -/
def firstA : FirstBatch where
  flag := 0
  flag' := 0
  messages := [.rowData [cellA]]
  closing := successMessage
  describe := none

/-- A fetch response with the given row messages. -/
def fetchOf (messages : List RowMessage) : Batch := ⟨0, 0, messages, successMessage⟩

lemma decodable_rowA : Decodable [RowMessage.rowData [cellA]] := by
  intro cells hc b hb
  simp only [List.mem_singleton, RowMessage.rowData.injEq] at hc
  subst hc
  simp [cellA] at hb

/-- Two rows that are delivered in full. -/
lemma delivers_rows : DeliversWhole .rejecting {} [textColumn] [textColumn] firstA
    [fetchOf [.rowData [cellA]]] where
  describes := rfl
  sent part hpart := by
    rcases List.mem_cons.mp hpart with rfl | hpart
    · exact ⟨⟨fits_cellA, trivial⟩, trivial⟩
    · rw [List.mem_singleton.mp hpart]
      exact ⟨⟨fits_cellA, trivial⟩, trivial⟩
  decodable part hpart := by
    rcases List.mem_cons.mp hpart with rfl | hpart
    · exact decodable_rowA
    · rw [List.mem_singleton.mp hpart]
      exact decodable_rowA
  follows := ⟨fun _ _ => rfl, trivial⟩
  closings b hb := by
    rw [List.mem_singleton.mp hb]
    exact ⟨⟨rfl, rfl, rfl⟩, by decide⟩
  sentWhole := ⟨⟨fits_cellA, trivial⟩, ⟨fits_cellA, trivial⟩, trivial⟩
  followsWhole := ⟨fun _ _ => rfl, fun _ _ => rfl, trivial⟩

/-- Rows that are delivered in full are read from batches as from one response. -/
theorem deliverInBatches_rows :
    ∃ rows, deliverInBatches .rejecting {} [textColumn] firstA [fetchOf [.rowData [cellA]]] =
        .ok rows ∧
      (parseQueryResponseWithColumns .rejecting {}
        ((wholeBatch firstA [fetchOf [.rowData [cellA]]] successMessage).payload 24)
        [textColumn]).map (·.rows) = .ok rows := by
  refine (deliverInBatches_eq_iff successMessage (by decide) delivers_rows).mpr
    ⟨by decide +kernel, by decide +kernel, fun _ _ => rfl, fun rows _ => ⟨?_, fun _ _ => trivial⟩⟩
  intro i hi
  rcases i with _ | i <;> simp [cellA] at hi

/-- A duplicate at the front of a fetch response is lost: the second of two equal rows comes out
with a NULL. -/
theorem deliverInBatches_loses_duplicate :
    DeliversWhole .rejecting {} [textColumn] [textColumn] firstA
        [fetchOf [.bitVector Ub.zero [0], .rowData [.duplicate]]] ∧
      ¬ ∃ rows, deliverInBatches .rejecting {} [textColumn] firstA
          [fetchOf [.bitVector Ub.zero [0], .rowData [.duplicate]]] = .ok rows ∧
        (parseQueryResponseWithColumns .rejecting {}
          ((wholeBatch firstA [fetchOf [.bitVector Ub.zero [0], .rowData [.duplicate]]]
            successMessage).payload 24) [textColumn]).map (·.rows) = .ok rows := by
  constructor
  · refine ⟨⟨rfl, fun part hpart => ?_, fun part hpart => ?_, ⟨fun _ _ => rfl, trivial⟩,
      fun b hb => ?_⟩, ⟨⟨fits_cellA, trivial⟩, rfl, ⟨rfl, trivial⟩, trivial⟩,
      ⟨fun _ _ => rfl, fun _ _ => rfl, trivial⟩⟩
    · rcases List.mem_cons.mp hpart with rfl | hpart
      · exact ⟨⟨fits_cellA, trivial⟩, trivial⟩
      · rw [List.mem_singleton.mp hpart]
        exact ⟨rfl, ⟨rfl, trivial⟩, trivial⟩
    · rcases List.mem_cons.mp hpart with rfl | hpart
      · exact decodable_rowA
      · rw [List.mem_singleton.mp hpart]
        intro cells hc b hb
        simp [fetchOf] at hc
        simp [hc] at hb
    · rw [List.mem_singleton.mp hb]
      exact ⟨⟨rfl, rfl, rfl⟩, by decide⟩
  · rintro ⟨rows, hrows, hwhole⟩
    -- which values of the rows are NULL
    have hbatches : (deliverInBatches .rejecting {} [textColumn] firstA
        [fetchOf [.bitVector Ub.zero [0], .rowData [.duplicate]]]).toOption.map
        (·.map (·.map Value.isNull)) = some [[false], [true]] := by decide +kernel
    have hone : ((parseQueryResponseWithColumns .rejecting {}
        ((wholeBatch firstA [fetchOf [.bitVector Ub.zero [0], .rowData [.duplicate]]]
          successMessage).payload 24) [textColumn]).map (·.rows)).toOption.map
        (·.map (·.map Value.isNull)) = some [[false], [false]] := by decide +kernel
    rw [hrows] at hbatches
    rw [hwhole, hbatches] at hone
    cases hone

end OracleRs
