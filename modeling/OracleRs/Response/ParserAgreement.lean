import OracleRs.Response.RowStream

set_option relaxedAutoImplicit false
set_option autoImplicit false

/-!
# Agreement of the two row parsers

The execute path and the fetch path read rows with two loops of their own. This module compares
what they make of one response.

They agree on the rows if no row header embeds a bit vector that matters, and on the verdict if
they take the closing message in the same way: the fetch parser goes by the number of the message
alone, the query parser also by the cursor id and by error texts anywhere in the packet.

## Main definitions

* `OracleRs.SameRows` — two outcomes with the same rows and verdict, or two failures.
* `OracleRs.ClosingAgrees` — both parsers take the closing message in the same way.

## Main results

* `OracleRs.sameRows_iff` — the parsers agree if and only if a value cannot be decoded or they
  agree about the closing message, provided that the query parser sees the server's duplicates.
* `OracleRs.not_sameRows_embedded` — a bit vector in a row header that only one of them sees.
-/

namespace OracleRs

open Cursor

variable {codecs : Codecs} {caps : Capabilities} {columns : List ColumnInfo}

/-- Two outcomes with the same rows and the same verdict about further rows, or two failures. -/
def SameRows : Except Error QueryResult → Except Error QueryResult → Prop
  | .ok a, .ok b => a.rows = b.rows ∧ a.hasMoreRows = b.hasMoreRows
  | .error _, .error _ => True
  | _, _ => False

/-- Both parsers take the closing message in the same way: as a failure or not, and if not, with
the same verdict about further rows. -/
def ClosingAgrees (packet : Bytes) (m : ErrorMessage) : Prop :=
  (IsFailure (m.takenAs packet) ↔ IsFailure m.code) ∧
    (¬ IsFailure m.code → (m.cursor ≠ 0 ∧ m.takenAs packet ≠ 1403 ↔ m.code ≠ 1403))

instance (packet : Bytes) (m : ErrorMessage) : Decidable (ClosingAgrees packet m) :=
  inferInstanceAs (Decidable (_ ∧ _))

/-- The verdicts of two outcomes that agree are the same. -/
lemma SameRows.hasMoreRows_eq {x y : Except Error QueryResult} (h : SameRows x y) :
    (x.map (·.hasMoreRows)).toOption = (y.map (·.hasMoreRows)).toOption := by
  cases x <;> cases y
  · rfl
  · exact h.elim
  · exact h.elim
  · exact congrArg some h.2

/-- After the same rows the parsers agree if and only if they take the closing message in the same
way. -/
lemma sameRows_outcome_iff (packet : Bytes) (rows : List Row) (m : ErrorMessage) :
    SameRows (queryOutcome packet columns rows m) (fetchOutcome columns rows m) ↔
      ClosingAgrees packet m := by
  unfold queryOutcome fetchOutcome ClosingAgrees
  by_cases hq : IsFailure (m.takenAs packet) <;> by_cases hf : IsFailure m.code
  · simp [hq, hf, SameRows]
  · simp [hq, hf, SameRows]
  · simp [hq, hf, SameRows]
  · rw [if_neg hq, if_neg hf, SameRows, Bool.eq_iff_iff]
    simp [hq, hf]

/-- The two parsers agree on a response with rows if and only if a value cannot be decoded or
they take the closing message in the same way. The response is one of a modern server without
batch errors, and the query parser sees the duplicates that the server has marked. -/
theorem sameRows_iff (b : Batch) (cursorId : UInt16)
    (hv : caps.ttcFieldVersion ≥ fieldVersion21_1) (hnb : b.closing.NoBatch)
    (hsent : Sent codecs caps columns none b.messages)
    (hfollows : Follows columns queryPolicy none none b.messages) :
    SameRows
        (parseQueryResponseWithColumns codecs caps (b.payload caps.ttcFieldVersion) columns)
        (parseFetchResponse codecs caps (b.payload caps.ttcFieldVersion) cursorId columns) ↔
      decodeRows none b.messages = none ∨
        ClosingAgrees (b.payload caps.ttcFieldVersion) b.closing := by
  have hquery := @FirstBatch.parseQueryResponse_eq codecs caps columns ⟨b, none⟩ columns hv rfl hsent
    hfollows
  have hfetch := b.parseFetchResponse_eq cursorId hnb hsent
  have hpayload : FirstBatch.payload caps.ttcFieldVersion ⟨b, none⟩ =
      b.payload caps.ttcFieldVersion := rfl
  rw [hpayload] at hquery
  cases hd : decodeRows none b.messages with
  | none =>
    rw [hd] at hfetch
    simp only [hd] at hquery
    obtain ⟨e, hq⟩ := hquery
    obtain ⟨e', hf⟩ := hfetch
    simp [hq, hf, SameRows]
  | some rows =>
    rw [hd] at hfetch
    simp only [hd] at hquery
    dsimp only at hfetch
    rw [hquery, hfetch, sameRows_outcome_iff]
    simp

/-! ## A bit vector in a row header -/

/-- A response with two equal rows. The second row is marked as a duplicate by the messages
`mark` in front of it. -/
def duplicateBatch (mark : RowMessage) : Batch where
  flag := 0
  flag' := 0
  messages := [.rowData [cellA], mark, .rowData [.duplicate]]
  closing := successMessage

/-- The parsers agree about a bit vector in a message of its own. -/
theorem sameRows_bitVector :
    SameRows
      (parseQueryResponseWithColumns .rejecting {}
        ((duplicateBatch (.bitVector Ub.zero [0])).payload 24) [textColumn])
      (parseFetchResponse .rejecting {}
        ((duplicateBatch (.bitVector Ub.zero [0])).payload 24) 1 [textColumn]) :=
  (@sameRows_iff .rejecting {} [textColumn] (duplicateBatch (.bitVector Ub.zero [0])) 1 (by decide)
    ⟨rfl, rfl, rfl⟩ ⟨⟨fits_cellA, trivial⟩, rfl, ⟨rfl, trivial⟩, trivial⟩
    ⟨fun _ _ => rfl, fun _ _ => rfl, trivial⟩).mpr (.inr (by decide +kernel))

/-- The parsers do not agree about a bit vector in a row header: the query parser reads the second
row from the bytes of the closing message. -/
theorem not_sameRows_embedded :
    Sent .rejecting {} [textColumn] none
        (duplicateBatch (.header (RowHeader.embedding [0] (by decide)))).messages ∧
      ¬ SameRows
        (parseQueryResponseWithColumns .rejecting {}
          ((duplicateBatch (.header (RowHeader.embedding [0] (by decide)))).payload 24)
          [textColumn])
        (parseFetchResponse .rejecting {}
          ((duplicateBatch (.header (RowHeader.embedding [0] (by decide)))).payload 24) 1
          [textColumn]) := by
  refine ⟨⟨⟨fits_cellA, trivial⟩, ⟨rfl, trivial⟩, trivial⟩, fun h => ?_⟩
  exact absurd h.hasMoreRows_eq (by decide +kernel)

end OracleRs
